import ListingSearch.Proofs.Binary64.Rounding

/-! Integers among the binary64 numbers. An integer that is one of them is read back exactly, up to
the sign of zero, and the integer part of a number is one of them. -/
namespace ListingSearch.Binary64

variable {x : Binary64}

lemma ofRatio_one {N m : Nat} {q : Int} (negative : Bool) (h : Canonical m q) (hN : N ≠ 0)
    (hval : N * Nat.pow 2 (-q).toNat = m * Nat.pow 2 q.toNat) :
    ofRatio negative N 1 = .finite negative m q h := by
  have hm : m ≠ 0 := by
    rintro rfl
    simp [Nat.pow_eq, hN] at hval
  exact ofRatio_of_canonical negative h hm Nat.one_pos (by rwa [mul_one])

lemma natAbs_signed (s : Bool) (m : Nat) : (signed s m).natAbs = m := by
  cases s <;> simp [signed]

def reread : Binary64 → Binary64
  | .finite true 0 q h => .finite false 0 q h
  | x => x

lemma isFinite_reread (x : Binary64) : x.reread.isFinite = x.isFinite := by
  unfold reread
  split <;> rfl

lemma point?_reread (x : Binary64) :
    (Number.float x.reread).point? = (Number.float x).point? := by
  unfold reread
  split <;> rfl

lemma toRat_reread (x : Binary64) : x.reread.toRat = x.toRat := by
  unfold reread
  split <;> rfl

lemma lt_reread (x y : Binary64) : x.reread.lt y.reread = x.lt y := by
  simp only [Binary64.lt, Number.lt, Number.compare?, point?_reread]

lemma reread_same (hx : x.isFinite = true) : x.reread.same x = true :=
  (same_iff (by rwa [isFinite_reread]) hx).2 (toRat_reread x)

lemma toInt?_reread (x : Binary64) : x.reread.toInt? = x.toInt? := by
  unfold reread
  split
  · simp [toInt?, signed]
  · rfl

lemma signed_mul_of_toRat {s : Bool} {m : Nat} {q : Int} {h : Canonical m q} {n : Int}
    (hn : toRat (.finite s m q h) = n) :
    signed s m * Nat.pow 2 q.toNat = n * Nat.pow 2 (-q).toNat := by
  have hpos : ((Nat.pow 2 (-q).toNat : Nat) : ℚ) ≠ 0 := by
    simp [Nat.pow_eq]
  rw [toRat, dyadic_eq_div, div_eq_iff hpos] at hn
  exact_mod_cast hn

lemma sign_of_toRat {s : Bool} {m : Nat} {q : Int} {h : Canonical m q} {n : Int}
    (hn : toRat (.finite s m q h) = n) (hm : m ≠ 0) : decide (n < 0) = s := by
  have hmul := signed_mul_of_toRat hn
  have hp : (0 : Int) < Nat.pow 2 q.toNat := by exact_mod_cast Nat.two_pow_pos _
  have hp' : (0 : Int) < Nat.pow 2 (-q).toNat := by exact_mod_cast Nat.two_pow_pos _
  have hmpos : (0 : Int) < m := by omega
  cases s with
  | false =>
    have hpos : 0 < n * Nat.pow 2 (-q).toNat := by
      rw [← hmul]
      exact mul_pos hmpos hp
    simpa using (pos_of_mul_pos_left hpos hp'.le).le
  | true =>
    have hneg : n * Nat.pow 2 (-q).toNat < 0 := by
      rw [← hmul]
      exact mul_neg_of_neg_of_pos (by simpa [signed] using hmpos) hp
    simpa using neg_of_mul_neg_left hneg hp'.le

lemma natAbs_mul_of_toRat {s : Bool} {m : Nat} {q : Int} {h : Canonical m q} {n : Int}
    (hn : toRat (.finite s m q h) = n) :
    n.natAbs * Nat.pow 2 (-q).toNat = m * Nat.pow 2 q.toNat := by
  have hval := congrArg Int.natAbs (signed_mul_of_toRat hn)
  simp only [Int.natAbs_mul, natAbs_signed, Int.natAbs_natCast] at hval
  exact hval.symm

/-- An integer that is one of the numbers is read back as that number. -/
lemma ofInt?_of_toRat {n : Int} (hx : x.isFinite = true) (hn : x.toRat = n) :
    ofInt? n = some x.reread := by
  cases x with
  | finite s m q h =>
    have hval := natAbs_mul_of_toRat hn
    rcases eq_or_ne n 0 with rfl | hne
    · have hm : m = 0 := by simpa [Nat.pow_eq, eq_comm] using hval
      subst hm
      have hq : q = -1074 := h.2.2.2.resolve_left (by decide)
      subst hq
      cases s <;> rfl
    · have hm : m ≠ 0 := by
        rintro rfl
        simp [Nat.pow_eq, hne] at hval
      rw [ofInt?, ofRatio_one _ h (Int.natAbs_ne_zero.2 hne) hval, sign_of_toRat hn hm]
      cases m with
      | zero => exact absurd rfl hm
      | succ m => cases s <;> rfl
  | _ => cases hx

lemma isFinite_of_ofInt? {n : Int} (h : ofInt? n = some x) : x.isFinite = true := by
  unfold ofInt? at h
  split at h
  · cases h
    rfl
  · cases h

lemma toRat_of_toInt? {n : Int} (h : x.toInt? = some n) : x.toRat = n := by
  cases x with
  | finite s m q hc =>
    simp only [toInt?] at h
    split at h
    · rename_i hdvd
      cases h
      obtain ⟨k, rfl⟩ := Nat.dvd_of_mod_eq_zero hdvd
      have hpos : 0 < Nat.pow 2 (-q).toNat := Nat.two_pow_pos _
      rw [toRat, dyadic_eq_div, mul_assoc, Nat.mul_div_cancel_left _ hpos,
        div_eq_iff (by exact_mod_cast hpos.ne')]
      cases s <;> simp only [signed] <;> push_cast <;> ring_nf
    · cases h
  | _ => simp [toInt?] at h

lemma isFinite_of_toInt? {n : Int} (h : x.toInt? = some n) : x.isFinite = true := by
  cases x <;> simp_all [toInt?, isFinite]

lemma ofInt?_of_toInt? {n : Int} (h : x.toInt? = some n) : ofInt? n = some x.reread :=
  ofInt?_of_toRat (isFinite_of_toInt? h) (toRat_of_toInt? h)

lemma truncate_of_toRat {n : Int} (hx : x.isFinite = true) (hn : x.toRat = n) :
    x.truncate = n := by
  cases x with
  | finite s m q h =>
    have hmul := signed_mul_of_toRat hn
    have hpos : 0 < Nat.pow 2 (-q).toNat := Nat.two_pow_pos _
    have hp : (0 : Int) < Nat.pow 2 (-q).toNat := by exact_mod_cast hpos
    rw [truncate, ← natAbs_mul_of_toRat hn, Nat.mul_div_cancel _ hpos]
    cases s with
    | false =>
      have hn0 : 0 ≤ n * Nat.pow 2 (-q).toNat := by
        rw [← hmul, signed, if_neg (by decide)]
        positivity
      simp [signed, abs_of_nonneg (nonneg_of_mul_nonneg_left hn0 hp)]
    | true =>
      have hn0 : n * Nat.pow 2 (-q).toNat ≤ 0 := by
        rw [← hmul]
        simp only [signed, if_true, neg_mul, Left.neg_nonpos_iff]
        positivity
      simp [signed, abs_of_nonpos (nonpos_of_mul_nonpos_left hn0 hp)]
  | _ => cases hx

/-- A positive integer of at most 53 bits is one of the numbers. -/
lemma exists_toRat_of_lt {N : Nat} (hN : N ≠ 0) (hlt : N < Nat.pow 2 53) :
    ∃ y : Binary64, y.isFinite = true ∧ y.toRat = N := by
  have hlog : N.log2 ≤ 52 := Nat.lt_succ_iff.1 ((Nat.log2_lt hN).2 hlt)
  have hlow : 2 ^ N.log2 ≤ N := Nat.log2_self_le hN
  have hhigh : N < 2 ^ (N.log2 + 1) := Nat.lt_log2_self
  have hcanonical : Canonical (N * 2 ^ (52 - N.log2)) (N.log2 - 52) := by
    refine ⟨?_, by omega, by omega, .inl ?_⟩ <;> rw [Nat.pow_eq]
    · calc N * 2 ^ (52 - N.log2) < 2 ^ (N.log2 + 1) * 2 ^ (52 - N.log2) :=
            Nat.mul_lt_mul_of_pos_right hhigh (Nat.two_pow_pos _)
        _ = 2 ^ 53 := by rw [← pow_add, show N.log2 + 1 + (52 - N.log2) = 53 by omega]
    · calc 2 ^ 52 = 2 ^ N.log2 * 2 ^ (52 - N.log2) := by
            rw [← pow_add, Nat.add_sub_cancel' hlog]
        _ ≤ N * 2 ^ (52 - N.log2) := Nat.mul_le_mul_right _ hlow
  refine ⟨.finite false _ _ hcanonical, rfl, ?_⟩
  have hcancel : (2 : ℚ) ^ (52 - N.log2) * 2 ^ ((N.log2 : Int) - 52) = 1 := by
    rw [← zpow_natCast, ← zpow_add₀ two_ne_zero, Nat.cast_sub hlog]
    simp
  rw [toRat, dyadic, signed, if_neg (by decide)]
  push_cast
  rw [mul_assoc, hcancel, mul_one]

lemma toRat_one : (ofBool true).toRat = 1 := by
  have h : ofBool true = .finite false (Nat.pow 2 52) (-52) (by decide) := by decide +kernel
  rw [h, toRat, dyadic]
  norm_num [signed]

lemma sign_of_one_le {s : Bool} {m : Nat} {q : Int} {h : Canonical m q}
    (h1 : 1 ≤ toRat (.finite s m q h)) : s = false := by
  by_contra hs
  have hneg : toRat (.finite s m q h) ≤ 0 := by
    rw [Bool.not_eq_false] at hs
    rw [toRat, dyadic, signed, if_pos hs]
    push_cast
    rw [neg_mul, Left.neg_nonpos_iff]
    positivity
  linarith

lemma truncate_of_neg {m : Nat} {q : Int} (h : Canonical m q) (hq : q < 0) :
    (truncate (.finite false m q h)).toNat = m / Nat.pow 2 (-q).toNat := by
  rw [truncate, show q.toNat = 0 by omega, signed, if_neg (by decide), Int.toNat_natCast]
  simp

lemma pow_le_of_one_le {m : Nat} {q : Int} {h : Canonical m q} (hq : q < 0)
    (h1 : 1 ≤ toRat (.finite false m q h)) : Nat.pow 2 (-q).toNat ≤ m := by
  have hpos : (0 : ℚ) < (Nat.pow 2 (-q).toNat : Nat) := by exact_mod_cast Nat.two_pow_pos _
  rw [toRat, dyadic_eq_div, show q.toNat = 0 by omega, signed, if_neg (by decide),
    one_le_div hpos] at h1
  simp only [Nat.pow_eq, pow_zero, Nat.cast_one, mul_one] at h1
  exact_mod_cast h1

/-- The integer part of a number from one on is positive, and one of the numbers itself. -/
lemma exists_toRat_truncate (hx : x.isFinite = true) (h1 : 1 ≤ x.toRat) :
    1 ≤ x.truncate.toNat ∧ ∃ y : Binary64, y.isFinite = true ∧ y.toRat = x.truncate.toNat := by
  cases x with
  | finite s m q h =>
    obtain rfl := sign_of_one_le h1
    -- A number with a negative exponent is below 2 ^ 53; any other one is an integer already.
    rcases le_or_gt 0 q with hq | hq
    · have hint : toRat (.finite false m q h) = ((m * Nat.pow 2 q.toNat : Nat) : Int) := by
        rw [toRat, dyadic_eq_div, show (-q).toNat = 0 by omega, signed, if_neg (by decide)]
        simp [Nat.pow_eq]
      rw [hint] at h1
      rw [truncate_of_toRat rfl hint, Int.toNat_natCast]
      exact ⟨by exact_mod_cast h1, _, hx, by rw [hint, Int.cast_natCast]⟩
    · have hpos : 0 < Nat.pow 2 (-q).toNat := Nat.two_pow_pos _
      have hone : 1 ≤ m / Nat.pow 2 (-q).toNat :=
        (Nat.one_le_div_iff hpos).2 (pow_le_of_one_le hq h1)
      rw [truncate_of_neg h hq]
      exact ⟨hone, exists_toRat_of_lt (by omega) ((Nat.div_le_self _ _).trans_lt h.1)⟩
  | _ => cases hx

end ListingSearch.Binary64
