import ListingSearch.Proofs.Binary64.Integral

/-! The integers that some binary64 number is nearest to. The greatest finite number has 53 bits of
one at the greatest exponent; half a unit above it, rounding leaves the finite numbers. -/
namespace ListingSearch.Binary64

variable {a d k : Nat}

lemma binade_one (ha : a ≠ 0) : binade a 1 = a.log2 := by
  have hone : Nat.log2 1 = 0 := by decide
  have hle : 2 ^ a.log2 ≤ a := Nat.log2_self_le ha
  simp only [binade, hone]
  rw [if_pos (by simpa [Nat.pow_eq] using hle)]
  simp

/-- A quotient of 53 bits is rounded to a mantissa, or to one bit more just at the upper half of
the last step. -/
lemma roundDiv_bounds {p : Nat} (hd : 0 < d) (heven : p % 2 = 0) (hlow : p * d ≤ a)
    (hhigh : a < 2 * p * d) :
    p ≤ roundDiv a d ∧ roundDiv a d ≤ 2 * p ∧
      (roundDiv a d = 2 * p ↔ 4 * p * d ≤ 2 * a + d) := by
  obtain ⟨q, r, hr, rfl⟩ : ∃ q r, r < d ∧ a = d * q + r :=
    ⟨a / d, a % d, Nat.mod_lt _ hd, (Nat.div_add_mod a d).symm⟩
  have hq : p ≤ q := by
    by_contra hlt
    have hmul : d * (q + 1) ≤ d * p := Nat.mul_le_mul_left d (by omega)
    rw [Nat.mul_succ, mul_comm d p] at hmul
    omega
  have hq' : q < 2 * p := by
    by_contra hle
    have hmul : d * (2 * p) ≤ d * q := Nat.mul_le_mul_left d (by omega)
    rw [mul_comm d (2 * p)] at hmul
    omega
  have hdiv : (d * q + r) / d = q := by
    rw [Nat.mul_add_div hd, Nat.div_eq_of_lt hr, Nat.add_zero]
  have hmod : (d * q + r) % d = r := by
    rw [Nat.mul_add_mod, Nat.mod_eq_of_lt hr]
  have hlast : q + 1 = 2 * p → 4 * p * d = 2 * (d * q) + 2 * d := by
    intro h
    rw [show 4 * p = 2 * (q + 1) by omega]
    ring
  have hnot : q + 1 < 2 * p → 2 * (d * q) + 4 * d ≤ 4 * p * d := by
    intro h
    calc 2 * (d * q) + 4 * d = 2 * (q + 2) * d := by ring
      _ ≤ 4 * p * d := Nat.mul_le_mul_right d (by omega)
  simp only [roundDiv, hdiv, hmod]
  split_ifs <;> omega

lemma isFinite_ofParts {negative : Bool} {m : Nat} {q : Int} :
    (ofParts negative m q).isFinite = true ↔ Canonical m q := by
  unfold ofParts
  split_ifs with h <;> simp [isFinite, h]

/-- An integer of at most 53 bits is not rounded. -/
lemma isFinite_ofRatio_of_small (negative : Bool) (ha : a ≠ 0) (hsmall : a.log2 ≤ 52) :
    (ofRatio negative a 1).isFinite = true := by
  have hlow : 2 ^ a.log2 ≤ a := Nat.log2_self_le ha
  have hhigh : a < 2 ^ (a.log2 + 1) := Nat.lt_log2_self
  obtain ⟨k, hk⟩ : ∃ k, a.log2 + k = 52 := ⟨52 - a.log2, by omega⟩
  have hlow' : 2 ^ 52 ≤ a * 2 ^ k := by
    rw [← hk, pow_add]
    exact Nat.mul_le_mul_right _ hlow
  have hhigh' : a * 2 ^ k < 2 ^ 53 := by
    rw [show 53 = a.log2 + 1 + k by omega, pow_add]
    exact Nat.mul_lt_mul_of_pos_right hhigh (Nat.two_pow_pos k)
  have hcanonical : Canonical (a * Nat.pow 2 k) (-k) := by
    refine ⟨by simpa [Nat.pow_eq] using hhigh', by omega, by omega, .inl ?_⟩
    simpa [Nat.pow_eq] using hlow'
  rw [ofRatio_one negative hcanonical ha (by simp)]
  rfl

/-- The mantissa of a larger integer is its upper bits, rounded. -/
lemma isFinite_ofRatio_of_large (negative : Bool) (hk : a.log2 = 52 + k) (hpos : 0 < k) :
    (ofRatio negative a 1).isFinite = true ↔
      k < 971 ∨ k = 971 ∧ 2 * a + 2 ^ k < 2 ^ 54 * 2 ^ k := by
  have ha : a ≠ 0 := by
    rintro rfl
    simp at hk
    omega
  have hlow : 2 ^ a.log2 ≤ a := Nat.log2_self_le ha
  have hhigh : a < 2 ^ (a.log2 + 1) := Nat.lt_log2_self
  rw [hk, pow_add] at hlow
  rw [hk, show 52 + k + 1 = 1 + 52 + k by omega, pow_add, pow_add] at hhigh
  obtain ⟨hge, hle, htop⟩ := roundDiv_bounds (Nat.two_pow_pos k) (by norm_num) hlow hhigh
  have hexponent : roundingExponent a 1 = k := by
    rw [roundingExponent, binade_one ha, hk]
    omega
  have hround : roundDiv (a * Nat.pow 2 (-(k : Int)).toNat) (1 * Nat.pow 2 (k : Int).toNat) =
      roundDiv a (2 ^ k) := by
    simp [Nat.pow_eq]
  simp only [ofRatio, if_neg ha, hexponent, hround]
  split_ifs with h
  · have hlast := htop.1 (by simpa [Nat.pow_eq] using h)
    rw [isFinite_ofParts]
    constructor
    · rintro ⟨-, -, hmax, -⟩
      exact .inl (by omega)
    · rintro (hlt | ⟨-, hlt⟩)
      · exact ⟨by decide, by omega, by omega, .inl le_rfl⟩
      · omega
  · have hnot : ¬ 4 * 2 ^ 52 * 2 ^ k ≤ 2 * a + 2 ^ k := fun hle' =>
      h (by simpa [Nat.pow_eq] using htop.2 hle')
    rw [isFinite_ofParts]
    constructor
    · rintro ⟨-, -, hmax, -⟩
      omega
    · intro hk'
      refine ⟨?_, by omega, by omega, .inl (by simpa [Nat.pow_eq] using hge)⟩
      have hle' : roundDiv a (2 ^ k) ≤ Nat.pow 2 53 := by simpa [Nat.pow_eq] using hle
      exact lt_of_le_of_ne hle' h

/-- The integers beyond all binary64 numbers. -/
theorem ofInt?_eq_none_iff (n : Int) : ofInt? n = none ↔ 2 ^ 1024 ≤ n.natAbs + 2 ^ 970 := by
  have hnone : ofInt? n = none ↔ ¬ (ofRatio (n < 0) n.natAbs 1).isFinite = true := by
    unfold ofInt?
    split <;> simp_all [isFinite]
  rw [hnone]
  generalize n.natAbs = a
  have htop : 2 ^ 1024 = 2 ^ 54 * 2 ^ 970 := by rw [show 1024 = 54 + 970 from rfl, pow_add]
  have hunit : 0 < 2 ^ 970 := pow_pos two_pos _
  by_cases ha : a = 0
  · subst ha
    rw [htop]
    simp only [ofRatio, if_pos]
    exact iff_of_false (by simp [zero, isFinite]) (by omega)
  have hlow : 2 ^ a.log2 ≤ a := Nat.log2_self_le ha
  have hhigh : a < 2 ^ (a.log2 + 1) := Nat.lt_log2_self
  rcases Nat.lt_or_ge 1023 a.log2 with hbig | hbound
  · have hle : 2 ^ 1024 ≤ 2 ^ a.log2 := pow_le_pow_right₀ one_le_two hbig
    obtain ⟨k, hk⟩ : ∃ k, a.log2 = 52 + k := ⟨a.log2 - 52, by omega⟩
    rw [isFinite_ofRatio_of_large _ hk (by omega)]
    exact iff_of_true (by omega) (by omega)
  rcases hbound.lt_or_eq with hless | hlast
  · have hle : 2 ^ (a.log2 + 1) ≤ 2 ^ 1023 := pow_le_pow_right₀ one_le_two hless
    have hhalf : 2 ^ 1023 = 2 ^ 53 * 2 ^ 970 := by
      rw [show 1023 = 53 + 970 from rfl, pow_add]
    refine iff_of_false (not_not.2 ?_) (by omega)
    rcases Nat.lt_or_ge 52 a.log2 with hlarge | hsmall
    · obtain ⟨k, hk⟩ : ∃ k, a.log2 = 52 + k := ⟨a.log2 - 52, by omega⟩
      exact (isFinite_ofRatio_of_large _ hk (by omega)).2 (.inl (by omega))
    · exact isFinite_ofRatio_of_small _ ha hsmall
  · rw [isFinite_ofRatio_of_large (k := 971) _ (by omega) (by omega)]
    have hdouble : 2 ^ 971 = 2 * 2 ^ 970 := by rw [show 971 = 970 + 1 from rfl, pow_succ']
    omega

end ListingSearch.Binary64
