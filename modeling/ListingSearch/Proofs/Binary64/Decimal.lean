import ListingSearch.Binary64.Decimal
import ListingSearch.Proofs.Binary64.Rounding
import Mathlib.Tactic.FieldSimp

/-! Decimals of binary64 numbers. What a decimal is read as depends only on the rational number that
it is, and the shortest decimal of a number is read as that number. -/
namespace ListingSearch.Binary64

variable {d d' m : Nat} {e e' p q : Int}

lemma digitCount_pos (n : Nat) : 0 < digitCount n := Nat.length_toDigits_pos

lemma digitCount_le_iff {k : Nat} (hk : 0 < k) : digitCount d ≤ k ↔ d < 10 ^ k :=
  Nat.length_toDigits_le_iff (by decide) hk

lemma digitCount_bounds (hd : d ≠ 0) :
    (10 : ℚ) ^ ((digitCount d : Int) - 1) ≤ d ∧ (d : ℚ) < 10 ^ (digitCount d : Int) := by
  have hpos := digitCount_pos d
  constructor
  · have hlow : 10 ^ (digitCount d - 1) ≤ d := by
      rcases Nat.eq_zero_or_pos (digitCount d - 1) with hzero | hmany
      · rw [hzero, pow_zero]
        exact Nat.pos_of_ne_zero hd
      · by_contra hlt
        have := (digitCount_le_iff hmany).2 (not_le.1 hlt)
        omega
    have hcast : (digitCount d : Int) - 1 = (digitCount d - 1 : Nat) := by omega
    rw [hcast, zpow_natCast]
    exact_mod_cast hlow
  · rw [zpow_natCast]
    exact_mod_cast (digitCount_le_iff hpos).1 le_rfl

/-- A decimal lies between two powers of ten that its digits and its exponent tell. -/
lemma decimal_bounds (hd : d ≠ 0) (e : Int) :
    (10 : ℚ) ^ ((digitCount d : Int) + e - 1) ≤ d * 10 ^ e ∧
      (d : ℚ) * 10 ^ e < 10 ^ ((digitCount d : Int) + e) := by
  obtain ⟨hlow, hhigh⟩ := digitCount_bounds hd
  constructor
  · rw [show (digitCount d : Int) + e - 1 = digitCount d - 1 + e by ring, zpow_add₀ (by norm_num)]
    gcongr
  · rw [zpow_add₀ (by norm_num)]
    gcongr

lemma digitCount_add_congr (hd : d ≠ 0) (hd' : d' ≠ 0) (h : (d : ℚ) * 10 ^ e = d' * 10 ^ e') :
    (digitCount d : Int) + e = digitCount d' + e' := by
  obtain ⟨hlow, hhigh⟩ := decimal_bounds hd e
  obtain ⟨hlow', hhigh'⟩ := decimal_bounds hd' e'
  have hten : (1 : ℚ) < 10 := by norm_num
  have := eq_of_zpow_le_of_lt hten hlow (by rwa [sub_add_cancel])
    (h ▸ hlow') (by rw [sub_add_cancel]; exact h ▸ hhigh')
  omega

/-- What a decimal is read as depends only on its value. -/
lemma ofDecimal_congr (negative : Bool) (h : (d : ℚ) * 10 ^ e = d' * 10 ^ e') :
    ofDecimal negative d e = ofDecimal negative d' e' := by
  have hten (k : Int) : (10 : ℚ) ^ k ≠ 0 := zpow_ne_zero k (by norm_num)
  by_cases hd : d = 0
  · have hd' : d' = 0 := by simpa [hd, hten e'] using h.symm
    rw [ofDecimal, ofDecimal, if_pos hd, if_pos hd']
  · have hd' : d' ≠ 0 := by
      rintro rfl
      simp [hd, hten e] at h
    have hratio (k : Int) : 0 < Nat.pow 10 (-k).toNat := Nat.pow_pos (by decide)
    simp only [ofDecimal, if_neg hd, if_neg hd', digitCount_add_congr hd hd' h]
    rw [ofRatio_congr negative (hratio e) (hratio e')]
    rw [natCast_mul_pow_div d 10 (by decide), natCast_mul_pow_div d' 10 (by decide)]
    exact_mod_cast h

lemma canonical_bounds (h : Canonical m q) (hm : m ≠ 0) :
    (10 : ℚ) ^ (-330 : Int) ≤ m * 2 ^ q ∧ (m : ℚ) * 2 ^ q < 10 ^ (310 : Int) := by
  obtain ⟨hlt, hmin, hmax, -⟩ := h
  have hleast : 2 ^ 1074 ≤ 10 ^ 330 := by decide +kernel
  have hgreatest : 2 ^ 53 * 2 ^ 971 ≤ 10 ^ 310 := by decide +kernel
  constructor
  · calc (10 : ℚ) ^ (-330 : Int) = (10 ^ 330)⁻¹ := zpow_neg 10 330
      _ ≤ (2 ^ 1074)⁻¹ := inv_anti₀ (by positivity) (by exact_mod_cast hleast)
      _ = 2 ^ (-((1074 : Nat) : Int)) := by rw [zpow_neg, zpow_natCast]
      _ ≤ 2 ^ q := zpow_le_zpow_right₀ one_le_two hmin
      _ ≤ m * 2 ^ q := le_mul_of_one_le_left (by positivity)
        (by exact_mod_cast Nat.pos_of_ne_zero hm)
  · calc (m : ℚ) * 2 ^ q < 2 ^ 53 * 2 ^ (971 : Int) :=
          mul_lt_mul (by exact_mod_cast hlt) (zpow_le_zpow_right₀ one_le_two hmax)
            (by positivity) (by positivity)
      _ ≤ 10 ^ (310 : Int) := by exact_mod_cast hgreatest

/-- A decimal that is a number is read as that number. -/
lemma ofDecimal_of_canonical (negative : Bool) (h : Canonical m q) (hm : m ≠ 0)
    (hval : (d : ℚ) * 10 ^ e = m * 2 ^ q) : ofDecimal negative d e = .finite negative m q h := by
  have hd : d ≠ 0 := by
    rintro rfl
    simp [hm, zpow_ne_zero q (two_ne_zero (α := ℚ))] at hval
  obtain ⟨hlow, hhigh⟩ := decimal_bounds hd e
  obtain ⟨hmin, hmax⟩ := canonical_bounds h hm
  rw [hval] at hlow hhigh
  have hsmall : (digitCount d : Int) + e - 1 < 310 :=
    (zpow_lt_zpow_iff_right₀ (by norm_num)).1 (lt_of_le_of_lt hlow hmax)
  have hlarge : -330 < (digitCount d : Int) + e :=
    (zpow_lt_zpow_iff_right₀ (by norm_num)).1 (lt_of_le_of_lt hmin hhigh)
  rw [ofDecimal, if_neg hd, if_neg (by omega), if_neg (by omega)]
  have hpow : 0 < Nat.pow 2 (-q).toNat := Nat.two_pow_pos _
  have hpow10 : 0 < Nat.pow 10 (-e).toNat := Nat.pow_pos (by decide)
  refine ofRatio_of_canonical negative h hm hpow10 ?_
  rw [← div_eq_div_iff_mul_eq_mul hpow10 hpow,
    natCast_mul_pow_div d 10 (by decide), natCast_mul_pow_div m 2 (by decide)]
  exact_mod_cast hval

lemma ofParts_sign (negative : Bool) {k : Nat} {r : Int} {h : Canonical m q}
    (hread : ofParts false k r = .finite false m q h) :
    ofParts negative k r = .finite negative m q h := by
  by_cases hcanonical : Canonical k r
  · rw [ofParts, dif_pos hcanonical] at hread ⊢
    cases hread
    rfl
  · rw [ofParts, dif_neg hcanonical] at hread
    cases hread

lemma zero_sign (negative : Bool) {h : Canonical m q} (hread : zero false = .finite false m q h) :
    zero negative = .finite negative m q h := by
  cases hread
  rfl

/-- The sign does not take part in rounding. -/
lemma ofRatio_sign {a b : Nat} (negative : Bool) {h : Canonical m q}
    (hread : ofRatio false a b = .finite false m q h) :
    ofRatio negative a b = .finite negative m q h := by
  by_cases ha : a = 0
  · rw [ofRatio, if_pos ha] at hread ⊢
    exact zero_sign negative hread
  · simp only [ofRatio, if_neg ha] at hread ⊢
    split
    · rename_i hm
      rw [if_pos hm] at hread
      exact ofParts_sign negative hread
    · rename_i hm
      rw [if_neg hm] at hread
      exact ofParts_sign negative hread

lemma ofDecimal_sign (negative : Bool) {h : Canonical m q}
    (hread : ofDecimal false d e = .finite false m q h) :
    ofDecimal negative d e = .finite negative m q h := by
  by_cases hd : d = 0
  · rw [ofDecimal, if_pos hd] at hread ⊢
    exact zero_sign negative hread
  · rw [ofDecimal, if_neg hd] at hread ⊢
    by_cases hlarge : (digitCount d : Int) + e > 310
    · rw [if_pos hlarge] at hread
      cases hread
    · rw [if_neg hlarge] at hread ⊢
      by_cases hsmall : (digitCount d : Int) + e < -330
      · rw [if_pos hsmall] at hread ⊢
        exact zero_sign negative hread
      · rw [if_neg hsmall] at hread ⊢
        exact ofRatio_sign negative hread

lemma ofDecimal_of_onGrid? {h : Canonical m q} (hd : onGrid? m q p h = some d) :
    ofDecimal false d p = .finite false m q h := by
  dsimp only [onGrid?] at hd
  split_ifs at hd with hnear hfar hother hdown
  all_goals
    rw [Option.some.injEq] at hd
    subst hd
    exact eq_of_beq (by assumption)

/-- The exact expansion of a number. -/
lemma expansion_eq (m : Nat) (q : Int) :
    ((m * Nat.pow 2 q.toNat * Nat.pow 5 (-q).toNat : Nat) : ℚ) * 10 ^ min q 0 = m * 2 ^ q := by
  have hexponent : min q 0 = -((-q).toNat : Int) := by omega
  rw [hexponent, zpow_neg, zpow_natCast, zpow_eq_div two_ne_zero q,
    show (10 : ℚ) = 2 * 5 by norm_num, mul_pow]
  push_cast [Nat.pow_eq]
  field_simp

/-- The shortest decimal of a number is read as that number. -/
lemma ofDecimal_shortest (negative : Bool) (h : Canonical m q) (hm : m ≠ 0) :
    ofDecimal negative (shortest m q h).1 (shortest m q h).2 = .finite negative m q h := by
  simp only [shortest]
  generalize hfound : (List.range 17).findSome? _ = found
  cases found with
  | none => exact ofDecimal_of_canonical negative h hm (expansion_eq m q)
  | some decimal =>
    obtain ⟨n, -, hn⟩ := List.exists_of_findSome?_eq_some hfound
    obtain ⟨d', hd', heq⟩ := Option.map_eq_some_iff.1 hn
    cases heq
    exact ofDecimal_sign negative (ofDecimal_of_onGrid? hd')

end ListingSearch.Binary64
