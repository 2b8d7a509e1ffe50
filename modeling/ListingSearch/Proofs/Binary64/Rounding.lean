import ListingSearch.Proofs.Binary64.Rational
import Mathlib.Tactic.NormNum
import Mathlib.Tactic.Linarith

/-! Rounding a quotient to a binary64 number. The result depends only on the rational number that
the quotient is, and a quotient that is one of the numbers is not changed. -/
namespace ListingSearch.Binary64

variable {a b c d k m : Nat} {q : Int}

/-- A whole number times a power, as a quotient of whole numbers. -/
lemma natCast_mul_pow_div (a base : Nat) (hbase : 0 < base) (k : Int) :
    ((a * Nat.pow base k.toNat : Nat) : ℚ) / (Nat.pow base (-k).toNat : Nat) =
      a * (base : ℚ) ^ k := by
  have hbaseQ : (base : ℚ) ≠ 0 := by exact_mod_cast hbase.ne'
  rw [zpow_eq_div hbaseQ]
  push_cast [Nat.pow_eq]
  ring

/-- How a quotient compares with a power, in whole numbers. -/
lemma mul_pow_le_mul_pow_iff (base : Nat) (hbase : 0 < base) (hb : 0 < b) (k : Int) :
    b * Nat.pow base k.toNat ≤ a * Nat.pow base (-k).toNat ↔ (base : ℚ) ^ k ≤ (a : ℚ) / b := by
  have hbaseQ : (0 : ℚ) < base := by exact_mod_cast hbase
  have hpow : (0 : ℚ) < (base : ℚ) ^ (-k).toNat := by positivity
  have hbQ : (0 : ℚ) < b := by exact_mod_cast hb
  rw [zpow_eq_div hbaseQ.ne', div_le_div_iff₀ hpow hbQ, mul_comm b]
  simp only [Nat.pow_eq]
  exact_mod_cast Iff.rfl

/-- A quotient lies between a power and the next one for a single exponent. -/
lemma eq_of_zpow_le_of_lt {base r : ℚ} (hbase : 1 < base) {i j : Int} (hi : base ^ i ≤ r)
    (hi' : r < base ^ (i + 1)) (hj : base ^ j ≤ r) (hj' : r < base ^ (j + 1)) : i = j := by
  have hij : i < j + 1 := (zpow_lt_zpow_iff_right₀ hbase).1 (lt_of_le_of_lt hi hj')
  have hji : j < i + 1 := (zpow_lt_zpow_iff_right₀ hbase).1 (lt_of_le_of_lt hj hi')
  omega

lemma log2_bounds (ha : a ≠ 0) :
    (2 : ℚ) ^ (a.log2 : Int) ≤ a ∧ (a : ℚ) < 2 ^ ((a.log2 : Int) + 1) := by
  have hlow : 2 ^ a.log2 ≤ a := Nat.log2_self_le ha
  have hhigh : a < 2 ^ (a.log2 + 1) := Nat.lt_log2_self
  constructor
  · exact_mod_cast hlow
  · exact_mod_cast hhigh

lemma binade_bounds (ha : a ≠ 0) (hb : 0 < b) :
    (2 : ℚ) ^ binade a b ≤ (a : ℚ) / b ∧ (a : ℚ) / b < 2 ^ (binade a b + 1) := by
  obtain ⟨hlowA, hhighA⟩ := log2_bounds ha
  obtain ⟨hlowB, hhighB⟩ := log2_bounds hb.ne'
  have hbQ : (0 : ℚ) < b := by exact_mod_cast hb
  have hupper : (a : ℚ) / b < 2 ^ ((a.log2 : Int) - b.log2 + 1) := by
    rw [div_lt_iff₀ hbQ]
    calc (a : ℚ) < 2 ^ ((a.log2 : Int) - b.log2 + 1) * 2 ^ (b.log2 : Int) := by
          rwa [← zpow_add₀ two_ne_zero,
            show (a.log2 : Int) - b.log2 + 1 + b.log2 = a.log2 + 1 by ring]
      _ ≤ 2 ^ ((a.log2 : Int) - b.log2 + 1) * b := by gcongr
  have hlower : (2 : ℚ) ^ ((a.log2 : Int) - b.log2 - 1) ≤ (a : ℚ) / b := by
    rw [le_div_iff₀ hbQ]
    calc (2 : ℚ) ^ ((a.log2 : Int) - b.log2 - 1) * b
        ≤ 2 ^ ((a.log2 : Int) - b.log2 - 1) * 2 ^ ((b.log2 : Int) + 1) := by gcongr
      _ = 2 ^ (a.log2 : Int) := by rw [← zpow_add₀ two_ne_zero]; congr 1; ring
      _ ≤ a := hlowA
  have htest := mul_pow_le_mul_pow_iff (a := a) 2 (by norm_num) hb ((a.log2 : Int) - b.log2)
  simp only [binade]
  split
  · rename_i h
    exact ⟨htest.1 h, hupper⟩
  · rename_i h
    have hless : (a : ℚ) / b < 2 ^ ((a.log2 : Int) - b.log2) := not_le.1 fun hle => h (htest.2 hle)
    rw [sub_add_cancel]
    exact ⟨hlower, hless⟩

lemma binade_eq (ha : a ≠ 0) (hb : 0 < b) {i : Int} (hlow : (2 : ℚ) ^ i ≤ (a : ℚ) / b)
    (hhigh : (a : ℚ) / b < 2 ^ (i + 1)) : binade a b = i :=
  have ⟨hlow', hhigh'⟩ := binade_bounds ha hb
  eq_of_zpow_le_of_lt one_lt_two hlow' hhigh' hlow hhigh

lemma roundDiv_mul (m : Nat) {d : Nat} (hd : 0 < d) : roundDiv (m * d) d = m := by
  simp [roundDiv, Nat.mul_div_cancel m hd, hd]

lemma roundDiv_mul_mul (a b : Nat) (hk : 0 < k) : roundDiv (a * k) (b * k) = roundDiv a b := by
  have hrest : a * k % (b * k) = a % b * k := Nat.mul_mod_mul_right k a b
  simp only [roundDiv, Nat.mul_div_mul_right a b hk, hrest, ← mul_assoc,
    Nat.mul_lt_mul_right hk]

/-- Rounding depends only on the quotient. -/
lemma roundDiv_congr (hb : 0 < b) (hd : 0 < d) (h : a * d = c * b) :
    roundDiv a b = roundDiv c d := by
  rw [← roundDiv_mul_mul a b hd, ← roundDiv_mul_mul c d hb, h, mul_comm b d]

lemma div_eq_div_iff_mul_eq_mul (hb : 0 < b) (hd : 0 < d) :
    (a : ℚ) / b = (c : ℚ) / d ↔ a * d = c * b := by
  have hbQ : (b : ℚ) ≠ 0 := by exact_mod_cast hb.ne'
  have hdQ : (d : ℚ) ≠ 0 := by exact_mod_cast hd.ne'
  rw [div_eq_div_iff hbQ hdQ]
  exact_mod_cast Iff.rfl

/-- The number nearest to a quotient depends only on the quotient. -/
lemma ofRatio_congr (negative : Bool) (hb : 0 < b) (hd : 0 < d)
    (hquotient : (a : ℚ) / b = (c : ℚ) / d) : ofRatio negative a b = ofRatio negative c d := by
  have h : a * d = c * b := (div_eq_div_iff_mul_eq_mul hb hd).1 hquotient
  have hzero : a = 0 ↔ c = 0 := by
    constructor <;> rintro rfl
    · simpa [hb.ne'] using h
    · simpa [hd.ne'] using h
  by_cases ha : a = 0
  · rw [ofRatio, ofRatio, if_pos ha, if_pos (hzero.1 ha)]
  · have hc : c ≠ 0 := mt hzero.2 ha
    obtain ⟨hlow, hhigh⟩ := binade_bounds hc hd
    have hbinade : binade a b = binade c d :=
      binade_eq ha hb (by rwa [hquotient]) (by rwa [hquotient])
    have hround : roundDiv (a * Nat.pow 2 (-roundingExponent c d).toNat)
          (b * Nat.pow 2 (roundingExponent c d).toNat) =
        roundDiv (c * Nat.pow 2 (-roundingExponent c d).toNat)
          (d * Nat.pow 2 (roundingExponent c d).toNat) := by
      refine roundDiv_congr (Nat.mul_pos hb (Nat.two_pow_pos _))
        (Nat.mul_pos hd (Nat.two_pow_pos _)) ?_
      rw [mul_mul_mul_comm, h, mul_mul_mul_comm]
    have hexponent : roundingExponent a b = roundingExponent c d := by
      rw [roundingExponent, hbinade, roundingExponent]
    simp only [ofRatio, if_neg ha, if_neg hc, hexponent, hround]

/-- The exponent at which a canonical number is rounded is its own. -/
lemma roundingExponent_of_canonical (h : Canonical m q) (hm : m ≠ 0) :
    roundingExponent (m * Nat.pow 2 q.toNat) (Nat.pow 2 (-q).toNat) = q := by
  have hquotient : ((m * Nat.pow 2 q.toNat : Nat) : ℚ) / (Nat.pow 2 (-q).toNat : Nat) =
      m * 2 ^ q := natCast_mul_pow_div m 2 two_pos q
  have hne : m * Nat.pow 2 q.toNat ≠ 0 := Nat.mul_ne_zero hm (Nat.two_pow_pos _).ne'
  obtain ⟨hlow, hhigh⟩ := binade_bounds hne (Nat.two_pow_pos (-q).toNat)
  obtain ⟨hlt, hmin, -, hbig⟩ := h
  simp only [Nat.pow_eq] at hlt hbig
  have hupper : (m : ℚ) * 2 ^ q < 2 ^ (53 + q) := by
    rw [zpow_add₀ two_ne_zero]
    gcongr
    exact_mod_cast hlt
  rw [← hquotient] at hupper
  have hle : binade (m * Nat.pow 2 q.toNat) (Nat.pow 2 (-q).toNat) < 53 + q :=
    (zpow_lt_zpow_iff_right₀ one_lt_two).1 (lt_of_le_of_lt hlow hupper)
  rw [roundingExponent]
  rcases hbig with hbig | rfl
  · have hlower : (2 : ℚ) ^ (52 + q) ≤ (m : ℚ) * 2 ^ q := by
      rw [zpow_add₀ two_ne_zero]
      gcongr
      exact_mod_cast hbig
    rw [← hquotient] at hlower
    have hge : 52 + q < binade (m * Nat.pow 2 q.toNat) (Nat.pow 2 (-q).toNat) + 1 :=
      (zpow_lt_zpow_iff_right₀ one_lt_two).1 (lt_of_le_of_lt hlower hhigh)
    omega
  · omega

/-- A quotient that is a number is rounded to that number. -/
lemma ofRatio_of_canonical (negative : Bool) (h : Canonical m q) (hm : m ≠ 0) (hb : 0 < b)
    (hval : a * Nat.pow 2 (-q).toNat = m * Nat.pow 2 q.toNat * b) :
    ofRatio negative a b = .finite negative m q h := by
  have hpow : 0 < Nat.pow 2 (-q).toNat := Nat.two_pow_pos _
  have hne : m * Nat.pow 2 q.toNat ≠ 0 := Nat.mul_ne_zero hm (Nat.two_pow_pos _).ne'
  have hround : roundDiv (m * Nat.pow 2 q.toNat * Nat.pow 2 (-q).toNat)
      (Nat.pow 2 (-q).toNat * Nat.pow 2 q.toNat) = m := by
    rw [mul_assoc, mul_comm (Nat.pow 2 (-q).toNat) (Nat.pow 2 q.toNat)]
    exact roundDiv_mul m (Nat.mul_pos (Nat.two_pow_pos _) hpow)
  rw [ofRatio_congr negative hb hpow ((div_eq_div_iff_mul_eq_mul hb hpow).2 hval)]
  simp only [ofRatio, if_neg hne, roundingExponent_of_canonical h hm, hround]
  rw [if_neg (Nat.ne_of_lt h.1), ofParts, dif_pos h]

end ListingSearch.Binary64
