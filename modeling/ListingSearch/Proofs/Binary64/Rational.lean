import ListingSearch.Binary64.Order
import Mathlib.Algebra.Order.Field.Power
import Mathlib.Data.Rat.Cast.Order
import Mathlib.Tactic.Ring
import Mathlib.Tactic.Positivity

/-! Finite binary64 numbers as rational numbers. Their order and their equality are those of the
rational numbers, and the integral ones are those that stand for integers. -/
namespace ListingSearch

/-- The rational number `a · 2 ^ p`. -/
def dyadic (a p : Int) : ℚ := a * 2 ^ p

lemma dyadic_eq_mul {p e : Int} (a : Int) (h : e ≤ p) :
    dyadic a p = ((a * Nat.pow 2 (p - e).toNat : Int) : ℚ) * 2 ^ e := by
  have hsplit : (2 : ℚ) ^ p = 2 ^ (p - e).toNat * 2 ^ e := by
    rw [← zpow_natCast, Int.toNat_of_nonneg (by omega), ← zpow_add₀ two_ne_zero]
    congr 1
    omega
  rw [dyadic, hsplit]
  push_cast [Nat.pow_eq]
  ring

/-- Bringing two points to their smaller exponent does not change how they compare. -/
lemma Number.Point.compare_at (a p b q : Int) :
    Point.compare (.at a p) (.at b q) = Ord.compare (dyadic a p) (dyadic b q) := by
  rw [Point.compare, dyadic_eq_mul a (min_le_left p q), dyadic_eq_mul b (min_le_right p q)]
  generalize (a * Nat.pow 2 (p - min p q).toNat : Int) = x
  generalize (b * Nat.pow 2 (q - min p q).toNat : Int) = y
  have hpos : (0 : ℚ) < 2 ^ min p q := by positivity
  rcases lt_trichotomy x y with h | rfl | h
  · rw [compare_lt_iff_lt.2 h, compare_lt_iff_lt.2]
    exact mul_lt_mul_of_pos_right (by exact_mod_cast h) hpos
  · rw [compare_eq_iff_eq.2 rfl, compare_eq_iff_eq.2 rfl]
  · rw [compare_gt_iff_gt.2 h, compare_gt_iff_gt.2]
    exact mul_lt_mul_of_pos_right (by exact_mod_cast h) hpos

namespace Binary64

/-- The rational number that a finite number stands for; zero for the others. -/
def toRat : Binary64 → ℚ
  | .finite s m q _ => dyadic (signed s m) q
  | _ => 0

end Binary64

namespace Number

/-- Whether the number is neither infinite nor `nan`. -/
def isFinite : Number → Bool
  | .int _ => true
  | .float x => x.isFinite

/-- The rational number that a finite number stands for; zero for the others. -/
def toRat : Number → ℚ
  | .int n => n
  | .float x => x.toRat

variable {a b : Number}

lemma exists_point? (ha : a.isFinite = true) :
    ∃ m e, a.point? = some (.at m e) ∧ a.toRat = dyadic m e := by
  match a with
  | .int n => exact ⟨n, 0, rfl, by simp [toRat, dyadic]⟩
  | .float (.finite s m q h) => exact ⟨_, _, rfl, rfl⟩

lemma compare?_of_isFinite (ha : a.isFinite = true) (hb : b.isFinite = true) :
    a.compare? b = some (Ord.compare a.toRat b.toRat) := by
  obtain ⟨m, e, hm, ham⟩ := exists_point? ha
  obtain ⟨n, f, hn, hbn⟩ := exists_point? hb
  rw [ham, hbn, ← Point.compare_at, compare?, hm, hn]
  rfl

lemma lt_iff (ha : a.isFinite = true) (hb : b.isFinite = true) :
    a.lt b = true ↔ a.toRat < b.toRat := by
  rw [lt, compare?_of_isFinite ha hb, beq_iff_eq, Option.some.injEq, compare_lt_iff_lt]

lemma same_iff (ha : a.isFinite = true) (hb : b.isFinite = true) :
    a.same b = true ↔ a.toRat = b.toRat := by
  rw [same, compare?_of_isFinite ha hb, beq_iff_eq, Option.some.injEq, compare_eq_iff_eq]

end Number

namespace Binary64

variable {x y : Binary64}

lemma lt_iff (hx : x.isFinite = true) (hy : y.isFinite = true) :
    x.lt y = true ↔ x.toRat < y.toRat :=
  Number.lt_iff (a := .float x) (b := .float y) hx hy

lemma same_iff (hx : x.isFinite = true) (hy : y.isFinite = true) :
    x.same y = true ↔ x.toRat = y.toRat :=
  Number.same_iff (a := .float x) (b := .float y) hx hy

lemma zpow_eq_div {base : ℚ} (hbase : base ≠ 0) (k : Int) :
    base ^ k = base ^ k.toNat / base ^ (-k).toNat := by
  rw [← zpow_natCast, ← zpow_natCast, ← zpow_sub₀ hbase]
  congr 1
  omega

lemma dyadic_eq_div (a q : Int) :
    dyadic a q = ((a * Nat.pow 2 q.toNat : Int) : ℚ) / (Nat.pow 2 (-q).toNat : Nat) := by
  rw [dyadic, zpow_eq_div two_ne_zero]
  push_cast [Nat.pow_eq]
  ring

end Binary64
end ListingSearch
