import ListingSearch.Proofs.Criteria.Admission
import ListingSearch.Proofs.Criteria.RoundTrip
import ListingSearch.Search

/-! Criteria that were stored and read back ask for the same listings. Only the sign of a zero bound
can be lost on the way, and no test sees that sign; so the condition is decided in the same way for
every record, or it fails in the same way to be formed. -/
namespace ListingSearch

open Predicate

namespace Binary64

lemma lt_reread_left (x y : Binary64) : x.reread.lt y = x.lt y := by
  simp only [Binary64.lt, Number.lt, Number.compare?, point?_reread]

lemma lt_reread_right (x y : Binary64) : x.lt y.reread = x.lt y := by
  simp only [Binary64.lt, Number.lt, Number.compare?, point?_reread]

lemma usableBound_reread (x : Option Binary64) :
    usableBound (x.map reread) = (usableBound x).map reread := by
  cases x with
  | none => rfl
  | some x => cases h : x.isFinite <;> simp [usableBound, Option.filter, isFinite_reread, h]

end Binary64

section Bounds

variable {r : Record}

lemma Value.within_reread (v : Value) (low high : Option Binary64) :
    v.within ((low.map Binary64.reread).map .float) ((high.map Binary64.reread).map .float) =
      v.within (low.map .float) (high.map .float) := by
  rw [within_float, within_float]
  congr 2
  funext x
  cases low <;> cases high <;>
    simp only [Option.map_none, Option.map_some, Option.any_none, Option.any_some,
      Binary64.lt_reread_left, Binary64.lt_reread_right]

lemma allHold_bounds_reread (column : String) (b : Bounds) :
    allHold r (b.reread.conditions column) = allHold r (b.conditions column) := by
  rw [Bounds.conditions, Bounds.conditions, finiteBound_eq, finiteBound_eq, finiteBound_eq,
    finiteBound_eq, Bounds.reread, Binary64.usableBound_reread, Binary64.usableBound_reread]
  have hrange (low high : Option Binary64) :
      allHold r [.range column ((low.map Binary64.reread).map .float)
          ((high.map Binary64.reread).map .float)] =
        allHold r [.range column (low.map .float) (high.map .float)] := by
    rw [allHold_singleton, allHold_singleton, holds_test, holds_test, Test.holds_range,
      Test.holds_range, Value.within_reread]
  cases hlow : usableBound b.min with
  | none =>
    cases hhigh : usableBound b.max with
    | none => rfl
    | some high => exact hrange none (some high)
  | some low => exact hrange (some low) (usableBound b.max)

lemma allHold_price_reread (p : PriceBounds) :
    allHold r p.reread.conditions = allHold r p.conditions := by
  have heffective : (⟨p.reread.effectiveMin, p.reread.effectiveMax⟩ : Bounds) =
      Bounds.reread ⟨p.effectiveMin, p.effectiveMax⟩ := by
    obtain ⟨⟨min, max⟩, noMin, noMax⟩ := p
    cases noMin <;> cases noMax <;> rfl
  rw [PriceBounds.conditions, heffective]
  exact allHold_bounds_reread "price" _

end Bounds

namespace Criteria

variable {c : Criteria} {r : Record}

lemma allHold_timeless_reread (c : Criteria) (defaultStatuses : TextSet) :
    allHold r (c.reread.timelessConditions defaultStatuses) =
      allHold r (c.timelessConditions defaultStatuses) := by
  simp only [timelessConditions, rangeConditions, allHold_append]
  simp only [reread, allHold_bounds_reread, allHold_price_reread]
  rfl

lemma extraConditions_reread (c : Criteria) : c.reread.extraConditions = c.extraConditions := by
  cases h : c.maxPricePerSqft <;> simp [extraConditions, reread, h]

/-- Criteria that were read back stand for a condition that is decided in the same way. -/
theorem condition_reread {defaultStatuses : TextSet} {now : Instant} {p : Predicate}
    (h : c.condition defaultStatuses now = .ok p) :
    ∃ q, c.reread.condition defaultStatuses now = .ok q ∧ ∀ r, q.holds r = p.holds r := by
  obtain ⟨windows, hwindows, h⟩ := Outcome.bind_eq_ok h
  cases h
  have hsame : c.reread.windowConditions now = .ok windows := hwindows
  refine ⟨_, by rw [condition, hsame]; rfl, fun r => ?_⟩
  rw [holds_allOf, holds_allOf, allHold_append, allHold_append, allHold_append, allHold_append,
    allHold_timeless_reread, extraConditions_reread]

/-- Criteria that were read back fail in the same way to stand for a condition. -/
lemma condition_reread_error {defaultStatuses : TextSet} {now : Instant} {failure : Failure}
    (h : c.condition defaultStatuses now = .error failure) :
    c.reread.condition defaultStatuses now = .error failure := by
  have hsame : c.reread.windowConditions now = c.windowConditions now := rfl
  rw [condition] at h ⊢
  rw [hsame]
  cases hwindows : c.windowConditions now with
  | error other =>
    rw [hwindows] at h
    cases h
    rfl
  | ok windows =>
    rw [hwindows] at h
    cases h

end Criteria
end ListingSearch
