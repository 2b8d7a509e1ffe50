import ListingSearch.Failure
import ListingSearch.Predicate.Basic

/-!
Conditions for a store in which a test of a missing value is neither true nor false. Negations are
moved to the tests, and a negated test is joined with the test for a missing value, so that the
store keeps the rows that the condition keeps.
-/
namespace ListingSearch

/-- The negation of a test that also holds where the value is missing. The test for a missing value
is never undecided, so its negation needs no such case. -/
def Test.nullSafeNot (t : Test) : Predicate :=
  if t.isMissing then .not (.test t) else .or [.eq t.field .null, .not (.test t)]

namespace Predicate

mutual

/-- The condition in the form that a store decides as `holds` does. A choice between nothing cannot
be given to a store. -/
def nullSafe : Predicate → Outcome Predicate
  | .test t => .ok (.test t)
  | .not p => nullSafeNot p
  | .and ps => allOf <$> nullSafeEach ps
  | .or ps => if ps.isEmpty then .error .emptyChoice else anyOf <$> nullSafeEach ps

def nullSafeNot : Predicate → Outcome Predicate
  | .test t => .ok t.nullSafeNot
  | .not p => nullSafe p
  | .and ps => if ps.isEmpty then .error .emptyChoice else anyOf <$> nullSafeNotEach ps
  | .or ps => allOf <$> nullSafeNotEach ps

def nullSafeEach : List Predicate → Outcome (List Predicate)
  | [] => .ok []
  | p :: ps => do
    let q ← nullSafe p
    return q :: (← nullSafeEach ps)

def nullSafeNotEach : List Predicate → Outcome (List Predicate)
  | [] => .ok []
  | p :: ps => do
    let q ← nullSafeNot p
    return q :: (← nullSafeNotEach ps)

end

mutual

/-- Putting the opposite of a condition in store form is the same as putting its negation there. -/
theorem nullSafe_negate : (p : Predicate) → nullSafe p.negate = nullSafeNot p
  | .test t => by simp [negate, nullSafe]
  | .not p => by simp [negate, nullSafeNot]
  | .and [] => by simp [negate, negateAll, nullSafe, nullSafeNot]
  | .and (p :: ps) => by
    rw [negate, nullSafe, nullSafeNot, nullSafeEach_negateAll]
    simp [negateAll]
  | .or ps => by rw [negate, nullSafe, nullSafeNot, nullSafeEach_negateAll]

/-- The same for each condition of a list. -/
theorem nullSafeEach_negateAll : (ps : List Predicate) →
    nullSafeEach (negateAll ps) = nullSafeNotEach ps
  | [] => rfl
  | p :: ps => by
    rw [negateAll, nullSafeEach, nullSafeNotEach, nullSafe_negate p, nullSafeEach_negateAll ps]

end

end Predicate
end ListingSearch
