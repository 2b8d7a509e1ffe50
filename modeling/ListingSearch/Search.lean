import ListingSearch.Criteria.Condition
import ListingSearch.Listing
import ListingSearch.Policy
import ListingSearch.Service

/-!
Searching the inventory. Criteria are turned into a condition, an order and a limit; the policy's
limit always applies, and a limit that allows no results asks nothing of the store.
-/
namespace ListingSearch

structure Search where
  condition : Predicate
  sort : SortOrder
  limit : Option Nat

namespace Search

def ofCriteria (policy : Policy) (now : Instant) (c : Criteria) : Outcome Search := do
  return ⟨← c.condition policy.defaultStatuses now, c.sortOrder, c.limit⟩

def ofFilter (policy : Policy) (now : Instant) (filter : Value) : Outcome Search := do
  ofCriteria policy now (← Criteria.read true filter)

def find (policy : Policy) (p : Predicate) (sort : SortOrder) (limit : Option Int) :
    Plan Service (List Listing) :=
  let cap := policy.cap limit
  if cap ≤ 0 then .done []
  else do
    let rows ← Plan.request (I := Service) (.listings p sort cap)
    .ofOutcome (Listing.ofRows rows)

def count (p : Predicate) : Plan Service Value := Plan.request (I := Service) (.countListings p)

def results (policy : Policy) (s : Search) : Plan Service (List Listing) :=
  find policy s.condition s.sort (s.limit.map Int.ofNat)

def run (policy : Policy) (now : Instant) (filter : Value) : Plan Service (List Listing) := do
  (← .ofOutcome (ofFilter policy now filter)).results policy

def runCount (policy : Policy) (now : Instant) (filter : Value) : Plan Service Value := do
  count (← .ofOutcome (ofFilter policy now filter)).condition

end Search
end ListingSearch
