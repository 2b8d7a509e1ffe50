import ListingSearch.TextSet

/-!
The limits of searches, and the states of a listing that are looked for when nothing else is asked.
-/
namespace ListingSearch

structure Policy where
  /-- States that are looked for when criteria ask for none. -/
  defaultStatuses : TextSet
  /-- No search gives more results. -/
  maxResults : Int
  /-- How many results the review of a saved search gives unless its criteria set a limit. -/
  reviewLimit : Int

def Policy.cap (policy : Policy) (limit : Option Int) : Int :=
  match limit with
  | some n => min n policy.maxResults
  | none => policy.maxResults

end ListingSearch
