import ListingSearch.Vocabulary

/-!
The order of results. Criteria ask for a column and a direction; a column by which a search cannot
be ordered is replaced by the default order, the newest listings first.
-/
namespace ListingSearch

structure SortOrder where
  column : String := defaultSortColumn
  descending : Bool := true
  deriving DecidableEq, Inhabited

def Criteria.sortOrder (c : Criteria) : SortOrder :=
  let column :=
    match c.sortColumn with
    | some column => if column = "" then defaultSortColumn else column
    | none => defaultSortColumn
  if column ∈ sortableColumns then ⟨column, c.direction ≠ .ascending⟩ else {}

end ListingSearch
