import ListingSearch.Predicate.Holds
import ListingSearch.SortOrder
import ListingSearch.Sorting
import ListingSearch.Value.Order

/-!
Rows in memory, and what a search finds in them: the rows of which the condition holds, ordered by
identifier, then those with a value in the column of the order by that value, then the others. Rows
of equal value stay ordered by identifier in both directions.
-/
namespace ListingSearch.Inventory

def matching (p : Predicate) : List Record → Outcome (List Record)
  | [] => .ok []
  | r :: rest => do
    let here ← p.holds r
    let others ← matching p rest
    return if here then r :: others else others

/-- The identifier of a row; every row has to have one. -/
def identifier (r : Record) : Outcome Value :=
  match r.get? "id" with
  | some id => .ok id
  | none => .error .noEntry

abbrev Keyed := Value × Record

def byKey (rows : List Keyed) : Outcome (List Keyed) :=
  inOrder (fun (x y : Keyed) => x.1.less y.1) rows

def byIdentifier (rows : List Record) : Outcome (List Record) := do
  (·.map (·.2)) <$> byKey (← rows.mapM fun r => return (← identifier r, r))

/-- Rows that have a value in the column of an order, in that order. To descend, they are turned
round before and after, so that rows of equal value keep their places. -/
def byColumn (sort : SortOrder) (rows : List Record) : Outcome (List Record) :=
  let keyed := rows.map fun r => (r.get sort.column, r)
  if sort.descending then (fun rows => (rows.map (·.2)).reverse) <$> byKey keyed.reverse
  else (·.map (·.2)) <$> byKey keyed

/-- Rows in an order; rows without a value in its column come last. -/
def arrange (sort : SortOrder) (rows : List Record) : Outcome (List Record) := do
  let rows ← byIdentifier rows
  let isMissing (r : Record) : Bool := (r.get sort.column).isNull
  return (← byColumn sort (rows.filter (!isMissing ·))) ++ rows.filter isMissing

/-- The first rows, in an order, of which a condition holds. -/
def fetch (p : Predicate) (sort : SortOrder) (limit : Int) (rows : List Record) :
    Outcome (List Record) := do
  return (← arrange sort (← matching p rows)).take limit.toNat

def count (p : Predicate) (rows : List Record) : Outcome Nat := do
  return (← matching p rows).length

/-- Puts a row at the end, in the place of all rows with its identifier. -/
def put (r : Record) (rows : List Record) : List Record :=
  rows.filter (fun s => !(s.get "id").same (r.get "id")) ++ [r]

def drop (id : Value) (rows : List Record) : List Record :=
  rows.filter fun s => !(s.get "id").same id

end ListingSearch.Inventory
