import ListingSearch.SavedSearch.Basic
import ListingSearch.Value.Order

/-!
Rows of saved searches in memory, each under its identifier and in the order in which they came. A
row that is changed keeps its place, and an identifier is never given twice. Lists and objects
identify nothing, and asking for one is refused.
-/
namespace ListingSearch

/-- Stored rows of saved searches. -/
structure Archive where
  rows : List (Value × Record)
  /-- How many rows were created here. -/
  created : Nat := 0

namespace Archive

def lookUp (id : Value) : List (Value × Record) → Option Record
  | [] => none
  | (key, r) :: rest => if key.same id then some r else lookUp id rest

/-- Puts a row under an identifier: in its place if there is one, at the end if not. -/
def place (id : Value) (r : Record) : List (Value × Record) → List (Value × Record)
  | [] => [(id, r)]
  | (key, s) :: rest => if key.same id then (key, r) :: rest else (key, s) :: place id r rest

def find (id : Value) (a : Archive) : Outcome (Option Record) :=
  if id.isSimple then .ok (lookUp id a.rows) else .error .notMember

def put (id : Value) (r : Record) (a : Archive) : Archive := { a with rows := place id r a.rows }

def store (r : Record) (a : Archive) : Outcome Archive :=
  match r.get? "id" with
  | some id => if id.isSimple then .ok (a.put id r) else .error .notMember
  | none => .error .noEntry

def erase (id : Value) (a : Archive) : Archive :=
  { a with rows := a.rows.filter fun row => !row.1.same id }

/-- The identifier that the next new row gets. -/
def nextId (a : Archive) : String := "hs-" ++ toString (a.created + 1)

def create (r : Record) (a : Archive) : Record × Archive :=
  let row := r.set "id" (.text a.nextId)
  (row, { a.put (.text a.nextId) row with created := a.created + 1 })

def ofOwner (owner : Value) (a : Archive) : List Record :=
  (a.rows.map (·.2)).filter fun r => (r.get "user_id").same owner

/-- Changes the row under an identifier, if there is one. What a change that fails has written
already stays written. -/
def change {α : Type} (id : Value) (f : Record → Outcome (Option α) × Record) (a : Archive) :
    Outcome (Option α) × Archive :=
  match a.find id with
  | .ok (some r) =>
    let (result, row) := f r
    (result, a.put id row)
  | .ok none => (.ok none, a)
  | .error failure => (.error failure, a)

/-- Replaces the criteria in a row that still has the version, and counts the change. -/
def replaceCriteria (id document version : Value) (a : Archive) :
    Outcome (Option Record) × Archive :=
  a.change id fun r =>
    if (r.get "version").same version then
      let row := r.set "criteria" document
      match version.next with
      | .ok next => (.ok (some (row.set "version" next)), row.set "version" next)
      | .error failure => (.error failure, row)
    else (.ok none, r)

def setActive (id active : Value) (a : Archive) : Outcome (Option Record) × Archive :=
  a.change id fun r => (.ok (some (r.set "is_active" active)), r.set "is_active" active)

/-- Removes the row under an identifier; gives whether there was one. -/
def delete (id : Value) (a : Archive) : Outcome Bool × Archive :=
  match a.find id with
  | .ok row => (.ok row.isSome, a.erase id)
  | .error failure => (.error failure, a)

/-- What is noted in a row and the members of a collection, as a set in ascending order. -/
def withNoted (r : Record) (listings : Value) : Outcome (List Value) := do
  let old ← SavedSearch.distinctMembers (r.get "delivered_listing_ids")
  Value.ascending (Value.distinctValues (old ++ (← Value.memberSet (← listings.members))))

def addDelivered (id listings : Value) (a : Archive) : Outcome (Option (List Value)) × Archive :=
  a.change id fun r =>
    match withNoted r listings with
    | .ok all => (.ok (some all), r.set "delivered_listing_ids" (.list all))
    | .error failure => (.error failure, r)

end Archive
end ListingSearch
