import ListingSearch.Criteria.Document
import ListingSearch.Criteria.Form
import ListingSearch.Criteria.Reading
import ListingSearch.Instant
import ListingSearch.Value.Members

/-!
Saved searches: named criteria of an owner, with the listings that were already delivered for them.
They are stored as rows. Reading a row treats columns that give no information as absent, and reads
the criteria leniently.
-/
namespace ListingSearch

structure SavedSearch where
  id : Option String
  owner : String
  name : String
  criteria : Criteria
  /-- The listings that were delivered; they are never taken back. -/
  delivered : TextSet
  active : Bool
  /-- Counts the changes of the criteria, from one. -/
  version : Int
  createdAt : String
  updatedAt : String

namespace SavedSearch

def create (owner name : String) (criteria : Criteria) (now : Instant) : SavedSearch :=
  { id := none, owner, name, criteria, delivered := .empty, active := true, version := 1,
    createdAt := now.text, updatedAt := now.text }

/-- The columns that are stored; the identifier is given by the store. -/
def toRow (s : SavedSearch) : Record :=
  [("user_id", .text s.owner), ("name", .text s.name), ("criteria", .object s.criteria.toDocument),
    ("delivered_listing_ids", .ofTexts s.delivered.toList), ("is_active", .bool s.active),
    ("version", .int s.version), ("created_at", .text s.createdAt),
    ("updated_at", .text s.updatedAt)]

def orElse (v other : Value) : Value := if v.truthy then v else other

/-- The set of the members of a collection; what counts as false has none. -/
def distinctMembers (v : Value) : Outcome (List Value) := do
  if v.truthy then Value.memberSet (← v.members) else return []

open Check in
/-- Reads the columns of a row whose criteria and delivered listings are known. -/
def ofColumns (r : Record) (criteria : Criteria) (delivered : List Value) (now : Instant) :
    Checked SavedSearch :=
  SavedSearch.mk <$> field? "id" text r
    <*> (text (orElse (r.get "user_id") (r.get "owner_id"))).within (.field "owner_id")
    <*> (text (orElse (r.get "name") (.text ""))).within (.field "name")
    <*> .valid criteria
    <*> (TextSet.ofList <$> each text 0 delivered).within (.field "delivered_listing_ids")
    <*> (truth ((r.get? "is_active").getD (.bool true))).within (.field "is_active")
    <*> (integerFrom 1 (orElse (r.get "version") (.int 1))).within (.field "version")
    <*> (text (orElse (r.get "created_at") (.text now.text))).within (.field "created_at")
    <*> (text (orElse (r.get "updated_at") (.text now.text))).within (.field "updated_at")

def ofRow (now : Instant) : Value → Outcome SavedSearch
  | .object r => do
    let criteria ← Criteria.read false (Record.get r "criteria")
    let delivered ← distinctMembers (Record.get r "delivered_listing_ids")
    (ofColumns r criteria delivered now).outcome
  | _ => .error .rowNotObject

/-- Reads the rows of a reply, up to the first that cannot be read. -/
def ofRows (now : Instant) (rows : Value) : Outcome (List SavedSearch) := do
  (← rows.members).mapM (ofRow now)

def nameLimit : Nat := 100

/-- The trimmed name, unless it is empty or too long. What counts as false is an empty name. -/
def checkName : Value → Outcome String
  | .text name =>
    let cleaned := Text.trim name
    if cleaned = "" then .error .missingName
    else if nameLimit < cleaned.length then .error (.nameTooLong nameLimit)
    else .ok cleaned
  | v => .error (if v.truthy then .nameNotText else .missingName)

def checkOwner (owner : Value) : Outcome String :=
  ((Check.text owner).within (.field "owner_id")).outcome

end SavedSearch
end ListingSearch
