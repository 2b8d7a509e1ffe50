import ListingSearch.Record.Check
import ListingSearch.TextSet

/-!
Coverage areas: the places in which an agent or a buyer has declared an interest.
-/
namespace ListingSearch

structure CoverageArea where
  owner : String
  state : Option String := none
  county : Option String := none
  city : Option String := none
  neighborhood : Option String := none

namespace CoverageArea

open Check

/-- The owner, under the second of two keys only if the first one is not there. -/
def ownerOf (r : Record) : Checked String :=
  match r.get? "agent_id", r.get? "owner_id" with
  | none, some v => (text v).within (.field "owner_id")
  | _, _ => required "agent_id" text r

def ofRecord (r : Record) : Checked CoverageArea :=
  CoverageArea.mk <$> ownerOf r
    <*> field? "state" text r
    <*> field? "county" text r
    <*> field? "city" text r
    <*> field? "neighborhood" text r

def ofRow : Value → Outcome CoverageArea
  | .object r => (ofRecord r).outcome
  | _ => (Checked.fault .notRecord).outcome

/-- The owners of the rows that name one; every such row has to be an area. -/
def owners : List Record → Outcome TextSet
  | [] => .ok .empty
  | r :: rest =>
    if (r.get "agent_id").truthy then do
      let area ← (ofRecord r).outcome
      return (← owners rest).insert area.owner
    else owners rest

end CoverageArea
end ListingSearch
