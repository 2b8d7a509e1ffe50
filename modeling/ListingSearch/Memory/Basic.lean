import ListingSearch.CoverageArea
import ListingSearch.Memory.Archive
import ListingSearch.Memory.Inventory
import ListingSearch.Service

/-!
The stores and the sender in memory. The inventory can be made unreachable for searches, and the
sender can be made to fail; what was last searched for and what was sent is kept.
-/
namespace ListingSearch

structure Memory.Asked where
  condition : Predicate
  sort : SortOrder
  limit : Int

/-- All that is held in memory. -/
structure Memory where
  listings : List Record := []
  areas : List Record := []
  archive : Archive := ⟨[], 0⟩
  /-- Why the inventory cannot be searched, if it cannot. -/
  inventoryFault : Option String := none
  /-- Why nothing can be sent, if nothing can. -/
  senderFault : Option String := none
  /-- What was sent for which saved search, in order. -/
  sent : List (Value × List Value) := []
  lastAsked : Option Memory.Asked := none

namespace Memory

def search (p : Predicate) (sort : SortOrder) (limit : Int) (m : Memory) : Outcome Value :=
  match m.inventoryFault with
  | some message => .error (.storeUnavailable message (some "listings.fetch"))
  | none => (fun rows => .list (rows.map .object)) <$> Inventory.fetch p sort limit m.listings

def send (id : Value) (listings : List Value) (m : Memory) : Outcome Unit × Memory :=
  match m.senderFault with
  | some reason => (.error (.dispatchFailed reason), m)
  | none => (.ok (), { m with sent := m.sent ++ [(id, listings)] })

/-- The memory with another archive, beside a result. -/
def withArchive {α : Type} (m : Memory) (result : α × Archive) : α × Memory :=
  (result.1, { m with archive := result.2 })

def reply (row : Outcome (Option Record)) : Outcome (Option Value) := (·.map .object) <$> row

/-- The memory with another archive, beside a row as the reply to a request. -/
def withRow (m : Memory) (result : Outcome (Option Record) × Archive) :
    Outcome (Option Value) × Memory := m.withArchive (reply result.1, result.2)

def handle : Handler Service Memory
  | .listings p sort limit, m =>
    (m.search p sort limit, { m with lastAsked := some ⟨p, sort, limit⟩ })
  | .countListings p, m => ((fun n : Nat => .int n) <$> Inventory.count p m.listings, m)
  | .owners p, m =>
    ((·.toList.map .text) <$> (Inventory.matching p m.areas >>= CoverageArea.owners), m)
  | .create search, m =>
    let (row, archive) := m.archive.create search.toRow
    m.withRow (.ok (some row), archive)
  | .find id, m => (reply (m.archive.find id), m)
  | .ofOwner owner, m => (.ok (.list ((m.archive.ofOwner owner).map .object)), m)
  | .replaceCriteria id document version, m =>
    m.withRow (m.archive.replaceCriteria id document version)
  | .setActive id active, m => m.withRow (m.archive.setActive id active)
  | .delete id, m => m.withArchive (m.archive.delete id)
  | .addDelivered id listings, m => m.withArchive (m.archive.addDelivered id listings)
  | .send id listings, m => m.send id listings

end Memory
end ListingSearch
