import ListingSearch.Plan
import ListingSearch.Predicate.Basic
import ListingSearch.SavedSearch.Basic
import ListingSearch.SortOrder

/-!
What searches and saved searches ask of the outside: rows of the inventory and of the coverage
areas, single changes of the stored searches, and the sending of listings. Every request is one
indivisible step for those who ask it. Identifiers and what is written are loose data, as callers
hand them in; the stores decide what they take.
-/
namespace ListingSearch
namespace Service

inductive Request where
  /-- The first rows of the inventory, in an order, of which a condition holds. -/
  | listings (p : Predicate) (sort : SortOrder) (limit : Int)
  /-- How many rows of the inventory there are of which a condition holds. -/
  | countListings (p : Predicate)
  /-- The owners of the coverage areas of which a condition holds, each of them once. -/
  | owners (p : Predicate)
  | create (search : SavedSearch)
  | find (id : Value)
  | ofOwner (owner : Value)
  /-- Replaces the criteria of a search that still has the version. -/
  | replaceCriteria (id document version : Value)
  | setActive (id active : Value)
  | delete (id : Value)
  /-- Adds listings to those delivered for a search, and gives all of them. -/
  | addDelivered (id listings : Value)
  | send (id : Value) (listings : List Value)

/-- The reply to a request: rows and numbers as loose data, where there are any. -/
abbrev Request.Reply : Request → Type
  | .listings .. => Value
  | .countListings _ => Value
  | .owners _ => List Value
  | .create _ => Option Value
  | .find _ => Option Value
  | .ofOwner _ => Value
  | .replaceCriteria .. => Option Value
  | .setActive .. => Option Value
  | .delete _ => Bool
  | .addDelivered .. => Option (List Value)
  | .send .. => Unit

end Service

abbrev Service : Interface := ⟨Service.Request, Service.Request.Reply⟩

end ListingSearch
