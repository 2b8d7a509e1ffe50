import ListingSearch.Record.Check
import ListingSearch.Value.Members

/-!
Listings, the rows of the inventory. A listing has an identifier; every other column may be empty.
-/
namespace ListingSearch

structure Listing where
  id : String
  listingNumber : Option String := none
  agent : Option String := none
  address : Option String := none
  city : Option String := none
  neighborhood : Option String := none
  state : Option String := none
  zipCode : Option String := none
  price : Option Binary64 := none
  bedrooms : Option Binary64 := none
  bathrooms : Option Binary64 := none
  squareFeet : Option Binary64 := none
  yearBuilt : Option Int := none
  parkingSpaces : Option Int := none
  lotSize : Option Binary64 := none
  propertyType : Option String := none
  status : Option String := none
  description : Option String := none
  openHouses : Value := .null
  createdAt : Option String := none
  updatedAt : Option String := none

namespace Listing

open Check

def ofRecord (r : Record) : Checked Listing :=
  Listing.mk <$> required "id" text r
    <*> field? "listing_number" text r
    <*> field? "agent_id" text r
    <*> field? "address" text r
    <*> field? "city" text r
    <*> field? "neighborhood" text r
    <*> field? "state" text r
    <*> field? "zip_code" text r
    <*> field? "price" number r
    <*> field? "bedrooms" number r
    <*> field? "bathrooms" number r
    <*> field? "square_feet" number r
    <*> field? "year_built" integer r
    <*> field? "total_parking_spaces" integer r
    <*> field? "lot_size" number r
    <*> field? "property_type" text r
    <*> field? "status" text r
    <*> field? "description" text r
    <*> .valid (r.get "open_houses")
    <*> field? "created_at" text r
    <*> field? "updated_at" text r

def ofRow : Value → Outcome Listing
  | .object r => (ofRecord r).outcome
  | _ => (Checked.fault .notRecord).outcome

def ofRows (rows : Value) : Outcome (List Listing) := do (← rows.members).mapM ofRow

/-- A listing as a record with all columns, in their order. -/
def toRecord (l : Listing) : Record :=
  [("id", .text l.id), ("listing_number", .ofText? l.listingNumber), ("agent_id", .ofText? l.agent),
    ("address", .ofText? l.address), ("city", .ofText? l.city),
    ("neighborhood", .ofText? l.neighborhood), ("state", .ofText? l.state),
    ("zip_code", .ofText? l.zipCode), ("price", number? l.price), ("bedrooms", number? l.bedrooms),
    ("bathrooms", number? l.bathrooms), ("square_feet", number? l.squareFeet),
    ("year_built", integer? l.yearBuilt), ("total_parking_spaces", integer? l.parkingSpaces),
    ("lot_size", number? l.lotSize), ("property_type", .ofText? l.propertyType),
    ("status", .ofText? l.status), ("description", .ofText? l.description),
    ("open_houses", l.openHouses), ("created_at", .ofText? l.createdAt),
    ("updated_at", .ofText? l.updatedAt)]
where
  /-- A number or null. -/
  number? (x : Option Binary64) : Value := x.elim .null .float
  /-- An integer or null. -/
  integer? (n : Option Int) : Value := n.elim .null .int

end Listing
end ListingSearch
