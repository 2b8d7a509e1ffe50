import ListingSearch.Criteria.Basic
import ListingSearch.Criteria.Field

/-!
The stored form of criteria: a filter that uses the explicit keys only and leaves out what does not
restrict the search. Integral numbers are stored as integers.
-/
namespace ListingSearch

def Binary64.stored (x : Binary64) : Value :=
  match x.toInt? with
  | some n => .int n
  | none => .float x

def Town.stored (town : Town) : Value :=
  .object [("city", .text town.city), ("neighborhood", .ofText? town.neighborhood)]

namespace Criteria

def nonemptyText (s : Option String) : Option Value :=
  match s with
  | some s => if s = "" then none else some (.text s)
  | none => none

def nonemptySet (s : TextSet) : Option Value :=
  if s.isEmpty then none else some (.ofTexts s.toList)

/-- A truth value that is stored only if it is true. -/
def onlyTrue (b : Bool) : Option Value := if b then some (.bool true) else none

def stored (c : Criteria) : Field → Option Value
  | .state => nonemptyText c.place.state
  | .county => nonemptyText c.place.county
  | .towns => if c.place.towns = [] then none else some (.list (c.place.towns.map Town.stored))
  | .propertyTypes => nonemptySet c.propertyTypes
  | .statuses => nonemptySet c.statuses
  | .priceMin => c.price.min.map Binary64.stored
  | .priceMax => c.price.max.map Binary64.stored
  | .hasNoMin => onlyTrue c.price.noMin
  | .hasNoMax => onlyTrue c.price.noMax
  | .bedsMin => c.beds.min.map Binary64.stored
  | .bedsMax => c.beds.max.map Binary64.stored
  | .bathsMin => c.baths.min.map Binary64.stored
  | .bathsMax => c.baths.max.map Binary64.stored
  | .sqftMin => c.sqft.min.map Binary64.stored
  | .sqftMax => c.sqft.max.map Binary64.stored
  | .yearBuiltMin => c.yearBuilt.min.map Binary64.stored
  | .yearBuiltMax => c.yearBuilt.max.map Binary64.stored
  | .parkingMin => c.parking.min.map Binary64.stored
  | .parkingMax => c.parking.max.map Binary64.stored
  | .lotSizeMin => c.lotSize.min.map Binary64.stored
  | .lotSizeMax => c.lotSize.max.map Binary64.stored
  | .keywordsInclude => nonemptyText c.keywords.wanted
  | .keywordsExclude => nonemptyText c.keywords.unwanted
  | .keywordMode =>
    if (nonemptyText c.keywords.wanted).isSome ∨ (nonemptyText c.keywords.unwanted).isSome ∨
        c.keywords.mode ≠ .any then
      some (.text c.keywords.mode.name)
    else none
  | .zipCode => c.zipCode.map .text
  | .streetNumber => c.streetNumber.map .text
  | .streetName => c.streetName.map .text
  | .listingNumber => c.listingNumber.map .text
  | .limit => c.limit.map fun n => .int n
  | .sortColumn => c.sortColumn.map .text
  | .sortDirection => some (.text c.direction.name)
  | .sortPreset => none
  | .listDate => c.listedDays.map fun n => if n = 0 then .text "today" else .int n
  | .offMarketWindow => c.changedDays.map fun n => .int n
  | .onlyOpenHouses => onlyTrue c.onlyOpenHouses
  | .maxPricePerSqft => c.maxPricePerSqft.map Binary64.stored

def toDocument (c : Criteria) : Record :=
  Field.all.filterMap fun f => (c.stored f).map (f.key, ·)

example : ({} : Criteria).toDocument = [("sortDirection", .text "desc")] := by rfl

end Criteria
end ListingSearch
