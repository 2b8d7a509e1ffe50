import ListingSearch.Criteria.Basic
import ListingSearch.Distinct
import ListingSearch.Instant
import ListingSearch.Predicate.Basic
import ListingSearch.Vocabulary

/-!
The condition on listings that criteria stand for. Every dimension contributes its own conditions,
and a listing has to satisfy all of them. A bound that is not finite counts as absent; windows of
days are counted back from a given instant and compared as texts of instants.
-/
namespace ListingSearch

def finiteBound (x : Option Binary64) : Option Bound :=
  match x with
  | some x => if x.isFinite then some (.float x) else none
  | none => none

def Bounds.conditions (column : String) (b : Bounds) : List Predicate :=
  match finiteBound b.min, finiteBound b.max with
  | none, none => []
  | low, high => [.range column low high]

def PriceBounds.conditions (p : PriceBounds) : List Predicate :=
  Bounds.conditions "price" ⟨p.effectiveMin, p.effectiveMax⟩

def oneOfTexts (column : String) (texts : List String) : Predicate :=
  .oneOf column (texts.map .text)

/-- That a column has a text, if there is one and it is not empty. -/
def textCondition (column : String) (s : Option String) : List Predicate :=
  match s with
  | some s => if s = "" then [] else [.eq column (.text s)]
  | none => []

/-- That a column contains a trimmed text, if there is one and it is not empty. -/
def likeCondition (column : String) (mode : MatchMode) (s : Option String) : List Predicate :=
  match s with
  | some s => if s = "" then [] else [.like column (Text.trim s) mode]
  | none => []

def Town.condition (town : Town) : Predicate :=
  .allOf [.eq "city" (.text town.city), .eq "neighborhood" (.ofText? town.neighborhood)]

/-- The alternatives for where a listing lies: one of the whole cities, or one of the
neighborhoods. -/
def Place.branches (place : Place) (neighborhood : Town → Predicate) : List Predicate :=
  let cities := distinct (place.wholeCities.map (·.city))
  (if cities = [] then [] else [oneOfTexts "city" cities]) ++ place.neighborhoods.map neighborhood

def Place.townConditions (place : Place) : List Predicate :=
  match place.branches Town.condition with
  | [] => []
  | branches => [.anyOf branches]

/-- That a listing has one of the property types, in the words of the table. -/
def propertyTypeConditions (types : TextSet) : List Predicate :=
  if types.isEmpty then []
  else [oneOfTexts "property_type" (TextSet.ofList (types.toList.map storedPropertyType)).toList]

/-- That a listing has one of the states, or one of the default states if none is asked for. -/
def statusConditions (statuses defaults : TextSet) : List Predicate :=
  let chosen := if statuses.isEmpty then defaults else statuses
  if chosen.isEmpty then [] else [oneOfTexts "status" chosen.toList]

/-- The keywords between the commas of a text, each once. -/
def keywordTerms (s : Option String) : List String :=
  distinct (((Text.split ',' (s.getD "")).map Text.trim).filter (· ≠ ""))

namespace Keywords

/-- That the description contains one or all of some words. -/
def mention (k : Keywords) (terms : List String) : Predicate :=
  let tests := terms.map fun t => Predicate.like "description" t .anywhere
  match k.mode with
  | .all => .allOf tests
  | .any => .anyOf tests

def conditions (k : Keywords) : List Predicate :=
  let wanted := keywordTerms k.wanted
  let unwanted := keywordTerms k.unwanted
  let clauses :=
    (if wanted = [] then [] else [k.mention wanted]) ++
      if unwanted = [] then [] else [(k.mention unwanted).negate]
  if clauses = [] then [] else [.allOf clauses]

end Keywords

def notBefore (column : String) (t : Instant) : Predicate :=
  .range column (some (.text t.text)) none

namespace Criteria

/-- The beginning of the window of listing dates: midnight for today, or some days ago. -/
def listedSince (now : Instant) (days : Nat) : Outcome Instant :=
  if days = 0 then .ok now.midnight else now.daysBefore days

/-- That a listing is new enough and was changed lately enough. -/
def windowConditions (c : Criteria) (now : Instant) : Outcome (List Predicate) := do
  let listed ← match c.listedDays with
    | some days => (fun t => [notBefore "created_at" t]) <$> listedSince now days
    | none => .ok []
  let changed ← match c.changedDays with
    | some days => (fun t => [notBefore "updated_at" t]) <$> now.daysBefore days
    | none => .ok []
  return listed ++ changed

/-- That an open house is announced, and that there is a floor area to divide the price by. -/
def extraConditions (c : Criteria) : List Predicate :=
  (if c.onlyOpenHouses then [.not (.eq "open_houses" .null)] else []) ++
    if c.maxPricePerSqft.isSome then
      [.not (.eq "square_feet" .null),
        (Predicate.range "square_feet" none (some (.float (.zero false)))).negate]
    else []

def rangeConditions (c : Criteria) : List Predicate :=
  c.beds.conditions "bedrooms" ++ c.baths.conditions "bathrooms" ++
    c.sqft.conditions "square_feet" ++ c.yearBuilt.conditions "year_built" ++
    c.parking.conditions "total_parking_spaces" ++ c.lotSize.conditions "lot_size"

def addressConditions (c : Criteria) : List Predicate :=
  likeCondition "address" .anywhere c.streetNumber ++
    likeCondition "address" .anywhere c.streetName ++
    likeCondition "zip_code" .atStart c.zipCode ++
    likeCondition "listing_number" .anywhere c.listingNumber

/-- All conditions that do not depend on the time. -/
def timelessConditions (c : Criteria) (defaultStatuses : TextSet) : List Predicate :=
  textCondition "state" c.place.state ++ c.place.townConditions ++ c.price.conditions ++
    propertyTypeConditions c.propertyTypes ++ statusConditions c.statuses defaultStatuses ++
    c.rangeConditions ++ c.keywords.conditions ++ c.addressConditions

def condition (c : Criteria) (defaultStatuses : TextSet) (now : Instant) : Outcome Predicate := do
  let windows ← c.windowConditions now
  return .allOf (c.timelessConditions defaultStatuses ++ windows ++ c.extraConditions)

end Criteria
end ListingSearch
