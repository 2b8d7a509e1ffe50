import ListingSearch.Failure
import ListingSearch.TextSet

/-!
Search criteria in canonical form. A dimension that is absent, or a set without members, does not
restrict the search. Criteria are equal if their texts and sets are equal and their numbers are
equal as real numbers.
-/
namespace ListingSearch

structure Town where
  city : String
  neighborhood : Option String
  deriving DecidableEq

def Town.isWholeCity (town : Town) : Bool := town.neighborhood.isNone

structure Place where
  state : Option String := none
  county : Option String := none
  towns : List Town := []
  deriving DecidableEq

def Place.wholeCities (place : Place) : List Town := place.towns.filter (·.isWholeCity)

def Place.neighborhoods (place : Place) : List Town := place.towns.filter (!·.isWholeCity)

/-- Bounds of a number; an absent bound does not restrict it. -/
structure Bounds where
  min : Option Binary64 := none
  max : Option Binary64 := none
  deriving DecidableEq

def Bounds.isEmpty (b : Bounds) : Bool := b.min.isNone && b.max.isNone

/-- Bounds of the price. An override switches its bound off without forgetting it. -/
structure PriceBounds extends Bounds where
  noMin : Bool := false
  noMax : Bool := false
  deriving DecidableEq

namespace PriceBounds

/-- The lower bound, unless it is switched off. -/
def effectiveMin (p : PriceBounds) : Option Binary64 := if p.noMin then none else p.min

/-- The upper bound, unless it is switched off. -/
def effectiveMax (p : PriceBounds) : Option Binary64 := if p.noMax then none else p.max

/-- The two bounds if they are in force and in the wrong order. -/
def inversion? (p : PriceBounds) : Option (Binary64 × Binary64) :=
  match p.effectiveMin, p.effectiveMax with
  | some low, some high => if high.lt low then some (low, high) else none
  | _, _ => none

/-- The bounds, refused if they are in force and in the wrong order. -/
def check (p : PriceBounds) : Outcome PriceBounds :=
  match p.inversion? with
  | some (low, high) => .error (.invertedPrice low high)
  | none => .ok p

/-- The bounds, without both if they are in force and in the wrong order. -/
def mend (p : PriceBounds) : PriceBounds :=
  if p.inversion?.isSome then { p with min := none, max := none } else p

end PriceBounds

/-- How many of the keywords are asked for. -/
inductive KeywordMode where
  | any
  | all
  deriving DecidableEq

def KeywordMode.name : KeywordMode → String
  | .any => "any"
  | .all => "all"

/-- Words to be found, or not to be found, in the description; commas separate them. -/
structure Keywords where
  wanted : Option String := none
  unwanted : Option String := none
  mode : KeywordMode := .any
  deriving DecidableEq

inductive Direction where
  | ascending
  | descending
  deriving DecidableEq

def Direction.name : Direction → String
  | .ascending => "asc"
  | .descending => "desc"

structure Criteria where
  place : Place := {}
  price : PriceBounds := {}
  propertyTypes : TextSet := .empty
  statuses : TextSet := .empty
  beds : Bounds := {}
  baths : Bounds := {}
  sqft : Bounds := {}
  yearBuilt : Bounds := {}
  parking : Bounds := {}
  lotSize : Bounds := {}
  keywords : Keywords := {}
  zipCode : Option String := none
  streetNumber : Option String := none
  streetName : Option String := none
  listingNumber : Option String := none
  /-- Listed within so many days; zero stands for today. -/
  listedDays : Option Nat := none
  /-- Changed within so many days. -/
  changedDays : Option Nat := none
  onlyOpenHouses : Bool := false
  maxPricePerSqft : Option Binary64 := none
  limit : Option Nat := none
  sortColumn : Option String := none
  direction : Direction := .descending
  deriving DecidableEq, Inhabited

namespace Criteria

def ranges (c : Criteria) : List (String × Bounds) :=
  [("beds", c.beds), ("baths", c.baths), ("sqft", c.sqft), ("year_built", c.yearBuilt),
    ("parking", c.parking), ("lot_size", c.lotSize)]

/-- Whether nothing restricts the search; the limit and the order do not. -/
def isEmpty (c : Criteria) : Bool :=
  { c with limit := none, sortColumn := none, direction := .descending } == ({} : Criteria)

end Criteria

def Binary64.sameOption : Option Binary64 → Option Binary64 → Bool
  | none, none => true
  | some x, some y => x.same y
  | _, _ => false

def Bounds.same (a b : Bounds) : Bool :=
  Binary64.sameOption a.min b.min && Binary64.sameOption a.max b.max

namespace Criteria

/-- The criteria without the numbers that are compared as real numbers. -/
def withoutNumbers (c : Criteria) : Criteria :=
  { c with
    price := { c.price with min := none, max := none }, beds := {}, baths := {}, sqft := {},
    yearBuilt := {}, parking := {}, lotSize := {}, maxPricePerSqft := none }

def same (a b : Criteria) : Bool :=
  a.withoutNumbers == b.withoutNumbers && a.price.toBounds.same b.price.toBounds &&
    a.beds.same b.beds && a.baths.same b.baths && a.sqft.same b.sqft &&
    a.yearBuilt.same b.yearBuilt && a.parking.same b.parking && a.lotSize.same b.lotSize &&
    Binary64.sameOption a.maxPricePerSqft b.maxPricePerSqft

end Criteria
end ListingSearch
