import ListingSearch.Binary64.Decimal
import ListingSearch.Criteria.Basic
import ListingSearch.Criteria.Field
import ListingSearch.Distinct
import ListingSearch.Text.Lowercase
import ListingSearch.Value.Display
import ListingSearch.Vocabulary

/-!
Reading criteria from a loose filter, as a screen sends it or a stored search holds it. Fields and
empty lists that are missing mean the same, values that cannot be used are dropped, and prices in
the wrong order are refused in strict reading and dropped in lenient reading.
-/
namespace ListingSearch

namespace Value

/-- The trimmed text of a single piece of data; truth values, lists and objects have none, and an
empty text is none. An integer of too many digits is an error. -/
def wording? : Value → Outcome (Option String)
  | .int n =>
    if Binary64.digitCount n.natAbs ≤ Text.digitLimit then .ok (some (toString n))
    else .error .tooManyDigits
  | .float x => .ok (some x.text)
  | .text s => .ok (nonempty (Text.trim s))
  | _ => .ok none
where
  nonempty (s : String) : Option String := if s = "" then none else some s

/-- The finite number that the value denotes, if any; thousands separators and dollar signs in a
text are ignored. An integer beyond all binary64 numbers is an error. -/
def amount? : Value → Outcome (Option Binary64)
  | .int n =>
    match Binary64.ofInt? n with
    | some x => .ok (some x)
    | none => .error .numberTooLarge
  | .float x => .ok (finite x)
  | .text s =>
    let bare := String.ofList (s.toList.filter fun c => c != ',' && c != '$')
    .ok ((Binary64.read? (Text.trim bare)).bind finite)
  | _ => .ok none
where
  /-- A number unless it is infinite or `nan`. -/
  finite (x : Binary64) : Option Binary64 := if x.isFinite then some x else none

/-- A positive number of results, the fraction cut off. -/
def limit? (v : Value) : Outcome (Option Nat) := do
  match ← v.amount? with
  | some x => return if x.lt (.ofBool true) then none else some x.truncate.toNat
  | none => return none

def standsForAll (s : String) : Bool := Text.lower s == "all" || Text.lower s == "any"

/-- A number of days: the digits at the beginning of the text, if they are not zero. The word for
today is zero days where it is allowed. -/
def days? (allowToday : Bool) (v : Value) : Outcome (Option Nat) := do
  match ← v.wording? with
  | some s => count? s
  | none => return none
where
  count? (s : String) : Outcome (Option Nat) :=
    if standsForAll s then .ok none
    else if Text.lower s = "today" then .ok (if allowToday then some 0 else none)
    else
      let digits := s.toList.takeWhile Text.isDigit
      let n := Text.digitsValue digits
      if Text.digitLimit < digits.length then .error .tooManyDigits
      else .ok (if n < 1 then none else some n)

/-- Whether a box is ticked: one of three words, or anything that counts as true. -/
def ticked : Value → Bool
  | .text s => ["true", "1", "yes"].contains (Text.lower (Text.trim s))
  | v => v.truthy

/-- The wording of a place unless it stands for all places. -/
def placeName? (v : Value) : Outcome (Option String) :=
  return (← v.wording?).filter (!standsForAll ·)

/-- The words of a list, of the keys of an object, or of a text between commas. -/
def words (v : Value) : Outcome TextSet :=
  if v.isBlank then .ok .empty
  else do
    let wordings ← (pieces v).mapM wording?
    return .ofList (wordings.filterMap id)
where
  pieces : Value → List Value
    | .text s => (Text.split ',' s).map .text
    | v => v.members?.getD []

end Value

namespace Town

def ofParts? (city neighborhood : Value) : Outcome (Option Town) := do
  let city ← city.wording?
  let neighborhood ← neighborhood.wording?
  return city.map fun city => ⟨city, neighborhood⟩

/-- The town that one piece of data denotes: an object with a city and perhaps a neighborhood, or
a text with the neighborhood after the first hyphen. -/
def ofValue? : Value → Outcome (Option Town)
  | .object entries => ofParts? (Record.get entries "city") (Record.get entries "neighborhood")
  | .text s =>
    let (city, neighborhood) := Text.cut '-' s
    ofParts? (.text city) (.text neighborhood)
  | _ => .ok none

/-- The towns that a selection denotes; a single town may stand without a list. -/
def selection (v : Value) : Outcome (List Town) :=
  if v.isBlank then .ok []
  else
    match v with
    | .text s => select [.text s]
    | .object entries => select [.object entries]
    | .list items => select items
    | _ => .error .notCollection
where
  select (items : List Value) : Outcome (List Town) := do
    let towns ← items.mapM ofValue?
    return distinct (towns.filterMap id)

end Town

namespace Criteria

def readBounds (low high : Value) : Outcome Bounds := do
  let min ← low.amount?
  let max ← high.amount?
  return { min, max }

/-- The column and the direction of the order. A named order counts only where no column is given,
and its direction only where no direction is given. -/
def readOrder (r : Record) : Outcome (Option String × Direction) := do
  let column ← (r.pick .sortColumn).wording?
  let direction ← (r.pick .sortDirection).wording?
  let name ← (r.pick .sortPreset).wording?
  return choose column direction (name.bind fun name => List.lookup name sortPresets)
where
  choose (column direction : Option String) (preset : Option (String × Direction)) :
      Option String × Direction :=
    let (column, direction) :=
      match column, preset with
      | none, some (presetColumn, presetDirection) =>
        (some presetColumn, direction.getD presetDirection.name)
      | _, _ => (column, direction.getD "")
    (column, if direction = "asc" then .ascending else .descending)

def readPlace (r : Record) : Outcome Place := do
  let state ← (r.pick .state).placeName?
  let county ← (r.pick .county).placeName?
  let towns ← Town.selection (r.pick .towns)
  return { state, county, towns }

def readKeywords (r : Record) : Outcome Keywords := do
  let wanted ← (r.pick .keywordsInclude).wording?
  let unwanted ← (r.pick .keywordsExclude).wording?
  let mode ← (r.pick .keywordMode).wording?
  return { wanted, unwanted, mode := if mode = some "all" then .all else .any }

/-- The price bounds; in the wrong order they are refused in strict reading and dropped if not. -/
def readPrice (strict : Bool) (r : Record) : Outcome PriceBounds := do
  let bounds ← readBounds (r.pick .priceMin) (r.pick .priceMax)
  let price : PriceBounds :=
    { bounds with noMin := (r.pick .hasNoMin).ticked, noMax := (r.pick .hasNoMax).ticked }
  if strict then price.check else .ok price.mend

/-- The criteria that the fields of a filter give. Where several fields cannot be read, the first
one in this order is what is reported. -/
def ofRecord (strict : Bool) (r : Record) : Outcome Criteria := do
  let order ← readOrder r
  let place ← readPlace r
  let price ← readPrice strict r
  let propertyTypes ← (r.pick .propertyTypes).words
  let statuses ← (r.pick .statuses).words
  let beds ← readBounds (r.pick .bedsMin) (r.pick .bedsMax)
  let baths ← readBounds (r.pick .bathsMin) (r.pick .bathsMax)
  let sqft ← readBounds (r.pick .sqftMin) (r.pick .sqftMax)
  let yearBuilt ← readBounds (r.pick .yearBuiltMin) (r.pick .yearBuiltMax)
  let parking ← readBounds (r.pick .parkingMin) (r.pick .parkingMax)
  let lotSize ← readBounds (r.pick .lotSizeMin) (r.pick .lotSizeMax)
  let keywords ← readKeywords r
  let zipCode ← (r.pick .zipCode).wording?
  let streetNumber ← (r.pick .streetNumber).wording?
  let streetName ← (r.pick .streetName).wording?
  let listingNumber ← (r.pick .listingNumber).wording?
  let listedDays ← (r.pick .listDate).days? true
  let changedDays ← (r.pick .offMarketWindow).days? false
  let priceCap ← (r.pick .maxPricePerSqft).amount?
  let limit ← (r.pick .limit).limit?
  return {
    place, price, propertyTypes, statuses, beds, baths, sqft, yearBuilt, parking, lotSize, keywords
    zipCode, streetNumber, streetName, listingNumber, listedDays, changedDays
    onlyOpenHouses := (r.pick .onlyOpenHouses).ticked
    maxPricePerSqft := priceCap.bind fun x => if (Binary64.zero false).lt x then some x else none
    limit
    sortColumn := order.1
    direction := order.2 }

/-- Reads criteria from loose data: an object is a filter, and nothing at all does not restrict. -/
def read (strict : Bool) : Value → Outcome Criteria
  | .null => .ok {}
  | .object entries => ofRecord strict entries
  | v => .error (.unsupportedCriteria v.kind)

end Criteria
end ListingSearch
