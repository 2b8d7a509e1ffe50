import ListingSearch.Value.Basic

/-!
The fields of a loose filter and the keys under which they arrive. A field may have several keys:
the first one whose value gives any information counts, and the others are not looked at.
-/
namespace ListingSearch

/-- A field of a filter. -/
inductive Field where
  | propertyTypes | statuses | priceMin | priceMax | hasNoMin | hasNoMax
  | bedsMin | bedsMax | bathsMin | bathsMax | sqftMin | sqftMax
  | yearBuiltMin | yearBuiltMax | parkingMin | parkingMax | lotSizeMin | lotSizeMax
  | towns | state | county | zipCode | streetNumber | streetName | listingNumber
  | keywordsInclude | keywordsExclude | keywordMode
  | limit | sortColumn | sortDirection | sortPreset
  | listDate | offMarketWindow | onlyOpenHouses | maxPricePerSqft
  deriving DecidableEq

namespace Field

def all : List Field :=
  [propertyTypes, statuses, priceMin, priceMax, hasNoMin, hasNoMax,
    bedsMin, bedsMax, bathsMin, bathsMax, sqftMin, sqftMax,
    yearBuiltMin, yearBuiltMax, parkingMin, parkingMax, lotSizeMin, lotSizeMax,
    towns, state, county, zipCode, streetNumber, streetName, listingNumber,
    keywordsInclude, keywordsExclude, keywordMode,
    limit, sortColumn, sortDirection, sortPreset,
    listDate, offMarketWindow, onlyOpenHouses, maxPricePerSqft]

def name : Field → String
  | propertyTypes => "property_types"
  | statuses => "statuses"
  | priceMin => "price_min"
  | priceMax => "price_max"
  | hasNoMin => "has_no_min"
  | hasNoMax => "has_no_max"
  | bedsMin => "beds_min"
  | bedsMax => "beds_max"
  | bathsMin => "baths_min"
  | bathsMax => "baths_max"
  | sqftMin => "sqft_min"
  | sqftMax => "sqft_max"
  | yearBuiltMin => "year_built_min"
  | yearBuiltMax => "year_built_max"
  | parkingMin => "parking_min"
  | parkingMax => "parking_max"
  | lotSizeMin => "lot_size_min"
  | lotSizeMax => "lot_size_max"
  | towns => "towns"
  | state => "state"
  | county => "county"
  | zipCode => "zip_code"
  | streetNumber => "street_number"
  | streetName => "street_name"
  | listingNumber => "listing_number"
  | keywordsInclude => "keywords_include"
  | keywordsExclude => "keywords_exclude"
  | keywordMode => "keyword_mode"
  | limit => "limit"
  | sortColumn => "sort_column"
  | sortDirection => "sort_direction"
  | sortPreset => "sort_preset"
  | listDate => "list_date"
  | offMarketWindow => "off_market_window"
  | onlyOpenHouses => "only_open_houses"
  | maxPricePerSqft => "max_price_per_sqft"

def key : Field → String
  | propertyTypes => "propertyTypes"
  | statuses => "statuses"
  | priceMin => "priceMin"
  | priceMax => "priceMax"
  | hasNoMin => "hasNoMin"
  | hasNoMax => "hasNoMax"
  | bedsMin => "bedsMin"
  | bedsMax => "bedsMax"
  | bathsMin => "bathsMin"
  | bathsMax => "bathsMax"
  | sqftMin => "sqftMin"
  | sqftMax => "sqftMax"
  | yearBuiltMin => "yearBuiltMin"
  | yearBuiltMax => "yearBuiltMax"
  | parkingMin => "parkingMin"
  | parkingMax => "parkingMax"
  | lotSizeMin => "lotSizeMin"
  | lotSizeMax => "lotSizeMax"
  | towns => "selectedTowns"
  | state => "state"
  | county => "county"
  | zipCode => "zipCode"
  | streetNumber => "streetNumber"
  | streetName => "streetName"
  | listingNumber => "listingNumber"
  | keywordsInclude => "keywordsInclude"
  | keywordsExclude => "keywordsExclude"
  | keywordMode => "keywordMode"
  | limit => "limit"
  | sortColumn => "sortColumn"
  | sortDirection => "sortDirection"
  | sortPreset => "sortBy"
  | listDate => "listDate"
  | offMarketWindow => "offMarketWindow"
  | onlyOpenHouses => "onlyOpenHouses"
  | maxPricePerSqft => "maxPricePerSqft"

/-- The other keys of a field, in order of precedence. -/
def aliases : Field → List String
  | propertyTypes => ["property_types"]
  | statuses => ["status"]
  | priceMin => ["minPrice", "min_price", "price_min"]
  | priceMax => ["maxPrice", "max_price", "price_max"]
  | hasNoMin => ["has_no_min"]
  | hasNoMax => ["has_no_max"]
  | bedsMin => ["bedrooms", "minBeds", "beds_min"]
  | bedsMax => ["maxBeds", "beds_max"]
  | bathsMin => ["bathrooms", "minBaths", "baths_min"]
  | bathsMax => ["maxBaths", "baths_max"]
  | sqftMin => ["minSqft", "sqft_min"]
  | sqftMax => ["maxSqft", "sqft_max"]
  | yearBuiltMin => ["minYearBuilt", "year_built_min"]
  | yearBuiltMax => ["maxYearBuilt", "year_built_max"]
  | parkingMin => ["parkingSpaces", "minParkingSpaces"]
  | parkingMax => ["maxParkingSpaces"]
  | lotSizeMin => ["minLotSize", "lot_size_min"]
  | lotSizeMax => ["maxLotSize", "lot_size_max"]
  | towns => ["cities", "towns"]
  | state => []
  | county => ["selectedCountyId"]
  | zipCode => ["zip", "zip_code"]
  | streetNumber => ["street_number"]
  | streetName => ["streetAddress", "address", "street_name"]
  | listingNumber => ["listing_number"]
  | keywordsInclude => ["keywords", "keywords_include"]
  | keywordsExclude => ["keywords_exclude"]
  | keywordMode => ["keyword_mode"]
  | limit => []
  | sortColumn => ["sort_column"]
  | sortDirection => ["sort_direction"]
  | sortPreset => []
  | listDate => ["list_date"]
  | offMarketWindow => ["off_market_window"]
  | onlyOpenHouses => ["only_open_houses"]
  | maxPricePerSqft => ["max_price_per_sqft"]

/-- The keys of a field in order of precedence, the explicit one first. -/
def keys (f : Field) : List String := f.key :: f.aliases

end Field

/-- The first value under one of the keys that gives any information, or null. -/
def Record.pickFrom (r : Record) : List String → Value
  | [] => .null
  | key :: rest => if (r.get key).isBlank then r.pickFrom rest else r.get key

/-- The value of a field: the first of its keys with a value that gives any information. -/
def Record.pick (r : Record) (f : Field) : Value := r.pickFrom f.keys

example : (Field.all.flatMap Field.keys).Nodup := by decide +kernel
example : Record.pick [("minPrice", .int 2), ("priceMin", .text " ")] .priceMin = .int 2 := rfl

end ListingSearch
