import ListingSearch.Criteria.Basic

/-!
The words that screens and tables use: property types, states of a listing, and orders.
-/
namespace ListingSearch

/-- Property types: the word of the screens and the word of the table. -/
def propertyTypeNames : List (String × String) :=
  [("single_family", "Single Family"), ("condo", "Condominium"), ("multi_family", "Multi Family"),
    ("townhouse", "Townhouse"), ("land", "Land"), ("commercial", "Commercial"),
    ("business_opp", "Business Opportunity")]

/-- The table's word for a property type; a word that is not known stands for itself. -/
def storedPropertyType (word : String) : String := (propertyTypeNames.lookup word).getD word

def listingStatuses : List String :=
  ["new", "active", "price_changed", "back_on_market", "extended", "reactivated", "contingent",
    "under_agreement", "sold", "rented", "temporarily_withdrawn", "expired", "canceled",
    "coming_soon", "off_market", "private"]

def sortableColumns : List String :=
  ["created_at", "list_date", "price", "bedrooms", "bathrooms", "square_feet", "year_built",
    "lot_size", "city", "zip_code", "listing_number"]

/-- The column that orders a search for which nothing else is asked. -/
def defaultSortColumn : String := "created_at"

def sortPresets : List (String × String × Direction) :=
  [("newest", "created_at", .descending), ("oldest", "created_at", .ascending),
    ("price-high", "price", .descending), ("price-low", "price", .ascending)]

/-- The dimensions that restrict a number, and the columns that they restrict. -/
def rangeColumns : List (String × String) :=
  [("beds", "bedrooms"), ("baths", "bathrooms"), ("sqft", "square_feet"),
    ("year_built", "year_built"), ("parking", "total_parking_spaces"), ("lot_size", "lot_size")]

end ListingSearch
