import ListingSearch.Remote.Request
import ListingSearch.Service
import ListingSearch.Value.Order

/-!
The stores and the sender on the service. Each request becomes a query of a table or a call; only
the coverage areas are read in pages, each from where the one before ended, until one is not full.
-/
namespace ListingSearch.Remote

structure Access where
  /-- The function that sends listings. -/
  sender : String
  /-- How many rows a page has. -/
  pageSize : Nat := 1000
  /-- How many pages are read before an end is given up. -/
  pageLimit : Nat

def listingTable : String := "listings"

def listingColumns : String :=
  "id, listing_number, agent_id, address, city, neighborhood, state, zip_code, price, bedrooms, " ++
    "bathrooms, square_feet, year_built, total_parking_spaces, lot_size, property_type, status, " ++
    "description, created_at, updated_at, open_houses"

def coverageTable : String := "agent_buyer_coverage_areas"

def coverageColumns : String := "agent_id, state, county, city, neighborhood"

def searchTable : String := "hot_sheets"

/-- The procedure that adds to the delivered listings of a saved search in one step. -/
def addProcedure : String := "append_hot_sheet_deliveries"

def query (purpose table : String) (draft : Query.Draft) : Plan Remote Response :=
  Plan.request (I := Remote) (.query purpose table draft)

def listings (p : Predicate) (sort : SortOrder) (limit : Int) : Plan Remote Value := do
  let response ← query "listings.fetch" listingTable ((Query.filters p).between
    [.select listingColumns] (Query.ordering sort ++ [.limit limit]))
  return if response.data.truthy then response.data else .list []

def countListings (p : Predicate) : Plan Remote Value := do
  let response ← query "listings.count" listingTable ((Query.filters p).between [.count "id"] [])
  return if response.count.truthy then response.count else .int 0

/-- The rows from a position on of the coverage areas of which a condition holds. -/
def pagesFrom (access : Access) (p : Predicate) (columns : String) :
    Nat → Nat → Plan Remote (List Value)
  | 0, _ => .fail .tooManyPages
  | pages + 1, start => do
    let response ← query "coverage.fetch" coverageTable ((Query.filters p).between
      [.select columns] [.order "id" none none, .slice start (start + access.pageSize - 1)])
    let page ← .ofOutcome response.rows
    if page.length < access.pageSize then return page
    else return page ++ (← pagesFrom access p columns pages (start + access.pageSize))

def coverage (access : Access) (p : Predicate) (columns : String) : Plan Remote (List Value) :=
  pagesFrom access p columns access.pageLimit 0

def owner? : Value → Outcome (Option Value)
  | .object r =>
    let owner := Record.get r "agent_id"
    if !owner.truthy then .ok none
    else if owner.isSimple then .ok (some owner)
    else .error .notMember
  | _ => .error .rowNotObject

def ownersOf (rows : List Value) : Outcome (List Value) := do
  return Value.distinctValues ((← rows.mapM owner?).filterMap id)

def owners (access : Access) (p : Predicate) : Plan Remote (List Value) := do
  .ofOutcome (ownersOf (← coverage access p "agent_id"))

/-- A query of the saved searches of which the first row counts. -/
def searchRow (purpose : String) (clauses : List Query.Clause) : Plan Remote (Option Value) := do
  .ofOutcome (← query purpose searchTable (.plain clauses)).first?

/-- A query of the saved searches that finds a row or none; null is no row. -/
def searchRow? (purpose : String) (clauses : List Query.Clause) : Plan Remote (Option Value) := do
  return (← searchRow purpose clauses).filter (!·.isNull)

def withId (id : Value) : Query.Clause := .eq "id" id

def delete (id : Value) : Plan Remote Bool := do
  let response ← query "hot_sheets.delete" searchTable (.plain [.delete, withId id])
  let rows ← .ofOutcome response.rows
  return !rows.isEmpty

/-- Adds listings to those delivered for a saved search and gives all of them. Null means that there
is no such search; otherwise both the listings and the data have to be collections. -/
def addDelivered (id listings : Value) : Plan Remote (Option (List Value)) := do
  let response ← Plan.request (I := Remote) (.call addProcedure
    [("p_hot_sheet_id", id), ("p_listing_ids", listings)])
  if response.data.isNull then return none
  else .ofOutcome (do
    discard listings.members
    return some (← response.data.members))

def send (access : Access) (id : Value) (listings : List Value) : Plan Remote Unit := do
  discard (Plan.request (I := Remote) (.invoke access.sender
    [("hotSheetId", id), ("sendInitialBatch", .bool true), ("selectedListingIds", .list listings)]))

/-- Replaces the criteria of a saved search that still has the version, and counts the change. -/
def replaceCriteria (now : Instant) (id document version : Value) :
    Plan Remote (Option Value) := do
  let next ← .ofOutcome version.next
  searchRow? "hot_sheets.replace_criteria"
    [.update [("criteria", document), ("version", next), ("updated_at", .text now.text)],
      withId id, .eq "version" version]

def answer (access : Access) (now : Instant) : (r : Service.Request) → Plan Remote r.Reply
  | .listings p sort limit => listings p sort limit
  | .countListings p => countListings p
  | .owners p => owners access p
  | .create search => searchRow "hot_sheets.create" [.insert search.toRow]
  | .find id => searchRow? "hot_sheets.get" [.select "*", withId id, .limit 1]
  | .ofOwner owner => do
    let response ← query "hot_sheets.by_owner" searchTable (.plain
      [.select "*", .eq "user_id" owner, .order "created_at" (some true) none])
    return response.data
  | .replaceCriteria id document version => replaceCriteria now id document version
  | .setActive id active =>
    searchRow? "hot_sheets.set_active"
      [.update [("is_active", active), ("updated_at", .text now.text)], withId id]
  | .delete id => delete id
  | .addDelivered id listings => addDelivered id listings
  | .send id listings => send access id listings

/-- The stores and the sender, reached over a way to the service. -/
def service {σ : Type} (handle : Handler Remote σ) (access : Access) (now : Instant) :
    Handler Service σ := fun r s => (answer access now r).run handle s

end ListingSearch.Remote
