import ListingSearch.SavedSearch.Basic
import ListingSearch.Search
import ListingSearch.Value.Display

/-!
The registry of saved searches. A change replaces the criteria as a whole, and only if nobody else
changed them since; a review asks the inventory anew each time; a delivery sends the listings first
and notes them afterwards, so that nothing is noted that was not sent.
-/
namespace ListingSearch.Registry

def present? (row : Option Value) : Option Value := row.filter Value.truthy

def create (now : Instant) (owner name filter : Value) : Plan Service SavedSearch := do
  let criteria ← .ofOutcome (Criteria.read true filter)
  let name ← .ofOutcome (SavedSearch.checkName name)
  let owner ← .ofOutcome (SavedSearch.checkOwner owner)
  let search := SavedSearch.create owner name criteria now
  match present? (← Plan.request (I := Service) (.create search)) with
  | some row => .ofOutcome (SavedSearch.ofRow now row)
  | none => return search

def missing {α : Type} (id : Value) : Plan Service α := .fail (.notFound id.display)

def get (now : Instant) (id : Value) : Plan Service SavedSearch := do
  match present? (← Plan.request (I := Service) (.find id)) with
  | some row => .ofOutcome (SavedSearch.ofRow now row)
  | none => missing id

def ofOwner (now : Instant) (owner : Value) : Plan Service (List SavedSearch) := do
  .ofOutcome (SavedSearch.ofRows now (← Plan.request (I := Service) (.ofOwner owner)))

/-- Replaces the criteria of the version that the caller knows, or of the current one if the version
is null. -/
def edit (now : Instant) (id filter version : Value) : Plan Service SavedSearch := do
  let criteria ← .ofOutcome (Criteria.read true filter)
  let version ← if version.isNull then (fun s => .int s.version) <$> get now id else pure version
  match ← Plan.request (I := Service)
    (.replaceCriteria id (.object criteria.toDocument) version) with
  | some row => .ofOutcome (SavedSearch.ofRow now row)
  | none =>
    match ← Plan.request (I := Service) (.find id) with
    | some _ => .fail (.staleVersion id.display version.display)
    | none => missing id

def setActive (now : Instant) (id active : Value) : Plan Service SavedSearch := do
  match present? (← Plan.request (I := Service) (.setActive id active)) with
  | some row => .ofOutcome (SavedSearch.ofRow now row)
  | none => missing id

def delete (id : Value) : Plan Service Unit := do
  if ← Plan.request (I := Service) (.delete id) then return () else missing id

/-- The condition of a saved search without the listings to be left out. -/
def without (excluded : TextSet) (p : Predicate) : Predicate :=
  if excluded.isEmpty then p else .allOf [p, .not (oneOfTexts "id" excluded.toList)]

def resultsWithout (policy : Policy) (now : Instant) (search : SavedSearch) (excluded : TextSet) :
    Plan Service (List Listing) := do
  let s ← .ofOutcome (Search.ofCriteria policy now search.criteria)
  Search.find policy (without excluded s.condition) s.sort
    (some ((s.limit.map Int.ofNat).getD policy.reviewLimit))

def currentMatches (policy : Policy) (now : Instant) (id : Value) :
    Plan Service (List Listing) := do
  resultsWithout policy now (← get now id) .empty

/-- The listings that a saved search finds now and that were not delivered. The delivered ones are
left out before the limit applies. -/
def newMatches (policy : Policy) (now : Instant) (id : Value) : Plan Service (List Listing) := do
  let search ← get now id
  resultsWithout policy now search search.delivered

/-- The identifiers in a collection, apart from those that count as false, each where it stands
first. -/
def identifiers (listings : Value) : Outcome (List Value) := do
  return Value.distinctValues ((← listings.members).filter Value.truthy)

/-- Notes listings as delivered and gives the set of all that are, as the store holds them. -/
def markDelivered (now : Instant) (id listings : Value) : Plan Service (List Value) := do
  match ← .ofOutcome (identifiers listings) with
  | [] => (·.delivered.toList.map .text) <$> get now id
  | ids =>
    match ← Plan.request (I := Service) (.addDelivered id (.list ids)) with
    | some all => .ofOutcome (Value.memberSet all)
    | none => missing id

/-- The listings to be delivered: the chosen ones, or all new ones if the choice is null. -/
def deliverable (policy : Policy) (now : Instant) (id chosen : Value) :
    Plan Service (List Value) :=
  if chosen.isNull then (·.map fun l => .text l.id) <$> newMatches policy now id
  else do
    discard (get now id)
    .ofOutcome (identifiers chosen)

/-- Sends listings and notes them as delivered; gives those that were sent. -/
def deliver (policy : Policy) (now : Instant) (hasSender : Bool) (id chosen : Value) :
    Plan Service (List Value) :=
  if hasSender then do
    match ← deliverable policy now id chosen with
    | [] => return []
    | ids => do
      Plan.request (I := Service) (.send id ids)
      discard (markDelivered now id (.list ids))
      return ids
  else .fail .noDispatcher

end ListingSearch.Registry
