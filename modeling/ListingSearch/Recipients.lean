import ListingSearch.Criteria.Condition
import ListingSearch.Service

/-!
Estimating recipients: how many agents and buyers are interested in the place of a search. Areas
without a county or a neighborhood cover all counties and all neighborhoods.
-/
namespace ListingSearch

inductive Recipients.Level where
  | city
  | state
  | all
  deriving DecidableEq

def Recipients.Level.name : Recipients.Level → String
  | .city => "city"
  | .state => "state"
  | .all => "all"

structure Recipients where
  count : Nat
  level : Recipients.Level
  deriving DecidableEq

namespace Recipients

def coveredOr (column : String) (v : Value) : Predicate := .anyOf [.eq column v, .eq column .null]

def townCovered (town : Town) : Predicate :=
  .allOf [.eq "city" (.text town.city), coveredOr "neighborhood" (.ofText? town.neighborhood)]

def countyConditions (place : Place) : List Predicate :=
  match place.county with
  | some county => if county = "" then [] else [coveredOr "county" (.text county)]
  | none => []

/-- The condition on coverage areas for a place, and how exact it is. -/
def coverage (place : Place) : Predicate × Level :=
  if place.towns = [] then
    match textCondition "state" place.state with
    | [] => (.always, .all)
    | p :: _ => (p, .state)
  else
    (.allOf (textCondition "state" place.state ++ countyConditions place ++
      [.anyOf (place.branches townCovered)]), .city)

def estimate (place : Place) : Plan Service Recipients := do
  let (p, level) := coverage place
  let owners ← Plan.request (I := Service) (.owners p)
  return ⟨owners.length, level⟩

/-- What an estimate can be asked for: a place, or criteria. -/
inductive Subject where
  | place (p : Place)
  | criteria (c : Criteria)

/-- The place that counts; nothing else in criteria does. -/
def Subject.toPlace : Subject → Place
  | .place p => p
  | .criteria c => c.place

def estimateFor (subject : Subject) : Plan Service Recipients := estimate subject.toPlace

end Recipients
end ListingSearch
