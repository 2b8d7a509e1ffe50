import ListingSearch.Plan
import ListingSearch.Query.Clause
import ListingSearch.Value.Members

/-!
Requests to a service of tables, procedures and functions, and its responses. Every request has the
name of the operation that it serves.
-/
namespace ListingSearch
namespace Remote

inductive Request where
  /-- A query of a table. -/
  | query (purpose table : String) (draft : Query.Draft)
  /-- A call of a procedure of the database. -/
  | call (procedure : String) (arguments : Record)
  /-- A call of a function beside the database. -/
  | invoke (function : String) (body : Record)

def Request.operation : Request → String
  | .query purpose _ _ => purpose
  | .call procedure _ => "rpc:" ++ procedure
  | .invoke function _ => "function:" ++ function

def Request.obstacle? : Request → Option Failure
  | .query _ _ draft => draft.failure
  | _ => none

structure Response where
  data : Value := .null
  /-- The number of rows, where it was asked for. -/
  count : Value := .null

namespace Response

/-- The rows of a response; data that counts as false is no row. -/
def rows (r : Response) : Outcome (List Value) :=
  if r.data.truthy then r.data.members else .ok []

/-- The first row of a response, unless there is none. -/
def first? (r : Response) : Outcome (Option Value) :=
  if r.data.truthy then
    match r.data with
    | .object _ => .error .noEntry
    | data => (·.head?) <$> data.members
  else .ok none

end Response
end Remote

abbrev Remote : Interface := ⟨Remote.Request, fun _ => Remote.Response⟩

end ListingSearch
