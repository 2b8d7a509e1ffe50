import ListingSearch.Remote.Retry

/-!
Conversations with the service that are prepared beforehand: each attempt takes the next prepared
reply, and everything that is asked is noted. When no reply is left the service answers nothing.
-/
namespace ListingSearch.Remote

inductive Event where
  | table (name : String)
  | clause (c : Query.Clause)
  | call (procedure : String) (arguments : Record)
  | invoke (function : String) (body : Record)
  /-- A request is sent. -/
  | execute

/-- A prepared conversation and what was noted of it. -/
structure Conversation where
  replies : List (Attempt Response)
  events : List Event := []
  pauses : List Binary64 := []

namespace Conversation

def preparation : Request → List Event
  | .query _ table draft => .table table :: draft.clauses.map .clause
  | .call procedure arguments => [.call procedure arguments]
  | .invoke .. => []

def sending : Request → List Event
  | .invoke function body => [.invoke function body, .execute]
  | _ => [.execute]

def note (events : List Event) (c : Conversation) : Conversation :=
  { c with events := c.events ++ events }

def next (c : Conversation) : Attempt Response × Conversation :=
  match c.replies with
  | reply :: rest => (reply, { c with replies := rest })
  | [] => (.answered {}, c)

def transport : Transport Conversation where
  prepare r c := c.note (preparation r)
  attempt r c := (c.note (sending r)).next
  pause x c := { c with pauses := c.pauses ++ [x] }

end Conversation
end ListingSearch.Remote
