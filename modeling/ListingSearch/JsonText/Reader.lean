import ListingSearch.Failure
import ListingSearch.JsonText.Token

/-!
Reading a JSON text token by token, with the lists and objects that are still open. Of entries with
the same key the last value counts, in the place of the first.
-/
namespace ListingSearch.JsonText

/-- A list or an object of which the end was not seen yet, with what was read of it. -/
inductive Open where
  /-- The members of a list, the last one first. -/
  | list (members : List Value)
  | object (entries : Record)
  /-- An object and the key whose value is being read. -/
  | entry (entries : Record) (key : String)

inductive Await where
  | value
  /-- A value, or the end of a list that has no members yet. -/
  | firstMember
  | key
  /-- A key, or the end of an object that has no entries yet. -/
  | firstKey
  | colon (key : String)
  /-- The end of what surrounds a value that was read, or another member of it. -/
  | after (v : Value)

/-- How far a text was read: what can come next, and what is open, the innermost first. -/
structure Progress where
  await : Await
  opened : List Open

/-- The progress after one more token, unless the token cannot stand there. -/
def Progress.next? : Progress → Token → Option Progress
  | ⟨.value, fs⟩, .leaf v | ⟨.firstMember, fs⟩, .leaf v => some ⟨.after v, fs⟩
  | ⟨.value, fs⟩, .openList | ⟨.firstMember, fs⟩, .openList => some ⟨.firstMember, .list [] :: fs⟩
  | ⟨.value, fs⟩, .openObject | ⟨.firstMember, fs⟩, .openObject =>
    some ⟨.firstKey, .object [] :: fs⟩
  | ⟨.firstMember, .list members :: fs⟩, .closeList => some ⟨.after (.list members.reverse), fs⟩
  | ⟨.firstKey, fs⟩, .leaf (.text key) | ⟨.key, fs⟩, .leaf (.text key) => some ⟨.colon key, fs⟩
  | ⟨.firstKey, .object entries :: fs⟩, .closeObject => some ⟨.after (.object entries), fs⟩
  | ⟨.colon key, .object entries :: fs⟩, .colon => some ⟨.value, .entry entries key :: fs⟩
  | ⟨.after v, .list members :: fs⟩, .comma => some ⟨.value, .list (v :: members) :: fs⟩
  | ⟨.after v, .list members :: fs⟩, .closeList =>
    some ⟨.after (.list (v :: members).reverse), fs⟩
  | ⟨.after v, .entry entries key :: fs⟩, .comma => some ⟨.key, .object (entries.set key v) :: fs⟩
  | ⟨.after v, .entry entries key :: fs⟩, .closeObject =>
    some ⟨.after (.object (entries.set key v)), fs⟩
  | _, _ => none

/-- The value that was read, if nothing is open. -/
def Progress.result? : Progress → Option Value
  | ⟨.after v, []⟩ => some v
  | _ => none

def read? (s : String) : Option Value := do
  (← (← tokens? s.length s.toList).foldlM Progress.next? ⟨.value, []⟩).result?

/-- The value that a text denotes, or that it denotes none. -/
def read (s : String) : Outcome Value :=
  match read? s with
  | some v => .ok v
  | none => .error .unreadableDocument

end ListingSearch.JsonText
