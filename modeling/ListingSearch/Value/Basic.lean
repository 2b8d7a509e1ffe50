import ListingSearch.Binary64.Order
import ListingSearch.Text.Blank

/-!
Loose data: filters as a screen sends them, rows as a table returns them. Objects keep the order
of their keys. Equality is that of the data: numbers are equal as real numbers and truth values as
zero and one, whatever their form, and objects are equal if they give the same keys equal values.
-/
namespace ListingSearch

/-- A piece of loose data. -/
inductive Value where
  | null
  | bool (b : Bool)
  | int (n : Int)
  | float (x : Binary64)
  | text (s : String)
  | list (items : List Value)
  | object (entries : List (String × Value))
  deriving Inhabited

abbrev Record := List (String × Value)

namespace Record

/-- The value under a key; the first one counts. -/
def get? (key : String) : Record → Option Value
  | [] => none
  | (k, v) :: rest => if k = key then some v else get? key rest

def get (r : Record) (key : String) : Value := (r.get? key).getD .null

/-- Gives a key a value: in its place if the key is there, at the end if not. -/
def set (key : String) (v : Value) : Record → Record
  | [] => [(key, v)]
  | (k, w) :: rest => if k = key then (k, v) :: rest else (k, w) :: set key v rest

theorem get?_set (r : Record) (key : String) (v : Value) (other : String) :
    (r.set key v).get? other = if key = other then some v else r.get? other := by
  induction r with
  | nil => simp [set, get?]
  | cons entry rest ih =>
    obtain ⟨k, w⟩ := entry
    by_cases hk : k = key
    · subst hk
      by_cases ho : k = other <;> simp [set, get?, ho]
    · by_cases ho : k = other
      · subst ho
        simp [set, get?, hk, Ne.symm hk]
      · simp [set, get?, hk, ho, ih]

@[simp] theorem get?_set_self (r : Record) (key : String) (v : Value) :
    (r.set key v).get? key = some v := by
  simp [get?_set]

end Record

namespace Value

inductive Kind where
  | null | bool | int | float | text | list | object
  deriving DecidableEq

def kind : Value → Kind
  | .null => .null
  | .bool _ => .bool
  | .int _ => .int
  | .float _ => .float
  | .text _ => .text
  | .list _ => .list
  | .object _ => .object

def isNull : Value → Bool
  | .null => true
  | _ => false

/-- Whether the value gives no information: absent, blank text, an empty list or object. -/
def isBlank : Value → Bool
  | .null => true
  | .text s => Text.isBlank s
  | .list items => items.isEmpty
  | .object entries => entries.isEmpty
  | _ => false

/-- Whether the value counts as true: everything but zero and what is empty. -/
def truthy : Value → Bool
  | .null => false
  | .bool b => b
  | .int n => n != 0
  | .float (.finite _ m _ _) => m != 0
  | .float _ => true
  | .text s => s != ""
  | .list items => !items.isEmpty
  | .object entries => !entries.isEmpty

/-- The number that the value is; truth values are zero and one. -/
def number? : Value → Option Number
  | .bool b => some (.int b.toNat)
  | .int n => some (.int n)
  | .float x => some (.float x)
  | _ => none

mutual

def same : Value → Value → Bool
  | .null, .null => true
  | .text s, .text t => s == t
  | .list xs, .list ys => sameList xs ys
  | .object xs, .object ys => xs.length == ys.length && sameEntries xs ys
  | x, y =>
    match x.number?, y.number? with
    | some a, some b => a.same b
    | _, _ => false

def sameList : List Value → List Value → Bool
  | [], [] => true
  | x :: xs, y :: ys => x.same y && sameList xs ys
  | _, _ => false

/-- Whether each entry has an equal value under its key in the second object. -/
def sameEntries : List (String × Value) → Record → Bool
  | [], _ => true
  | (key, x) :: rest, ys =>
    (match ys.get? key with
      | some y => x.same y
      | none => false) && sameEntries rest ys

end

/-- Only the text itself is equal to a text. -/
theorem same_text_iff {v : Value} {s : String} : v.same (.text s) = true ↔ v = .text s := by
  cases v <;> simp [same, number?]

/-- The members of a list, the keys of an object or the characters of a text, in order; other data
has no members. -/
def members? : Value → Option (List Value)
  | .list items => some items
  | .object entries => some (entries.map fun e => .text e.1)
  | .text s => some (s.toList.map fun c => .text (String.singleton c))
  | _ => none

def ofText? (s : Option String) : Value := s.elim .null .text

def ofTexts (texts : List String) : Value := .list (texts.map .text)

example : same (.int 1) (.bool true) = true := by decide
example : same (.list [.float (.zero true)]) (.list [.int 0]) = true := by decide +kernel

end Value
end ListingSearch
