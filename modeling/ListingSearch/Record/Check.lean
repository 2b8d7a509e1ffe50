import ListingSearch.Failure
import ListingSearch.Record.Numeral

/-!
Reading a record field by field. A field accepts the forms in which its data usually arrives, and
every fault of a record is reported, in the order of its fields, with the way to the faulty part.
-/
namespace ListingSearch

/-- A value read from a record, or everything that is wrong with the record. -/
inductive Checked (α : Type) where
  | valid (a : α)
  | faulty (faults : List Fault)

namespace Checked

instance : Functor Checked where
  map f
    | .valid a => .valid (f a)
    | .faulty faults => .faulty faults

instance : Pure Checked := ⟨.valid⟩

instance : Seq Checked where
  seq f x :=
    match f, x () with
    | .valid f, .valid a => .valid (f a)
    | .valid _, .faulty faults => .faulty faults
    | .faulty faults, .valid _ => .faulty faults
    | .faulty faults, .faulty more => .faulty (faults ++ more)

def fault {α : Type} (kind : Fault.Kind) : Checked α := .faulty [⟨[], kind⟩]

def within {α : Type} (step : Fault.Step) : Checked α → Checked α
  | .valid a => .valid a
  | .faulty faults => .faulty (faults.map (·.within step))

def andThen {α β : Type} (x : Checked α) (f : α → Checked β) : Checked β :=
  match x with
  | .valid a => f a
  | .faulty faults => .faulty faults

def outcome {α : Type} : Checked α → Outcome α
  | .valid a => .ok a
  | .faulty faults => .error (.malformed faults)

end Checked

namespace Check

def text : Value → Checked String
  | .text s => .valid s
  | _ => .fault .notText

/-- A number: numbers, truth values as zero and one, and numerals. -/
def number : Value → Checked Binary64
  | .float x => .valid x
  | .int n => (Binary64.ofInt? n).elim (.fault .notNumber) .valid
  | .bool b => .valid (.ofBool b)
  | .text s => (Numeral.number? s).elim (.fault .unreadableNumber) .valid
  | _ => .fault .notNumber

def fitsWord (n : Int) : Bool := -(Nat.pow 2 63 : Int) ≤ n && n < (Nat.pow 2 63 : Int)

/-- Whether an integer and its negative both fit into 64 bits with a sign. -/
def isModerate (n : Int) : Bool := n.natAbs < Nat.pow 2 63

/-- An integer: integers, truth values, integral numbers of moderate size, and numerals without too
many digits. -/
def integer : Value → Checked Int
  | .int n => .valid n
  | .bool b => .valid b.toNat
  | .float x =>
    match x.toInt? with
    | some n => if isModerate n then .valid n else .fault .oversizedInteger
    | none => .fault (if x.isFinite then .fractionalInteger else .unboundedInteger)
  | .text s =>
    match Numeral.integer? s with
    | some n =>
      if Binary64.digitCount n.natAbs ≤ Text.digitLimit then .valid n
      else .fault .oversizedInteger
    | none => .fault .unreadableInteger
  | _ => .fault .notInteger

def integerFrom (min : Int) (v : Value) : Checked Int :=
  (integer v).andThen fun n => if n < min then .fault .belowMinimum else .valid n

/-- A number that reaches a minimum; `nan` reaches none. -/
def numberFrom (min : Binary64) (v : Value) : Checked Binary64 :=
  (number v).andThen fun x =>
    if min.lt x || min.same x then .valid x else .fault .belowMinimum

/-- A truth value: truth values, zero and one, and the usual words in any case. -/
def truth : Value → Checked Bool
  | .bool b => .valid b
  | .text s =>
    let word := String.ofList (s.toList.map Char.toLower)
    if word ∈ ["1", "on", "t", "true", "y", "yes"] then .valid true
    else if word ∈ ["0", "off", "f", "false", "n", "no"] then .valid false
    else .fault .unreadableTruthValue
  | .int n => bit n
  | .float x =>
    match x.toInt? with
    | some n => if isModerate n then bit n else .fault .notTruthValue
    | none => .fault .notTruthValue
  | _ => .fault .notTruthValue
where
  /-- Zero and one as truth values. -/
  bit (n : Int) : Checked Bool :=
    if n = 0 then .valid false
    else if n = 1 then .valid true
    else if fitsWord n then .fault .unreadableTruthValue
    else .fault .notTruthValue

def word {α : Type} (meanings : List (String × α)) (v : Value) : Checked α :=
  match v with
  | .text s => (meanings.lookup s).elim (.fault .unknownWord) .valid
  | _ => .fault .unknownWord

def optional {α : Type} (read : Value → Checked α) : Value → Checked (Option α)
  | .null => .valid none
  | v => some <$> read v

def each {α : Type} (read : Value → Checked α) (start : Nat) : List Value → Checked (List α)
  | [] => .valid []
  | v :: rest =>
    List.cons <$> (read v).within (.index start) <*> each read (start + 1) rest

/-- A list of values; anything else has the given fault. -/
def list {α : Type} (otherwise : Fault.Kind) (read : Value → Checked α) : Value → Checked (List α)
  | .list items => each read 0 items
  | _ => .fault otherwise

def required {α : Type} (key : String) (read : Value → Checked α) (r : Record) : Checked α :=
  match r.get? key with
  | some v => (read v).within (.field key)
  | none => (Checked.fault .missing).within (.field key)

def withDefault {α : Type} (key : String) (default : α) (read : Value → Checked α) (r : Record) :
    Checked α :=
  match r.get? key with
  | some v => (read v).within (.field key)
  | none => .valid default

def field? {α : Type} (key : String) (read : Value → Checked α) (r : Record) :
    Checked (Option α) :=
  withDefault key none (optional read) r

end Check
end ListingSearch
