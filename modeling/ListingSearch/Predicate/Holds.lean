import ListingSearch.Failure
import ListingSearch.Predicate.Basic
import ListingSearch.Text.Lowercase
import ListingSearch.Value.Display

/-!
When a condition holds of a record. A missing value passes no test but the one for a missing value.
Conjunctions and choices look at their operands from left to right and stop as soon as the answer
is known, so a failure behind that point does not occur.
-/
namespace ListingSearch

/-- The binary64 number that the value denotes, if any. An integer beyond all of them is an
error. -/
def Value.real? : Value → Outcome (Option Binary64)
  | .bool b => .ok (some (.ofBool b))
  | .int n =>
    match Binary64.ofInt? n with
    | some x => .ok (some x)
    | none => .error .numberTooLarge
  | .float x => .ok (some x)
  | .text s => .ok (Binary64.read? s)
  | _ => .ok none

/-- A value in a range is compared as a number or, if a bound is a text, as a text. -/
inductive Measure where
  | number (x : Binary64)
  | text (s : String)

namespace Measure

def below : Measure → Bound → Outcome Bool
  | .number x, b => match b.toValue.number? with
    | some n => .ok (Number.lt (.float x) n)
    | none => .error .incomparable
  | .text s, .text t => .ok (s < t)
  | .text _, _ => .error .incomparable

def above : Measure → Bound → Outcome Bool
  | .number x, b => match b.toValue.number? with
    | some n => .ok (Number.lt n (.float x))
    | none => .error .incomparable
  | .text s, .text t => .ok (t < s)
  | .text _, _ => .error .incomparable

/-- Whether the value lies between the bounds; the lower one is looked at first. -/
def within (m : Measure) (min max : Option Bound) : Outcome Bool := do
  let low ← match min with
    | some b => m.below b
    | none => .ok false
  if low then return false
  let high ← match max with
    | some b => m.above b
    | none => .ok false
  return !high

end Measure

def isTextBound (b : Option Bound) : Bool := (b.map Bound.isText).getD false

def Value.within (v : Value) (min max : Option Bound) : Outcome Bool :=
  if isTextBound min || isTextBound max then (Measure.text v.display).within min max
  else do
    match ← v.real? with
    | some x => (Measure.number x).within min max
    | none => return false

/-- Whether a text contains another one, in capitals or small letters. -/
def MatchMode.found (mode : MatchMode) (needle text : String) : Bool :=
  let needle := (Text.lower needle).toList
  let text := (Text.lower text).toList
  match mode with
  | .atStart => needle.isPrefixOf text
  | .anywhere => Text.occursIn needle text

def Test.holds (t : Test) (r : Record) : Outcome Bool :=
  match t, r.get t.field with
  | .eq _ .null, v => .ok v.isNull
  | .eq _ value, v => .ok (v.same value)
  | _, .null => .ok false
  | .oneOf _ values, v => .ok (values.any v.same)
  | .range _ min max, v => v.within min max
  | .like _ text mode, v => .ok (mode.found text v.display)

namespace Test

variable {r : Record} {field : String}

theorem holds_oneOf (values : List Value) : (Test.oneOf field values).holds r =
    .ok (!(r.get field).isNull && values.any (r.get field).same) := by
  simp only [Test.holds, Test.field]
  cases r.get field <;> rfl

theorem holds_like (s : String) (mode : MatchMode) : (Test.like field s mode).holds r =
    .ok (!(r.get field).isNull && mode.found s (r.get field).display) := by
  simp only [Test.holds, Test.field]
  cases r.get field <;> rfl

theorem holds_range (min max : Option Bound) : (Test.range field min max).holds r =
    if (r.get field).isNull then .ok false else (r.get field).within min max := by
  simp only [Test.holds, Test.field]
  cases r.get field <;> rfl

end Test

namespace Predicate

mutual

def holds (r : Record) : Predicate → Outcome Bool
  | .test t => t.holds r
  | .not p => (holds r p).map (!·)
  | .and ps => allHold r ps
  | .or ps => someHolds r ps

/-- Whether all conditions hold; the first that does not ends the search. -/
def allHold (r : Record) : List Predicate → Outcome Bool
  | [] => .ok true
  | p :: ps => do if ← holds r p then allHold r ps else return false

/-- Whether some condition holds; the first that does ends the search. -/
def someHolds (r : Record) : List Predicate → Outcome Bool
  | [] => .ok false
  | p :: ps => do if ← holds r p then return true else someHolds r ps

end

mutual

/-- Whether a condition holds, if that can be said without looking at any field. -/
def settled? : Predicate → Option Bool
  | .test _ => none
  | .not p => (settled? p).map (!·)
  | .and ps => allSettled? ps
  | .or ps => someSettled? ps

/-- Whether all conditions hold, if that can be said without looking at any field. -/
def allSettled? : List Predicate → Option Bool
  | [] => some true
  | p :: ps =>
    match settled? p with
    | some true => allSettled? ps
    | early => early

/-- Whether some condition holds, if that can be said without looking at any field. -/
def someSettled? : List Predicate → Option Bool
  | [] => some false
  | p :: ps =>
    match settled? p with
    | some false => someSettled? ps
    | early => early

end

/-- Whether a condition holds of a piece of data. Only objects have fields to look at. -/
def holdsOf (v : Value) (p : Predicate) : Outcome Bool :=
  match v with
  | .object r => p.holds r
  | _ => p.settled?.elim (.error .rowNotObject) .ok

end Predicate
end ListingSearch
