import ListingSearch.Failure

/-!
Instants of the calendar, with an optional offset from universal time. Days are counted back one
by one through the calendar, so the day before a date is smaller, and an instant some days before
another one keeps its time of day and its offset. Years run from 1 to 9999.
-/
namespace ListingSearch

structure Date where
  year : Nat
  month : Nat
  day : Nat
  deriving DecidableEq

namespace Date

def isLeapYear (year : Nat) : Bool :=
  year % 4 == 0 && (year % 100 != 0 || year % 400 == 0)

def monthLength (year month : Nat) : Nat :=
  if month = 2 then if isLeapYear year then 29 else 28
  else if month = 4 ∨ month = 6 ∨ month = 9 ∨ month = 11 then 30
  else 31

/-- The day before; there is none before the first day of the year 1. -/
def previous? (d : Date) : Option Date :=
  if 1 < d.day then some { d with day := d.day - 1 }
  else if 1 < d.month then some ⟨d.year, d.month - 1, monthLength d.year (d.month - 1)⟩
  else if 1 < d.year then some ⟨d.year - 1, 12, 31⟩
  else none

def back? (d : Date) : Nat → Option Date
  | 0 => some d
  | n + 1 =>
    match d.previous? with
    | some e => e.back? n
    | none => none

end Date

/-- A point of time, as clocks show it. The offset is in minutes. -/
structure Instant where
  date : Date
  hour : Nat
  minute : Nat
  second : Nat
  microsecond : Nat
  offset : Option Int
  deriving DecidableEq

namespace Instant

def padded (width n : Nat) : String := Binary64.zeros (width - (toString n).length) ++ toString n

/-- The text of an offset: its sign, two digits of hours and two of minutes. -/
def offsetText (minutes : Int) : String :=
  (if minutes < 0 then "-" else "+") ++ padded 2 (minutes.natAbs / 60) ++ ":" ++
    padded 2 (minutes.natAbs % 60)

/-- The text of the instant; a fraction of a second is written only if there is one. -/
def text (t : Instant) : String :=
  padded 4 t.date.year ++ "-" ++ padded 2 t.date.month ++ "-" ++ padded 2 t.date.day ++ "T" ++
    padded 2 t.hour ++ ":" ++ padded 2 t.minute ++ ":" ++ padded 2 t.second ++
    (if t.microsecond = 0 then "" else "." ++ padded 6 t.microsecond) ++
    t.offset.elim "" offsetText

def midnight (t : Instant) : Instant :=
  { t with hour := 0, minute := 0, second := 0, microsecond := 0 }

def daysBefore (t : Instant) (days : Nat) : Outcome Instant :=
  match t.date.back? days with
  | some date => .ok { t with date }
  | none => .error .dateOutOfRange

end Instant

example : (Date.mk 2024 3 1).back? 1 = some ⟨2024, 2, 29⟩ := by decide
example : (Date.mk 1 1 1).back? 1 = none := by decide

end ListingSearch
