import ListingSearch.Binary64.Basic

/-!
Exact numbers of two kinds, integers of any size and binary64 numbers, and their common order.
They are compared as real numbers, without rounding one kind to the other; `nan` is comparable
with nothing, not even itself.
-/
namespace ListingSearch

/-- An integer or a binary64 number. -/
inductive Number where
  | int (n : Int)
  | float (x : Binary64)
  deriving DecidableEq

namespace Number

/-- A point of the extended line: an infinity, or `mantissa · 2 ^ exponent`. -/
inductive Point where
  | below
  | at (mantissa exponent : Int)
  | above

/-- Where the number lies; `nan` lies nowhere. -/
def point? : Number → Option Point
  | .int n => some (.at n 0)
  | .float (.finite s m q _) => some (.at (Binary64.signed s m) q)
  | .float (.infinite negative) => some (if negative then .below else .above)
  | .float .nan => none

/-- Compares two points, bringing finite ones to their smaller exponent. -/
def Point.compare : Point → Point → Ordering
  | .below, .below => .eq
  | .below, _ => .lt
  | .above, .above => .eq
  | .above, _ => .gt
  | .at .., .below => .gt
  | .at .., .above => .lt
  | .at a p, .at b q =>
    Ord.compare (a * Nat.pow 2 (p - min p q).toNat) (b * Nat.pow 2 (q - min p q).toNat)

/-- How the numbers compare, `none` if one is `nan`. -/
def compare? (a b : Number) : Option Ordering := do
  return (← a.point?).compare (← b.point?)

def lt (a b : Number) : Bool := a.compare? b == some .lt

def same (a b : Number) : Bool := a.compare? b == some .eq

end Number

/-- Numeric equality: the two zeros are equal, and `nan` differs from itself. -/
def Binary64.same (x y : Binary64) : Bool := Number.same (.float x) (.float y)

def Binary64.lt (x y : Binary64) : Bool := Number.lt (.float x) (.float y)

example : Binary64.same (.zero true) (.zero false) = true := by decide
example : Binary64.same .nan .nan = false := by decide

end ListingSearch
