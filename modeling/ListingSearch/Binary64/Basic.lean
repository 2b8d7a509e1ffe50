/-!
Binary floating-point numbers of 64 bits, as exact values. A finite number is a sign, a mantissa
of at most 53 bits and a power of two; the canonical form makes the representation of a value
unique, apart from the two zeros. Rounding is to the nearest number, and of two equally near ones
to the even mantissa.
-/
namespace ListingSearch

/-- The canonical pairs of mantissa and exponent: 53 bits, fewer only at the least exponent. -/
def Binary64.Canonical (mantissa : Nat) (exponent : Int) : Prop :=
  mantissa < Nat.pow 2 53 ∧ -1074 ≤ exponent ∧ exponent ≤ 971 ∧
    (Nat.pow 2 52 ≤ mantissa ∨ exponent = -1074)

instance (mantissa : Nat) (exponent : Int) : Decidable (Binary64.Canonical mantissa exponent) :=
  inferInstanceAs (Decidable (_ ∧ _))

/-- A binary64 number; the finite ones stand for `± mantissa · 2 ^ exponent`. -/
inductive Binary64 where
  | finite (negative : Bool) (mantissa : Nat) (exponent : Int)
      (canonical : Binary64.Canonical mantissa exponent)
  | infinite (negative : Bool)
  | nan
  deriving DecidableEq

namespace Binary64

def zero (negative : Bool) : Binary64 := .finite negative 0 (-1074) (by decide)

instance : Inhabited Binary64 := ⟨zero false⟩

/-- The number with this mantissa and exponent, infinite when the exponent leaves the range. -/
def ofParts (negative : Bool) (mantissa : Nat) (exponent : Int) : Binary64 :=
  if h : Canonical mantissa exponent then .finite negative mantissa exponent h
  else .infinite negative

/-- The quotient rounded to the nearest integer, a half to the even one. -/
def roundDiv (num den : Nat) : Nat :=
  let q := num / den
  let r := num % den
  if 2 * r < den then q else if den < 2 * r then q + 1 else q + q % 2

/-- The least `k` with `num / den < 2 ^ (k + 1)`, for positive `num` and `den`. -/
def binade (num den : Nat) : Int :=
  let k : Int := (num.log2 : Int) - den.log2
  if den * Nat.pow 2 k.toNat ≤ num * Nat.pow 2 (-k).toNat then k else k - 1

/-- The exponent at which `num / den` has a mantissa of 53 bits, or the least one. -/
def roundingExponent (num den : Nat) : Int := max (binade num den - 52) (-1074)

def ofRatio (negative : Bool) (num den : Nat) : Binary64 :=
  if num = 0 then zero negative
  else
    let q := roundingExponent num den
    let m := roundDiv (num * Nat.pow 2 (-q).toNat) (den * Nat.pow 2 q.toNat)
    if m = Nat.pow 2 53 then ofParts negative (Nat.pow 2 52) (q + 1) else ofParts negative m q

/-- The number nearest to an integer, or `none` when the integer is beyond the finite range. -/
def ofInt? (n : Int) : Option Binary64 :=
  match ofRatio (n < 0) n.natAbs 1 with
  | .finite s m q h => some (.finite s m q h)
  | _ => none

def isFinite : Binary64 → Bool
  | .finite .. => true
  | _ => false

def signed (negative : Bool) (n : Nat) : Int := if negative then -n else n

def toInt? : Binary64 → Option Int
  | .finite s m q _ =>
    let den := Nat.pow 2 (-q).toNat
    if m % den = 0 then some (signed s (m * Nat.pow 2 q.toNat / den)) else none
  | _ => none

/-- The integer part of a finite number, toward zero; zero for the others. -/
def truncate : Binary64 → Int
  | .finite s m q _ => signed s (m * Nat.pow 2 q.toNat / Nat.pow 2 (-q).toNat)
  | _ => 0

/-- The number nearest to one more. -/
def next : Binary64 → Binary64
  | .finite s m q _ =>
    let den := Nat.pow 2 (-q).toNat
    let num := signed s (m * Nat.pow 2 q.toNat) + den
    ofRatio (num < 0) num.natAbs den
  | x => x

def ofBool (b : Bool) : Binary64 := ofRatio false b.toNat 1

example : ofInt? (Nat.pow 2 53 + 1) = some (ofParts false (Nat.pow 2 52) 1) := by decide +kernel
example : ofInt? (Nat.pow 2 1024) = none := by decide +kernel

end Binary64
end ListingSearch
