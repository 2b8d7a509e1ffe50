import ListingSearch.Binary64.Decimal

/-!
Numerals: how a decimal of some digits and a power of ten is written. Numbers of moderate size are
written out in full, the others with an exponent of at least two digits.
-/
namespace ListingSearch.Binary64

/-- The choices of a style: from which power of ten on numbers have an exponent, and whether an
integer written in full keeps a zero after the point. -/
structure NumeralStyle where
  exponentFrom : Int
  pointZero : Bool

def zeros (n : Nat) : String := String.ofList (List.replicate n '0')

/-- A power of ten with its sign and at least two digits. -/
def exponentText (e : Int) : String :=
  let digits := toString e.natAbs
  (if e < 0 then "e-" else "e+") ++ zeros (2 - digits.length) ++ digits

/-- The digits, of which the first has the weight `10 ^ top`, with a point or an exponent. -/
def NumeralStyle.layout (style : NumeralStyle) (digits : List Char) (top : Int) : String :=
  if -4 ≤ top ∧ top < style.exponentFrom then
    if top < 0 then "0." ++ zeros (-top - 1).toNat ++ String.ofList digits
    else
      let whole := top.toNat + 1
      let rest := digits.drop whole
      String.ofList (digits.take whole) ++ zeros (whole - digits.length) ++
        (if rest ≠ [] then "." ++ String.ofList rest else if style.pointZero then ".0" else "")
  else
    String.ofList (digits.take 1) ++
      (if digits.drop 1 = [] then "" else "." ++ String.ofList (digits.drop 1)) ++ exponentText top

/-- Writes `digits · 10 ^ exponent` without the trailing zeros of the digits. -/
def NumeralStyle.write (style : NumeralStyle) (digits : Nat) (exponent : Int) : String :=
  let all := Nat.toDigits 10 digits
  let kept := (all.reverse.dropWhile (· == '0')).reverse
  if kept = [] then (if style.pointZero then "0.0" else "0")
  else style.layout kept (exponent + all.length - 1)

/-- Numbers below ten to the sixteenth are written in full, integers with a point and a zero. -/
def fullStyle : NumeralStyle := ⟨16, true⟩

/-- Six significant digits; numbers below a million are written in full. -/
def sixDigitStyle : NumeralStyle := ⟨6, false⟩

def signText (negative : Bool) : String := if negative then "-" else ""

/-- The shortest numeral that reads back as the number. -/
def text : Binary64 → String
  | .finite s m q h =>
    if m = 0 then signText s ++ fullStyle.write 0 0
    else
      let (digits, exponent) := shortest m q h
      signText s ++ fullStyle.write digits exponent
  | .infinite s => signText s ++ "inf"
  | .nan => "nan"

def sixDigitText : Binary64 → String
  | .finite s m q _ =>
    let num := m * Nat.pow 2 q.toNat
    let den := Nat.pow 2 (-q).toNat
    if m = 0 then signText s ++ sixDigitStyle.write 0 0
    else
      let p := decade num den - 5
      signText s ++
        sixDigitStyle.write (roundDiv (num * Nat.pow 10 (-p).toNat) (den * Nat.pow 10 p.toNat)) p
  | .infinite s => signText s ++ "inf"
  | .nan => "nan"

/-- The number as an integer numeral if it is an integer, and by its shortest numeral if not. -/
def plainText (x : Binary64) : String :=
  match x.toInt? with
  | some n => toString n
  | none => x.text

end ListingSearch.Binary64
