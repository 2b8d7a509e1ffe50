import ListingSearch.Binary64.Basic
import ListingSearch.Text.Blank
import ListingSearch.Text.Digit

/-!
Decimal notation of binary64 numbers. Reading rounds the written decimal correctly. The shortest
decimal of a number is found by trying one digit, then two, and so on, each candidate being read
back; the exact expansion, which always exists, ends the search.
-/
namespace ListingSearch.Binary64

def digitCount (n : Nat) : Nat := (Nat.toDigits 10 n).length

def ofDecimal (negative : Bool) (digits : Nat) (exponent : Int) : Binary64 :=
  if digits = 0 then zero negative
  else if digitCount digits + exponent > 310 then .infinite negative
  else if digitCount digits + exponent < -330 then zero negative
  else ofRatio negative (digits * Nat.pow 10 exponent.toNat) (Nat.pow 10 (-exponent).toNat)

/-- A leading sign, negative or not, and the rest of the text. -/
def takeSign : List Char → Bool × List Char
  | '-' :: cs => (true, cs)
  | '+' :: cs => (false, cs)
  | cs => (false, cs)

/-- The integer after an exponent mark: an optional sign and at least one digit. -/
def readExponent? (cs : List Char) : Option Int :=
  let (negative, digits) := takeSign cs
  if digits ≠ [] ∧ digits.all Char.isDigit then some (signed negative (Text.digitsValue digits))
  else none

/-- Reads digits with at most one point, at least one digit, and an optional exponent. -/
def readMagnitude? (negative : Bool) (cs : List Char) : Option Binary64 := do
  let mantissa := cs.takeWhile fun c => c != 'e' && c != 'E'
  let whole := mantissa.takeWhile (· != '.')
  let fraction := mantissa.drop (whole.length + 1)
  let exponent ← match cs.drop mantissa.length with
    | [] => some 0
    | _ :: rest => readExponent? rest
  if whole ++ fraction ≠ [] ∧ (whole ++ fraction).all Char.isDigit then
    return ofDecimal negative (Text.digitsValue (whole ++ fraction)) (exponent - fraction.length)
  else none

/-- Reads a plain decimal: an optional sign, then a magnitude or the name of an infinity or of
`nan` in any case. Digits are ASCII and nothing may surround the number. -/
def readPlain? (cs : List Char) : Option Binary64 :=
  let (negative, rest) := takeSign cs
  let name := rest.map Char.toLower
  if name = "inf".toList ∨ name = "infinity".toList then some (.infinite negative)
  else if name = "nan".toList then some .nan
  else readMagnitude? negative rest

/-- Rewrites the digits of all scripts as ASCII digits and drops single underscores that stand
between two digits; `none` if an underscore stands elsewhere. -/
def plainDigits? (afterDigit : Bool) : List Char → Option (List Char)
  | [] => some []
  | c :: cs =>
    if c = '_' then
      if afterDigit && (cs.head?.map Text.isDigit).getD false then plainDigits? false cs else none
    else
      match Text.digitValue? c with
      | some d => (plainDigits? true cs).map (Char.ofNat (48 + d) :: ·)
      | none => (plainDigits? false cs).map (c :: ·)

/-- Reads a decimal with surrounding space, digits of any script and grouped digits allowed. -/
def read? (s : String) : Option Binary64 :=
  (plainDigits? false (Text.trimWhile Text.isSpaceChar s.toList)).bind readPlain?

/-- The least `k` with `num / den < 10 ^ (k + 1)`, for positive `num` and `den`. -/
def decade (num den : Nat) : Int :=
  let k : Int := (digitCount num : Int) - digitCount den
  if den * Nat.pow 10 k.toNat ≤ num * Nat.pow 10 (-k).toNat then k else k - 1

/-- Of the two multiples of `10 ^ p` around the magnitude, the nearest that reads back. -/
def onGrid? (m : Nat) (q p : Int) (canonical : Canonical m q) : Option Nat :=
  let num := m * Nat.pow 2 q.toNat * Nat.pow 10 (-p).toNat
  let den := Nat.pow 2 (-q).toNat * Nat.pow 10 p.toNat
  let down := num / den
  let readsBack d := ofDecimal false d p == .finite false m q canonical
  let near := roundDiv num den
  let far := if near = down then down + 1 else down
  if readsBack near then some near else if readsBack far then some far else none

/-- The digits and the power of ten of the shortest decimal that reads back as `m · 2 ^ q`. -/
def shortest (m : Nat) (q : Int) (canonical : Canonical m q) : Nat × Int :=
  let top := decade (m * Nat.pow 2 q.toNat) (Nat.pow 2 (-q).toNat)
  let tries := (List.range 17).findSome? fun (n : Nat) =>
    (onGrid? m q (top - n) canonical).map (·, top - (n : Int))
  tries.getD (m * Nat.pow 2 q.toNat * Nat.pow 5 (-q).toNat, min q 0)

end ListingSearch.Binary64
