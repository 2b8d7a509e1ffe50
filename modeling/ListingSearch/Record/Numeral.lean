import ListingSearch.Binary64.Decimal

/-!
Numerals in the fields of a record. Space may surround them and single underscores may group their
digits. After its sign an integer may have zeros in front, grouped in any way, and it may have a
fraction of zeros; what is then left has to be an integer without needless zeros.
-/
namespace ListingSearch.Numeral

def core (s : String) : List Char := Text.trimWhile Text.isSpaceChar s.toList

/-- The characters without single underscores inside; `none` if one stands at an end or two stand
together. -/
def ungrouped? (cs : List Char) : Option (List Char) :=
  if cs.head? = some '_' ∨ cs.getLast? = some '_' ∨ Text.occursIn ['_', '_'] cs then none
  else some (cs.filter (· != '_'))

/-- The number that a numeral denotes. Either space surrounds it or underscores group it, but not
both. -/
def number? (s : String) : Option Binary64 :=
  match Binary64.readPlain? (core s) with
  | some x => some x
  | none => (ungrouped? s.toList).bind Binary64.readPlain?

/-- The minus sign in front, if there is one, and what follows it. A plus sign is dropped, unless a
minus sign follows. -/
def splitSign? : List Char → Option (List Char × List Char)
  | '+' :: '-' :: _ => none
  | '+' :: cs => some ([], cs)
  | '-' :: cs => some (['-'], cs)
  | cs => some ([], cs)

def beginsInteger (c : Char) : Bool := c == '-' || ('1' ≤ c && c ≤ '9')

/-- Passes over zeros and underscores after a zero. The last of them stays if nothing or a point
follows. -/
def afterZero? (last : Char) : List Char → Option (List Char)
  | [] => some [last]
  | c :: cs =>
    if c = '0' ∨ c = '_' then afterZero? c cs
    else if c = '.' then some (last :: c :: cs)
    else if beginsInteger c then some (c :: cs)
    else none

/-- The characters without the zeros in front; `none` if no integer can begin so. -/
def withoutZeros? : List Char → Option (List Char)
  | '0' :: cs => afterZero? '0' cs
  | c :: cs => if beginsInteger c then some (c :: cs) else none
  | [] => none

def withoutFraction (cs : List Char) : List Char :=
  let whole := cs.takeWhile (· != '.')
  let fraction := cs.drop (whole.length + 1)
  if fraction ≠ [] ∧ fraction.all (· == '0') then whole else cs

/-- Reads digits without needless zeros in front, perhaps after a minus sign. -/
def plainInteger? (cs : List Char) : Option Int :=
  let (negative, digits) := match cs with
    | '-' :: digits => (true, digits)
    | digits => (false, digits)
  if digits ≠ [] ∧ digits.all Char.isDigit ∧ (digits.head? = some '0' → digits.length = 1) then
    some (Binary64.signed negative (Text.digitsValue digits))
  else none

def integer? (s : String) : Option Int := do
  let (sign, cs) ← splitSign? (core s)
  plainInteger? (sign ++ (← ungrouped? (withoutFraction (← withoutZeros? cs))))

example : integer? " +0_07.00" = some 7 := by decide +kernel
example : integer? "00-7" = some (-7) := by decide +kernel
example : integer? "-0_07" = some (-7) := by decide +kernel
example : integer? "-0-7" = none := by decide +kernel
example : integer? "1." = none := by decide +kernel

end ListingSearch.Numeral
