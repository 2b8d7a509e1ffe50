import ListingSearch.Binary64.Decimal
import ListingSearch.Value.Basic

/-!
The tokens of a JSON text. A number with a fraction or an exponent is a binary64 number, any other
one an integer; `NaN`, `Infinity` and `-Infinity` are numbers too. Control characters have to be
escaped. Integers of more than `Text.digitLimit` digits are left aside.
-/
namespace ListingSearch.JsonText

/-- A token: a value without parts, or a sign of structure. -/
inductive Token where
  | leaf (v : Value)
  | openList
  | closeList
  | openObject
  | closeObject
  | colon
  | comma

def isSpace (c : Char) : Bool := c == ' ' || c == '\t' || c == '\n' || c == '\r'

def hexDigit? (c : Char) : Option Nat :=
  if c.isDigit then some (c.toNat - '0'.toNat)
  else if 'a' ≤ c ∧ c ≤ 'f' then some (c.toNat - 'a'.toNat + 10)
  else if 'A' ≤ c ∧ c ≤ 'F' then some (c.toNat - 'A'.toNat + 10)
  else none

def unit? (a b c d : Char) : Option Nat := do
  return (((← hexDigit? a) * 16 + (← hexDigit? b)) * 16 + (← hexDigit? c)) * 16 + (← hexDigit? d)

/-- The character that two halves of a surrogate pair denote. -/
def joined? (high low : Nat) : Option Char :=
  if 0xD800 ≤ high ∧ high < 0xDC00 ∧ 0xDC00 ≤ low ∧ low < 0xE000 then
    some (Char.ofNat (0x10000 + (high - 0xD800) * 0x400 + (low - 0xDC00)))
  else none

/-- The character that a single unit denotes; half a pair stands for no character and is
replaced. -/
def single (unit : Nat) : Char :=
  if 0xD800 ≤ unit ∧ unit < 0xE000 then '\uFFFD' else Char.ofNat unit

/-- The character that a letter denotes after a backslash. -/
def escape? : Char → Option Char
  | '"' => some '"'
  | '\\' => some '\\'
  | '/' => some '/'
  | 'b' => some '\x08'
  | 'f' => some '\x0c'
  | 'n' => some '\n'
  | 'r' => some '\r'
  | 't' => some '\t'
  | _ => none

def prepend (c : Char) : List Char × List Char → List Char × List Char
  | (text, rest) => (c :: text, rest)

/-- The text up to the closing quotation mark, and what follows the mark. -/
def quoted? : List Char → Option (List Char × List Char)
  | '"' :: rest => some ([], rest)
  | '\\' :: 'u' :: a :: b :: c :: d :: '\\' :: 'u' :: e :: f :: g :: h :: rest =>
    match unit? a b c d with
    | none => none
    | some high =>
      match (unit? e f g h).bind (joined? high) with
      | some x => (quoted? rest).map (prepend x)
      | none => (quoted? ('\\' :: 'u' :: e :: f :: g :: h :: rest)).map (prepend (single high))
  | '\\' :: 'u' :: a :: b :: c :: d :: rest =>
    match unit? a b c d with
    | none => none
    | some unit => (quoted? rest).map (prepend (single unit))
  | '\\' :: c :: rest =>
    match escape? c with
    | none => none
    | some x => (quoted? rest).map (prepend x)
  | c :: rest => if c < ' ' then none else (quoted? rest).map (prepend c)
  | [] => none

def digits (cs : List Char) : List Char × List Char :=
  (cs.takeWhile Char.isDigit, cs.dropWhile Char.isDigit)

/-- A fraction at the beginning, if there is one, and the rest. -/
def fraction : List Char → List Char × List Char
  | '.' :: cs =>
    match digits cs with
    | ([], _) => ([], '.' :: cs)
    | (ds, rest) => ('.' :: ds, rest)
  | cs => ([], cs)

/-- An exponent at the beginning, if there is one, and the rest. -/
def exponent (cs : List Char) : List Char × List Char :=
  match cs with
  | 'e' :: tail | 'E' :: tail =>
    let sign := tail.takeWhile fun c => c == '+' || c == '-'
    match digits (tail.drop sign.length) with
    | ([], _) => ([], cs)
    | (ds, rest) => if sign.length ≤ 1 then ('e' :: sign ++ ds, rest) else ([], cs)
  | _ => ([], cs)

/-- The digits before the point, of which a zero stands alone, and the rest. -/
def whole? (cs : List Char) : Option (List Char × List Char) :=
  match digits cs with
  | ([], _) => none
  | ('0' :: ds, rest) => some (['0'], ds ++ rest)
  | result => some result

/-- The number at the beginning, without a sign in front, and the rest. -/
def unsigned? (negative : Bool) (cs : List Char) : Option (Value × List Char) := do
  let (ds, rest) ← whole? cs
  let (fs, rest) := fraction rest
  let (es, rest) := exponent rest
  if fs = [] ∧ es = [] then
    let n : Int := Text.digitsValue ds
    return (.int (if negative then -n else n), rest)
  else
    let sign := if negative then ['-'] else []
    return (.float (← Binary64.read? (String.ofList (sign ++ ds ++ fs ++ es))), rest)

def words : List (List Char × Value) :=
  [("null".toList, .null), ("true".toList, .bool true), ("false".toList, .bool false),
    ("NaN".toList, .float .nan), ("Infinity".toList, .float (.infinite false)),
    ("-Infinity".toList, .float (.infinite true))]

def word? (cs : List Char) : Option (Value × List Char) :=
  (words.find? fun w => w.1.isPrefixOf cs).map fun w => (w.2, cs.drop w.1.length)

/-- The value without parts at the beginning, and the rest. -/
def leaf? (cs : List Char) : Option (Value × List Char) :=
  match cs with
  | '"' :: tail => (quoted? tail).map fun (text, rest) => (.text (String.ofList text), rest)
  | '-' :: tail => (word? cs).or (unsigned? true tail)
  | _ => (word? cs).or (unsigned? false cs)

def mark? : Char → Option Token
  | '[' => some .openList
  | ']' => some .closeList
  | '\x7b' => some .openObject
  | '\x7d' => some .closeObject
  | ':' => some .colon
  | ',' => some .comma
  | _ => none

/-- The tokens of a text, of which there are at most as many as given. -/
def tokens? : Nat → List Char → Option (List Token)
  | _, [] => some []
  | 0, _ :: _ => none
  | n + 1, c :: cs =>
    if isSpace c then tokens? n cs
    else
      match mark? c with
      | some t => (tokens? n cs).map (t :: ·)
      | none =>
        match leaf? (c :: cs) with
        | some (v, rest) => (tokens? n rest).map (.leaf v :: ·)
        | none => none

end ListingSearch.JsonText
