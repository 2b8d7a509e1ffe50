import ListingSearch.Binary64.Numeral
import ListingSearch.Text.Printable
import ListingSearch.Value.Basic

/-!
The text of a piece of data, as it is searched, stored and sent. A text stands for itself and a
number for its numeral; inside a list or an object a text is quoted, with the quotation mark that
needs no escape where there is one. Every integer is taken to have a numeral here: those of more
than `Text.digitLimit` digits are left aside.
-/
namespace ListingSearch

/-- The digits of a number to base sixteen, at least as many as asked for. -/
def hexText (width n : Nat) : String :=
  let digits := Nat.toDigits 16 n
  Binary64.zeros (width - digits.length) ++ String.ofList digits

def quotedChar (mark c : Char) : String :=
  if c = mark ∨ c = '\\' then String.ofList ['\\', c]
  else if c = '\n' then "\\n"
  else if c = '\r' then "\\r"
  else if c = '\t' then "\\t"
  else if Text.isPrintable c then String.singleton c
  else if c.toNat < 0x100 then "\\x" ++ hexText 2 c.toNat
  else if c.toNat < 0x10000 then "\\u" ++ hexText 4 c.toNat
  else "\\U" ++ hexText 8 c.toNat

/-- A text between quotation marks, double ones only where they save escapes. -/
def quotedText (s : String) : String :=
  let mark := if s.toList.contains '\'' && !s.toList.contains '"' then '"' else '\''
  String.singleton mark ++ String.join (s.toList.map (quotedChar mark)) ++ String.singleton mark

namespace Value

mutual

def innerText : Value → String
  | .null => "None"
  | .bool b => if b then "True" else "False"
  | .int n => toString n
  | .float x => x.text
  | .text s => quotedText s
  | .list items => "[" ++ ", ".intercalate (innerTexts items) ++ "]"
  | .object entries => "\x7b" ++ ", ".intercalate (entryTexts entries) ++ "\x7d"

def innerTexts : List Value → List String
  | [] => []
  | v :: rest => v.innerText :: innerTexts rest

def entryTexts : List (String × Value) → List String
  | [] => []
  | (key, v) :: rest => (quotedText key ++ ": " ++ v.innerText) :: entryTexts rest

end

/-- The text of a piece of data; a text is its own, and an integer of any length has one. -/
def display : Value → String
  | .text s => s
  | v => v.innerText

example : display (.list [.text "a", .null]) = "['a', None]" := by decide +kernel

end Value
end ListingSearch
