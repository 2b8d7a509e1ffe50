import ListingSearch.Value.Display

/-!
Data as JSON text over several lines: two columns further in for each list or object, one member
per line, and empty ones on one line. Only quotation marks, backslashes and control characters are
escaped, and every integer is taken to have a numeral.
-/
namespace ListingSearch.JsonText

def charText (c : Char) : String :=
  if c = '"' ∨ c = '\\' then String.ofList ['\\', c]
  else if c = '\n' then "\\n"
  else if c = '\r' then "\\r"
  else if c = '\t' then "\\t"
  else if c = '\x08' then "\\b"
  else if c = '\x0c' then "\\f"
  else if c < ' ' then "\\u" ++ hexText 4 c.toNat
  else String.singleton c

def stringText (s : String) : String := "\"" ++ String.join (s.toList.map charText) ++ "\""

/-- A number; those that are not finite have words of their own. -/
def numberText : Binary64 → String
  | .nan => "NaN"
  | .infinite negative => if negative then "-Infinity" else "Infinity"
  | x => x.text

def newline (depth : Nat) : String := "\n" ++ String.ofList (List.replicate (2 * depth) ' ')

/-- Parts between an opening and a closing mark, each on a line of its own. -/
def block (depth : Nat) (first last : String) (parts : List String) : String :=
  if parts = [] then first ++ last
  else first ++ newline (depth + 1) ++ ("," ++ newline (depth + 1)).intercalate parts ++
    newline depth ++ last

mutual

/-- The text of data that stands so many levels inside other data. -/
def textAt (depth : Nat) : Value → String
  | .null => "null"
  | .bool b => if b then "true" else "false"
  | .int n => toString n
  | .float x => numberText x
  | .text s => stringText s
  | .list items => block depth "[" "]" (memberTexts (depth + 1) items)
  | .object entries => block depth "\x7b" "\x7d" (entryTexts (depth + 1) entries)

def memberTexts (depth : Nat) : List Value → List String
  | [] => []
  | v :: rest => textAt depth v :: memberTexts depth rest

def entryTexts (depth : Nat) : List (String × Value) → List String
  | [] => []
  | (key, v) :: rest => (stringText key ++ ": " ++ textAt depth v) :: entryTexts depth rest

end

def text (v : Value) : String := textAt 0 v

end ListingSearch.JsonText
