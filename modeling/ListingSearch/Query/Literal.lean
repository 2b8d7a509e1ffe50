import ListingSearch.Predicate.Basic
import ListingSearch.Value.Display

/-!
Literals and patterns in filters for a table service. A text stands between quotation marks with
the marks and backslashes in it escaped, so it ends where its closing mark stands; a pattern has
its wildcards escaped, so it finds nothing but the text. Every integer is taken to have a numeral
here: those of more than `Text.digitLimit` digits are left aside.
-/
namespace ListingSearch.Query

/-- The characters of a literal's inside: a quotation mark or a backslash has a backslash before
it. -/
def escape : List Char → List Char
  | [] => []
  | c :: cs => if c = '"' ∨ c = '\\' then '\\' :: c :: escape cs else c :: escape cs

def quotedText (s : String) : String := String.ofList ('"' :: escape s.toList ++ ['"'])

/-- A piece of data as a literal: numbers and truth values stand as they are, all else is quoted.
An integer of any length has a literal. -/
def quote : Value → String
  | .bool b => if b then "true" else "false"
  | .int n => toString n
  | .float x => x.plainText
  | v => quotedText v.display

/-- The text of a bound that is sent as a parameter of its own; an integer of any length has one. -/
def plainBound : Bound → String
  | .float x => x.plainText
  | b => b.toValue.display

/-- The characters of a pattern for a text: wildcards and backslashes have a backslash before
them. -/
def escapeWildcards : List Char → List Char
  | [] => []
  | c :: cs =>
    if c = '\\' ∨ c = '%' ∨ c = '_' then '\\' :: c :: escapeWildcards cs
    else c :: escapeWildcards cs

def likePattern (text : String) (mode : MatchMode) : String :=
  let inner := escapeWildcards text.toList
  match mode with
  | .atStart => String.ofList (inner ++ ['%'])
  | .anywhere => String.ofList ('%' :: inner ++ ['%'])

def literalList (values : List Value) : String :=
  "(" ++ ",".intercalate (values.map quote) ++ ")"

example : quotedText "a\"b" = "\"a\\\"b\"" := by decide
example : likePattern "50%" .atStart = "50\\%%" := by decide

end ListingSearch.Query
