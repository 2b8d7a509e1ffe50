import ListingSearch.Failure
import ListingSearch.Query.Literal

/-!
Conditions as logical trees in text, the form in which choices and nested conjunctions are sent to
a table service. Every literal in the text is quoted.
-/
namespace ListingSearch.Query

/-- The text of a negated condition: the negation goes before a tree, and behind the field of a
test. -/
def negatedText (inner : String) : String :=
  if "and(".toList.isPrefixOf inner.toList || "or(".toList.isPrefixOf inner.toList then
    "not." ++ inner
  else
    let (field, rest) := Text.cut '.' inner
    field ++ ".not." ++ rest

/-- The parts of a range test that has at least one bound. -/
def rangeText (field : String) (min max : Option Bound) : Outcome String :=
  let low := min.map fun b => field ++ ".gte." ++ quote b.toValue
  let high := max.map fun b => field ++ ".lte." ++ quote b.toValue
  match low, high with
  | none, none => .error (.unboundedRange field)
  | some low, none => .ok low
  | none, some high => .ok high
  | some low, some high => .ok ("and(" ++ low ++ "," ++ high ++ ")")

def testText : Test → Outcome String
  | .eq field .null => .ok (field ++ ".is.null")
  | .eq field value => .ok (field ++ ".eq." ++ quote value)
  | .oneOf field values => .ok (field ++ ".in." ++ literalList values)
  | .range field min max => rangeText field min max
  | .like field text mode =>
    .ok (field ++ ".ilike." ++ quote (.text (likePattern text mode)))

mutual

def render : Predicate → Outcome String
  | .test t => testText t
  | .not p => negatedText <$> render p
  | .and ps =>
    if ps.isEmpty then .error .emptyConjunctionInTree
    else (fun parts => "and(" ++ ",".intercalate parts ++ ")") <$> renderEach ps
  | .or ps =>
    if ps.isEmpty then .error .emptyChoiceInTree
    else (fun parts => "or(" ++ ",".intercalate parts ++ ")") <$> renderEach ps

def renderEach : List Predicate → Outcome (List String)
  | [] => .ok []
  | p :: ps => do
    let part ← render p
    return part :: (← renderEach ps)

end

end ListingSearch.Query
