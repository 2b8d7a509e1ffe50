import ListingSearch.Value.Basic

/-!
Conditions on records: tests of one field, and their combinations by negation, conjunction and
choice. The combining functions flatten nested combinations of the same kind, drop the condition
that always holds, and leave a single operand as it is.
-/
namespace ListingSearch

inductive Bound where
  | truth (b : Bool)
  | int (n : Int)
  | float (x : Binary64)
  | text (s : String)
  deriving DecidableEq

namespace Bound

def toValue : Bound → Value
  | .truth b => .bool b
  | .int n => .int n
  | .float x => .float x
  | .text s => .text s

def isText : Bound → Bool
  | .text _ => true
  | _ => false

end Bound

inductive MatchMode where
  | anywhere
  | atStart
  deriving DecidableEq

/-- A test of one field of a record. -/
inductive Test where
  /-- The field has this value; null stands for a missing value. -/
  | eq (field : String) (value : Value)
  /-- The field has one of these values. -/
  | oneOf (field : String) (values : List Value)
  /-- The field lies between the bounds, which it may reach. -/
  | range (field : String) (min max : Option Bound)
  /-- The text of the field contains a text, in capitals or small letters. -/
  | like (field : String) (text : String) (mode : MatchMode)

def Test.field : Test → String
  | .eq field _ | .oneOf field _ | .range field _ _ | .like field _ _ => field

def Test.isMissing : Test → Bool
  | .eq _ .null => true
  | _ => false

/-- A condition on records. -/
inductive Predicate where
  | test (t : Test)
  | not (operand : Predicate)
  | and (operands : List Predicate)
  | or (operands : List Predicate)

namespace Predicate

instance : Inhabited Predicate := ⟨.and []⟩

abbrev eq (field : String) (value : Value) : Predicate := .test (.eq field value)

abbrev oneOf (field : String) (values : List Value) : Predicate := .test (.oneOf field values)

abbrev range (field : String) (min max : Option Bound) : Predicate := .test (.range field min max)

abbrev like (field text : String) (mode : MatchMode) : Predicate := .test (.like field text mode)

def always : Predicate := .and []

def isAlways : Predicate → Bool
  | .and [] => true
  | _ => false

/-- The operands of a conjunction; any other condition is its only one. -/
def conjuncts : Predicate → List Predicate
  | .and ps => ps
  | p => [p]

/-- The operands of a choice; any other condition is its only one. -/
def alternatives : Predicate → List Predicate
  | .or ps => ps
  | p => [p]

def allOf (ps : List Predicate) : Predicate :=
  match ps.flatMap conjuncts with
  | [p] => p
  | qs => .and qs

/-- The choice between conditions; it always holds if one of them does. -/
def anyOf (ps : List Predicate) : Predicate :=
  if ps.any isAlways then always
  else
    match ps.flatMap alternatives with
    | [p] => p
    | qs => .or qs

mutual

/-- The opposite condition, with the negations moved to the tests. -/
def negate : Predicate → Predicate
  | .test t => .not (.test t)
  | .not p => p
  | .and ps => .or (negateAll ps)
  | .or ps => .and (negateAll ps)

def negateAll : List Predicate → List Predicate
  | [] => []
  | p :: ps => p.negate :: negateAll ps

end

theorem negateAll_eq_map (ps : List Predicate) : negateAll ps = ps.map negate := by
  induction ps with
  | nil => rfl
  | cons p ps ih => rw [negateAll, ih, List.map_cons]

end Predicate
end ListingSearch
