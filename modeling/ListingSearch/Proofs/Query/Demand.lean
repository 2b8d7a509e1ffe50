import ListingSearch.Proofs.Predicate.Combination
import ListingSearch.Proofs.Query.Literal
import ListingSearch.Query.Tree

/-! What a test in a tree asks of its field: an operator and an operand. Demands that are written
alike are passed by the same records, and a range between two bounds asks for both of them. -/
namespace ListingSearch

namespace Test

variable {r : Record} {field : String} {v : Value}

lemma holds_eq (h : v.isNull = false) :
    (Test.eq field v).holds r = .ok ((r.get field).same v) := by
  cases v with
  | null => cases h
  | _ => rfl

end Test

namespace Value

variable {a b c : Bound}

lemma within_min_congr (h : b.toValue.Alike c.toValue) (v : Value) :
    v.within (some b) none = v.within (some c) none := by
  simp only [within, isTextBound, Option.map_some, Bound.isText_congr h, Measure.within,
    Bound.below_congr h]

lemma within_max_congr (h : b.toValue.Alike c.toValue) (v : Value) :
    v.within none (some b) = v.within none (some c) := by
  simp only [within, isTextBound, Option.map_some, Bound.isText_congr h, Measure.within,
    Bound.above_congr h]

end Value

namespace Query

open Predicate (allHold)

/-- What a test in a tree asks of its field. -/
inductive Demand where
  | missing
  | eq (value : Value)
  | oneOf (values : List Value)
  | atLeast (bound : Bound)
  | atMost (bound : Bound)
  | like (text : String) (mode : MatchMode)

namespace Demand

def word : Demand → String
  | .missing => "is"
  | .eq _ => "eq"
  | .oneOf _ => "in"
  | .atLeast _ => "gte"
  | .atMost _ => "lte"
  | .like .. => "ilike"

def operand : Demand → String
  | .missing => "null"
  | .eq value => quote value
  | .oneOf values => literalList values
  | .atLeast bound | .atMost bound => quote bound.toValue
  | .like text mode => quote (.text (likePattern text mode))

def test (field : String) : Demand → Test
  | .missing => .eq field .null
  | .eq value => .eq field value
  | .oneOf values => .oneOf field values
  | .atLeast bound => .range field (some bound) none
  | .atMost bound => .range field none (some bound)
  | .like text mode => .like field text mode

/-- The operand consists of literals. -/
def Literal : Demand → Prop
  | .eq value => IsLiteral value
  | .oneOf values => ∀ v ∈ values, IsLiteral v
  | _ => True

/-- The same records pass. -/
def Alike (d e : Demand) : Prop :=
  ∀ (field : String) (r : Record), (d.test field).holds r = (e.test field).holds r

variable {d e : Demand} {v w : Value} {vs ws : List Value} {b c : Bound}

lemma isLiteral_bound (b : Bound) : IsLiteral b.toValue := by
  cases b with
  | truth b => exact .truth b
  | int n => exact .int n
  | float x => exact .float x
  | text s => exact .text s

lemma isNull_of_isLiteral (h : IsLiteral v) : v.isNull = false := by
  cases h <;> rfl

lemma alike_eq (hv : IsLiteral v) (hw : IsLiteral w) (h : Value.Alike v w) :
    Alike (.eq v) (.eq w) := by
  intro field r
  simp only [test, Test.holds_eq (isNull_of_isLiteral hv), Test.holds_eq (isNull_of_isLiteral hw),
    h.same_right]

lemma alike_oneOf (h : List.Forall₂ Value.Alike vs ws) : Alike (.oneOf vs) (.oneOf ws) := by
  intro field r
  simp only [test, Test.holds_oneOf, Value.any_same_congr h]

lemma alike_atLeast (h : b.toValue.Alike c.toValue) : Alike (.atLeast b) (.atLeast c) := by
  intro field r
  simp only [test, Test.holds_range, Value.within_min_congr h]

lemma alike_atMost (h : b.toValue.Alike c.toValue) : Alike (.atMost b) (.atMost c) := by
  intro field r
  simp only [test, Test.holds_range, Value.within_max_congr h]

lemma bare_null : Bare "null" := by decide

/-- Operands of one operator end by themselves and tell what is asked. -/
lemma operand_cancels (hd : d.Literal) (he : e.Literal) (hword : d.word = e.word) :
    Cancels d.operand.toList e.operand.toList (d.Alike e) := by
  cases d <;> cases e <;> simp only [word, String.reduceEq] at hword
  case missing.missing => exact (bare_null.cancels bare_null).mono fun _ _ _ => rfl
  case eq.eq v w => exact (quote_cancels hd he).mono (alike_eq hd he)
  case oneOf.oneOf vs ws => exact (literalList_cancels hd he).mono alike_oneOf
  case atLeast.atLeast b c =>
    exact (quote_cancels (isLiteral_bound b) (isLiteral_bound c)).mono alike_atLeast
  case atMost.atMost b c =>
    exact (quote_cancels (isLiteral_bound b) (isLiteral_bound c)).mono alike_atMost
  case like.like s m t n =>
    refine (quotedText_cancels (likePattern s m) (likePattern t n)).mono fun h field r => ?_
    obtain ⟨rfl, rfl⟩ := likePattern_injective h
    rfl

end Demand
end Query
end ListingSearch
