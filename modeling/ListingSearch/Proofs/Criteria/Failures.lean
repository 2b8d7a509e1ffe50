import ListingSearch.Criteria.Reading
import ListingSearch.Proofs.Outcome

/-! What can be wrong with loose data that is read as criteria: it is no filter, one of its fields
holds something odd, or its prices are in the wrong order. Fields are read one after the other, and
the first one that cannot be read is what is reported. -/
namespace ListingSearch

/-- What makes a field unreadable: a single number where towns are asked for, an integer beyond all
binary64 numbers where an amount is, or one of too many digits where a text is. -/
def Failure.OfOddField : Failure → Prop
  | .notCollection | .numberTooLarge | .tooManyDigits => True
  | _ => False

def Failure.OfPriceOrder (failure : Failure) : Prop := ∃ low high, failure = .invertedPrice low high

/-- The failures of reading loose data as criteria. -/
def Failure.OfReading : Failure → Prop
  | .unsupportedCriteria _ | .invertedPrice .. => True
  | failure => failure.OfOddField

lemma Failure.OfOddField.ofReading {failure : Failure} (h : failure.OfOddField) :
    failure.OfReading := by
  cases failure <;> trivial

namespace Criteria

open Failure (OfOddField)
open Outcome (FailsAs failsAs_ok failsAs_error)

variable {strict : Bool} {low high v : Value} {r : Record}

lemma wording?_failsAs (v : Value) : FailsAs OfOddField v.wording? := by
  unfold Value.wording?
  split
  · split
    · exact failsAs_ok _
    · exact failsAs_error trivial
  all_goals exact failsAs_ok _

lemma placeName?_failsAs (v : Value) : FailsAs OfOddField v.placeName? :=
  (wording?_failsAs v).bind fun _ => failsAs_ok _

lemma words_failsAs (v : Value) : FailsAs OfOddField v.words := by
  unfold Value.words
  split
  · exact failsAs_ok _
  · exact (FailsAs.mapM wording?_failsAs _).bind fun _ => failsAs_ok _

lemma days?_failsAs (allowToday : Bool) (v : Value) : FailsAs OfOddField (v.days? allowToday) := by
  refine (wording?_failsAs v).bind fun wording => ?_
  cases wording with
  | none => exact failsAs_ok _
  | some s =>
    change FailsAs OfOddField (Value.days?.count? allowToday s)
    unfold Value.days?.count?
    dsimp only
    split
    · exact failsAs_ok _
    · split
      · exact failsAs_ok _
      · split
        · exact failsAs_error trivial
        · exact failsAs_ok _

lemma amount?_failsAs (v : Value) : FailsAs OfOddField v.amount? := by
  unfold Value.amount?
  split
  · split
    · exact failsAs_ok _
    · exact failsAs_error trivial
  all_goals exact failsAs_ok _

lemma limit?_failsAs (v : Value) : FailsAs OfOddField v.limit? := by
  refine (amount?_failsAs v).bind fun x => ?_
  cases x <;> exact failsAs_ok _

lemma ofValue?_failsAs (v : Value) : FailsAs OfOddField (Town.ofValue? v) := by
  have hparts (city neighborhood : Value) :
      FailsAs OfOddField (Town.ofParts? city neighborhood) :=
    (wording?_failsAs city).bind fun _ => (wording?_failsAs neighborhood).bind fun _ =>
      failsAs_ok _
  unfold Town.ofValue?
  split
  · exact hparts _ _
  · exact hparts _ _
  · exact failsAs_ok _

lemma selection_failsAs (v : Value) : FailsAs OfOddField (Town.selection v) := by
  have hselect (items : List Value) : FailsAs OfOddField (Town.selection.select items) :=
    (FailsAs.mapM ofValue?_failsAs items).bind fun _ => failsAs_ok _
  unfold Town.selection
  split
  · exact failsAs_ok _
  · split
    · exact hselect _
    · exact hselect _
    · exact hselect _
    · exact failsAs_error trivial

lemma readBounds_failsAs : FailsAs OfOddField (readBounds low high) :=
  (amount?_failsAs low).bind fun _ => (amount?_failsAs high).bind fun _ => failsAs_ok _

lemma readOrder_failsAs (r : Record) : FailsAs OfOddField (readOrder r) :=
  (wording?_failsAs _).bind fun _ => (wording?_failsAs _).bind fun _ =>
    (wording?_failsAs _).bind fun _ => failsAs_ok _

lemma readPlace_failsAs (r : Record) : FailsAs OfOddField (readPlace r) :=
  (placeName?_failsAs _).bind fun _ => (placeName?_failsAs _).bind fun _ =>
    (selection_failsAs _).bind fun _ => failsAs_ok _

lemma readKeywords_failsAs (r : Record) : FailsAs OfOddField (readKeywords r) :=
  (wording?_failsAs _).bind fun _ => (wording?_failsAs _).bind fun _ =>
    (wording?_failsAs _).bind fun _ => failsAs_ok _

/-- Lenient reading mends a price in the wrong order. -/
lemma readPrice_false_failsAs (r : Record) : FailsAs OfOddField (readPrice false r) :=
  readBounds_failsAs.bind fun _ => failsAs_ok _

lemma readPrice_failsAs : FailsAs Failure.OfReading (readPrice strict r) := by
  refine (readBounds_failsAs.mono fun _ => OfOddField.ofReading).bind fun bounds => ?_
  dsimp only
  split
  · unfold PriceBounds.check
    split
    · exact failsAs_error trivial
    · exact failsAs_ok _
  · exact failsAs_ok _

/-- Where the order and the place can be read and the price cannot, the price is what is
reported. -/
lemma read_eq_error_of_readPrice {order : Option String × Direction} {place : Place}
    {failure : Failure} (horder : readOrder r = .ok order) (hplace : readPlace r = .ok place)
    (hprice : readPrice strict r = .error failure) : read strict (.object r) = .error failure := by
  rw [read, ofRecord, horder]
  change (readPlace r >>= _) = _
  rw [hplace]
  change (readPrice strict r >>= _) = _
  rw [hprice]
  rfl

/-- All but the price fails for odd fields only. -/
lemma ofRecord_failsAs {kind : Failure → Prop} (hodd : ∀ failure, failure.OfOddField → kind failure)
    (hprice : FailsAs kind (readPrice strict r)) : FailsAs kind (ofRecord strict r) := by
  refine ((readOrder_failsAs r).mono hodd).bind fun order =>
    ((readPlace_failsAs r).mono hodd).bind fun place => hprice.bind fun price => ?_
  refine FailsAs.mono ?_ hodd
  refine (words_failsAs _).bind fun propertyTypes => (words_failsAs _).bind fun statuses => ?_
  iterate 6 refine readBounds_failsAs.bind fun bounds => ?_
  refine (readKeywords_failsAs r).bind fun keywords => ?_
  iterate 4 refine (wording?_failsAs _).bind fun wording => ?_
  iterate 2 refine (days?_failsAs _ _).bind fun days => ?_
  exact (amount?_failsAs _).bind fun priceCap => (limit?_failsAs _).bind fun limit => failsAs_ok _

lemma read_false_failsAs (r : Record) : FailsAs OfOddField (read false (.object r)) :=
  ofRecord_failsAs (fun _ h => h) (readPrice_false_failsAs r)

/-- Nothing else can be wrong with loose data. -/
lemma read_failsAs : FailsAs Failure.OfReading (read strict v) := by
  cases v with
  | null => exact failsAs_ok _
  | object r => exact ofRecord_failsAs (fun _ => OfOddField.ofReading) readPrice_failsAs
  | _ => exact failsAs_error trivial

end Criteria
end ListingSearch
