import ListingSearch.Proofs.Binary64.Numeral
import ListingSearch.Proofs.Binary64.Range
import ListingSearch.Proofs.Criteria.Canonical
import ListingSearch.Proofs.Criteria.Failures

/-! Which filters can be read. Values that mean nothing are dropped, with three exceptions: a single
number or truth value cannot stand for the towns, an integer beyond all binary64 numbers cannot
stand where an amount is asked for, and one of too many digits cannot stand for a text or a number
of days, nor among texts. -/
namespace ListingSearch

open Failure (OfOddField OfPriceOrder)
open Outcome (FailsAs bind_succeeds_iff mapM_succeeds_iff)

namespace Value

/-- The value is no integer beyond all binary64 numbers. -/
def Countable (v : Value) : Prop := ∀ n, v = .int n → n.natAbs + 2 ^ 970 < 2 ^ 1024

/-- The value is no integer of too many digits. -/
def Writable (v : Value) : Prop := ∀ n, v = .int n → n.natAbs < 10 ^ Text.digitLimit

/-- The value is no integer of too many digits and no text that begins with too many. -/
structure Datable (v : Value) : Prop where
  writable : v.Writable
  digits : ∀ s, v = .text s →
    ((Text.trim s).toList.takeWhile Text.isDigit).length ≤ Text.digitLimit

/-- No member of the value is an integer of too many digits. -/
def WritableMembers (v : Value) : Prop := ∀ items, v.members? = some items → ∀ w ∈ items, w.Writable

/-- The parts of a town that an object gives are no integers of too many digits. -/
def NamesTown (v : Value) : Prop := ∀ entries, v = .object entries →
  (Record.get entries "city").Writable ∧ (Record.get entries "neighborhood").Writable

/-- The value is no number, and no object in it gives a town with a part of too many digits. -/
structure NamesTowns (v : Value) : Prop where
  notNumber : v.number? = none
  single : v.NamesTown
  each : ∀ items, v = .list items → ∀ w ∈ items, w.NamesTown

end Value

namespace Field

/-- The value can be read for the field. -/
def Accepts : Field → Value → Prop
  | propertyTypes | statuses => Value.WritableMembers
  | towns => Value.NamesTowns
  | listDate | offMarketWindow => Value.Datable
  | hasNoMin | hasNoMax | onlyOpenHouses => fun _ => True
  | state | county | zipCode | streetNumber | streetName | listingNumber | keywordsInclude
  | keywordsExclude | keywordMode | sortColumn | sortDirection | sortPreset => Value.Writable
  | priceMin | priceMax | bedsMin | bedsMax | bathsMin | bathsMax | sqftMin | sqftMax
  | yearBuiltMin | yearBuiltMax | parkingMin | parkingMax | lotSizeMin | lotSizeMax
  | maxPricePerSqft | limit => Value.Countable

/-- The fields that are read before the price, in the order of reading. -/
def beforePrice : List Field := [sortColumn, sortDirection, sortPreset, state, county, towns]

/-- The fields that are read after the price and can be odd, in the order of reading. -/
def afterPrice : List Field :=
  [propertyTypes, statuses, bedsMin, bedsMax, bathsMin, bathsMax, sqftMin, sqftMax, yearBuiltMin,
    yearBuiltMax, parkingMin, parkingMax, lotSizeMin, lotSizeMax, keywordsInclude, keywordsExclude,
    keywordMode, zipCode, streetNumber, streetName, listingNumber, listDate, offMarketWindow,
    maxPricePerSqft, limit]

lemma forall_accepts_iff (values : Field → Value) : (∀ f : Field, f.Accepts (values f)) ↔
    (∀ f ∈ beforePrice, f.Accepts (values f)) ∧
      ((values priceMin).Countable ∧ (values priceMax).Countable) ∧
      ∀ f ∈ afterPrice, f.Accepts (values f) := by
  constructor
  · exact fun h => ⟨fun f _ => h f, ⟨h priceMin, h priceMax⟩, fun f _ => h f⟩
  · rintro ⟨hbefore, ⟨hmin, hmax⟩, hafter⟩ f
    have hplace : f ∈ beforePrice ∨ f ∈ afterPrice ∨ f = priceMin ∨ f = priceMax ∨
        f ∈ [hasNoMin, hasNoMax, onlyOpenHouses] := by
      cases f <;> decide
    rcases hplace with hf | hf | rfl | rfl | hf
    · exact hbefore f hf
    · exact hafter f hf
    · exact hmin
    · exact hmax
    · simp only [List.mem_cons, List.not_mem_nil, or_false] at hf
      rcases hf with rfl | rfl | rfl <;> trivial

end Field

def Record.Readable (r : Record) : Prop := ∀ f : Field, f.Accepts (r.pick f)

/-- The price bounds that are given are in order, or one of them is overridden. -/
def Record.PricesInOrder (r : Record) : Prop :=
  ∀ low high, (r.pick .priceMin).amount? = .ok (some low) →
    (r.pick .priceMax).amount? = .ok (some high) → (r.pick .hasNoMin).ticked = false →
    (r.pick .hasNoMax).ticked = false → high.lt low = false

namespace Criteria

variable {v low high : Value} {r : Record}

lemma writable_text (s : String) : (Value.text s).Writable := by rintro n ⟨⟩

lemma wording?_succeeds_iff (v : Value) : (∃ s, v.wording? = .ok s) ↔ v.Writable := by
  cases v with
  | int n =>
    have hdigits : Binary64.digitCount n.natAbs ≤ Text.digitLimit ↔
        n.natAbs < 10 ^ Text.digitLimit :=
      Binary64.digitCount_le_iff (by decide)
    simp only [Value.wording?, Value.Writable, Value.int.injEq, forall_eq', ← hdigits]
    split
    · exact iff_of_true ⟨_, rfl⟩ ‹_›
    · exact iff_of_false (Outcome.not_succeeds_error _) ‹_›
  | _ => exact iff_of_true ⟨_, rfl⟩ (by rintro n ⟨⟩)

lemma placeName?_succeeds_iff (v : Value) : (∃ s, v.placeName? = .ok s) ↔ v.Writable := by
  rw [Value.placeName?, bind_succeeds_iff (P := True), and_true, wording?_succeeds_iff]
  exact fun s => iff_of_true ⟨_, rfl⟩ trivial

/-- A text with too many digits at its beginning is none of the words that stand for something
else. -/
lemma count?_succeeds_iff (allowToday : Bool) (s : String) :
    (∃ n, Value.days?.count? allowToday s = .ok n) ↔
      (s.toList.takeWhile Text.isDigit).length ≤ Text.digitLimit := by
  have hword {word : String} (hword : word.toList.head?.any Text.isDigit = false)
      (h : Text.lower s = word) : (s.toList.takeWhile Text.isDigit).length ≤ Text.digitLimit := by
    rw [Text.takeWhile_isDigit_of_lower hword h]
    exact Nat.zero_le _
  unfold Value.days?.count?
  dsimp only
  split
  · rename_i hall
    rw [Value.standsForAll, Bool.or_eq_true, beq_iff_eq, beq_iff_eq] at hall
    exact iff_of_true ⟨_, rfl⟩ (hall.elim (hword (by decide)) (hword (by decide)))
  · split
    · rename_i htoday
      exact iff_of_true ⟨_, rfl⟩ (hword (by decide) htoday)
    · split
      · exact iff_of_false (Outcome.not_succeeds_error _) (not_le.2 ‹_›)
      · exact iff_of_true ⟨_, rfl⟩ (not_lt.1 ‹_›)

lemma days?_succeeds_iff_of_wording? {s : String} (h : v.wording? = .ok (some s))
    (allowToday : Bool) : (∃ n, v.days? allowToday = .ok n) ↔
      (s.toList.takeWhile Text.isDigit).length ≤ Text.digitLimit := by
  rw [Value.days?_of_wording? h, count?_succeeds_iff]

lemma days?_succeeds_of_wording? (h : v.wording? = .ok none) (allowToday : Bool) :
    ∃ n, v.days? allowToday = .ok n := by
  rw [Value.days?, h]
  exact ⟨none, rfl⟩

lemma days?_int_succeeds_iff (n : Int) (allowToday : Bool) :
    (∃ days, (Value.int n).days? allowToday = .ok days) ↔ (Value.int n).Writable := by
  constructor
  · rintro ⟨days, h⟩
    obtain ⟨wording, hwording, -⟩ := Outcome.bind_eq_ok h
    exact (wording?_succeeds_iff _).1 ⟨wording, hwording⟩
  · intro h
    have hdigits : Binary64.digitCount n.natAbs ≤ Text.digitLimit :=
      (Binary64.digitCount_le_iff (by decide)).2 (h n rfl)
    have hwording : (Value.int n).wording? = .ok (some (toString n)) := if_pos hdigits
    exact (days?_succeeds_iff_of_wording? hwording _).2
      ((Text.length_takeWhile_toString_le n).trans hdigits)

lemma days?_succeeds_iff (allowToday : Bool) (v : Value) :
    (∃ n, v.days? allowToday = .ok n) ↔ v.Datable := by
  cases v with
  | int n =>
    rw [days?_int_succeeds_iff]
    exact ⟨fun h => ⟨h, by rintro s ⟨⟩⟩, fun h => h.writable⟩
  | float x =>
    refine iff_of_true ?_ ⟨by rintro n ⟨⟩, by rintro s ⟨⟩⟩
    exact (days?_succeeds_iff_of_wording? rfl _).2
      ((Binary64.length_takeWhile_text_le x).trans (by decide))
  | text s =>
    have hdatable : (Value.text s).Datable ↔
        ((Text.trim s).toList.takeWhile Text.isDigit).length ≤ Text.digitLimit :=
      ⟨fun h => h.digits s rfl, fun h => ⟨writable_text s, fun t ht => Value.text.inj ht ▸ h⟩⟩
    rw [hdatable]
    by_cases hempty : Text.trim s = ""
    · refine iff_of_true (days?_succeeds_of_wording? ?_ _) (by simp [hempty])
      exact congrArg Except.ok (if_pos hempty)
    · have hwording : (Value.text s).wording? = .ok (some (Text.trim s)) :=
        congrArg Except.ok (if_neg hempty)
      exact days?_succeeds_iff_of_wording? hwording _
  | _ =>
    exact iff_of_true (days?_succeeds_of_wording? rfl _) ⟨by rintro n ⟨⟩, by rintro s ⟨⟩⟩

lemma writable_texts {α : Type} (f : α → String) (xs : List α) :
    ∀ w ∈ xs.map fun x => Value.text (f x), w.Writable := by
  intro w hw
  obtain ⟨x, -, rfl⟩ := List.mem_map.1 hw
  exact writable_text (f x)

lemma pieces_writable_iff (v : Value) :
    (∀ w ∈ Value.words.pieces v, w.Writable) ↔ v.WritableMembers := by
  cases v with
  | text s =>
    refine iff_of_true (writable_texts id _) ?_
    rintro items ⟨⟩
    exact writable_texts _ _
  | object entries =>
    refine iff_of_true (writable_texts _ _) ?_
    rintro items ⟨⟩
    exact writable_texts _ _
  | list items =>
    refine ⟨?_, fun h => h items rfl⟩
    rintro h items ⟨⟩
    exact h
  | _ => exact iff_of_true (by rintro w ⟨⟩) (by rintro items ⟨⟩)

lemma words_succeeds_iff (v : Value) : (∃ set, v.words = .ok set) ↔ v.WritableMembers := by
  rw [← pieces_writable_iff, Value.words]
  split
  · rename_i hblank
    refine iff_of_true ⟨_, rfl⟩ ?_
    cases v with
    | text s => exact writable_texts id _
    | object entries => exact writable_texts _ _
    | list items =>
      obtain rfl := List.isEmpty_iff.1 hblank
      rintro w ⟨⟩
    | _ => rintro w ⟨⟩
  · rw [bind_succeeds_iff (P := True), and_true, mapM_succeeds_iff]
    · simp only [wording?_succeeds_iff]
    · exact fun wordings => iff_of_true ⟨_, rfl⟩ trivial

lemma ofParts?_succeeds_iff (city neighborhood : Value) :
    (∃ town, Town.ofParts? city neighborhood = .ok town) ↔
      city.Writable ∧ neighborhood.Writable := by
  rw [Town.ofParts?, bind_succeeds_iff (P := neighborhood.Writable), wording?_succeeds_iff]
  intro name
  rw [bind_succeeds_iff (P := True), wording?_succeeds_iff, and_true]
  exact fun part => iff_of_true ⟨_, rfl⟩ trivial

lemma ofValue?_succeeds_iff (v : Value) : (∃ town, Town.ofValue? v = .ok town) ↔ v.NamesTown := by
  cases v with
  | object entries =>
    simp only [Town.ofValue?, Value.NamesTown, Value.object.injEq, forall_eq',
      ofParts?_succeeds_iff]
  | text s =>
    refine iff_of_true ?_ (by rintro entries ⟨⟩)
    exact (ofParts?_succeeds_iff _ _).2 ⟨writable_text _, writable_text _⟩
  | _ => exact iff_of_true ⟨_, rfl⟩ (by rintro entries ⟨⟩)

lemma select_succeeds_iff (items : List Value) :
    (∃ towns, Town.selection.select items = .ok towns) ↔ ∀ w ∈ items, w.NamesTown := by
  rw [Town.selection.select, bind_succeeds_iff (P := True), and_true, mapM_succeeds_iff]
  · simp only [ofValue?_succeeds_iff]
  · exact fun towns => iff_of_true ⟨_, rfl⟩ trivial

lemma namesTown_empty : (Value.object []).NamesTown := by
  rintro entries ⟨⟩
  exact ⟨by rintro n ⟨⟩, by rintro n ⟨⟩⟩

lemma selection_succeeds_iff (v : Value) :
    (∃ towns, Town.selection v = .ok towns) ↔ v.NamesTowns := by
  have hnumber {w : Value} (hselection : Town.selection w = .error .notCollection)
      (hw : w.number? ≠ none) : (∃ towns, Town.selection w = .ok towns) ↔ w.NamesTowns := by
    rw [hselection]
    exact iff_of_false (Outcome.not_succeeds_error _) fun h => hw h.notNumber
  cases v with
  | bool b => exact hnumber rfl (by simp [Value.number?])
  | int n => exact hnumber rfl (by simp [Value.number?])
  | float x => exact hnumber rfl (by simp [Value.number?])
  | null => exact iff_of_true ⟨_, rfl⟩ ⟨rfl, by rintro entries ⟨⟩, by rintro items ⟨⟩⟩
  | text s =>
    refine iff_of_true ?_ ⟨rfl, by rintro entries ⟨⟩, by rintro items ⟨⟩⟩
    unfold Town.selection
    split
    · exact ⟨_, rfl⟩
    · exact (select_succeeds_iff _).2 (List.forall_mem_singleton.2 (by rintro entries ⟨⟩))
  | object entries =>
    have hnames : (Value.object entries).NamesTowns ↔ (Value.object entries).NamesTown :=
      ⟨fun h => h.single, fun h => ⟨rfl, h, by rintro items ⟨⟩⟩⟩
    rw [hnames]
    cases entries with
    | nil => exact iff_of_true ⟨_, rfl⟩ namesTown_empty
    | cons entry rest => exact (select_succeeds_iff _).trans List.forall_mem_singleton
  | list items =>
    have hnames : (Value.list items).NamesTowns ↔ ∀ w ∈ items, w.NamesTown :=
      ⟨fun h => h.each items rfl, fun h =>
        ⟨rfl, by rintro entries ⟨⟩, fun others hothers => Value.list.inj hothers ▸ h⟩⟩
    rw [hnames]
    cases items with
    | nil => exact iff_of_true ⟨_, rfl⟩ (by rintro w ⟨⟩)
    | cons item rest => exact select_succeeds_iff _

lemma readOrder_succeeds_iff : (∃ order, readOrder r = .ok order) ↔
    (r.pick .sortColumn).Writable ∧ (r.pick .sortDirection).Writable ∧
      (r.pick .sortPreset).Writable := by
  refine (bind_succeeds_iff fun column => bind_succeeds_iff fun direction =>
    bind_succeeds_iff fun name => iff_of_true ⟨_, rfl⟩ trivial).trans ?_
  simp only [wording?_succeeds_iff, and_true]

lemma readPlace_succeeds_iff : (∃ place, readPlace r = .ok place) ↔
    (r.pick .state).Writable ∧ (r.pick .county).Writable ∧ (r.pick .towns).NamesTowns := by
  refine (bind_succeeds_iff fun state => bind_succeeds_iff fun county =>
    bind_succeeds_iff fun towns => iff_of_true ⟨_, rfl⟩ trivial).trans ?_
  simp only [placeName?_succeeds_iff, selection_succeeds_iff, and_true]

lemma readKeywords_succeeds_iff : (∃ keywords, readKeywords r = .ok keywords) ↔
    (r.pick .keywordsInclude).Writable ∧ (r.pick .keywordsExclude).Writable ∧
      (r.pick .keywordMode).Writable := by
  refine (bind_succeeds_iff fun wanted => bind_succeeds_iff fun unwanted =>
    bind_succeeds_iff fun mode => iff_of_true ⟨_, rfl⟩ trivial).trans ?_
  simp only [wording?_succeeds_iff, and_true]

lemma amount?_succeeds_iff (v : Value) : (∃ x, v.amount? = .ok x) ↔ v.Countable := by
  cases v with
  | int n =>
    have hrange := Binary64.ofInt?_eq_none_iff n
    simp only [Value.amount?, Value.Countable, Value.int.injEq, forall_eq']
    cases hread : Binary64.ofInt? n with
    | some x => exact iff_of_true ⟨x, rfl⟩ (not_le.1 fun hle => by simp [hrange.2 hle] at hread)
    | none => exact iff_of_false (Outcome.not_succeeds_error _) (not_lt.2 (hrange.1 hread))
  | _ => exact iff_of_true ⟨_, rfl⟩ (by rintro n ⟨⟩)

lemma limit?_succeeds_iff (v : Value) : (∃ n, v.limit? = .ok n) ↔ v.Countable := by
  rw [Value.limit?, bind_succeeds_iff (P := True), and_true, amount?_succeeds_iff]
  intro x
  cases x <;> exact iff_of_true ⟨_, rfl⟩ trivial

lemma readBounds_succeeds_iff :
    (∃ b, readBounds low high = .ok b) ↔ low.Countable ∧ high.Countable := by
  rw [readBounds, bind_succeeds_iff (P := high.Countable), amount?_succeeds_iff]
  intro min
  rw [bind_succeeds_iff (P := True), amount?_succeeds_iff, and_true]
  exact fun max => iff_of_true ⟨_, rfl⟩ trivial

lemma readPrice_false_succeeds_iff : (∃ p, readPrice false r = .ok p) ↔
    (r.pick .priceMin).Countable ∧ (r.pick .priceMax).Countable := by
  rw [readPrice, bind_succeeds_iff (P := True), readBounds_succeeds_iff, and_true]
  exact fun b => iff_of_true ⟨_, rfl⟩ trivial

lemma check_succeeds_iff (p : PriceBounds) :
    (∃ q, p.check = .ok q) ↔
      ∀ low high, p.min = some low → p.max = some high → p.noMin = false → p.noMax = false →
        high.lt low = false := by
  obtain ⟨⟨min, max⟩, noMin, noMax⟩ := p
  cases noMin <;> cases noMax <;> cases min <;> cases max <;>
    simp [PriceBounds.check, PriceBounds.inversion?, PriceBounds.effectiveMin,
      PriceBounds.effectiveMax]
  rename_i low high
  cases high.lt low <;> simp

lemma readPrice_true_succeeds_iff : (∃ p, readPrice true r = .ok p) ↔
    ((r.pick .priceMin).Countable ∧ (r.pick .priceMax).Countable) ∧ r.PricesInOrder := by
  rw [← amount?_succeeds_iff, ← amount?_succeeds_iff, Record.PricesInOrder]
  constructor
  · rintro ⟨p, h⟩
    obtain ⟨b, hb, h⟩ := Outcome.bind_eq_ok h
    obtain ⟨min, hmin, hb⟩ := Outcome.bind_eq_ok hb
    obtain ⟨max, hmax, hb⟩ := Outcome.bind_eq_ok hb
    cases hb
    refine ⟨⟨⟨min, hmin⟩, max, hmax⟩, fun low high hlow hhigh => ?_⟩
    exact (check_succeeds_iff _).1 ⟨p, h⟩ low high (Except.ok.inj (hmin.symm.trans hlow))
      (Except.ok.inj (hmax.symm.trans hhigh))
  · rintro ⟨⟨⟨min, hmin⟩, max, hmax⟩, horder⟩
    simp only [readPrice, readBounds, hmin, hmax]
    refine (check_succeeds_iff _).2 fun low high hlow hhigh => ?_
    exact horder low high (hmin.trans (congrArg _ hlow)) (hmax.trans (congrArg _ hhigh))

/-- A filter can be read just if its price can, and every field that is read before or after it. -/
lemma read_succeeds_iff (strict : Bool) : (∃ c, read strict (.object r) = .ok c) ↔
    (∀ f ∈ Field.beforePrice, f.Accepts (r.pick f)) ∧ (∃ p, readPrice strict r = .ok p) ∧
      ∀ f ∈ Field.afterPrice, f.Accepts (r.pick f) := by
  refine (bind_succeeds_iff fun order => bind_succeeds_iff fun place =>
    bind_succeeds_iff fun price => bind_succeeds_iff fun propertyTypes =>
    bind_succeeds_iff fun statuses => bind_succeeds_iff fun beds => bind_succeeds_iff fun baths =>
    bind_succeeds_iff fun sqft => bind_succeeds_iff fun yearBuilt =>
    bind_succeeds_iff fun parking => bind_succeeds_iff fun lotSize =>
    bind_succeeds_iff fun keywords => bind_succeeds_iff fun zipCode =>
    bind_succeeds_iff fun streetNumber => bind_succeeds_iff fun streetName =>
    bind_succeeds_iff fun listingNumber => bind_succeeds_iff fun listedDays =>
    bind_succeeds_iff fun changedDays => bind_succeeds_iff fun priceCap =>
    bind_succeeds_iff fun limit => iff_of_true ⟨_, rfl⟩ trivial).trans ?_
  simp only [readOrder_succeeds_iff, readPlace_succeeds_iff, words_succeeds_iff,
    readBounds_succeeds_iff, readKeywords_succeeds_iff, wording?_succeeds_iff, days?_succeeds_iff,
    amount?_succeeds_iff, limit?_succeeds_iff, and_true, and_assoc, Field.beforePrice,
    Field.afterPrice, List.forall_mem_cons, List.not_mem_nil, false_implies, implies_true,
    Field.Accepts]

lemma read_false_succeeds_iff : (∃ c, read false (.object r) = .ok c) ↔ r.Readable := by
  rw [read_succeeds_iff, readPrice_false_succeeds_iff]
  exact (Field.forall_accepts_iff r.pick).symm

lemma readPrice_failsAs_ofPriceOrder (hmin : (r.pick .priceMin).Countable)
    (hmax : (r.pick .priceMax).Countable) : FailsAs OfPriceOrder (readPrice true r) := by
  refine (Outcome.failsAs_of_succeeds (readBounds_succeeds_iff.2 ⟨hmin, hmax⟩)).bind fun b => ?_
  dsimp only
  rw [if_pos rfl, PriceBounds.check]
  split
  · exact Outcome.failsAs_error ⟨_, _, rfl⟩
  · exact Outcome.failsAs_ok _

/-- Where a filter can be read leniently, strict reading refuses only prices in the wrong order. -/
lemma read_failsAs_ofPriceOrder (h : r.Readable) :
    FailsAs OfPriceOrder (read true (.object r)) := by
  intro failure hfailure
  obtain ⟨hbefore, ⟨hmin, hmax⟩, hafter⟩ := (Field.forall_accepts_iff r.pick).1 h
  cases hprice : readPrice true r with
  | error other =>
    obtain ⟨order, horder⟩ := readOrder_succeeds_iff.2
      ⟨h .sortColumn, h .sortDirection, h .sortPreset⟩
    obtain ⟨place, hplace⟩ := readPlace_succeeds_iff.2 ⟨h .state, h .county, h .towns⟩
    rw [read_eq_error_of_readPrice horder hplace hprice] at hfailure
    cases hfailure
    exact readPrice_failsAs_ofPriceOrder hmin hmax _ hprice
  | ok price =>
    obtain ⟨c, hc⟩ := (read_succeeds_iff true).2 ⟨hbefore, ⟨price, hprice⟩, hafter⟩
    rw [hc] at hfailure
    cases hfailure

/-- A filter can be read leniently just if it is readable, and strictly if moreover its prices are
in order. Lenient reading fails for odd fields only, and where it does not, strict reading refuses
nothing but the order of the prices. -/
lemma read_filter (r : Record) :
    ((∃ c, read false (.object r) = .ok c) ↔ r.Readable) ∧
      ((∃ c, read true (.object r) = .ok c) ↔ r.Readable ∧ r.PricesInOrder) ∧
      FailsAs OfOddField (read false (.object r)) ∧
      (r.Readable → FailsAs OfPriceOrder (read true (.object r))) := by
  refine ⟨read_false_succeeds_iff, ?_, read_false_failsAs r, read_failsAs_ofPriceOrder⟩
  rw [read_succeeds_iff, readPrice_true_succeeds_iff, Record.Readable, Field.forall_accepts_iff]
  tauto

end Criteria
end ListingSearch
