import ListingSearch.Proofs.Binary64.Decimal
import ListingSearch.Proofs.Criteria.Canonical
import ListingSearch.Proofs.Criteria.Document

/-! Storing criteria and reading them again. Criteria in canonical form are read back from their
document as they were, except that a zero loses its sign; so they are equal to what was stored, and
their document is the same one again. -/
namespace ListingSearch

open Text (Trimmed)

namespace Binary64

variable {x y : Binary64}

lemma reread_of_toInt?_eq_none (h : x.toInt? = none) : x.reread = x := by
  unfold reread
  split
  · simp [toInt?] at h
  · rfl

lemma reread_reread (x : Binary64) : x.reread.reread = x.reread := by
  rcases x with ⟨_ | _, _ | m, q, h⟩ | negative | _ <;> rfl

lemma stored_reread (x : Binary64) : x.reread.stored = x.stored := by
  cases h : x.toInt? with
  | some n => rw [stored, stored, toInt?_reread, h]
  | none => rw [reread_of_toInt?_eq_none h]

lemma isBlank_stored (x : Binary64) : x.stored.isBlank = false := by
  unfold stored
  split <;> rfl

/-- A finite number is read from its stored form, a zero without its sign. -/
lemma amount?_stored (hx : x.isFinite = true) : x.stored.amount? = .ok (some x.reread) := by
  cases h : x.toInt? with
  | some n => simp only [stored, h, Value.amount?, ofInt?_of_toInt? h]
  | none =>
    simp only [stored, h, Value.amount?, Value.amount?.finite, hx, if_true,
      reread_of_toInt?_eq_none h]

end Binary64

def Bounds.reread (b : Bounds) : Bounds := ⟨b.min.map Binary64.reread, b.max.map Binary64.reread⟩

def PriceBounds.reread (p : PriceBounds) : PriceBounds := { p with toBounds := p.toBounds.reread }

def Criteria.reread (c : Criteria) : Criteria :=
  { c with
    price := c.price.reread, beds := c.beds.reread, baths := c.baths.reread,
    sqft := c.sqft.reread, yearBuilt := c.yearBuilt.reread, parking := c.parking.reread,
    lotSize := c.lotSize.reread, maxPricePerSqft := c.maxPricePerSqft.map Binary64.reread }

namespace PriceBounds

variable {p : PriceBounds}

lemma inversion?_reread (h : p.inversion? = none) : p.reread.inversion? = none := by
  obtain ⟨⟨min, max⟩, noMin, noMax⟩ := p
  cases min <;> cases max <;> cases noMin <;> cases noMax <;>
    simp_all [inversion?, effectiveMin, effectiveMax, reread, Bounds.reread, Binary64.lt_reread]

end PriceBounds

namespace Value

variable {s : String} {text : Option String}

lemma wording?_text (h : Trimmed s) : (Value.text s).wording? = .ok (some s) := by
  simp [wording?, wording?.nonempty, h.2, h.1]

lemma nonemptyText_eq_map (h : ∀ s ∈ text, Trimmed s) :
    Criteria.nonemptyText text = text.map .text := by
  cases text with
  | none => rfl
  | some s => exact if_neg (h s rfl).1

lemma isBlank_map {α : Type} {f : α → Value} {x : Option α}
    (h : ∀ a ∈ x, (f a).isBlank = false) : ∀ v ∈ x.map f, v.isBlank = false := by
  intro v hv
  obtain ⟨a, ha, rfl⟩ := Option.map_eq_some_iff.1 hv
  exact h a ha

lemma isBlank_text (h : ∀ s ∈ text, Trimmed s) : ∀ v ∈ text.map Value.text, v.isBlank = false :=
  isBlank_map fun s hs => (h s hs).isBlank_eq_false

lemma wording?_stored (h : ∀ s ∈ text, Trimmed s) :
    ((text.map Value.text).getD .null).wording? = .ok text := by
  cases text with
  | none => rfl
  | some s => exact wording?_text (h s rfl)

lemma wording?_nonemptyText (h : ∀ s ∈ text, Trimmed s) :
    ((Criteria.nonemptyText text).getD .null).wording? = .ok text := by
  rw [nonemptyText_eq_map h, wording?_stored h]

lemma placeName?_nonemptyText (h : ∀ s ∈ text, IsPlaceName s) :
    ((Criteria.nonemptyText text).getD .null).placeName? = .ok text := by
  rw [placeName?, wording?_nonemptyText fun s hs => (h s hs).1]
  change Except.ok (text.filter _) = _
  cases text with
  | none => rfl
  | some s => simp [(h s rfl).2]

lemma ticked_stored (b : Bool) : ((Criteria.onlyTrue b).getD .null).ticked = b := by
  cases b <;> rfl

lemma mapM_wording? {texts : List String} (h : ∀ s ∈ texts, Trimmed s) :
    (texts.map Value.text).mapM wording? = .ok (texts.map some) := by
  rw [Outcome.mapM_eq_ok_iff, List.forall₂_map_left_iff, List.forall₂_map_right_iff,
    List.forall₂_same]
  exact fun s hs => wording?_text (h s hs)

lemma words_stored {set : TextSet} (h : ∀ s ∈ set, Trimmed s) :
    ((Criteria.nonemptySet set).getD .null).words = .ok set := by
  cases hempty : set.isEmpty with
  | true =>
    have hnil : set.toList = [] := List.isEmpty_iff.1 hempty
    rw [Criteria.nonemptySet, hempty]
    refine congrArg Except.ok (TextSet.ext fun s => ?_)
    rw [← TextSet.mem_toList (s := set), hnil]
    exact iff_of_false (TextSet.not_mem_empty s) List.not_mem_nil
  | false =>
    have hblank : (Value.ofTexts set.toList).isBlank = false := by
      simpa [Value.ofTexts, Value.isBlank, TextSet.isEmpty] using hempty
    have hread : (words.pieces (Value.ofTexts set.toList)).mapM wording? =
        .ok (set.toList.map some) :=
      mapM_wording? fun s hs => h s (TextSet.mem_toList.1 hs)
    rw [Criteria.nonemptySet, hempty]
    simp only [Bool.false_eq_true, if_false, Option.getD_some, words, hblank, hread]
    refine congrArg Except.ok (TextSet.ext fun s => ?_)
    simp

lemma amount?_stored {x : Option Binary64} (h : ∀ y ∈ x, y.isFinite = true) :
    ((x.map Binary64.stored).getD .null).amount? = .ok (x.map Binary64.reread) := by
  cases x with
  | none => rfl
  | some y => exact Binary64.amount?_stored (h y rfl)

lemma limit?_stored {limit : Option Nat} (h : ∀ n ∈ limit, IsLimit n) :
    ((limit.map fun n : Nat => Value.int n).getD .null).limit? = .ok limit := by
  cases limit with
  | none => rfl
  | some n =>
    obtain ⟨hpos, x, hx, hn⟩ := h n rfl
    have hint : x.toRat = ((n : Int) : ℚ) := by rw [hn, Int.cast_natCast]
    have hlt : x.reread.lt (.ofBool true) = false := by
      rw [← Bool.not_eq_true, Binary64.lt_iff (by rwa [Binary64.isFinite_reread]) rfl,
        Binary64.toRat_reread, Binary64.toRat_one, hn, not_lt]
      exact_mod_cast hpos
    have htruncate : x.reread.truncate = n := by
      rw [Binary64.truncate_of_toRat (by rwa [Binary64.isFinite_reread])]
      rw [Binary64.toRat_reread, hint]
    have hamount : (Value.int n).amount? = .ok (some x.reread) := by
      simp only [amount?, Binary64.ofInt?_of_toRat hx hint]
    rw [Option.map_some, Option.getD_some, limit?, hamount]
    change Except.ok (if x.reread.lt (.ofBool true) = true then none
      else some x.reread.truncate.toNat) = _
    rw [hlt, htruncate, Int.toNat_natCast]
    rfl

lemma wording?_natCast {n : Nat} (hn : n < 10 ^ Text.digitLimit) :
    (Value.int n).wording? = .ok (some (toString n)) := by
  have hdigits : Binary64.digitCount (n : Int).natAbs ≤ Text.digitLimit :=
    (Binary64.digitCount_le_iff (by decide)).2 hn
  rw [wording?, if_pos hdigits, Text.toString_natCast]

lemma count?_toString {n : Nat} (hpos : 1 ≤ n) (hn : n < 10 ^ Text.digitLimit)
    (allowToday : Bool) : days?.count? allowToday (toString n) = .ok (some n) := by
  have hall : standsForAll (toString n) = false := by
    simp only [standsForAll, Bool.or_eq_false_iff, beq_eq_false_iff_ne]
    exact ⟨Text.lower_toString_ne (by decide), Text.lower_toString_ne (by decide)⟩
  have htoday : Text.lower (toString n) ≠ "today" := Text.lower_toString_ne (by decide)
  have hdigits : (Nat.toDigits 10 n).length ≤ Text.digitLimit :=
    (Binary64.digitCount_le_iff (by decide)).2 hn
  simp only [days?.count?, hall, htoday, Text.takeWhile_toString, Text.digitsValue_toDigits,
    Bool.false_eq_true, if_false]
  rw [if_neg (not_lt.2 hdigits), if_neg (not_lt.2 hpos)]

lemma days?_int {n : Nat} (hpos : 1 ≤ n) (hn : n < 10 ^ Text.digitLimit) (allowToday : Bool) :
    (Value.int n).days? allowToday = .ok (some n) := by
  rw [days?_of_wording? (wording?_natCast hn), count?_toString hpos hn]

lemma listedDays_stored {days : Option Nat} (h : ∀ n ∈ days, n < 10 ^ Text.digitLimit) :
    ((days.map fun n : Nat => if n = 0 then Value.text "today" else .int n).getD .null).days? true =
      .ok days := by
  cases days with
  | none => rfl
  | some n =>
    rcases Nat.eq_zero_or_pos n with rfl | hn
    · decide +kernel
    · rw [Option.map_some, Option.getD_some, if_neg (by omega)]
      exact days?_int hn (h n rfl) true

lemma changedDays_stored {days : Option Nat}
    (h : ∀ n ∈ days, 1 ≤ n ∧ n < 10 ^ Text.digitLimit) :
    ((days.map fun n : Nat => Value.int n).getD .null).days? false = .ok days := by
  cases days with
  | none => rfl
  | some n => exact days?_int (h n rfl).1 (h n rfl).2 false

end Value

namespace Town

variable {towns : List Town}

lemma ofValue?_stored {town : Town} (h : town.Canonical) :
    ofValue? town.stored = .ok (some town) := by
  obtain ⟨city, neighborhood⟩ := town
  obtain ⟨hcity, hneighborhood⟩ := h
  have hname : (Value.ofText? neighborhood).wording? = .ok neighborhood := by
    cases neighborhood with
    | none => rfl
    | some n => exact Value.wording?_text (hneighborhood n rfl)
  simp only [ofValue?, stored, Record.get, Record.get?]
  change ofParts? (.text city) (Value.ofText? neighborhood) = _
  rw [ofParts?, Value.wording?_text hcity, hname]
  rfl

lemma select_stored (h : ∀ town ∈ towns, town.Canonical) (hnodup : towns.Nodup) :
    selection.select (towns.map stored) = .ok towns := by
  have hread : (towns.map stored).mapM ofValue? = .ok (towns.map some) := by
    rw [Outcome.mapM_eq_ok_iff, List.forall₂_map_left_iff, List.forall₂_map_right_iff,
      List.forall₂_same]
    exact fun town ht => ofValue?_stored (h town ht)
  rw [selection.select, hread]
  change Except.ok (distinct ((towns.map some).filterMap id)) = _
  rw [List.filterMap_map, Function.id_comp, List.filterMap_some, distinct_of_nodup hnodup]

lemma selection_stored (h : ∀ town ∈ towns, town.Canonical) (hnodup : towns.Nodup) :
    selection ((if towns = [] then none else some (.list (towns.map stored))).getD .null) =
      .ok towns := by
  split
  · rename_i hnil
    rw [hnil]
    rfl
  · rename_i hne
    simp only [Option.getD_some, selection, Value.isBlank, List.isEmpty_map, List.isEmpty_iff, hne,
      select_stored h hnodup, if_false]

end Town

namespace Criteria

variable {c : Criteria}

lemma isBlank_onlyTrue {b : Bool} : ∀ v ∈ onlyTrue b, v.isBlank = false := by
  cases b <;> simp [onlyTrue, Value.isBlank]

lemma isBlank_nonemptyText {text : Option String} (h : ∀ s ∈ text, Trimmed s) :
    ∀ v ∈ nonemptyText text, v.isBlank = false := by
  rw [Value.nonemptyText_eq_map h]
  exact Value.isBlank_text h

lemma isBlank_nonemptySet {set : TextSet} : ∀ v ∈ nonemptySet set, v.isBlank = false := by
  intro v hv
  unfold nonemptySet at hv
  split at hv
  · cases hv
  · rename_i hne
    cases hv
    simpa [Value.ofTexts, Value.isBlank, TextSet.isEmpty] using hne

lemma stored_limit (c : Criteria) : c.stored .limit = c.limit.map fun n : Nat => Value.int n := by
  cases h : c.limit <;> simp [stored, h]

lemma stored_offMarketWindow (c : Criteria) :
    c.stored .offMarketWindow = c.changedDays.map fun n : Nat => Value.int n := by
  cases h : c.changedDays <;> simp [stored, h]

lemma stored_listDate (c : Criteria) : c.stored .listDate =
    c.listedDays.map fun n : Nat => if n = 0 then Value.text "today" else .int n := by
  cases h : c.listedDays <;> simp [stored, h]

/-- Whatever is stored for a field gives some information. -/
lemma isBlank_stored (h : c.Canonical) (f : Field) : ∀ v ∈ c.stored f, v.isBlank = false := by
  cases f
  case state => exact isBlank_nonemptyText fun s hs => (h.state s hs).1
  case county => exact isBlank_nonemptyText fun s hs => (h.county s hs).1
  case keywordsInclude => exact isBlank_nonemptyText h.wanted
  case keywordsExclude => exact isBlank_nonemptyText h.unwanted
  case zipCode => exact Value.isBlank_text h.zipCode
  case streetNumber => exact Value.isBlank_text h.streetNumber
  case streetName => exact Value.isBlank_text h.streetName
  case listingNumber => exact Value.isBlank_text h.listingNumber
  case sortColumn => exact Value.isBlank_text h.sortColumn
  case towns =>
    intro v hv
    simp only [stored] at hv
    split at hv
    · cases hv
    · rename_i hne
      cases hv
      simpa [Value.isBlank] using hne
  case propertyTypes => exact isBlank_nonemptySet
  case statuses => exact isBlank_nonemptySet
  case hasNoMin => exact isBlank_onlyTrue
  case hasNoMax => exact isBlank_onlyTrue
  case onlyOpenHouses => exact isBlank_onlyTrue
  case keywordMode =>
    intro v hv
    simp only [stored] at hv
    split at hv
    · cases hv
      cases c.keywords.mode <;> decide
    · cases hv
  case limit =>
    rw [stored_limit]
    exact Value.isBlank_map fun _ _ => rfl
  case offMarketWindow =>
    rw [stored_offMarketWindow]
    exact Value.isBlank_map fun _ _ => rfl
  case listDate =>
    rw [stored_listDate]
    refine Value.isBlank_map fun n _ => ?_
    split
    · decide
    · rfl
  case sortDirection =>
    intro v hv
    cases hv
    cases c.direction <;> decide
  case sortPreset =>
    intro v hv
    cases hv
  -- What is left are the bounds and the cap.
  all_goals exact Value.isBlank_map fun x _ => x.isBlank_stored

lemma pick_stored (h : c.Canonical) (f : Field) : c.toDocument.pick f = (c.stored f).getD .null :=
  pick_toDocument (isBlank_stored h f)

lemma readBounds_stored {b : Bounds} (h : b.Finite) :
    readBounds ((b.min.map Binary64.stored).getD .null) ((b.max.map Binary64.stored).getD .null) =
      .ok b.reread := by
  rw [readBounds, Value.amount?_stored h.1, Value.amount?_stored h.2]
  rfl

lemma readPrice_toDocument (h : c.Canonical) (strict : Bool) :
    readPrice strict c.toDocument = .ok c.price.reread := by
  have hnone := PriceBounds.inversion?_reread h.ordered
  have hcheck : c.price.reread.check = .ok c.price.reread := by rw [PriceBounds.check, hnone]
  have hmend : c.price.reread.mend = c.price.reread := by rw [PriceBounds.mend, hnone]; rfl
  simp only [readPrice, pick_stored h, stored, readBounds_stored h.price, Value.ticked_stored]
  change (if strict = true then c.price.reread.check else .ok c.price.reread.mend) = _
  rw [hcheck, hmend, ite_self]

lemma wording?_direction (d : Direction) : (Value.text d.name).wording? = .ok (some d.name) :=
  Value.wording?_text (by cases d <;> exact Text.Visible.trimmed (by decide) (by decide))

lemma readOrder_toDocument (h : c.Canonical) :
    readOrder c.toDocument = .ok (c.sortColumn, c.direction) := by
  have hdirection : (if c.direction.name = "asc" then Direction.ascending else .descending) =
      c.direction := by
    cases c.direction <;> rfl
  have hcolumn : (c.toDocument.pick .sortColumn).wording? = .ok c.sortColumn := by
    rw [pick_stored h]
    exact Value.wording?_stored h.sortColumn
  have hname : (c.toDocument.pick .sortDirection).wording? = .ok (some c.direction.name) := by
    rw [pick_stored h]
    exact wording?_direction c.direction
  have hpreset : (c.toDocument.pick .sortPreset).wording? = .ok none := by
    rw [pick_stored h]
    rfl
  rw [readOrder, hcolumn, hname, hpreset]
  refine congrArg Except.ok ?_
  cases c.sortColumn <;> exact congrArg (Prod.mk _) hdirection

lemma readPlace_toDocument (h : c.Canonical) : readPlace c.toDocument = .ok c.place := by
  rw [readPlace, pick_stored h, pick_stored h, pick_stored h]
  simp only [stored, Value.placeName?_nonemptyText h.state, Value.placeName?_nonemptyText h.county,
    Town.selection_stored h.town h.nodup]
  rfl

lemma exists_mode_toDocument (h : c.Canonical) :
    ∃ mode, (c.toDocument.pick .keywordMode).wording? = .ok mode ∧
      (if mode = some "all" then KeywordMode.all else .any) = c.keywords.mode := by
  have hname (mode : KeywordMode) : (Value.text mode.name).wording? = .ok (some mode.name) :=
    Value.wording?_text (by cases mode <;> exact Text.Visible.trimmed (by decide) (by decide))
  rw [pick_stored h]
  simp only [stored]
  split
  · refine ⟨_, hname _, ?_⟩
    cases c.keywords.mode <;> rfl
  · rename_i hnot
    have hany : c.keywords.mode = .any := by
      by_contra hne
      exact hnot (.inr (.inr hne))
    exact ⟨none, rfl, hany.symm⟩

lemma readKeywords_toDocument (h : c.Canonical) :
    readKeywords c.toDocument = .ok c.keywords := by
  obtain ⟨mode, hmode, heq⟩ := exists_mode_toDocument h
  rw [readKeywords, hmode, pick_stored h, pick_stored h]
  simp only [stored, Value.wording?_nonemptyText h.wanted, Value.wording?_nonemptyText h.unwanted]
  change Except.ok _ = _
  rw [heq]

lemma priceCap_reread (h : c.Canonical) :
    ((c.maxPricePerSqft.map Binary64.reread).bind fun x =>
      if (Binary64.zero false).lt x then some x else none) =
      c.maxPricePerSqft.map Binary64.reread := by
  cases hcap : c.maxPricePerSqft with
  | none => rfl
  | some x =>
    have hlt : (Binary64.zero false).lt x.reread = true :=
      (Binary64.lt_reread (.zero false) x).trans (h.priceCap x hcap).2
    rw [Option.map_some, Option.bind_some, if_pos hlt]

/-- Criteria in canonical form are read back from their document, in strict reading and in
lenient reading. -/
theorem read_toDocument (h : c.Canonical) (strict : Bool) :
    read strict (.object c.toDocument) = .ok c.reread := by
  have hlimit : (c.toDocument.pick .limit).limit? = .ok c.limit := by
    rw [pick_stored h, stored_limit, Value.limit?_stored h.limit]
  have hlisted : (c.toDocument.pick .listDate).days? true = .ok c.listedDays := by
    rw [pick_stored h, stored_listDate, Value.listedDays_stored h.listedDays]
  have hchanged : (c.toDocument.pick .offMarketWindow).days? false = .ok c.changedDays := by
    rw [pick_stored h, stored_offMarketWindow, Value.changedDays_stored h.changedDays]
  have hcap := Value.amount?_stored fun x hx => (h.priceCap x hx).1
  -- Fields that are read together first, then each of the others by its own codec.
  simp only [read, ofRecord, readOrder_toDocument h, readPlace_toDocument h,
    readPrice_toDocument h, readKeywords_toDocument h, hlimit, hlisted, hchanged]
  simp only [pick_stored h, stored, readBounds_stored h.beds, readBounds_stored h.baths,
    readBounds_stored h.sqft, readBounds_stored h.yearBuilt, readBounds_stored h.parking,
    readBounds_stored h.lotSize, hcap, Value.words_stored h.propertyType,
    Value.words_stored h.status, Value.wording?_stored h.zipCode,
    Value.wording?_stored h.streetNumber, Value.wording?_stored h.streetName,
    Value.wording?_stored h.listingNumber, Value.ticked_stored]
  change Except.ok _ = _
  rw [priceCap_reread h]
  rfl

lemma sameOption_reread {x : Option Binary64} (h : ∀ y ∈ x, y.isFinite = true) :
    Binary64.sameOption (x.map Binary64.reread) x = true := by
  cases x with
  | none => rfl
  | some y => exact Binary64.reread_same (h y rfl)

lemma same_boundsReread {b : Bounds} (h : b.Finite) : b.reread.same b = true := by
  rw [Bounds.same, Bool.and_eq_true]
  exact ⟨sameOption_reread h.1, sameOption_reread h.2⟩

lemma same_iff (c d : Criteria) : c.same d = true ↔
    c.withoutNumbers = d.withoutNumbers ∧ c.price.toBounds.same d.price.toBounds = true ∧
      c.beds.same d.beds = true ∧ c.baths.same d.baths = true ∧ c.sqft.same d.sqft = true ∧
      c.yearBuilt.same d.yearBuilt = true ∧ c.parking.same d.parking = true ∧
      c.lotSize.same d.lotSize = true ∧
      Binary64.sameOption c.maxPricePerSqft d.maxPricePerSqft = true := by
  simp only [same, Bool.and_eq_true, beq_iff_eq, and_assoc]

lemma reread_same (h : c.Canonical) : c.reread.same c = true :=
  (same_iff _ _).2
    ⟨rfl, same_boundsReread h.price, same_boundsReread h.beds, same_boundsReread h.baths,
      same_boundsReread h.sqft, same_boundsReread h.yearBuilt, same_boundsReread h.parking,
      same_boundsReread h.lotSize, sameOption_reread fun x hx => (h.priceCap x hx).1⟩

/-- Reading once more changes nothing more. -/
lemma reread_reread (c : Criteria) : c.reread.reread = c.reread := by
  have hnumber (x : Option Binary64) :
      (x.map Binary64.reread).map Binary64.reread = x.map Binary64.reread := by
    rw [Option.map_map]
    exact congrArg (Option.map · x) (funext Binary64.reread_reread)
  simp only [reread, PriceBounds.reread, Bounds.reread, hnumber]

lemma toDocument_reread (c : Criteria) : c.reread.toDocument = c.toDocument := by
  have hnumber (x : Option Binary64) :
      (x.map Binary64.reread).map Binary64.stored = x.map Binary64.stored := by
    rw [Option.map_map]
    exact congrArg (Option.map · x) (funext Binary64.stored_reread)
  have hstored : c.reread.stored = c.stored := by
    funext f
    cases f <;> first | rfl | exact hnumber _
  rw [toDocument, toDocument, hstored]

end Criteria
end ListingSearch
