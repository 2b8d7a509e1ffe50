import ListingSearch.Criteria.Reading
import ListingSearch.Proofs.Binary64.Integral
import ListingSearch.Proofs.Outcome
import ListingSearch.Proofs.Text.Numeral

/-! The canonical form that reading gives to criteria: texts are trimmed and not empty, numbers are
finite, no town stands twice, and what stands for everything or for nothing is left out. -/
namespace ListingSearch

open Text (Trimmed)

/-- The city is trimmed, and so is the neighborhood if there is one. -/
def Town.Canonical (town : Town) : Prop :=
  Trimmed town.city ∧ ∀ n ∈ town.neighborhood, Trimmed n

def Bounds.Finite (b : Bounds) : Prop :=
  (∀ x ∈ b.min, x.isFinite = true) ∧ ∀ x ∈ b.max, x.isFinite = true

/-- A trimmed name that does not stand for every place. -/
def IsPlaceName (s : String) : Prop := Trimmed s ∧ Value.standsForAll s = false

/-- A positive number that some binary64 number is equal to. -/
def IsLimit (n : Nat) : Prop := 1 ≤ n ∧ ∃ x : Binary64, x.isFinite = true ∧ x.toRat = n

/-- The canonical form of criteria. -/
structure Criteria.Canonical (c : Criteria) : Prop where
  state : ∀ s ∈ c.place.state, IsPlaceName s
  county : ∀ s ∈ c.place.county, IsPlaceName s
  town : ∀ town ∈ c.place.towns, town.Canonical
  nodup : c.place.towns.Nodup
  ordered : c.price.inversion? = none
  price : c.price.toBounds.Finite
  propertyType : ∀ word ∈ c.propertyTypes, Trimmed word
  status : ∀ word ∈ c.statuses, Trimmed word
  beds : c.beds.Finite
  baths : c.baths.Finite
  sqft : c.sqft.Finite
  yearBuilt : c.yearBuilt.Finite
  parking : c.parking.Finite
  lotSize : c.lotSize.Finite
  wanted : ∀ s ∈ c.keywords.wanted, Trimmed s
  unwanted : ∀ s ∈ c.keywords.unwanted, Trimmed s
  zipCode : ∀ s ∈ c.zipCode, Trimmed s
  streetNumber : ∀ s ∈ c.streetNumber, Trimmed s
  streetName : ∀ s ∈ c.streetName, Trimmed s
  listingNumber : ∀ s ∈ c.listingNumber, Trimmed s
  listedDays : ∀ n ∈ c.listedDays, n < 10 ^ Text.digitLimit
  changedDays : ∀ n ∈ c.changedDays, 1 ≤ n ∧ n < 10 ^ Text.digitLimit
  priceCap : ∀ x ∈ c.maxPricePerSqft, x.isFinite = true ∧ (Binary64.zero false).lt x = true
  limit : ∀ n ∈ c.limit, IsLimit n
  sortColumn : ∀ s ∈ c.sortColumn, Trimmed s

namespace Value

variable {v : Value} {s : String} {text : Option String}

lemma trimmed_of_nonempty {t : String} (h : wording?.nonempty (Text.trim t) = some s) :
    Trimmed s := by
  unfold wording?.nonempty at h
  split at h
  · cases h
  · rename_i hne
    cases h
    exact Text.trimmed_trim hne

/-- A wording is trimmed. -/
lemma trimmed_of_wording? (h : v.wording? = .ok text) : ∀ s ∈ text, Trimmed s := by
  cases v with
  | int n =>
    simp only [wording?] at h
    split at h
    · cases h
      rintro s ⟨⟩
      exact Text.trimmed_toString_int n
    · cases h
  | float x =>
    cases h
    rintro s ⟨⟩
    exact Binary64.trimmed_text x
  | text t =>
    cases h
    exact fun s hs => trimmed_of_nonempty hs
  | _ =>
    cases h
    rintro s ⟨⟩

lemma isPlaceName_of_placeName? (h : v.placeName? = .ok text) : ∀ s ∈ text, IsPlaceName s := by
  obtain ⟨wording, hwording, h⟩ := Outcome.bind_eq_ok h
  cases h
  intro s hs
  obtain ⟨hs, hall⟩ := Option.filter_eq_some_iff.1 hs
  exact ⟨trimmed_of_wording? hwording s hs, by simpa using hall⟩

lemma trimmed_of_mem_words {set : TextSet} (h : v.words = .ok set) : ∀ s ∈ set, Trimmed s := by
  intro s hs
  unfold words at h
  split at h
  · cases h
    exact absurd hs (TextSet.not_mem_empty s)
  · obtain ⟨wordings, hwordings, h⟩ := Outcome.bind_eq_ok h
    cases h
    rw [TextSet.mem_ofList, List.mem_filterMap] at hs
    obtain ⟨wording, hmem, hs⟩ := hs
    obtain ⟨w, -, hw⟩ := Outcome.exists_of_mem_mapM hwordings hmem
    exact trimmed_of_wording? hw s hs

lemma isFinite_of_finite {x y : Binary64} (h : amount?.finite x = some y) :
    y.isFinite = true := by
  simp only [amount?.finite] at h
  split at h
  · cases h
    assumption
  · cases h

lemma isFinite_of_amount? {x : Binary64} (h : v.amount? = .ok (some x)) : x.isFinite = true := by
  cases v with
  | int n =>
    simp only [amount?] at h
    split at h
    · rename_i y hy
      cases h
      exact Binary64.isFinite_of_ofInt? hy
    · cases h
  | float y => exact isFinite_of_finite (Except.ok.inj h)
  | text t =>
    obtain ⟨y, _, hy⟩ := Option.bind_eq_some_iff.1 (Except.ok.inj h)
    exact isFinite_of_finite hy
  | _ => cases h

lemma isLimit_of_limit? {n : Nat} (h : v.limit? = .ok (some n)) : IsLimit n := by
  obtain ⟨amount, hamount, h⟩ := Outcome.bind_eq_ok h
  cases amount with
  | none => cases h
  | some x =>
    have hfinite := isFinite_of_amount? hamount
    simp only [pure, Except.pure, Except.ok.injEq] at h
    split at h
    · cases h
    · rename_i hlt
      cases h
      refine Binary64.exists_toRat_truncate hfinite ?_
      rwa [Binary64.lt_iff hfinite rfl, Binary64.toRat_one, not_lt] at hlt

lemma lt_of_count? {allowToday : Bool} {days : Option Nat}
    (h : days?.count? allowToday s = .ok days) : ∀ n ∈ days, n < 10 ^ Text.digitLimit := by
  intro n hn
  simp only [days?.count?] at h
  split at h
  · cases h
    cases hn
  split at h
  · cases h
    rw [Option.mem_def, Option.ite_none_right_eq_some] at hn
    obtain ⟨-, ⟨⟩⟩ := hn
    exact Nat.pow_pos (by decide)
  split at h
  · cases h
  rename_i hlength
  cases h
  rw [Option.mem_def, Option.ite_none_left_eq_some] at hn
  obtain ⟨-, ⟨⟩⟩ := hn
  exact (Text.digitsValue_lt _).trans_le
    (Nat.pow_le_pow_right (by decide) (not_lt.1 hlength))

lemma one_le_of_count? {days : Option Nat} (h : days?.count? false s = .ok days) :
    ∀ n ∈ days, 1 ≤ n := by
  intro n hn
  simp only [days?.count?] at h
  split at h
  · cases h
    cases hn
  split at h
  · cases h
    cases hn
  split at h
  · cases h
  cases h
  rw [Option.mem_def, Option.ite_none_left_eq_some] at hn
  obtain ⟨hpos, ⟨⟩⟩ := hn
  exact not_lt.1 hpos

lemma days?_of_wording? (h : v.wording? = .ok (some s)) (allowToday : Bool) :
    v.days? allowToday = days?.count? allowToday s := by
  rw [days?, h]
  rfl

lemma exists_count?_of_days? {allowToday : Bool} {days : Option Nat}
    (h : v.days? allowToday = .ok days) :
    days = none ∨ ∃ s, days?.count? allowToday s = .ok days := by
  obtain ⟨wording, -, h⟩ := Outcome.bind_eq_ok h
  cases wording with
  | none =>
    cases h
    exact .inl rfl
  | some s => exact .inr ⟨s, h⟩

lemma lt_of_days? {allowToday : Bool} {days : Option Nat} (h : v.days? allowToday = .ok days) :
    ∀ n ∈ days, n < 10 ^ Text.digitLimit := by
  rcases exists_count?_of_days? h with rfl | ⟨s, h⟩
  · rintro n ⟨⟩
  · exact lt_of_count? h

lemma one_le_of_days? {days : Option Nat} (h : v.days? false = .ok days) : ∀ n ∈ days, 1 ≤ n := by
  rcases exists_count?_of_days? h with rfl | ⟨s, h⟩
  · rintro n ⟨⟩
  · exact one_le_of_count? h

end Value

namespace Town

variable {v : Value} {town : Option Town} {towns : List Town}

lemma canonical_of_ofParts? {city neighborhood : Value}
    (h : ofParts? city neighborhood = .ok town) : ∀ t ∈ town, t.Canonical := by
  obtain ⟨name, hname, h⟩ := Outcome.bind_eq_ok h
  obtain ⟨part, hpart, h⟩ := Outcome.bind_eq_ok h
  cases h
  intro t ht
  obtain ⟨name, rfl, rfl⟩ := Option.map_eq_some_iff.1 ht
  exact ⟨Value.trimmed_of_wording? hname _ rfl, Value.trimmed_of_wording? hpart⟩

lemma canonical_of_ofValue? (h : ofValue? v = .ok town) : ∀ t ∈ town, t.Canonical := by
  unfold ofValue? at h
  split at h
  · exact canonical_of_ofParts? h
  · exact canonical_of_ofParts? h
  · cases h
    rintro t ⟨⟩

lemma canonical_of_select {items : List Value} (h : selection.select items = .ok towns) :
    (∀ town ∈ towns, town.Canonical) ∧ towns.Nodup := by
  obtain ⟨found, hfound, h⟩ := Outcome.bind_eq_ok h
  cases h
  refine ⟨fun t ht => ?_, nodup_distinct _⟩
  obtain ⟨town, hmem, ht⟩ := List.mem_filterMap.1 (mem_distinct.1 ht)
  obtain ⟨w, -, hw⟩ := Outcome.exists_of_mem_mapM hfound hmem
  exact canonical_of_ofValue? hw t ht

lemma canonical_of_selection (h : selection v = .ok towns) :
    (∀ town ∈ towns, town.Canonical) ∧ towns.Nodup := by
  unfold selection at h
  split at h
  · cases h
    simp
  · split at h
    · exact canonical_of_select h
    · exact canonical_of_select h
    · exact canonical_of_select h
    · cases h

end Town

namespace PriceBounds

variable {p q : PriceBounds}

lemma inversion?_eq_some_iff {low high : Binary64} : p.inversion? = some (low, high) ↔
    p.min = some low ∧ p.max = some high ∧ p.noMin = false ∧ p.noMax = false ∧
      high.lt low = true := by
  obtain ⟨⟨min, max⟩, noMin, noMax⟩ := p
  cases noMin <;> cases noMax <;> cases min <;> cases max <;>
    simp [inversion?, effectiveMin, effectiveMax]
  grind

/-- Bounds that are in force and in order are so as rational numbers. -/
lemma toRat_le_of_inversion? {low high : Binary64} (h : p.inversion? = none)
    (hfinite : p.toBounds.Finite) (hlow : p.min = some low) (hhigh : p.max = some high)
    (hnoMin : p.noMin = false) (hnoMax : p.noMax = false) : low.toRat ≤ high.toRat := by
  rw [← not_lt, ← Binary64.lt_iff (hfinite.2 high hhigh) (hfinite.1 low hlow)]
  intro hlt
  rw [inversion?_eq_some_iff.2 ⟨hlow, hhigh, hnoMin, hnoMax, hlt⟩] at h
  cases h

lemma check_eq_ok (h : p.check = .ok q) : q = p ∧ p.inversion? = none := by
  unfold check at h
  split at h
  · cases h
  · rename_i hnone
    cases h
    exact ⟨rfl, hnone⟩

lemma inversion?_mend (p : PriceBounds) : p.mend.inversion? = none := by
  unfold mend
  split
  · simp [inversion?, effectiveMin, effectiveMax]
  · rename_i h
    simpa using h

lemma finite_mend (h : p.toBounds.Finite) : p.mend.toBounds.Finite := by
  unfold mend
  split
  · simp [Bounds.Finite]
  · exact h

end PriceBounds

namespace Criteria

variable {low high : Value} {r : Record} {strict : Bool}

lemma finite_of_readBounds {b : Bounds} (h : readBounds low high = .ok b) : b.Finite := by
  obtain ⟨min, hmin, h⟩ := Outcome.bind_eq_ok h
  obtain ⟨max, hmax, h⟩ := Outcome.bind_eq_ok h
  cases h
  refine ⟨fun x hx => ?_, fun x hx => ?_⟩
  · cases hx
    exact Value.isFinite_of_amount? hmin
  · cases hx
    exact Value.isFinite_of_amount? hmax

lemma finite_of_readCap {v : Value} {cap : Option Binary64} {x : Binary64}
    (h : v.amount? = .ok cap)
    (hx : x ∈ cap.bind fun x => if (Binary64.zero false).lt x then some x else none) :
    x.isFinite = true ∧ (Binary64.zero false).lt x = true := by
  obtain ⟨y, rfl, hy⟩ := Option.bind_eq_some_iff.1 hx
  split at hy
  · rename_i hlt
    cases hy
    exact ⟨Value.isFinite_of_amount? h, hlt⟩
  · cases hy

lemma canonical_of_readPrice {p : PriceBounds} (h : readPrice strict r = .ok p) :
    p.inversion? = none ∧ p.toBounds.Finite := by
  obtain ⟨b, hb, h⟩ := Outcome.bind_eq_ok h
  have hfinite := finite_of_readBounds hb
  dsimp only at h
  split at h
  · obtain ⟨rfl, hnone⟩ := PriceBounds.check_eq_ok h
    exact ⟨hnone, hfinite⟩
  · cases h
    exact ⟨PriceBounds.inversion?_mend _, PriceBounds.finite_mend hfinite⟩

lemma trimmed_of_lookup_sortPresets {name column : String} {direction : Direction}
    (h : List.lookup name sortPresets = some (column, direction)) : Trimmed column := by
  have hall : ∀ entry ∈ sortPresets, Text.Visible entry.2.1 ∧ entry.2.1 ≠ "" := by decide
  obtain ⟨before, after, heq, _⟩ := List.lookup_eq_some_iff.1 h
  obtain ⟨hvisible, hne⟩ := hall (name, column, direction) (by simp [heq])
  exact hvisible.trimmed hne

lemma mem_column_choose {column direction : Option String} {preset : Option (String × Direction)}
    {s : String} (h : s ∈ (readOrder.choose column direction preset).1) :
    s ∈ column ∨ ∃ d, preset = some (s, d) := by
  rcases column with _ | column
  · rcases preset with _ | ⟨presetColumn, presetDirection⟩
    · exact .inl h
    · cases h
      exact .inr ⟨presetDirection, rfl⟩
  · exact .inl h

lemma trimmed_of_readOrder {order : Option String × Direction} (h : readOrder r = .ok order) :
    ∀ s ∈ order.1, Trimmed s := by
  obtain ⟨column, hcolumn, h⟩ := Outcome.bind_eq_ok h
  obtain ⟨direction, -, h⟩ := Outcome.bind_eq_ok h
  obtain ⟨name, -, h⟩ := Outcome.bind_eq_ok h
  cases h
  intro s hs
  rcases mem_column_choose hs with hs | ⟨d, hpreset⟩
  · exact Value.trimmed_of_wording? hcolumn s hs
  · obtain ⟨name, -, hname⟩ := Option.bind_eq_some_iff.1 hpreset
    exact trimmed_of_lookup_sortPresets hname

lemma canonical_of_readPlace {place : Place} (h : readPlace r = .ok place) :
    (∀ s ∈ place.state, IsPlaceName s) ∧ (∀ s ∈ place.county, IsPlaceName s) ∧
      (∀ town ∈ place.towns, town.Canonical) ∧ place.towns.Nodup := by
  obtain ⟨state, hstate, h⟩ := Outcome.bind_eq_ok h
  obtain ⟨county, hcounty, h⟩ := Outcome.bind_eq_ok h
  obtain ⟨towns, htowns, h⟩ := Outcome.bind_eq_ok h
  cases h
  exact ⟨Value.isPlaceName_of_placeName? hstate, Value.isPlaceName_of_placeName? hcounty,
    Town.canonical_of_selection htowns⟩

lemma trimmed_of_readKeywords {keywords : Keywords} (h : readKeywords r = .ok keywords) :
    (∀ s ∈ keywords.wanted, Trimmed s) ∧ ∀ s ∈ keywords.unwanted, Trimmed s := by
  obtain ⟨wanted, hwanted, h⟩ := Outcome.bind_eq_ok h
  obtain ⟨unwanted, hunwanted, h⟩ := Outcome.bind_eq_ok h
  obtain ⟨mode, -, h⟩ := Outcome.bind_eq_ok h
  cases h
  exact ⟨Value.trimmed_of_wording? hwanted, Value.trimmed_of_wording? hunwanted⟩

lemma canonical_default : ({} : Criteria).Canonical := by
  constructor <;> simp [PriceBounds.inversion?, PriceBounds.effectiveMin, Bounds.Finite]

/-- Reading loose data gives criteria in canonical form. -/
theorem canonical_of_read {v : Value} {c : Criteria} (h : read strict v = .ok c) :
    c.Canonical := by
  cases v with
  | null =>
    cases h
    exact canonical_default
  | object r =>
    obtain ⟨order, horder, h⟩ := Outcome.bind_eq_ok h
    obtain ⟨place, hplace, h⟩ := Outcome.bind_eq_ok h
    obtain ⟨price, hprice, h⟩ := Outcome.bind_eq_ok h
    obtain ⟨propertyTypes, hpropertyTypes, h⟩ := Outcome.bind_eq_ok h
    obtain ⟨statuses, hstatuses, h⟩ := Outcome.bind_eq_ok h
    obtain ⟨beds, hbeds, h⟩ := Outcome.bind_eq_ok h
    obtain ⟨baths, hbaths, h⟩ := Outcome.bind_eq_ok h
    obtain ⟨sqft, hsqft, h⟩ := Outcome.bind_eq_ok h
    obtain ⟨yearBuilt, hyearBuilt, h⟩ := Outcome.bind_eq_ok h
    obtain ⟨parking, hparking, h⟩ := Outcome.bind_eq_ok h
    obtain ⟨lotSize, hlotSize, h⟩ := Outcome.bind_eq_ok h
    obtain ⟨keywords, hkeywords, h⟩ := Outcome.bind_eq_ok h
    obtain ⟨zipCode, hzipCode, h⟩ := Outcome.bind_eq_ok h
    obtain ⟨streetNumber, hstreetNumber, h⟩ := Outcome.bind_eq_ok h
    obtain ⟨streetName, hstreetName, h⟩ := Outcome.bind_eq_ok h
    obtain ⟨listingNumber, hlistingNumber, h⟩ := Outcome.bind_eq_ok h
    obtain ⟨listedDays, hlistedDays, h⟩ := Outcome.bind_eq_ok h
    obtain ⟨changedDays, hchangedDays, h⟩ := Outcome.bind_eq_ok h
    obtain ⟨priceCap, hpriceCap, h⟩ := Outcome.bind_eq_ok h
    obtain ⟨limit, hlimit, h⟩ := Outcome.bind_eq_ok h
    have hread := Except.ok.inj h
    rw [← hread]
    obtain ⟨hstate, hcounty, htown, hnodup⟩ := canonical_of_readPlace hplace
    exact
      { state := hstate
        county := hcounty
        town := htown
        nodup := hnodup
        ordered := (canonical_of_readPrice hprice).1
        price := (canonical_of_readPrice hprice).2
        propertyType := Value.trimmed_of_mem_words hpropertyTypes
        status := Value.trimmed_of_mem_words hstatuses
        beds := finite_of_readBounds hbeds
        baths := finite_of_readBounds hbaths
        sqft := finite_of_readBounds hsqft
        yearBuilt := finite_of_readBounds hyearBuilt
        parking := finite_of_readBounds hparking
        lotSize := finite_of_readBounds hlotSize
        wanted := (trimmed_of_readKeywords hkeywords).1
        unwanted := (trimmed_of_readKeywords hkeywords).2
        zipCode := Value.trimmed_of_wording? hzipCode
        streetNumber := Value.trimmed_of_wording? hstreetNumber
        streetName := Value.trimmed_of_wording? hstreetName
        listingNumber := Value.trimmed_of_wording? hlistingNumber
        listedDays := Value.lt_of_days? hlistedDays
        changedDays := fun n hn =>
          ⟨Value.one_le_of_days? hchangedDays n hn, Value.lt_of_days? hchangedDays n hn⟩
        priceCap := fun _ hx => finite_of_readCap hpriceCap hx
        limit := fun _ hn => Value.isLimit_of_limit? (hlimit.trans (congrArg _ hn))
        sortColumn := trimmed_of_readOrder horder }
  | _ => cases h

/-- Criteria that are read are in canonical form. Prices that are both in force are in order, no
name stands for every state or county, and the limit is the value of a binary64 number. -/
theorem wellFormed_of_read {v : Value} {c : Criteria} (h : read strict v = .ok c) :
    c.Canonical ∧
      (∀ low ∈ c.price.min, ∀ high ∈ c.price.max, c.price.noMin = false → c.price.noMax = false →
        low.toRat ≤ high.toRat) ∧
      (∀ name, c.place.state = some name ∨ c.place.county = some name →
        Text.lower name ≠ "all" ∧ Text.lower name ≠ "any") ∧
      ∀ n ∈ c.limit, 1 ≤ n ∧ ∃ x, Binary64.ofInt? n = some x ∧ x.isFinite = true ∧ x.toRat = n := by
  have hcanonical := canonical_of_read h
  refine ⟨hcanonical, fun low hlow high hhigh hnoMin hnoMax => ?_, fun name hname => ?_,
    fun n hn => ?_⟩
  · exact PriceBounds.toRat_le_of_inversion? hcanonical.ordered hcanonical.price hlow hhigh hnoMin
      hnoMax
  · have hplace : IsPlaceName name := hname.elim (hcanonical.state name) (hcanonical.county name)
    simpa [Value.standsForAll] using hplace.2
  · obtain ⟨hpos, x, hfinite, hx⟩ := hcanonical.limit n hn
    have hx' : x.toRat = ((n : Int) : ℚ) := hx.trans (Int.cast_natCast n).symm
    exact ⟨hpos, x.reread, Binary64.ofInt?_of_toRat hfinite hx',
      (Binary64.isFinite_reread x).trans hfinite, (Binary64.toRat_reread x).trans hx⟩

/-- A filter with blanks around its texts, a name for every county, a town given twice, things that
are no towns, and numbers in texts. -/
theorem wellFormed_of_read_untidy :
    let filter : Value := .object [("state", .text " MA "), ("county", .text "ANY"),
      ("selectedTowns", .list [.text "Boston - Back Bay", .int 3, .text " - Fenway",
        .object [("city", .text "Boston"), ("neighborhood", .text " Back Bay")], .text "Salem-"]),
      ("propertyTypes", .text "condo, ,land"), ("priceMin", .text "$500,000"),
      ("maxPrice", .int 900000), ("bedsMin", .text "many"), ("limit", .text "7.9"),
      ("sortBy", .text "price-low"), ("listDate", .text "today")]
    ∃ c, read true filter = .ok c ∧
      c.place = ⟨some "MA", none, [⟨"Boston", some "Back Bay"⟩, ⟨"Salem", none⟩]⟩ ∧
      c.limit = some 7 ∧ c.Canonical ∧
      (∃ low high, c.price.min = some low ∧ c.price.max = some high ∧ low.toRat ≤ high.toRat) ∧
      (Text.lower "MA" ≠ "all" ∧ Text.lower "MA" ≠ "any") ∧
      ∃ x, Binary64.ofInt? 7 = some x ∧ x.isFinite = true ∧ x.toRat = (7 : Nat) := by
  intro filter
  have hread : (fun c => (c.place, c.limit, c.price.min.isSome, c.price.max.isSome,
      c.price.noMin, c.price.noMax)) <$> read true filter =
        .ok (⟨some "MA", none, [⟨"Boston", some "Back Bay"⟩, ⟨"Salem", none⟩]⟩, some 7, true, true,
          false, false) := by
    decide +kernel
  obtain ⟨c, hc, hparts⟩ := Outcome.map_eq_ok hread
  simp only [Prod.mk.injEq, Option.isSome_iff_exists] at hparts
  obtain ⟨hplace, hlimit, ⟨low, hlow⟩, ⟨high, hhigh⟩, hnoMin, hnoMax⟩ := hparts
  obtain ⟨hcanonical, hordered, hnames, hlimits⟩ := wellFormed_of_read hc
  exact ⟨c, hc, hplace, hlimit, hcanonical,
    ⟨low, high, hlow, hhigh, hordered low hlow high hhigh hnoMin hnoMax⟩,
    hnames "MA" (.inl (by rw [hplace])), (hlimits 7 hlimit).2⟩

end Criteria
end ListingSearch
