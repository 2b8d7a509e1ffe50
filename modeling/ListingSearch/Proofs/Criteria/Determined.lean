import ListingSearch.Proofs.Criteria.RoundTrip
import ListingSearch.Proofs.Value.Alike

/-! A document determines its criteria. If the documents of two criteria in canonical form are equal
as data, where the form of a number does not matter, the criteria are equal. -/
namespace ListingSearch

open Text (Trimmed)

namespace Value

lemma same_int_iff {m n : Int} : (Value.int m).same (.int n) = true ↔ m = n := by
  rw [same_of_number? (a := .int m) (b := .int n) rfl rfl, Number.same_iff rfl rfl]
  exact Int.cast_inj

lemma same_ofTexts_iff {xs ys : List String} :
    (ofTexts xs).same (ofTexts ys) = true ↔ xs = ys := by
  rw [ofTexts, ofTexts, same]
  induction xs generalizing ys with
  | nil => cases ys <;> simp [sameList]
  | cons x xs ih =>
    cases ys with
    | nil => simp [sameList]
    | cons y ys => simp [sameList, same, ih]

lemma same_ofText?_iff {s t : Option String} : (ofText? s).same (ofText? t) = true ↔ s = t := by
  cases s <;> cases t <;> simp [ofText?, same, number?]

end Value

namespace Binary64

variable {x y : Binary64}

lemma exists_number?_stored (hx : x.isFinite = true) :
    ∃ a, x.stored.number? = some a ∧ a.isFinite = true ∧ a.toRat = x.toRat := by
  cases h : x.toInt? with
  | some n => exact ⟨.int n, by simp [stored, h, Value.number?], rfl, (toRat_of_toInt? h).symm⟩
  | none => exact ⟨.float x, by simp [stored, h, Value.number?], hx, rfl⟩

lemma same_stored_iff (hx : x.isFinite = true) (hy : y.isFinite = true) :
    x.stored.same y.stored = true ↔ x.same y = true := by
  obtain ⟨a, ha, hfinite, hax⟩ := exists_number?_stored hx
  obtain ⟨b, hb, hfinite', hby⟩ := exists_number?_stored hy
  rw [Value.same_of_number? ha hb, Number.same_iff hfinite hfinite', same_iff hx hy, hax, hby]

lemma sameOption_of_stored {x y : Option Binary64} (hx : ∀ z ∈ x, z.isFinite = true)
    (hy : ∀ z ∈ y, z.isFinite = true)
    (h : Value.sameOption (x.map stored) (y.map stored) = true) : sameOption x y = true := by
  cases x <;> cases y <;> simp only [Option.map_none, Option.map_some, Value.sameOption] at h <;>
    try cases h
  · rfl
  · exact (same_stored_iff (hx _ rfl) (hy _ rfl)).1 h

end Binary64

lemma Town.same_stored_iff {s t : Town} : s.stored.same t.stored = true ↔ s = t := by
  obtain ⟨city, neighborhood⟩ := s
  obtain ⟨city', neighborhood'⟩ := t
  simp [stored, Value.same, Value.sameEntries, Record.get?, Value.same_ofText?_iff]

lemma Town.same_list_iff {xs ys : List Town} :
    (Value.list (xs.map stored)).same (.list (ys.map stored)) = true ↔ xs = ys := by
  rw [Value.same]
  induction xs generalizing ys with
  | nil => cases ys <;> simp [Value.sameList]
  | cons x xs ih =>
    cases ys with
    | nil => simp [Value.sameList]
    | cons y ys => simp [Value.sameList, Town.same_stored_iff, ih]

namespace Value

variable {α : Type} {f : α → Value}

lemma eq_of_sameOption_map (hf : ∀ a b, (f a).same (f b) = true → a = b) {x y : Option α}
    (h : sameOption (x.map f) (y.map f) = true) : x = y := by
  cases x <;> cases y <;> simp only [Option.map_none, Option.map_some, sameOption] at h
  · rfl
  · cases h
  · cases h
  · rw [hf _ _ h]

/-- What is stored only where it says something determines what it says. -/
lemma eq_of_sameOption_ite {p : α → Prop} [DecidablePred p]
    (hf : ∀ a b, (f a).same (f b) = true → a = b) (hp : ∀ a b, p a → p b → a = b) {x y : α}
    (h : sameOption (if p x then none else some (f x)) (if p y then none else some (f y)) = true) :
    x = y := by
  split at h <;> split at h
  · exact hp x y ‹_› ‹_›
  · cases h
  · cases h
  · exact hf x y h

lemma eq_of_same_text {s t : String} (h : (Value.text s).same (.text t) = true) : s = t :=
  Value.text.inj (same_text_iff.1 h)

lemma eq_of_sameOption_text {s t : Option String}
    (h : sameOption (s.map .text) (t.map .text) = true) : s = t :=
  eq_of_sameOption_map (fun _ _ => eq_of_same_text) h

lemma eq_of_sameOption_int {m n : Option Nat}
    (h : sameOption (m.map fun n : Nat => Value.int n) (n.map fun n : Nat => Value.int n) = true) :
    m = n :=
  eq_of_sameOption_map (fun _ _ h => Int.ofNat_inj.1 (same_int_iff.1 h)) h

end Value

namespace Criteria

variable {c d : Criteria}

lemma eq_of_nonemptyText {s t : Option String} (hs : ∀ x ∈ s, Trimmed x) (ht : ∀ x ∈ t, Trimmed x)
    (h : Value.sameOption (nonemptyText s) (nonemptyText t) = true) : s = t := by
  rw [Value.nonemptyText_eq_map hs, Value.nonemptyText_eq_map ht] at h
  exact Value.eq_of_sameOption_text h

lemma eq_of_nonemptySet {s t : TextSet}
    (h : Value.sameOption (nonemptySet s) (nonemptySet t) = true) : s = t := by
  refine Value.eq_of_sameOption_ite (f := fun s : TextSet => Value.ofTexts s.toList)
    (p := fun s => s.isEmpty = true) (fun s t h => ?_) (fun s t hs ht => ?_) h
  · have hlist := Value.same_ofTexts_iff.1 h
    exact TextSet.ext fun x => by rw [← TextSet.mem_toList, hlist, TextSet.mem_toList]
  · have hlist : s.toList = t.toList :=
      (List.isEmpty_iff.1 hs).trans (List.isEmpty_iff.1 ht).symm
    exact TextSet.ext fun x => by rw [← TextSet.mem_toList, hlist, TextSet.mem_toList]

lemma eq_of_onlyTrue {a b : Bool} (h : Value.sameOption (onlyTrue a) (onlyTrue b) = true) :
    a = b := by
  cases a <;> cases b <;> first | rfl | cases h

lemma eq_of_storedMode {wanted unwanted : Option Value} {m n : KeywordMode}
    (h : Value.sameOption
      (if wanted.isSome ∨ unwanted.isSome ∨ m ≠ .any then some (.text m.name) else none)
      (if wanted.isSome ∨ unwanted.isSome ∨ n ≠ .any then some (.text n.name) else none) = true) :
    m = n := by
  cases m <;> cases n
  case any.any => rfl
  case all.all => rfl
  all_goals
    cases wanted <;> cases unwanted <;>
      simp [Value.sameOption, Value.same, KeywordMode.name] at h

lemma bounds_same {a b : Bounds} (ha : a.Finite) (hb : b.Finite)
    (hmin : Value.sameOption (a.min.map Binary64.stored) (b.min.map Binary64.stored) = true)
    (hmax : Value.sameOption (a.max.map Binary64.stored) (b.max.map Binary64.stored) = true) :
    a.same b = true := by
  rw [Bounds.same, Bool.and_eq_true]
  exact ⟨Binary64.sameOption_of_stored ha.1 hb.1 hmin,
    Binary64.sameOption_of_stored ha.2 hb.2 hmax⟩

lemma place_eq (hc : c.Canonical) (hd : d.Canonical)
    (h : ∀ f, Value.sameOption (c.stored f) (d.stored f) = true) : c.place = d.place := by
  have hstate := eq_of_nonemptyText (fun s hs => (hc.state s hs).1) (fun s hs => (hd.state s hs).1)
    (h .state)
  have hcounty := eq_of_nonemptyText (fun s hs => (hc.county s hs).1)
    (fun s hs => (hd.county s hs).1) (h .county)
  have htowns : c.place.towns = d.place.towns :=
    Value.eq_of_sameOption_ite (p := fun towns : List Town => towns = [])
      (fun _ _ => Town.same_list_iff.1) (fun _ _ hs ht => hs.trans ht.symm) (h .towns)
  calc c.place = ⟨c.place.state, c.place.county, c.place.towns⟩ := rfl
    _ = ⟨d.place.state, d.place.county, d.place.towns⟩ := by rw [hstate, hcounty, htowns]

lemma keywords_eq (hc : c.Canonical) (hd : d.Canonical)
    (h : ∀ f, Value.sameOption (c.stored f) (d.stored f) = true) : c.keywords = d.keywords := by
  have hwanted := eq_of_nonemptyText hc.wanted hd.wanted (h .keywordsInclude)
  have hunwanted := eq_of_nonemptyText hc.unwanted hd.unwanted (h .keywordsExclude)
  have hmode : c.keywords.mode = d.keywords.mode := by
    have hname := h .keywordMode
    simp only [stored, hwanted, hunwanted] at hname
    exact eq_of_storedMode hname
  calc c.keywords = ⟨c.keywords.wanted, c.keywords.unwanted, c.keywords.mode⟩ := rfl
    _ = ⟨d.keywords.wanted, d.keywords.unwanted, d.keywords.mode⟩ := by
      rw [hwanted, hunwanted, hmode]

lemma eq_of_storedListDate {m n : Option Nat}
    (h : Value.sameOption (m.map fun n : Nat => if n = 0 then Value.text "today" else .int n)
      (n.map fun n : Nat => if n = 0 then Value.text "today" else .int n) = true) : m = n := by
  refine Value.eq_of_sameOption_map (fun a b hab => ?_) h
  rcases eq_or_ne a 0 with rfl | ha <;> rcases eq_or_ne b 0 with rfl | hb
  · rfl
  · simp [hb, Value.same, Value.number?] at hab
  · simp [ha, Value.same, Value.number?] at hab
  · rw [if_neg ha, if_neg hb, Value.same_int_iff] at hab
    exact Int.ofNat_inj.1 hab

lemma eq_of_storedDirection {a b : Direction}
    (h : (Value.text a.name).same (.text b.name) = true) : a = b := by
  have hname := Value.eq_of_same_text h
  cases a <;> cases b <;> simp [Direction.name] at hname ⊢

/-- Criteria in canonical form are equal if their documents are. -/
theorem same_of_same_document (hc : c.Canonical) (hd : d.Canonical)
    (h : (Value.object c.toDocument).same (.object d.toDocument) = true) : c.same d = true := by
  have hfield := sameOption_stored h
  have hlisted : c.listedDays = d.listedDays := by
    have hdays := hfield .listDate
    rw [stored_listDate, stored_listDate] at hdays
    exact eq_of_storedListDate hdays
  have hlimit : c.limit = d.limit := by
    have hcounts := hfield .limit
    rw [stored_limit, stored_limit] at hcounts
    exact Value.eq_of_sameOption_int hcounts
  have hchanged : c.changedDays = d.changedDays := by
    have hcounts := hfield .offMarketWindow
    rw [stored_offMarketWindow, stored_offMarketWindow] at hcounts
    exact Value.eq_of_sameOption_int hcounts
  have hdirection : c.direction = d.direction := eq_of_storedDirection (hfield .sortDirection)
  refine (same_iff c d).2 ⟨?_, bounds_same hc.price hd.price (hfield .priceMin) (hfield .priceMax),
    bounds_same hc.beds hd.beds (hfield .bedsMin) (hfield .bedsMax),
    bounds_same hc.baths hd.baths (hfield .bathsMin) (hfield .bathsMax),
    bounds_same hc.sqft hd.sqft (hfield .sqftMin) (hfield .sqftMax),
    bounds_same hc.yearBuilt hd.yearBuilt (hfield .yearBuiltMin) (hfield .yearBuiltMax),
    bounds_same hc.parking hd.parking (hfield .parkingMin) (hfield .parkingMax),
    bounds_same hc.lotSize hd.lotSize (hfield .lotSizeMin) (hfield .lotSizeMax),
    Binary64.sameOption_of_stored (fun x hx => (hc.priceCap x hx).1)
      (fun x hx => (hd.priceCap x hx).1) (hfield .maxPricePerSqft)⟩
  simp only [withoutNumbers, place_eq hc hd hfield, keywords_eq hc hd hfield, hlisted, hlimit,
    hchanged, hdirection, eq_of_nonemptySet (hfield .propertyTypes),
    eq_of_nonemptySet (hfield .statuses), eq_of_onlyTrue (hfield .hasNoMin),
    eq_of_onlyTrue (hfield .hasNoMax), eq_of_onlyTrue (hfield .onlyOpenHouses),
    Value.eq_of_sameOption_text (hfield .zipCode),
    Value.eq_of_sameOption_text (hfield .streetNumber),
    Value.eq_of_sameOption_text (hfield .streetName),
    Value.eq_of_sameOption_text (hfield .listingNumber),
    Value.eq_of_sameOption_text (hfield .sortColumn)]

/-- Criteria that were read are read again from their document, in strict reading and in lenient
reading: the result is equal to them and has the same document. And whatever else is read with an
equal document is equal to them. -/
theorem document_faithful {strict : Bool} {v : Value} (h : read strict v = .ok c) :
    (∀ again : Bool, ∃ d, read again (.object c.toDocument) = .ok d ∧ d.same c = true ∧
      d.toDocument = c.toDocument) ∧
    ∀ (strict' : Bool) (w : Value) (d : Criteria), read strict' w = .ok d →
      (Value.object d.toDocument).same (.object c.toDocument) = true → d.same c = true := by
  have hc := canonical_of_read h
  refine ⟨fun again => ⟨c.reread, read_toDocument hc again, reread_same hc, toDocument_reread c⟩,
    fun strict' w d hd hsame => ?_⟩
  exact same_of_same_document (canonical_of_read hd) hc hsame

/-- A filter with a negative zero, a price in dollars, a neighborhood after a hyphen, a fraction of
a result and two states that stand in the wrong order. -/
def looseFilter : Value :=
  .object [("priceMin", .float (.zero true)), ("maxPrice", .text "$1,250.50"),
    ("cities", .text "Boston - Back Bay"), ("listDate", .text "Today"), ("limit", .text "20.9"),
    ("status", .text "sold, active,")]

def looseFilterDocument : Value :=
  .object [("statuses", .ofTexts ["active", "sold"]), ("priceMin", .int 0),
    ("priceMax", .float (.ofRatio false 2501 2)),
    ("selectedTowns", .list [.object [("city", .text "Boston"),
      ("neighborhood", .text "Back Bay")]]),
    ("limit", .int 20), ("sortDirection", .text "desc"), ("listDate", .text "today")]

theorem document_faithful_looseFilter : ∃ c d, read true looseFilter = .ok c ∧
    read false looseFilterDocument = .ok d ∧
    (Value.object c.toDocument).same looseFilterDocument = true ∧ d.same c = true ∧
    ∀ again : Bool, ∃ d, read again (.object c.toDocument) = .ok d ∧ d.same c = true ∧
      d.toDocument = c.toDocument := by
  have hdocuments : ((read true looseFilter).bind fun c =>
      (read false looseFilterDocument).map fun d =>
        (Value.object c.toDocument).same looseFilterDocument &&
          (Value.object d.toDocument).same (.object c.toDocument)) = .ok true := by
    decide +kernel
  obtain ⟨c, hc, hdocuments⟩ := Outcome.bind_eq_ok hdocuments
  obtain ⟨d, hd, hdocuments⟩ := Outcome.map_eq_ok hdocuments
  rw [Bool.and_eq_true] at hdocuments
  have hfaithful := document_faithful hc
  exact ⟨c, d, hc, hd, hdocuments.1, hfaithful.2 false _ d hd hdocuments.2, hfaithful.1⟩

end Criteria
end ListingSearch
