import ListingSearch.Criteria.Condition
import ListingSearch.Proofs.Outcome
import ListingSearch.Proofs.Predicate.Restriction

/-! What criteria ask of a record, said dimension by dimension, and that the condition they are
turned into asks for just that. A column that is missing counts as null. -/
namespace ListingSearch

def usableBound (x : Option Binary64) : Option Binary64 := x.filter (·.isFinite)

namespace Value

variable (v : Value)

/-- The value can be read as a number, and no bound excludes the number. -/
def LiesWithin (low high : Option Binary64) : Prop :=
  ∃ x, v.real? = .ok (some x) ∧ (∀ b ∈ low, x.lt b = false) ∧ ∀ b ∈ high, b.lt x = false

/-- The value is not null and its text contains a text, in capitals or small letters. -/
def Mentions (s : String) : Prop :=
  v ≠ .null ∧ (Text.lower s).toList <:+: (Text.lower v.display).toList

/-- The value is not null and its text begins with a text, in capitals or small letters. -/
def BeginsWith (s : String) : Prop :=
  v ≠ .null ∧ (Text.lower s).toList <+: (Text.lower v.display).toList

/-- The value is not null and its text does not stand before that of an instant. -/
def NotBefore (t : Instant) : Prop := v ≠ .null ∧ t.text ≤ v.display

end Value

/-- No finite bound is given, or the value lies within those that are. -/
def Bounds.Admits (b : Bounds) (v : Value) : Prop :=
  (usableBound b.min = none ∧ usableBound b.max = none) ∨
    v.LiesWithin (usableBound b.min) (usableBound b.max)

/-- The value is the name of the city, and of the neighborhood if there is one. -/
def Town.Admits (town : Town) (city neighborhood : Value) : Prop :=
  city = .text town.city ∧ ∀ n ∈ town.neighborhood, neighborhood = .text n

/-- The text is one of those between the commas, trimmed and not empty. -/
def IsTerm (list : Option String) (term : String) : Prop :=
  ∃ s ∈ list, ∃ piece ∈ Text.split ',' s, Text.trim piece = term ∧ term ≠ ""

/-- The description mentions some of the terms, or all of them, as the mode says. -/
def KeywordMode.Satisfied (mode : KeywordMode) (list : Option String) (description : Value) :
    Prop :=
  match mode with
  | .any => ∃ term, IsTerm list term ∧ description.Mentions term
  | .all => ∀ term, IsTerm list term → description.Mentions term

/-- The states that a listing may have: those asked for, or the default ones if none is. -/
def Criteria.eligibleStatuses (c : Criteria) (defaultStatuses : TextSet) : TextSet :=
  if c.statuses.isEmpty then defaultStatuses else c.statuses

/-- What criteria ask of a record at an instant. -/
@[mk_iff]
structure Criteria.Admits (c : Criteria) (defaultStatuses : TextSet) (now : Instant)
    (r : Record) : Prop where
  state : ∀ s ∈ c.place.state, s ≠ "" → r.get "state" = .text s
  town : c.place.towns ≠ [] →
    ∃ town ∈ c.place.towns, town.Admits (r.get "city") (r.get "neighborhood")
  price : Bounds.Admits
    ⟨if c.price.noMin then none else c.price.min, if c.price.noMax then none else c.price.max⟩
    (r.get "price")
  propertyType : (∃ word, word ∈ c.propertyTypes) →
    ∃ word ∈ c.propertyTypes, r.get "property_type" = .text (storedPropertyType word)
  status : (∃ s, s ∈ c.eligibleStatuses defaultStatuses) →
    ∃ s ∈ c.eligibleStatuses defaultStatuses, r.get "status" = .text s
  beds : c.beds.Admits (r.get "bedrooms")
  baths : c.baths.Admits (r.get "bathrooms")
  sqft : c.sqft.Admits (r.get "square_feet")
  yearBuilt : c.yearBuilt.Admits (r.get "year_built")
  parking : c.parking.Admits (r.get "total_parking_spaces")
  lotSize : c.lotSize.Admits (r.get "lot_size")
  wanted : (∃ term, IsTerm c.keywords.wanted term) →
    c.keywords.mode.Satisfied c.keywords.wanted (r.get "description")
  unwanted : (∃ term, IsTerm c.keywords.unwanted term) →
    ¬ c.keywords.mode.Satisfied c.keywords.unwanted (r.get "description")
  streetNumber : ∀ s ∈ c.streetNumber, s ≠ "" → (r.get "address").Mentions (Text.trim s)
  streetName : ∀ s ∈ c.streetName, s ≠ "" → (r.get "address").Mentions (Text.trim s)
  zipCode : ∀ s ∈ c.zipCode, s ≠ "" → (r.get "zip_code").BeginsWith (Text.trim s)
  listingNumber : ∀ s ∈ c.listingNumber, s ≠ "" →
    (r.get "listing_number").Mentions (Text.trim s)
  listed : ∀ days ∈ c.listedDays, ∃ since, Criteria.listedSince now days = .ok since ∧
    (r.get "created_at").NotBefore since
  changed : ∀ days ∈ c.changedDays, ∃ since, now.daysBefore days = .ok since ∧
    (r.get "updated_at").NotBefore since
  openHouses : c.onlyOpenHouses = true → r.get "open_houses" ≠ .null
  floorArea : c.maxPricePerSqft ≠ none → r.get "square_feet" ≠ .null ∧
    ¬ (r.get "square_feet").LiesWithin none (some (.zero false))

namespace Value

@[simp] lemma isNull_eq_false_iff {v : Value} : v.isNull = false ↔ v ≠ .null := by
  cases v <;> simp [isNull]

end Value

section Tests

variable {r : Record} {column : String}

lemma decidedBy_eq_text (column s : String) :
    Predicate.DecidedBy r (.eq column (.text s)) (r.get column = .text s) :=
  ⟨_, rfl, Value.same_text_iff⟩

lemma decidedBy_oneOfTexts (column : String) (texts : List String) :
    Predicate.DecidedBy r (oneOfTexts column texts) (∃ s ∈ texts, r.get column = .text s) := by
  refine ⟨_, Test.holds_oneOf _, ?_⟩
  simp only [Bool.and_eq_true, Bool.not_eq_true', Value.isNull_eq_false_iff, List.any_map,
    List.any_eq_true, Function.comp_apply, Value.same_text_iff, and_iff_right_iff_imp]
  rintro ⟨s, _, hs⟩
  simp [hs]

lemma decidedBy_not_null :
    Predicate.DecidedBy r (.not (.eq column .null)) (r.get column ≠ .null) := by
  refine ⟨!(r.get column).isNull, rfl, ?_⟩
  rw [Bool.not_eq_true', Value.isNull_eq_false_iff]

lemma decidedBy_mention (column s : String) :
    Predicate.DecidedBy r (.like column s .anywhere) ((r.get column).Mentions s) := by
  refine ⟨_, Test.holds_like _ _, ?_⟩
  simp [Value.Mentions, MatchMode.found, Text.occursIn_iff]

lemma decidedBy_beginning (column s : String) :
    Predicate.DecidedBy r (.like column s .atStart) ((r.get column).BeginsWith s) := by
  refine ⟨_, Test.holds_like _ _, ?_⟩
  simp [Value.BeginsWith, MatchMode.found]

lemma within_text_none (v : Value) (s : String) :
    v.within (some (.text s)) none = .ok (!decide (v.display < s)) := by
  by_cases h : v.display < s <;>
    simp [Value.within, isTextBound, Bound.isText, Measure.within, Measure.below, bind,
      Except.bind, pure, Except.pure, h]

lemma decidedBy_notBefore (t : Instant) :
    Predicate.DecidedBy r (notBefore column t) ((r.get column).NotBefore t) := by
  rw [notBefore, Predicate.DecidedBy, Predicate.holds_test, Test.holds_range, within_text_none]
  cases hv : (r.get column).isNull with
  | true => exact ⟨false, rfl, by simp [Value.NotBefore, ← Value.isNull_eq_false_iff, hv]⟩
  | false =>
    have not_before : (!decide ((r.get column).display < t.text)) = true ↔
        t.text ≤ (r.get column).display := by
      rw [Bool.not_eq_true', decide_eq_false_iff_not, String.not_lt]
    refine ⟨_, rfl, not_before.trans ?_⟩
    rw [Value.NotBefore, ← Value.isNull_eq_false_iff, hv, eq_self_iff_true, true_and]

lemma finiteBound_eq (x : Option Binary64) : finiteBound x = (usableBound x).map .float := by
  cases x with
  | none => rfl
  | some x => cases h : x.isFinite <;> simp [finiteBound, usableBound, Option.filter, h]

lemma within_float (v : Value) (low high : Option Binary64) :
    v.within (low.map .float) (high.map .float) =
      v.real?.map fun x => x.any fun x => !low.any x.lt && !high.any (·.lt x) := by
  have noText (b : Option Binary64) : isTextBound (b.map .float) = false := by cases b <;> rfl
  simp only [Value.within, noText, Bool.or_self, Bool.false_eq_true, if_false, bind, Except.bind]
  rcases v.real? with failure | _ | x
  · rfl
  · rfl
  · cases low <;> cases high <;>
      simp [Measure.within, Measure.below, Measure.above, Bound.toValue, Value.number?, bind,
        Except.bind, pure, Except.pure, Except.map, Binary64.lt] <;> grind

/-- Where a range test with numbers as bounds does not fail, it asks for a number within them. -/
lemma holds_range_float_iff {low high : Option Binary64} {b : Bool}
    (h : (Test.range column (low.map .float) (high.map .float)).holds r = .ok b) :
    b = true ↔ (r.get column).LiesWithin low high := by
  have hnull (v : Value) (hv : v.isNull = true) : v.real? = .ok none := by
    cases v <;> simp_all [Value.isNull, Value.real?]
  rw [Test.holds_range, within_float] at h
  cases hv : (r.get column).isNull with
  | true =>
    rw [hv, if_pos rfl] at h
    cases h
    simp [Value.LiesWithin, hnull _ hv]
  | false =>
    rw [hv, if_neg (by decide)] at h
    cases hr : (r.get column).real? with
    | error failure => simp [hr, Except.map] at h
    | ok number =>
      rw [hr, Except.map, Except.ok.injEq] at h
      rw [← h]
      cases number with
      | none => simp [Value.LiesWithin, hr]
      | some x => cases low <;> cases high <;> simp [Value.LiesWithin, hr]

end Tests

open Predicate

section Clauses

variable {r : Record}

lemma restrictsTo_textCondition (column : String) (s : Option String) :
    RestrictsTo r (textCondition column s) (∀ t ∈ s, t ≠ "" → r.get column = .text t) := by
  cases s with
  | none => exact restrictsTo_nil (by simp)
  | some t => exact (decidedBy_eq_text column t).restrictsTo.unless.congr (by simp)

lemma restrictsTo_like {column : String} {mode : MatchMode} {P : String → Prop}
    (h : ∀ s, DecidedBy r (.like column s mode) (P s)) (s : Option String) :
    RestrictsTo r (likeCondition column mode s) (∀ t ∈ s, t ≠ "" → P (Text.trim t)) := by
  cases s with
  | none => exact restrictsTo_nil (by simp)
  | some t => exact (h (Text.trim t)).restrictsTo.unless.congr (by simp)

lemma restrictsTo_range (column : String) (low high : Option Binary64) :
    RestrictsTo r [.range column (low.map .float) (high.map .float)]
      ((r.get column).LiesWithin low high) := by
  intro b hb
  rw [allHold_singleton, holds_test] at hb
  exact holds_range_float_iff hb

lemma restrictsTo_bounds (column : String) (b : Bounds) :
    RestrictsTo r (b.conditions column) (b.Admits (r.get column)) := by
  rw [Bounds.conditions, Bounds.Admits, finiteBound_eq, finiteBound_eq]
  split
  · rename_i hmin hmax
    exact restrictsTo_nil (.inl ⟨Option.map_eq_none_iff.1 hmin, Option.map_eq_none_iff.1 hmax⟩)
  · rename_i hne
    refine (restrictsTo_range column _ _).congr (or_iff_right ?_).symm
    rintro ⟨hmin, hmax⟩
    exact hne (by rw [hmin]; rfl) (by rw [hmax]; rfl)

lemma decidedBy_town (town : Town) (h : town.isWholeCity = false) :
    DecidedBy r town.condition (town.Admits (r.get "city") (r.get "neighborhood")) := by
  obtain ⟨city, neighborhood⟩ := town
  cases neighborhood with
  | none => simp [Town.isWholeCity] at h
  | some n =>
    obtain ⟨b, hb, hcity⟩ := decidedBy_eq_text (r := r) "city" city
    obtain ⟨c, hc, hn⟩ := decidedBy_eq_text (r := r) "neighborhood" n
    refine ⟨b && c, ?_, by simp [Town.Admits, hcity, hn]⟩
    rw [Town.condition, holds_allOf, allHold_cons, hb, allHold_singleton]
    cases b with
    | false => rfl
    | true => exact hc

lemma mem_branches {place : Place} {f : Town → Predicate} {p : Predicate} :
    p ∈ place.branches f ↔
      (place.wholeCities ≠ [] ∧
        p = oneOfTexts "city" (distinct (place.wholeCities.map (·.city)))) ∨
      ∃ town ∈ place.neighborhoods, f town = p := by
  have hnil : distinct (place.wholeCities.map (·.city)) = [] ↔ place.wholeCities = [] := by
    cases place.wholeCities <;> simp [distinct]
  simp only [Place.branches, List.mem_append, List.mem_map, hnil]
  by_cases h : place.wholeCities = [] <;> simp [h]

lemma decidedBy_wholeCities (place : Place) {P : Town → Prop}
    (hcity : ∀ town ∈ place.wholeCities, P town ↔ r.get "city" = .text town.city) :
    DecidedBy r (oneOfTexts "city" (distinct (place.wholeCities.map (·.city))))
      (∃ town ∈ place.wholeCities, P town) := by
  refine (decidedBy_oneOfTexts _ _).congr ?_
  simp only [mem_distinct, List.mem_map, exists_exists_and_eq_and]
  exact exists_congr fun town => and_congr_right fun h => (hcity town h).symm

lemma neighborhood_of_mem_wholeCities {place : Place} {town : Town}
    (h : town ∈ place.wholeCities) : town.neighborhood = none := by
  simpa [Place.wholeCities, Town.isWholeCity] using (List.mem_filter.1 h).2

lemma isWholeCity_of_mem_neighborhoods {place : Place} {town : Town}
    (h : town ∈ place.neighborhoods) : town.isWholeCity = false := by
  simpa [Place.neighborhoods] using (List.mem_filter.1 h).2

lemma mem_towns_iff {place : Place} {town : Town} :
    town ∈ place.towns ↔ town ∈ place.wholeCities ∨ town ∈ place.neighborhoods := by
  simp only [Place.wholeCities, Place.neighborhoods, List.mem_filter]
  cases town.isWholeCity <;> simp

/-- A whole city and a neighborhood of the same city do not exclude each other: each town is an
alternative of its own. -/
lemma decidedBy_anyOf_branches (place : Place) {f : Town → Predicate} {P : Town → Prop}
    (hcity : ∀ town ∈ place.wholeCities, P town ↔ r.get "city" = .text town.city)
    (hpart : ∀ town ∈ place.neighborhoods, DecidedBy r (f town) (P town)) :
    DecidedBy r (anyOf (place.branches f)) (∃ town ∈ place.towns, P town) := by
  have decided : ∀ p ∈ place.branches f, DecidedOn r p := by
    intro p hp
    obtain ⟨_, rfl⟩ | ⟨town, htown, rfl⟩ := mem_branches.1 hp
    · exact (decidedBy_wholeCities place hcity).decidedOn
    · exact (hpart town htown).decidedOn
  refine (decidedBy_anyOf decided).congr ⟨?_, ?_⟩
  · rintro ⟨p, hp, ht⟩
    obtain ⟨_, rfl⟩ | ⟨town, htown, rfl⟩ := mem_branches.1 hp
    · obtain ⟨town, htown, ha⟩ := (decidedBy_wholeCities place hcity).holds_eq_true_iff.1 ht
      exact ⟨town, mem_towns_iff.2 (.inl htown), ha⟩
    · exact ⟨town, mem_towns_iff.2 (.inr htown), (hpart town htown).holds_eq_true_iff.1 ht⟩
  · rintro ⟨town, htown, ha⟩
    obtain hwhole | hneighborhood := mem_towns_iff.1 htown
    · exact ⟨_, mem_branches.2 (.inl ⟨List.ne_nil_of_mem hwhole, rfl⟩),
        (decidedBy_wholeCities place hcity).holds_eq_true_iff.2 ⟨town, hwhole, ha⟩⟩
    · exact ⟨_, mem_branches.2 (.inr ⟨town, hneighborhood, rfl⟩),
        (hpart town hneighborhood).holds_eq_true_iff.2 ha⟩

lemma branches_eq_nil_iff {place : Place} {f : Town → Predicate} :
    place.branches f = [] ↔ place.towns = [] := by
  simp only [List.eq_nil_iff_forall_not_mem]
  constructor
  · intro h town htown
    obtain hwhole | hpart := mem_towns_iff.1 htown
    · exact h _ (mem_branches.2 (.inl ⟨List.ne_nil_of_mem hwhole, rfl⟩))
    · exact h _ (mem_branches.2 (.inr ⟨town, hpart, rfl⟩))
  · intro h p hp
    obtain ⟨hne, _⟩ | ⟨town, htown, _⟩ := mem_branches.1 hp
    · obtain ⟨town, htown⟩ := List.exists_mem_of_ne_nil _ hne
      exact h town (mem_towns_iff.2 (.inl htown))
    · exact h town (mem_towns_iff.2 (.inr htown))

lemma restrictsTo_towns (place : Place) :
    RestrictsTo r place.townConditions (place.towns ≠ [] →
      ∃ town ∈ place.towns, town.Admits (r.get "city") (r.get "neighborhood")) := by
  rw [Place.townConditions]
  split
  · rename_i h
    exact restrictsTo_nil fun hne => absurd (branches_eq_nil_iff.1 h) hne
  · rename_i hne
    have whole : ∀ town ∈ place.wholeCities,
        town.Admits (r.get "city") (r.get "neighborhood") ↔ r.get "city" = .text town.city := by
      intro town h
      simp [Town.Admits, neighborhood_of_mem_wholeCities h]
    have part : ∀ town ∈ place.neighborhoods,
        DecidedBy r town.condition (town.Admits (r.get "city") (r.get "neighborhood")) :=
      fun town h => decidedBy_town town (isWholeCity_of_mem_neighborhoods h)
    refine (decidedBy_anyOf_branches place whole part).restrictsTo.congr ?_
    rw [forall_prop_of_true fun h => hne (branches_eq_nil_iff.2 h)]

lemma not_isEmpty_iff (s : TextSet) : ¬ s.isEmpty = true ↔ ∃ x, x ∈ s := by
  rw [Bool.not_eq_true, TextSet.isEmpty_eq_false_iff]

lemma restrictsTo_propertyTypes (types : TextSet) :
    RestrictsTo r (propertyTypeConditions types) ((∃ word, word ∈ types) →
      ∃ word ∈ types, r.get "property_type" = .text (storedPropertyType word)) := by
  refine (decidedBy_oneOfTexts _ _).restrictsTo.unless.congr ?_
  rw [not_isEmpty_iff]
  simp

lemma restrictsTo_statuses (c : Criteria) (defaultStatuses : TextSet) :
    RestrictsTo r (statusConditions c.statuses defaultStatuses)
      ((∃ s, s ∈ c.eligibleStatuses defaultStatuses) →
        ∃ s ∈ c.eligibleStatuses defaultStatuses, r.get "status" = .text s) := by
  refine (decidedBy_oneOfTexts _ _).restrictsTo.unless.congr ?_
  rw [not_isEmpty_iff]
  rfl

lemma mem_keywordTerms_iff {list : Option String} {term : String} :
    term ∈ keywordTerms list ↔ IsTerm list term := by
  cases list with
  | none => simp [keywordTerms, IsTerm, Text.split, Text.pieces, Text.trim, Text.trimWhile]
  | some s =>
    simp only [keywordTerms, IsTerm, mem_distinct, List.mem_filter, List.mem_map,
      Option.getD_some, Option.mem_def, Option.some.injEq, exists_eq_left', decide_not]
    grind

lemma decidedBy_mention_terms (k : Keywords) (list : Option String) :
    DecidedBy r (k.mention (keywordTerms list))
      (k.mode.Satisfied list (r.get "description")) := by
  have decided (term : String) := decidedBy_mention (r := r) "description" term
  have all : ∀ p ∈ (keywordTerms list).map fun t => Predicate.like "description" t .anywhere,
      DecidedOn r p := by
    rw [List.forall_mem_map]
    exact fun term _ => (decided term).decidedOn
  rw [Keywords.mention]
  cases k.mode with
  | any =>
    refine (decidedBy_anyOf all).congr ?_
    simp only [List.mem_map, exists_exists_and_eq_and, mem_keywordTerms_iff,
      (decided _).holds_eq_true_iff, KeywordMode.Satisfied]
  | all =>
    refine (decidedBy_allOf all).congr ?_
    simp only [List.forall_mem_map, mem_keywordTerms_iff, (decided _).holds_eq_true_iff,
      KeywordMode.Satisfied]

lemma restrictsTo_keywords (k : Keywords) :
    RestrictsTo r k.conditions
      (((∃ term, IsTerm k.wanted term) → k.mode.Satisfied k.wanted (r.get "description")) ∧
        ((∃ term, IsTerm k.unwanted term) →
          ¬ k.mode.Satisfied k.unwanted (r.get "description"))) := by
  have hnil (list : Option String) : ¬ keywordTerms list = [] ↔ ∃ term, IsTerm list term := by
    simp [List.eq_nil_iff_forall_not_mem, mem_keywordTerms_iff]
  have wanted := (decidedBy_mention_terms (r := r) k k.wanted).restrictsTo.unless
    (C := keywordTerms k.wanted = [])
  have unwanted := (decidedBy_mention_terms (r := r) k k.unwanted).negate.restrictsTo.unless
    (C := keywordTerms k.unwanted = [])
  have both := wanted.append unwanted
  rw [hnil, hnil] at both
  exact both.allOf

/-- The condition of a window that begins some days ago, if there is one. -/
def windowClause (column : String) (since : Nat → Outcome Instant) :
    Option Nat → Outcome (List Predicate)
  | some days => (fun t => [notBefore column t]) <$> since days
  | none => .ok []

lemma windowConditions_eq (c : Criteria) (now : Instant) : c.windowConditions now = do
    let listed ← windowClause "created_at" (Criteria.listedSince now) c.listedDays
    let changed ← windowClause "updated_at" now.daysBefore c.changedDays
    return listed ++ changed := by
  rw [Criteria.windowConditions]
  cases c.listedDays <;> cases c.changedDays <;> rfl

lemma restrictsTo_windowClause {column : String} {since : Nat → Outcome Instant}
    {days : Option Nat} {conditions : List Predicate}
    (h : windowClause column since days = .ok conditions) :
    RestrictsTo r conditions
      (∀ n ∈ days, ∃ t, since n = .ok t ∧ (r.get column).NotBefore t) := by
  cases days with
  | none =>
    cases h
    exact restrictsTo_nil (by simp)
  | some n =>
    obtain ⟨t, ht, rfl⟩ := Outcome.map_eq_ok h
    exact (decidedBy_notBefore t).restrictsTo.congr (by simp [ht])

lemma restrictsTo_windows {c : Criteria} {now : Instant} {windows : List Predicate}
    (h : c.windowConditions now = .ok windows) :
    RestrictsTo r windows
      ((∀ days ∈ c.listedDays, ∃ since, Criteria.listedSince now days = .ok since ∧
          (r.get "created_at").NotBefore since) ∧
        ∀ days ∈ c.changedDays, ∃ since, now.daysBefore days = .ok since ∧
          (r.get "updated_at").NotBefore since) := by
  rw [windowConditions_eq] at h
  obtain ⟨listed, hlisted, h⟩ := Outcome.bind_eq_ok h
  obtain ⟨changed, hchanged, h⟩ := Outcome.bind_eq_ok h
  cases h
  exact (restrictsTo_windowClause hlisted).append (restrictsTo_windowClause hchanged)

lemma restrictsTo_floorArea :
    RestrictsTo r [.not (.eq "square_feet" .null),
        (Predicate.range "square_feet" none (some (.float (.zero false)))).negate]
      (r.get "square_feet" ≠ .null ∧
        ¬ (r.get "square_feet").LiesWithin none (some (.zero false))) :=
  decidedBy_not_null.restrictsTo.append
    (restrictsTo_range "square_feet" none (some (.zero false))).negate

lemma restrictsTo_extras (c : Criteria) :
    RestrictsTo r c.extraConditions
      ((c.onlyOpenHouses = true → r.get "open_houses" ≠ .null) ∧
        (c.maxPricePerSqft.isSome = true → r.get "square_feet" ≠ .null ∧
          ¬ (r.get "square_feet").LiesWithin none (some (.zero false)))) :=
  decidedBy_not_null.restrictsTo.onlyIf.append restrictsTo_floorArea.onlyIf

lemma restrictsTo_ranges (c : Criteria) :
    RestrictsTo r c.rangeConditions
      (c.beds.Admits (r.get "bedrooms") ∧ c.baths.Admits (r.get "bathrooms") ∧
        c.sqft.Admits (r.get "square_feet") ∧ c.yearBuilt.Admits (r.get "year_built") ∧
        c.parking.Admits (r.get "total_parking_spaces") ∧
        c.lotSize.Admits (r.get "lot_size")) := by
  have six := (((((restrictsTo_bounds (r := r) "bedrooms" c.beds).append
    (restrictsTo_bounds "bathrooms" c.baths)).append
    (restrictsTo_bounds "square_feet" c.sqft)).append
    (restrictsTo_bounds "year_built" c.yearBuilt)).append
    (restrictsTo_bounds "total_parking_spaces" c.parking)).append
    (restrictsTo_bounds "lot_size" c.lotSize)
  exact six.congr (by simp only [and_assoc])

lemma restrictsTo_address (c : Criteria) :
    RestrictsTo r c.addressConditions
      ((∀ s ∈ c.streetNumber, s ≠ "" → (r.get "address").Mentions (Text.trim s)) ∧
        (∀ s ∈ c.streetName, s ≠ "" → (r.get "address").Mentions (Text.trim s)) ∧
        (∀ s ∈ c.zipCode, s ≠ "" → (r.get "zip_code").BeginsWith (Text.trim s)) ∧
        ∀ s ∈ c.listingNumber, s ≠ "" →
          (r.get "listing_number").Mentions (Text.trim s)) := by
  have four := (((restrictsTo_like (decidedBy_mention (r := r) "address") c.streetNumber).append
    (restrictsTo_like (decidedBy_mention "address") c.streetName)).append
    (restrictsTo_like (decidedBy_beginning "zip_code") c.zipCode)).append
    (restrictsTo_like (decidedBy_mention "listing_number") c.listingNumber)
  exact four.congr (by simp only [and_assoc])

end Clauses

/-- Wherever the condition of criteria is decided on a record, it holds just if the record has all
that the criteria ask for. -/
theorem Criteria.holds_condition_iff_admits {c : Criteria} {defaultStatuses : TextSet}
    {now : Instant} {p : Predicate} {r : Record} {b : Bool}
    (hp : c.condition defaultStatuses now = .ok p) (hb : p.holds r = .ok b) :
    b = true ↔ c.Admits defaultStatuses now r := by
  obtain ⟨windows, hw, hp⟩ := Outcome.bind_eq_ok hp
  cases hp
  rw [holds_allOf] at hb
  have timeless := (((((((restrictsTo_textCondition (r := r) "state" c.place.state).append
    (restrictsTo_towns c.place)).append
    (restrictsTo_bounds "price" ⟨c.price.effectiveMin, c.price.effectiveMax⟩)).append
    (restrictsTo_propertyTypes c.propertyTypes)).append
    (restrictsTo_statuses c defaultStatuses)).append
    (restrictsTo_ranges c)).append
    (restrictsTo_keywords c.keywords)).append
    (restrictsTo_address c)
  have whole := (timeless.append (restrictsTo_windows hw)).append (restrictsTo_extras c)
  rw [whole b hb, Criteria.admits_iff]
  simp only [PriceBounds.effectiveMin, PriceBounds.effectiveMax, Option.isSome_iff_ne_none,
    and_assoc]

/-- A city beside one of its neighborhoods, a price bound that is switched off, unwanted words and
a window of days, on a listing without a description. -/
theorem Criteria.admits_overlapping_towns :
    let c : Criteria := {
      place := {
        state := some "MA", towns := [⟨"Boston", some "Back Bay"⟩, ⟨"Boston", none⟩] }
      price := { min := some (.ofBool true), noMin := true, max := some (.infinite false) }
      beds := { min := some (.ofBool true) }
      keywords := { unwanted := some "pool, deck", mode := .all }
      listedDays := some 2 }
    let now : Instant := ⟨⟨2026, 3, 1⟩, 8, 0, 0, 0, some 0⟩
    let r : Record := [("state", .text "MA"), ("city", .text "Boston"), ("status", .text "active"),
      ("bedrooms", .int 2), ("created_at", .text "2026-02-28T00:00:00+00:00")]
    ∃ p, c.condition (.ofList ["active"]) now = .ok p ∧ p.holds r = .ok true ∧
      c.Admits (.ofList ["active"]) now r := by
  refine ⟨_, rfl, by decide +kernel, ?_⟩
  exact (Criteria.holds_condition_iff_admits (b := true) rfl (by decide +kernel)).1 rfl

end ListingSearch
