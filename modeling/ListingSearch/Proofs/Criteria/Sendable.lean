import ListingSearch.Proofs.Criteria.Canonical
import ListingSearch.Proofs.Criteria.Window
import ListingSearch.Proofs.Query.Sendable
import ListingSearch.Recipients
import ListingSearch.SavedSearch.Registry

/-! What criteria are turned into can be sent. Every dimension of criteria in canonical form
contributes well-formed conditions or none, whichever dimensions are given: texts that are looked
for are trimmed, so they are not empty, and a list of values stands only where it has some. -/
namespace ListingSearch

open Predicate
open Text (Trimmed)

variable {p : Predicate} {ps qs : List Predicate} {column : String}

def AllWellFormed (ps : List Predicate) : Prop := ∀ p ∈ ps, p.WellFormed

lemma allWellFormed_nil : AllWellFormed [] := by simp [AllWellFormed]

lemma AllWellFormed.append (hps : AllWellFormed ps) (hqs : AllWellFormed qs) :
    AllWellFormed (ps ++ qs) := List.forall_mem_append.2 ⟨hps, hqs⟩

lemma allWellFormed_singleton (h : p.WellFormed) : AllWellFormed [p] :=
  List.forall_mem_singleton.2 h

lemma allWellFormed_pair {q : Predicate} (hp : p.WellFormed) (hq : q.WellFormed) :
    AllWellFormed [p, q] := List.forall_mem_cons.2 ⟨hp, allWellFormed_singleton hq⟩

/-- A clause that is left out in a case need be well formed only in the other. -/
lemma allWellFormed_unless {C : Prop} [Decidable C] (h : ¬ C → AllWellFormed ps) :
    AllWellFormed (if C then [] else ps) := by
  split
  · exact allWellFormed_nil
  · rename_i hC
    exact h hC

lemma wellFormed_eq (column : String) (v : Value) : (Predicate.eq column v).WellFormed :=
  .test trivial

lemma wellFormed_oneOfTexts {texts : List String} (h : texts ≠ []) :
    (oneOfTexts column texts).WellFormed := .test (by simpa [Test.WellFormed] using h)

lemma allWellFormed_textCondition (column : String) (s : Option String) :
    AllWellFormed (textCondition column s) := by
  cases s with
  | none => exact allWellFormed_nil
  | some s => exact allWellFormed_unless fun _ => allWellFormed_singleton (wellFormed_eq _ _)

lemma allWellFormed_likeCondition {mode : MatchMode} {s : Option String}
    (h : ∀ t ∈ s, Trimmed t) : AllWellFormed (likeCondition column mode s) := by
  cases s with
  | none => exact allWellFormed_nil
  | some s =>
    obtain ⟨hne, htrim⟩ := h s rfl
    refine allWellFormed_unless fun _ => allWellFormed_singleton (.test ?_)
    rw [htrim]
    exact hne

lemma isFinite_of_finiteBound {x : Option Binary64} {b : Bound} (h : finiteBound x = some b) :
    b.IsFinite := by
  cases x with
  | none => cases h
  | some x =>
    simp only [finiteBound, Option.ite_none_right_eq_some, Option.some.injEq] at h
    obtain ⟨hfinite, rfl⟩ := h
    exact ⟨x, rfl, hfinite⟩

lemma allWellFormed_bounds (column : String) (b : Bounds) :
    AllWellFormed (b.conditions column) := by
  unfold Bounds.conditions
  split
  · exact allWellFormed_nil
  · rename_i hother
    have hsome : (finiteBound b.min).isSome ∨ (finiteBound b.max).isSome := by
      by_contra hnone
      simp only [not_or, Bool.not_eq_true, Option.isSome_eq_false_iff,
        Option.isNone_iff_eq_none] at hnone
      exact hother hnone.1 hnone.2
    refine allWellFormed_singleton (.test ⟨hsome, .inl ?_⟩)
    rintro x (hx | hx) <;> exact isFinite_of_finiteBound hx

section Place

variable {place : Place} {f : Town → Predicate}

lemma allWellFormed_branches (h : ∀ town, (f town).WellFormed) :
    AllWellFormed (place.branches f) := by
  intro p hp
  obtain ⟨hne, rfl⟩ | ⟨town, _, rfl⟩ := mem_branches.1 hp
  · obtain ⟨town, htown⟩ := List.exists_mem_of_ne_nil _ hne
    exact wellFormed_oneOfTexts
      (List.ne_nil_of_mem (mem_distinct.2 (List.mem_map_of_mem htown)))
  · exact h town

lemma wellFormed_town (town : Town) : town.condition.WellFormed :=
  wellFormed_allOf (List.cons_ne_nil _ _)
    (allWellFormed_pair (wellFormed_eq _ _) (wellFormed_eq _ _))

lemma allWellFormed_towns (place : Place) : AllWellFormed place.townConditions := by
  unfold Place.townConditions
  split
  · exact allWellFormed_nil
  · rename_i hne
    exact allWellFormed_singleton (wellFormed_anyOf hne (allWellFormed_branches wellFormed_town))

end Place

lemma toList_ne_nil {s : TextSet} (h : ¬ s.isEmpty = true) : s.toList ≠ [] := by
  simpa [TextSet.isEmpty] using h

lemma allWellFormed_propertyTypes (types : TextSet) :
    AllWellFormed (propertyTypeConditions types) := by
  refine allWellFormed_unless fun h => allWellFormed_singleton (wellFormed_oneOfTexts ?_)
  obtain ⟨word, hword⟩ := (not_isEmpty_iff types).1 h
  exact List.ne_nil_of_mem (TextSet.mem_ofList.2 (List.mem_map_of_mem hword))

lemma allWellFormed_statuses (statuses defaults : TextSet) :
    AllWellFormed (statusConditions statuses defaults) :=
  allWellFormed_unless fun h => allWellFormed_singleton (wellFormed_oneOfTexts (toList_ne_nil h))

section Keywords

variable {k : Keywords} {terms : List String}

lemma wellFormed_mention (hne : terms ≠ []) (h : ∀ term ∈ terms, term ≠ "") :
    (k.mention terms).WellFormed := by
  have hne' : terms.map (fun t => Predicate.like "description" t .anywhere) ≠ [] := by
    simpa using hne
  have hall : AllWellFormed (terms.map fun t => Predicate.like "description" t .anywhere) :=
    List.forall_mem_map.2 fun term hterm => .test (h term hterm)
  unfold Keywords.mention
  cases k.mode with
  | all => exact wellFormed_allOf hne' hall
  | any => exact wellFormed_anyOf hne' hall

lemma ne_empty_of_mem_keywordTerms {s : Option String} {term : String}
    (h : term ∈ keywordTerms s) : term ≠ "" := by
  obtain ⟨_, _, _, _, _, hne⟩ := mem_keywordTerms_iff.1 h
  exact hne

lemma allWellFormed_keywords (k : Keywords) : AllWellFormed k.conditions := by
  have wanted : AllWellFormed (if keywordTerms k.wanted = [] then []
      else [k.mention (keywordTerms k.wanted)]) :=
    allWellFormed_unless fun hne =>
      allWellFormed_singleton (wellFormed_mention hne fun _ => ne_empty_of_mem_keywordTerms)
  have unwanted : AllWellFormed (if keywordTerms k.unwanted = [] then []
      else [(k.mention (keywordTerms k.unwanted)).negate]) :=
    allWellFormed_unless fun hne =>
      allWellFormed_singleton (wellFormed_mention hne fun _ => ne_empty_of_mem_keywordTerms).negate
  exact allWellFormed_unless fun hne =>
    allWellFormed_singleton (wellFormed_allOf hne (wanted.append unwanted))

end Keywords

namespace Criteria

variable {c : Criteria} {now t : Instant}

lemma isValid_of_listedSince {days : Nat} (h : now.IsValid) (ht : listedSince now days = .ok t) :
    t.IsValid := by
  unfold listedSince at ht
  split at ht
  · cases ht
    exact h.midnight
  · exact (h.of_daysBefore ht).1

lemma wellFormed_notBefore (h : t.IsValid) : (notBefore column t).WellFormed := by
  refine .test ⟨.inl rfl, .inr ?_⟩
  rintro b (hb | hb)
  · cases hb
    exact ⟨t, h, rfl⟩
  · cases hb

lemma allWellFormed_windowClause {since : Nat → Outcome Instant} {days : Option Nat}
    (hsince : ∀ {n t}, since n = .ok t → t.IsValid) (h : windowClause column since days = .ok ps) :
    AllWellFormed ps := by
  cases days with
  | none =>
    cases h
    exact allWellFormed_nil
  | some n =>
    obtain ⟨t, ht, rfl⟩ := Outcome.map_eq_ok h
    exact allWellFormed_singleton (wellFormed_notBefore (hsince ht))

lemma allWellFormed_windows (hnow : now.IsValid) (h : c.windowConditions now = .ok ps) :
    AllWellFormed ps := by
  rw [windowConditions_eq] at h
  obtain ⟨listed, hlisted, h⟩ := Outcome.bind_eq_ok h
  obtain ⟨changed, hchanged, h⟩ := Outcome.bind_eq_ok h
  cases h
  exact (allWellFormed_windowClause (isValid_of_listedSince hnow) hlisted).append
    (allWellFormed_windowClause (fun ht => (hnow.of_daysBefore ht).1) hchanged)

lemma allWellFormed_extras (c : Criteria) : AllWellFormed c.extraConditions := by
  have hrange : (Predicate.range "square_feet" none (some (.float (.zero false)))).WellFormed := by
    refine .test ⟨.inr rfl, .inl ?_⟩
    rintro b (hb | hb)
    · cases hb
    · cases hb
      exact ⟨_, rfl, rfl⟩
  unfold extraConditions
  refine AllWellFormed.append ?_ ?_
  · split
    · exact allWellFormed_singleton (.not trivial)
    · exact allWellFormed_nil
  · split
    · exact allWellFormed_pair (.not trivial) hrange.negate
    · exact allWellFormed_nil

lemma allWellFormed_timeless (h : c.Canonical) (defaults : TextSet) :
    AllWellFormed (c.timelessConditions defaults) := by
  have ranges : AllWellFormed c.rangeConditions :=
    (((((allWellFormed_bounds _ c.beds).append (allWellFormed_bounds _ c.baths)).append
      (allWellFormed_bounds _ c.sqft)).append (allWellFormed_bounds _ c.yearBuilt)).append
      (allWellFormed_bounds _ c.parking)).append (allWellFormed_bounds _ c.lotSize)
  have address : AllWellFormed c.addressConditions :=
    (((allWellFormed_likeCondition h.streetNumber).append
      (allWellFormed_likeCondition h.streetName)).append
      (allWellFormed_likeCondition h.zipCode)).append
      (allWellFormed_likeCondition h.listingNumber)
  exact (((((((allWellFormed_textCondition _ _).append (allWellFormed_towns _)).append
    (allWellFormed_bounds _ _)).append (allWellFormed_propertyTypes _)).append
    (allWellFormed_statuses _ _)).append ranges).append (allWellFormed_keywords _)).append address

/-- The condition of criteria in canonical form is well formed unless it always holds. -/
lemma wellFormed_condition {defaults : TextSet} (h : c.Canonical) (hnow : now.IsValid)
    (hp : c.condition defaults now = .ok p) : p = .always ∨ p.WellFormed := by
  obtain ⟨windows, hwindows, hp⟩ := Outcome.bind_eq_ok hp
  cases hp
  have hall := ((allWellFormed_timeless h defaults).append
    (allWellFormed_windows hnow hwindows)).append (allWellFormed_extras c)
  by_cases hnil : c.timelessConditions defaults ++ windows ++ c.extraConditions = []
  · rw [hnil]
    exact .inl rfl
  · exact .inr (wellFormed_allOf hnil hall)

lemma sendable_without {excluded : TextSet} (h : p = .always ∨ p.WellFormed) :
    Query.Sendable (Registry.without excluded p) := by
  unfold Registry.without
  split
  · rcases h with rfl | h
    · exact Query.sendable_always
    · exact Query.sendable_of_wellFormed h
  · rename_i hsome
    have hnot : (Predicate.not (oneOfTexts "id" excluded.toList)).WellFormed :=
      .not (by simpa [Test.WellFormed] using toList_ne_nil hsome)
    rcases h with rfl | h
    · exact Query.sendable_of_wellFormed hnot
    · exact Query.sendable_of_wellFormed
        (wellFormed_allOf (List.cons_ne_nil _ _) (allWellFormed_pair h hnot))

end Criteria

namespace Recipients

lemma wellFormed_coveredOr (column : String) (v : Value) : (coveredOr column v).WellFormed :=
  wellFormed_anyOf (List.cons_ne_nil _ _)
    (allWellFormed_pair (wellFormed_eq _ _) (wellFormed_eq _ _))

lemma wellFormed_townCovered (town : Town) : (townCovered town).WellFormed :=
  wellFormed_allOf (List.cons_ne_nil _ _)
    (allWellFormed_pair (wellFormed_eq _ _) (wellFormed_coveredOr _ _))

lemma allWellFormed_county (place : Place) : AllWellFormed (countyConditions place) := by
  unfold countyConditions
  split
  · exact allWellFormed_unless fun _ => allWellFormed_singleton (wellFormed_coveredOr _ _)
  · exact allWellFormed_nil

lemma sendable_coverage (place : Place) : Query.Sendable (coverage place).1 := by
  have hstate := allWellFormed_textCondition "state" place.state
  unfold coverage
  split
  · split
    · exact Query.sendable_always
    · rename_i q _ heq
      rw [heq] at hstate
      exact Query.sendable_of_wellFormed (hstate q List.mem_cons_self)
  · rename_i hne
    have htowns : (anyOf (place.branches townCovered)).WellFormed :=
      wellFormed_anyOf (mt branches_eq_nil_iff.1 hne)
        (allWellFormed_branches wellFormed_townCovered)
    exact Query.sendable_of_wellFormed (wellFormed_allOf (by simp)
      ((hstate.append (allWellFormed_county place)).append (allWellFormed_singleton htowns)))

end Recipients

/-- Every condition that criteria lead to is well formed and can be sent with at most one choice:
that of the listings, whichever are left out, and that of the coverage areas. -/
theorem Criteria.sendable_of_read {strict : Bool} {v : Value} {c : Criteria} {now : Instant}
    (defaults excluded : TextSet) (hread : read strict v = .ok c) (hnow : now.IsValid)
    (hp : c.condition defaults now = .ok p) :
    Query.Sendable (Registry.without excluded p) ∧
      Query.Sendable (Recipients.coverage c.place).1 :=
  ⟨sendable_without (wellFormed_condition (canonical_of_read hread) hnow hp),
    Recipients.sendable_coverage c.place⟩

/-- A filter for today's listings in two towns that have neither of two keywords. -/
def Criteria.plainLiving : Value := .object [
  ("selectedTowns", .list [.text "Boston - Back Bay", .text "Salem"]),
  ("keywordsExclude", .text "pool, ,deck"), ("keywordMode", .text "all"),
  ("listDate", .text "today")]

/-- Three choices stand in the condition, and they are sent as one. -/
theorem Criteria.sendable_of_read_plainLiving :
    ∃ c p, read true plainLiving = .ok c ∧ afternoon.IsValid ∧
      c.condition .empty afternoon = .ok p ∧
      Query.Sendable (Registry.without (.ofList ["12"]) p) ∧
      Query.Sendable (Recipients.coverage c.place).1 ∧
      (·.map Query.Clause.isEither) <$>
        (Query.filters (Registry.without (.ofList ["12"]) p)).outcome = .ok [false, true] := by
  have hread : read true plainLiving = .ok {
      place := { towns := [⟨"Boston", some "Back Bay"⟩, ⟨"Salem", none⟩] }
      keywords := { unwanted := some "pool, ,deck", mode := .all }
      listedDays := some 0 } := by
    decide +kernel
  have hnow : afternoon.IsValid :=
    ⟨isValid_afternoon, by decide, by decide, by decide, by decide, by decide⟩
  obtain ⟨hlistings, hareas⟩ := sendable_of_read .empty (.ofList ["12"]) hread hnow rfl
  exact ⟨_, _, hread, hnow, rfl, hlistings, hareas, by decide +kernel⟩

end ListingSearch
