import ListingSearch.Memory.Basic
import ListingSearch.Proofs.Criteria.Admission
import ListingSearch.Proofs.Memory.Ordering
import ListingSearch.Proofs.Plan
import ListingSearch.Recipients

/-! Which coverage areas count for a place: those in its state, in its county or in none, and in one
of its towns or in the whole city of one. Listings are found by a condition of their own. An area
around a listing that criteria can find counts for the place of the criteria, so whoever covers the
surroundings of the listing is among the recipients. -/
namespace ListingSearch

/-- The area lies in the city of the town and, if the town is a neighborhood, in it or in none. -/
def Town.CoveredBy (town : Town) (area : Record) : Prop :=
  area.get "city" = .text town.city ∧
    ∀ n ∈ town.neighborhood, area.get "neighborhood" = .text n ∨ area.get "neighborhood" = .null

/-- What an area has to be like to count for a place. The county matters only beside towns. -/
structure Place.Reaches (place : Place) (area : Record) : Prop where
  state : ∀ s ∈ place.state, s ≠ "" → area.get "state" = .text s
  county : place.towns ≠ [] → ∀ s ∈ place.county, s ≠ "" →
    area.get "county" = .text s ∨ area.get "county" = .null
  town : place.towns ≠ [] → ∃ town ∈ place.towns, town.CoveredBy area

/-- The area is around a listing: in its state and city, in its neighborhood or in none, and in no
county or in that of the place. -/
structure Place.Around (place : Place) (listing area : Record) : Prop where
  state : (area.get "state").same (listing.get "state") = true
  city : (area.get "city").same (listing.get "city") = true
  neighborhood : (area.get "neighborhood").same (listing.get "neighborhood") = true ∨
    area.get "neighborhood" = .null
  county : area.get "county" = .null ∨ ∃ s ∈ place.county, area.get "county" = .text s

namespace Recipients

open Predicate

variable {r : Record} {place : Place}

lemma decidedBy_null (column : String) :
    DecidedBy r (.eq column .null) (r.get column = .null) := by
  refine ⟨(r.get column).isNull, rfl, ?_⟩
  rw [← not_iff_not, Bool.not_eq_true, Value.isNull_eq_false_iff]

lemma decidedBy_coveredOr (column s : String) : DecidedBy r (coveredOr column (.text s))
    (r.get column = .text s ∨ r.get column = .null) := by
  have htext := decidedBy_eq_text (r := r) column s
  have hnull := decidedBy_null (r := r) column
  have decided : ∀ p ∈ [Predicate.eq column (.text s), .eq column .null], DecidedOn r p :=
    List.forall_mem_cons.2 ⟨htext.decidedOn, List.forall_mem_singleton.2 hnull.decidedOn⟩
  refine (decidedBy_anyOf decided).congr ?_
  simp only [List.mem_cons, List.not_mem_nil, or_false, exists_eq_or_imp, exists_eq_left,
    htext.holds_eq_true_iff, hnull.holds_eq_true_iff]

lemma decidedBy_townCovered {town : Town} (h : town.isWholeCity = false) :
    DecidedBy r (townCovered town) (town.CoveredBy r) := by
  obtain ⟨city, neighborhood⟩ := town
  cases neighborhood with
  | none => simp [Town.isWholeCity] at h
  | some n =>
    have hcity := decidedBy_eq_text (r := r) "city" city
    have hn := decidedBy_coveredOr (r := r) "neighborhood" n
    refine ((hcity.restrictsTo.append hn.restrictsTo).decidedBy_allOf ?_).congr ?_
    · exact List.forall_mem_cons.2 ⟨hcity.decidedOn, List.forall_mem_singleton.2 hn.decidedOn⟩
    · simp [Town.CoveredBy]

lemma decidedBy_towns (place : Place) : DecidedBy r (anyOf (place.branches townCovered))
    (∃ town ∈ place.towns, town.CoveredBy r) := by
  refine decidedBy_anyOf_branches place (fun town h => ?_) fun town h =>
    decidedBy_townCovered (isWholeCity_of_mem_neighborhoods h)
  simp [Town.CoveredBy, neighborhood_of_mem_wholeCities h]

lemma decidedOn_textCondition (column : String) (s : Option String) :
    ∀ p ∈ textCondition column s, DecidedOn r p := by
  unfold textCondition
  split
  · split
    · simp
    · exact List.forall_mem_singleton.2 (decidedBy_eq_text column _).decidedOn
  · simp

lemma restrictsTo_countyConditions (place : Place) : RestrictsTo r (countyConditions place)
    (∀ s ∈ place.county, s ≠ "" →
      r.get "county" = .text s ∨ r.get "county" = .null) := by
  unfold countyConditions
  split
  · rename_i s hs
    exact (decidedBy_coveredOr "county" s).restrictsTo.unless.congr (by simp [hs])
  · rename_i hnone
    exact restrictsTo_nil (by simp [hnone])

lemma decidedOn_countyConditions (place : Place) :
    ∀ p ∈ countyConditions place, DecidedOn r p := by
  unfold countyConditions
  split
  · split
    · simp
    · exact List.forall_mem_singleton.2 (decidedBy_coveredOr "county" _).decidedOn
  · simp

/-- The condition on areas is decided on every record, and it holds just of those that count for
the place. -/
lemma decidedBy_coverage (place : Place) (r : Record) :
    DecidedBy r (coverage place).1 (place.Reaches r) := by
  have hstate := restrictsTo_textCondition (r := r) "state" place.state
  have hdecided := decidedOn_textCondition (r := r) "state" place.state
  unfold coverage
  split
  · rename_i htowns
    have hreaches : place.Reaches r ↔ ∀ s ∈ place.state, s ≠ "" → r.get "state" = .text s :=
      ⟨fun h => h.state, fun h => ⟨h, fun hne => absurd htowns hne, fun hne => absurd htowns hne⟩⟩
    rw [hreaches]
    -- Without towns there is the condition on the state or none at all.
    rcases hlist : textCondition "state" place.state with _ | ⟨p, ps⟩
    · rw [hlist] at hstate
      exact ⟨true, rfl, iff_of_true rfl (hstate.of_forall_holds (by simp))⟩
    · obtain rfl : ps = [] := by
        unfold textCondition at hlist
        grind
      rw [hlist] at hstate hdecided
      obtain ⟨b, hb⟩ := hdecided p (by simp)
      exact ⟨b, hb, hstate b (by rw [allHold_singleton, hb])⟩
  · rename_i htowns
    have htown := decidedBy_towns (r := r) place
    have hall := (hstate.append (restrictsTo_countyConditions place)).append htown.restrictsTo
    refine (hall.decidedBy_allOf ?_).congr ?_
    · simp only [List.forall_mem_append, List.forall_mem_singleton]
      exact ⟨⟨hdecided, decidedOn_countyConditions place⟩, htown.decidedOn⟩
    · exact ⟨fun ⟨⟨hs, hc⟩, ht⟩ => ⟨hs, fun _ => hc, fun _ => ht⟩,
        fun h => ⟨⟨h.state, h.county htowns⟩, h.town htowns⟩⟩

/-- An area around a listing counts, if the listing is in the state and in one of the towns. -/
lemma reaches_of_around {listing area : Record} (h : place.Around listing area)
    (hstate : ∀ s ∈ place.state, s ≠ "" → listing.get "state" = .text s)
    (htown : place.towns ≠ [] →
      ∃ town ∈ place.towns, town.Admits (listing.get "city") (listing.get "neighborhood")) :
    place.Reaches area where
  state s hs hne := by
    have hsame := h.state
    rwa [hstate s hs hne, Value.same_text_iff] at hsame
  county _ s hs _ := by
    rcases h.county with hnone | ⟨t, ht, hcounty⟩
    · exact .inr hnone
    · obtain rfl : s = t := Option.some.inj (hs.symm.trans ht)
      exact .inl hcounty
  town hne := by
    obtain ⟨town, hmem, hcity, hneighborhood⟩ := htown hne
    refine ⟨town, hmem, ?_, fun n hn => h.neighborhood.imp_left fun hsame => ?_⟩
    · have hsame := h.city
      rwa [hcity, Value.same_text_iff] at hsame
    · rwa [hneighborhood n hn, Value.same_text_iff] at hsame

/-- What a listing has to be like in any case to be found. -/
lemma place_of_condition {c : Criteria} {defaultStatuses : TextSet} {now : Instant}
    {p : Predicate} {listing : Record} (hp : c.condition defaultStatuses now = .ok p)
    (h : p.holds listing = .ok true) :
    (∀ s ∈ c.place.state, s ≠ "" → listing.get "state" = .text s) ∧
      (c.place.towns ≠ [] → ∃ town ∈ c.place.towns,
        town.Admits (listing.get "city") (listing.get "neighborhood")) := by
  obtain ⟨windows, -, hp⟩ := Outcome.bind_eq_ok hp
  cases hp
  rw [holds_allOf, allHold_eq_true_iff] at h
  constructor
  · refine (restrictsTo_textCondition "state" c.place.state).of_forall_holds fun q hq => h q ?_
    simp [Criteria.timelessConditions, hq]
  · refine (restrictsTo_towns c.place).of_forall_holds fun q hq => h q ?_
    simp [Criteria.timelessConditions, hq]

end Recipients

namespace CoverageArea

variable {rows : List Record} {r : Record} {s : String}

lemma owner_of_ofRecord {area : CoverageArea} {v : Value} (h : ofRecord r = .valid area)
    (hv : r.get? "agent_id" = some v) : v = .text area.owner := by
  have hgives : (ofRecord r).Gives fun area => v = .text area.owner := by
    unfold ofRecord
    iterate 4 apply Checked.gives_seq_any
    apply Checked.gives_map
    intro owner hread
    intros
    rw [ownerOf, hv] at hread
    exact Option.some.inj (hv.symm.trans (Check.text_of_required hread))
  exact hgives area h

lemma agentId_of_ofRecord {area : CoverageArea} (h : ofRecord r = .valid area)
    (htruthy : (r.get "agent_id").truthy = true) :
    r.get "agent_id" = .text area.owner ∧ area.owner ≠ "" := by
  cases hget : r.get? "agent_id" with
  | none => simp [Record.get, hget, Value.truthy] at htruthy
  | some v =>
    have hcolumn : r.get "agent_id" = .text area.owner := by
      rw [Record.get, hget, Option.getD_some, owner_of_ofRecord h hget]
    rw [hcolumn] at htruthy
    exact ⟨hcolumn, bne_iff_ne.1 htruthy⟩

/-- If every row that names an owner is an area, the owners can be read, and they are those that are
named. -/
lemma exists_owners_iff
    (h : ∀ r ∈ rows, (r.get "agent_id").truthy = true → ∃ area, ofRecord r = .valid area) :
    ∃ set : TextSet, owners rows = .ok set ∧
      ∀ s, s ∈ set ↔ s ≠ "" ∧ ∃ r ∈ rows, r.get "agent_id" = .text s := by
  induction rows with
  | nil => exact ⟨.empty, rfl, by simp⟩
  | cons r rest ih =>
    rw [List.forall_mem_cons] at h
    obtain ⟨set, hset, hmem⟩ := ih h.2
    simp only [List.exists_mem_cons_iff, owners]
    split
    · rename_i htruthy
      obtain ⟨area, harea⟩ := h.1 htruthy
      obtain ⟨hcolumn, hne⟩ := agentId_of_ofRecord harea htruthy
      refine ⟨set.insert area.owner, by rw [harea, hset]; rfl, fun s => ?_⟩
      rw [TextSet.mem_insert, hmem, hcolumn, Value.text.injEq, and_or_left]
      refine or_congr_left ⟨?_, fun h => h.2.symm⟩
      rintro rfl
      exact ⟨hne, rfl⟩
    · rename_i hfalse
      refine ⟨set, hset, fun s => ?_⟩
      rw [hmem, and_congr_right_iff]
      refine fun hne => (or_iff_right fun hcolumn => hfalse ?_).symm
      rw [hcolumn]
      exact bne_iff_ne.2 hne

/-- If every row that names an owner is an area, the owners can be read, and whoever is named is
among them. -/
lemma exists_owners
    (h : ∀ r ∈ rows, (r.get "agent_id").truthy = true → ∃ area, ofRecord r = .valid area) :
    ∃ set : TextSet, owners rows = .ok set ∧
      ∀ r ∈ rows, ∀ s, r.get "agent_id" = .text s → s ≠ "" → s ∈ set := by
  obtain ⟨set, hset, hmem⟩ := exists_owners_iff h
  exact ⟨set, hset, fun r hr s hs hne => (hmem s).2 ⟨hne, r, hr, hs⟩⟩

end CoverageArea

namespace Recipients

/-- An area around a listing that criteria find counts for their place, and who is interested in the
area is among the recipients that are estimated. -/
theorem counted_of_found {c : Criteria} {defaultStatuses : TextSet} {now : Instant}
    {p : Predicate} {listing area : Record} (hp : c.condition defaultStatuses now = .ok p)
    (hlisting : p.holds listing = .ok true) (harea : c.place.Around listing area) :
    (coverage c.place).1.holds area = .ok true ∧
      ∀ (m : Memory) (owner : String), area ∈ m.areas →
        area.get "agent_id" = .text owner → owner ≠ "" →
        (∀ r ∈ m.areas, (r.get "agent_id").truthy = true →
          ∃ a, CoverageArea.ofRecord r = .valid a) →
        ∃ owners : List Value,
          Memory.handle (.owners (coverage c.place).1) m = (.ok owners, m) ∧
          .text owner ∈ owners ∧
          (estimate c.place).run Memory.handle m =
            (.ok ⟨owners.length, (coverage c.place).2⟩, m) := by
  obtain ⟨hstate, htown⟩ := place_of_condition hp hlisting
  have hreaches : c.place.Reaches area := reaches_of_around harea hstate htown
  have hholds := (decidedBy_coverage c.place area).holds_eq_true_iff.2 hreaches
  refine ⟨hholds, fun m owner hmem hid hne hrows => ?_⟩
  have hmatching : Inventory.matching (coverage c.place).1 m.areas =
      .ok (m.areas.filter fun r => (coverage c.place).1.holds r = .ok true) :=
    Inventory.matching_eq fun r _ => (decidedBy_coverage c.place r).decidedOn
  have hfound : ∀ r ∈ m.areas.filter fun r => (coverage c.place).1.holds r = .ok true,
      (r.get "agent_id").truthy = true → ∃ a, CoverageArea.ofRecord r = .valid a :=
    fun r hr => hrows r (List.mem_of_mem_filter hr)
  obtain ⟨set, hset, hcounted⟩ := CoverageArea.exists_owners hfound
  have howners : (Inventory.matching (coverage c.place).1 m.areas >>= CoverageArea.owners) =
      .ok set := by
    rw [hmatching]
    exact hset
  have hreply : Memory.handle (.owners (coverage c.place).1) m =
      (.ok (set.toList.map .text), m) := by
    simp only [Memory.handle, howners]
    rfl
  refine ⟨set.toList.map .text, hreply, List.mem_map_of_mem ?_, ?_⟩
  · exact hcounted area (List.mem_filter.2 ⟨hmem, by simpa using hholds⟩) owner hid hne
  · exact Plan.run_bind_of_ok ((Plan.run_request _ m).trans hreply)

/-- A listing in a neighborhood that is asked for beside another city, and an area that covers the
whole city of the neighborhood. -/
theorem counted_of_found_wholeCity :
    let c : Criteria := { place := {
      state := some "MA", county := some "Suffolk",
      towns := [⟨"Cambridge", none⟩, ⟨"Boston", some "Back Bay"⟩, ⟨"Boston", some "Fenway"⟩] } }
    let now : Instant := ⟨⟨2026, 3, 1⟩, 8, 0, 0, 0, some 0⟩
    let listing : Record := [("state", .text "MA"), ("city", .text "Boston"),
      ("neighborhood", .text "Fenway")]
    let area : Record := [("agent_id", .text "ana"), ("state", .text "MA"),
      ("city", .text "Boston"), ("neighborhood", .null)]
    ∃ p, c.condition .empty now = .ok p ∧ p.holds listing = .ok true ∧
      c.place.Around listing area ∧
      (coverage c.place).1.holds area = .ok true ∧
      (estimate c.place).run Memory.handle { areas := [area] } =
        (.ok ⟨1, .city⟩, { areas := [area] }) := by
  intro c now listing area
  have haround : c.place.Around listing area :=
    ⟨by decide, by decide, .inr rfl, .inl rfl⟩
  have hp : c.condition .empty now = .ok (.allOf (c.timelessConditions .empty)) := rfl
  have hlisting : (Predicate.allOf (c.timelessConditions .empty)).holds listing = .ok true := by
    decide +kernel
  obtain ⟨hholds, hcounted⟩ := counted_of_found hp hlisting haround
  obtain ⟨owners, hreply, -, hestimate⟩ := hcounted { areas := [area] } "ana" (by simp) rfl
    (by decide) (by simpa using fun _ => ⟨_, rfl⟩)
  obtain rfl : [Value.text "ana"] = owners := by
    have h := congrArg Prod.fst hreply
    exact Except.ok.inj h
  exact ⟨_, hp, hlisting, haround, hholds, hestimate⟩

end Recipients
end ListingSearch
