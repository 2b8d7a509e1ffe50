import ListingSearch.Proofs.Recipients.Coverage
import Mathlib.Data.Finset.Card

/-! How many recipients are estimated: one for each owner who is named by an area that counts for
the place, however many areas the owner has. Only the set of the towns and the set of the areas
matter, and of criteria only their place. -/
namespace ListingSearch

namespace CoverageArea

variable {r : Record}

def columns : List String := ["agent_id", "state", "county", "city", "neighborhood"]

/-- Every column of the row is a text or not filled in. -/
def Textual (r : Record) : Prop :=
  ∀ column ∈ columns, r.get column = .null ∨ ∃ s, r.get column = .text s

lemma exists_field? {column : String} (h : r.get column = .null ∨ ∃ s, r.get column = .text s) :
    ∃ s?, Check.field? column Check.text r = .valid s? := by
  rw [Record.get] at h
  unfold Check.field? Check.withDefault
  cases hget : r.get? column with
  | none => exact ⟨none, rfl⟩
  | some v =>
    rw [hget, Option.getD_some] at h
    rcases h with rfl | ⟨s, rfl⟩
    · exact ⟨none, rfl⟩
    · exact ⟨some s, rfl⟩

lemma exists_ownerOf (h : r.get "agent_id" = .null ∨ ∃ s, r.get "agent_id" = .text s)
    (htruthy : (r.get "agent_id").truthy = true) : ∃ owner, ownerOf r = .valid owner := by
  rw [Record.get] at h htruthy
  cases hget : r.get? "agent_id" with
  | none => simp [hget, Value.truthy] at htruthy
  | some v =>
    rw [hget, Option.getD_some] at h htruthy
    rcases h with rfl | ⟨s, rfl⟩
    · cases htruthy
    · exact ⟨s, by rw [ownerOf, hget, Check.required, hget]; rfl⟩

/-- A row of texts that names an owner is an area. -/
lemma Textual.exists_ofRecord (h : Textual r) (htruthy : (r.get "agent_id").truthy = true) :
    ∃ area, ofRecord r = .valid area := by
  obtain ⟨owner, howner⟩ := exists_ownerOf (h _ (by simp [columns])) htruthy
  obtain ⟨state, hstate⟩ := exists_field? (h "state" (by simp [columns]))
  obtain ⟨county, hcounty⟩ := exists_field? (h "county" (by simp [columns]))
  obtain ⟨city, hcity⟩ := exists_field? (h "city" (by simp [columns]))
  obtain ⟨neighborhood, hneighborhood⟩ := exists_field? (h "neighborhood" (by simp [columns]))
  exact ⟨⟨owner, state, county, city, neighborhood⟩, by
    rw [ofRecord, howner, hstate, hcounty, hcity, hneighborhood]; rfl⟩

end CoverageArea

namespace Place

variable {a b : Place} {r : Record}

/-- How exactly the place is known: by its towns, else by its state, else not at all. -/
def level (place : Place) : Recipients.Level :=
  if place.towns ≠ [] then .city
  else if place.state = none ∨ place.state = some "" then .all
  else .state

/-- The places have the same state and county, and the same towns in whatever order and however
often. -/
structure Alike (a b : Place) : Prop where
  state : a.state = b.state
  county : a.county = b.county
  town : ∀ town, town ∈ a.towns ↔ town ∈ b.towns

lemma Alike.towns_eq_nil_iff (h : a.Alike b) : a.towns = [] ↔ b.towns = [] := by
  simp only [List.eq_nil_iff_forall_not_mem, h.town]

lemma Alike.level_eq (h : a.Alike b) : a.level = b.level := by
  simp only [level, ne_eq, h.towns_eq_nil_iff, h.state]

lemma Alike.reaches_iff (h : a.Alike b) : a.Reaches r ↔ b.Reaches r := by
  have hcovered : (∃ town ∈ a.towns, town.CoveredBy r) ↔ ∃ town ∈ b.towns, town.CoveredBy r := by
    simp only [h.town]
  constructor
  · rintro ⟨hstate, hcounty, htown⟩
    rw [h.state] at hstate
    rw [h.county, ne_eq, h.towns_eq_nil_iff] at hcounty
    rw [ne_eq, h.towns_eq_nil_iff, hcovered] at htown
    exact ⟨hstate, hcounty, htown⟩
  · rintro ⟨hstate, hcounty, htown⟩
    rw [← h.state] at hstate
    rw [← h.county, ne_eq, ← h.towns_eq_nil_iff] at hcounty
    rw [ne_eq, ← h.towns_eq_nil_iff, ← hcovered] at htown
    exact ⟨hstate, hcounty, htown⟩

end Place

namespace Recipients

variable {place other : Place} {areas rows : List Record} {m : Memory}

/-- An area that counts for the place names the owner. -/
def IsInterested (place : Place) (areas : List Record) (owner : String) : Prop :=
  owner ≠ "" ∧ ∃ r ∈ areas, place.Reaches r ∧ r.get "agent_id" = .text owner

lemma isInterested_congr {owner : String} (hplace : other.Alike place)
    (hrows : ∀ r, r ∈ rows ↔ r ∈ areas) :
    IsInterested other rows owner ↔ IsInterested place areas owner := by
  simp only [IsInterested, hrows, hplace.reaches_iff]

lemma coverage_level (place : Place) : (coverage place).2 = place.level := by
  unfold coverage Place.level
  by_cases htowns : place.towns = []
  · rw [if_pos htowns, if_neg (not_not_intro htowns)]
    cases place.state with
    | none => rfl
    | some s => by_cases hs : s = "" <;> simp [textCondition, hs]
  · rw [if_neg htowns, if_pos htowns]

/-- The estimate for a place is the number of those interested in it. -/
lemma run_estimate (place : Place) (h : ∀ r ∈ m.areas, CoverageArea.Textual r) :
    ∃ owners : Finset String, (∀ s, s ∈ owners ↔ IsInterested place m.areas s) ∧
      (estimate place).run Memory.handle m = (.ok ⟨owners.card, place.level⟩, m) := by
  have hmatching : Inventory.matching (coverage place).1 m.areas =
      .ok (m.areas.filter fun r => (coverage place).1.holds r = .ok true) :=
    Inventory.matching_eq fun r _ => (decidedBy_coverage place r).decidedOn
  have hfound : ∀ r ∈ m.areas.filter fun r => (coverage place).1.holds r = .ok true,
      (r.get "agent_id").truthy = true → ∃ a, CoverageArea.ofRecord r = .valid a :=
    fun r hr => (h r (List.mem_of_mem_filter hr)).exists_ofRecord
  obtain ⟨set, hset, hmem⟩ := CoverageArea.exists_owners_iff hfound
  refine ⟨set.toList.toFinset, fun s => ?_, ?_⟩
  · rw [List.mem_toFinset, TextSet.mem_toList, hmem, IsInterested]
    simp only [List.mem_filter, decide_eq_true_eq, (decidedBy_coverage place _).holds_eq_true_iff,
      and_assoc]
  · have hreply : Memory.handle (.owners (coverage place).1) m =
        (.ok (set.toList.map .text), m) := by
      simp only [Memory.handle, hmatching]
      change ((·.toList.map Value.text) <$> CoverageArea.owners _, m) = _
      rw [hset]
      rfl
    have hnodup : set.toList.Nodup := set.ascending.imp fun hlt => ne_of_lt hlt
    rw [List.toFinset_card_of_nodup hnodup, ← coverage_level, ← List.length_map Value.text]
    exact Plan.run_bind_of_ok ((Plan.run_request _ m).trans hreply)

/-- The estimate is the number of different owners of the areas that count, and it tells how exactly
the place is known. It is the same for criteria as for their place, for the towns in another order
or repeated, and for the areas in another order or repeated. -/
theorem run_estimateFor (subject : Subject) (h : ∀ r ∈ m.areas, CoverageArea.Textual r) :
    (∃ owners : Finset String,
      (∀ s, s ∈ owners ↔ IsInterested subject.toPlace m.areas s) ∧
      (estimateFor subject).run Memory.handle m =
        (.ok ⟨owners.card, subject.toPlace.level⟩, m)) ∧
    (∀ c : Criteria, estimateFor (.criteria c) = estimateFor (.place c.place)) ∧
    ∀ (similar : Subject) (m' : Memory), similar.toPlace.Alike subject.toPlace →
      (∀ r, r ∈ m'.areas ↔ r ∈ m.areas) →
      ((estimateFor similar).run Memory.handle m').1 =
        ((estimateFor subject).run Memory.handle m).1 := by
  obtain ⟨owners, howners, hrun⟩ := run_estimate subject.toPlace h
  refine ⟨⟨owners, howners, hrun⟩, fun _ => rfl, fun similar m' hsimilar hareas => ?_⟩
  have h' : ∀ r ∈ m'.areas, CoverageArea.Textual r := fun r hr => h r ((hareas r).1 hr)
  obtain ⟨owners', howners', hrun'⟩ := run_estimate similar.toPlace h'
  have hsame : owners' = owners := Finset.ext fun s =>
    (howners' s).trans ((isInterested_congr hsimilar hareas).trans (howners s).symm)
  rw [estimateFor, estimateFor, hrun, hrun', hsame, hsimilar.level_eq]

/-- A neighborhood that is asked for with a county, once and then twice. Two of the areas that count
are of one agent and one is of nobody; two others are of another neighborhood and another county. -/
theorem run_estimateFor_backBay :
    let backBay : Town := ⟨"Boston", some "Back Bay"⟩
    let place : Place := { state := some "MA", county := some "Suffolk", towns := [backBay] }
    let area (agent county neighborhood : Value) : Record :=
      [("agent_id", agent), ("state", .text "MA"), ("county", county), ("city", .text "Boston"),
        ("neighborhood", neighborhood)]
    let areas : List Record :=
      [area (.text "ana") .null .null, area (.text "ana") (.text "Suffolk") (.text "Back Bay"),
        area (.text "eva") (.text "Suffolk") (.text "Fenway"),
        area (.text "leo") (.text "Suffolk") (.text "Back Bay"),
        area (.text "mia") (.text "Norfolk") .null, area .null .null .null]
    (∀ r ∈ areas, CoverageArea.Textual r) ∧
      (∃ owners : Finset String, (∀ s, s ∈ owners ↔ IsInterested place areas s) ∧
        (estimateFor (.place place)).run Memory.handle { areas } =
          (.ok ⟨owners.card, .city⟩, { areas })) ∧
      ((estimateFor (.place place)).run Memory.handle { areas }).1 = .ok ⟨2, .city⟩ ∧
      ((estimateFor (.criteria { place := { place with towns := [backBay, backBay] } })).run
        Memory.handle { areas := areas.reverse ++ areas }).1 = .ok ⟨2, .city⟩ := by
  intro backBay place area areas
  have htextual : ∀ r ∈ areas, CoverageArea.Textual r := by
    simp [areas, area, CoverageArea.Textual, CoverageArea.columns, Record.get, Record.get?]
  obtain ⟨hcount, -, hsame⟩ := run_estimateFor (m := { areas }) (.place place) htextual
  have htwo : ((estimateFor (.place place)).run Memory.handle { areas }).1 = .ok ⟨2, .city⟩ := by
    decide +kernel
  have hagain := hsame (.criteria { place := { place with towns := [backBay, backBay] } })
    { areas := areas.reverse ++ areas } ⟨rfl, rfl, by simp [Subject.toPlace, place]⟩ (by simp)
  exact ⟨htextual, hcount, htwo, hagain.trans htwo⟩

end Recipients
end ListingSearch
