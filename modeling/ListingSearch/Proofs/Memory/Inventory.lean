import ListingSearch.Listing
import ListingSearch.Memory.Inventory
import ListingSearch.Proofs.Outcome
import ListingSearch.Proofs.Record.Check
import Mathlib.Data.List.Nodup
import Mathlib.Data.List.Perm.Subperm

/-! What a search of the inventory gives: some of the rows of which the condition holds, each as
often as it stands there, and the listings that are read from them, which keep their identifiers. -/
namespace ListingSearch

namespace Inventory

variable {p : Predicate} {sort : SortOrder} {limit : Int} {rows found : List Record}

lemma matching_spec (h : matching p rows = .ok found) :
    found.Sublist rows ∧ ∀ r ∈ found, p.holds r = .ok true := by
  induction rows generalizing found with
  | nil =>
    cases h
    simp
  | cons r rows ih =>
    obtain ⟨here, hhere, h⟩ := Outcome.bind_eq_ok h
    obtain ⟨others, hothers, h⟩ := Outcome.bind_eq_ok h
    obtain ⟨hsublist, hholds⟩ := ih hothers
    have hfound := Except.ok.inj h
    rw [← hfound]
    cases here with
    | true =>
      refine ⟨hsublist.cons_cons r, fun s hs => ?_⟩
      rcases List.mem_cons.1 hs with rfl | hs
      · exact hhere
      · exact hholds s hs
    | false => exact ⟨hsublist.cons r, hholds⟩

lemma map_snd_of_keyed {key : Record → Outcome Value} {keyed : List Keyed}
    (h : rows.mapM (fun r => return (← key r, r)) = .ok keyed) : keyed.map (·.2) = rows := by
  induction rows generalizing keyed with
  | nil =>
    cases h
    rfl
  | cons r rows ih =>
    rw [List.mapM_cons] at h
    obtain ⟨pair, hpair, h⟩ := Outcome.bind_eq_ok h
    obtain ⟨rest, hrest, h⟩ := Outcome.bind_eq_ok h
    obtain ⟨k, _, hk⟩ := Outcome.bind_eq_ok hpair
    cases hk
    cases h
    rw [List.map_cons, ih hrest]

lemma byIdentifier_perm (h : byIdentifier rows = .ok found) : found.Perm rows := by
  obtain ⟨keyed, hkeyed, h⟩ := Outcome.bind_eq_ok h
  obtain ⟨ordered, hordered, rfl⟩ := Outcome.map_eq_ok h
  rw [← map_snd_of_keyed hkeyed]
  exact (perm_of_inOrder hordered).map _

lemma byColumn_perm (h : byColumn sort rows = .ok found) : found.Perm rows := by
  have hkeyed : (rows.map fun r => (r.get sort.column, r)).map (·.2) = rows := by
    rw [List.map_map]
    exact List.map_id rows
  unfold byColumn at h
  dsimp only at h
  split at h
  · obtain ⟨ordered, hordered, rfl⟩ := Outcome.map_eq_ok h
    have hperm := (perm_of_inOrder hordered).trans (List.reverse_perm _)
    exact (List.reverse_perm _).trans ((hperm.map _).trans (.of_eq hkeyed))
  · obtain ⟨ordered, hordered, rfl⟩ := Outcome.map_eq_ok h
    exact ((perm_of_inOrder hordered).map _).trans (.of_eq hkeyed)

lemma arrange_perm (h : arrange sort rows = .ok found) : found.Perm rows := by
  obtain ⟨byId, hbyId, h⟩ := Outcome.bind_eq_ok h
  obtain ⟨present, hpresent, h⟩ := Outcome.bind_eq_ok h
  have hfound := Except.ok.inj h
  rw [← hfound]
  refine ((byColumn_perm hpresent).append_right _).trans ?_
  refine List.Perm.trans ?_ (byIdentifier_perm hbyId)
  exact List.perm_append_comm.trans (List.filter_append_perm _ _)

/-- A search gives rows of which the condition holds, none more often than it stands there. -/
lemma fetch_spec (h : fetch p sort limit rows = .ok found) :
    found.Subperm rows ∧ ∀ r ∈ found, p.holds r = .ok true := by
  obtain ⟨kept, hkept, h⟩ := Outcome.bind_eq_ok h
  obtain ⟨arranged, harranged, h⟩ := Outcome.bind_eq_ok h
  obtain ⟨hsublist, hholds⟩ := matching_spec hkept
  have hperm := arrange_perm harranged
  have hfound := Except.ok.inj h
  rw [← hfound]
  refine ⟨?_, fun r hr => hholds r (hperm.subset (List.mem_of_mem_take hr))⟩
  exact (List.take_sublist _ _).subperm.trans (hperm.subperm.trans hsublist.subperm)

/-- Every row has an identifier of its own, a text that is not empty. -/
structure Identified (rows : List Record) : Prop where
  text : ∀ r ∈ rows, ∃ s, s ≠ "" ∧ r.get? "id" = some (.text s)
  nodup : (rows.map (Record.get? "id")).Nodup

/-- Every row has an identifier of its own, a text that may be empty. -/
structure Labelled (rows : List Record) : Prop where
  text : ∀ r ∈ rows, ∃ s, r.get? "id" = some (.text s)
  nodup : (rows.map (Record.get? "id")).Nodup

lemma Identified.labelled (h : Identified rows) : Labelled rows :=
  ⟨fun r hr => (h.text r hr).imp fun _ hs => hs.2, h.nodup⟩

lemma Labelled.of_subperm (h : Labelled rows) (hfound : found.Subperm rows) : Labelled found := by
  refine ⟨fun r hr => h.text r (hfound.subset hr), ?_⟩
  obtain ⟨kept, hperm, hsublist⟩ := hfound
  exact (hperm.map _).nodup_iff.1 (h.nodup.sublist (hsublist.map _))

lemma Identified.of_subperm (h : Identified rows) (hfound : found.Subperm rows) :
    Identified found :=
  ⟨fun r hr => h.text r (hfound.subset hr), (h.labelled.of_subperm hfound).nodup⟩

end Inventory

namespace Listing

variable {v : Value} {l : Listing} {ls : List Listing} {rows : List Record}

lemma id_of_ofRecord {r : Record} (h : ofRecord r = .valid l) :
    r.get? "id" = some (.text l.id) := by
  have hgives : (ofRecord r).Gives fun l => r.get? "id" = some (.text l.id) := by
    unfold ofRecord
    iterate 20 apply Checked.gives_seq_any
    apply Checked.gives_map
    intro id hid
    intros
    exact Check.text_of_required hid
  exact hgives l h

lemma map_id_of_mapM (h : (rows.map Value.object).mapM ofRow = .ok ls) :
    rows.map (Record.get? "id") = ls.map fun l => some (.text l.id) := by
  induction rows generalizing ls with
  | nil =>
    cases h
    rfl
  | cons r rows ih =>
    rw [List.map_cons, List.mapM_cons] at h
    obtain ⟨l, hl, h⟩ := Outcome.bind_eq_ok h
    obtain ⟨rest, hrest, h⟩ := Outcome.bind_eq_ok h
    cases h
    rw [List.map_cons, List.map_cons, ih hrest, id_of_ofRecord (Checked.outcome_eq_ok hl)]

/-- The listings read from rows with identifiers of their own have them too, none of them empty. -/
lemma ids_of_ofRows (hrows : Inventory.Identified rows)
    (h : ofRows (.list (rows.map .object)) = .ok ls) :
    (ls.map (·.id)).Nodup ∧ ∀ l ∈ ls, l.id ≠ "" ∧ ∃ r ∈ rows, r.get? "id" = some (.text l.id) := by
  obtain ⟨items, hitems, h⟩ := Outcome.bind_eq_ok h
  cases hitems
  have hids := map_id_of_mapM h
  refine ⟨?_, fun l hl => ?_⟩
  · have hnodup := hrows.nodup
    have hcomp : (fun l : Listing => some (Value.text l.id)) = (some ∘ Value.text) ∘ (·.id) := rfl
    rw [hids, hcomp, ← List.map_map] at hnodup
    exact List.Nodup.of_map _ hnodup
  · have hmem : some (Value.text l.id) ∈ rows.map (Record.get? "id") := by
      rw [hids]
      exact List.mem_map_of_mem hl
    obtain ⟨r, hr, hid⟩ := List.mem_map.1 hmem
    obtain ⟨s, hs, hrs⟩ := hrows.text r hr
    rw [hid] at hrs
    cases hrs
    exact ⟨hs, r, hr, hid⟩

end Listing
end ListingSearch
