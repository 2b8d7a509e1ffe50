import ListingSearch.Proofs.Outcome
import ListingSearch.Value.Members
import ListingSearch.Value.Order
import Mathlib.Data.List.Induction

/-! Sets of values given as lists, and collections that hold nothing but texts. Only equal texts are
equal to a text, so for texts the set of a list has just the members of the list. -/
namespace ListingSearch.Value

variable {v w : Value} {vs : List Value} {ss : List String}

lemma text_same_iff {s : String} : (Value.text s).same v = true ↔ v = .text s := by
  cases v with
  | text t =>
    rw [same, beq_iff_eq]
    exact ⟨fun h => by rw [h], fun h => (Value.text.inj h).symm⟩
  | _ => simp [same, number?]

lemma distinctValues_append_singleton (vs : List Value) (v : Value) :
    distinctValues (vs ++ [v]) =
      if (distinctValues vs).any v.same then distinctValues vs else distinctValues vs ++ [v] := by
  simp [distinctValues, List.foldl_append]

lemma distinctValues_sublist (vs : List Value) : (distinctValues vs).Sublist vs := by
  induction vs using List.reverseRecOn with
  | nil => exact .slnil
  | append_singleton vs v ih =>
    rw [distinctValues_append_singleton]
    split
    · exact ih.trans (List.sublist_append_left _ _)
    · exact ih.append_right _

lemma pairwise_distinctValues (vs : List Value) :
    (distinctValues vs).Pairwise fun v w => w.same v = false := by
  induction vs using List.reverseRecOn with
  | nil => exact .nil
  | append_singleton vs v ih =>
    rw [distinctValues_append_singleton]
    split
    · exact ih
    · rename_i hnone
      refine List.pairwise_append.2 ⟨ih, List.pairwise_singleton _ _, fun w hw u hu => ?_⟩
      rw [List.mem_singleton.1 hu]
      simp only [List.any_eq_true, not_exists, not_and, Bool.not_eq_true] at hnone
      exact hnone w hw

lemma exists_same_of_mem (hv : v ∈ vs) :
    v ∈ distinctValues vs ∨ ∃ w ∈ distinctValues vs, v.same w = true := by
  induction vs using List.reverseRecOn with
  | nil => cases hv
  | append_singleton vs u ih =>
    rw [distinctValues_append_singleton]
    rcases List.mem_append.1 hv with hv | hv
    · split
      · exact ih hv
      · rcases ih hv with hmem | ⟨w, hw, hsame⟩
        · exact .inl (List.mem_append_left _ hmem)
        · exact .inr ⟨w, List.mem_append_left _ hw, hsame⟩
    · rw [List.mem_singleton.1 hv]
      split
      · rename_i hany
        exact .inr (List.any_eq_true.1 hany)
      · exact .inl (List.mem_append_right _ (List.mem_singleton_self u))

lemma exists_texts (h : ∀ v ∈ vs, ∃ s, v = .text s) : ∃ ss : List String, vs = ss.map .text := by
  induction vs with
  | nil => exact ⟨[], rfl⟩
  | cons v vs ih =>
    obtain ⟨s, rfl⟩ := h v (by simp)
    obtain ⟨ss, rfl⟩ := ih fun v hv => h v (by simp [hv])
    exact ⟨s :: ss, rfl⟩

/-- The set of some texts holds the same texts. -/
lemma exists_distinctValues_texts (ss : List String) : ∃ ts : List String,
    distinctValues (ss.map .text) = ts.map .text ∧ ts.Nodup ∧ ∀ s, s ∈ ts ↔ s ∈ ss := by
  have hsublist := distinctValues_sublist (ss.map .text)
  have hall : ∀ v ∈ distinctValues (ss.map Value.text), ∃ s, v = .text s := by
    intro v hv
    obtain ⟨s, _, rfl⟩ := List.mem_map.1 (hsublist.subset hv)
    exact ⟨s, rfl⟩
  obtain ⟨ts, hts⟩ := exists_texts hall
  have hpairwise := pairwise_distinctValues (ss.map .text)
  rw [hts] at hsublist hpairwise
  refine ⟨ts, hts, ?_, fun s => ⟨fun hs => ?_, fun hs => ?_⟩⟩
  · refine (List.pairwise_map.1 hpairwise).imp fun {s t} hst heq => ?_
    rw [heq, text_same_iff.2 rfl] at hst
    cases hst
  · simpa using hsublist.subset (List.mem_map_of_mem hs)
  · have hmem : Value.text s ∈ ss.map Value.text := List.mem_map_of_mem hs
    rcases exists_same_of_mem hmem with hmem | ⟨w, hw, hsame⟩
    · rw [hts] at hmem
      simpa using hmem
    · rw [hts, text_same_iff.1 hsame] at hw
      simpa using hw

lemma memberSet_texts (ss : List String) :
    memberSet (ss.map .text) = .ok (distinctValues (ss.map .text)) := by
  rw [memberSet, if_pos]
  simp [isSimple]

lemma ascending_texts (ss : List String) :
    ascending (ss.map .text) = .ok ((TextSet.ofList ss).toList.map .text) := by
  have hmap : (ss.map Value.text).mapM text? = some ss := by
    rw [List.mapM_map]
    induction ss with
    | nil => rfl
    | cons s ss ih => simp [ih, text?]
  rw [ascending, hmap]

/-- Nothing but texts is in the collection, if it is one. -/
def OnlyTexts (v : Value) : Prop := ∀ items ∈ v.members?, ∀ x ∈ items, ∃ s, x = .text s

lemma members_texts (ss : List String) :
    (Value.list (ss.map .text)).members = .ok (ss.map .text) := rfl

lemma onlyTexts_list (ss : List String) : OnlyTexts (.list (ss.map .text)) := by
  intro items hitems x hx
  cases hitems
  obtain ⟨s, _, rfl⟩ := List.mem_map.1 hx
  exact ⟨s, rfl⟩

lemma OnlyTexts.exists_members (h : v.OnlyTexts) {items : List Value} (hv : v.members = .ok items) :
    ∃ ss : List String, items = ss.map .text := by
  unfold members at hv
  split at hv
  · rename_i found hfound
    cases hv
    exact exists_texts (h _ hfound)
  · cases hv

end ListingSearch.Value
