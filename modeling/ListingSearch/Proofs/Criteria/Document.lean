import ListingSearch.Criteria.Document
import ListingSearch.Proofs.Criteria.Picks

/-! What a stored document says about each field. A field is read from a document just as it was
stored, and documents that are equal as data are equal field by field. -/
namespace ListingSearch

def Value.sameOption : Option Value → Option Value → Bool
  | none, none => true
  | some v, some w => v.same w
  | _, _ => false

namespace Record

variable {stored : Field → Option Value}

def ofFields (stored : Field → Option Value) (fields : List Field) : Record :=
  fields.filterMap fun f => (stored f).map (f.key, ·)

lemma ofFields_cons (f : Field) (fields : List Field) :
    ofFields stored (f :: fields) =
      match stored f with
      | some v => (f.key, v) :: ofFields stored fields
      | none => ofFields stored fields := by
  rw [ofFields, List.filterMap_cons]
  cases stored f <;> rfl

lemma mem_ofFields {fields : List Field} {f : Field} {v : Value} (hf : f ∈ fields)
    (hv : stored f = some v) : (f.key, v) ∈ ofFields stored fields :=
  List.mem_filterMap.2 ⟨f, hf, by rw [hv]; rfl⟩

lemma length_ofFields (fields : List Field) :
    (ofFields stored fields).length = (fields.filter fun f => (stored f).isSome).length := by
  induction fields with
  | nil => rfl
  | cons f fields ih => cases hf : stored f <;> simp [ofFields_cons, hf, ih]

lemma get?_ofFields_of_forall_ne {fields : List Field} {k : String} (h : ∀ f, Field.key f ≠ k) :
    get? k (ofFields stored fields) = none := by
  induction fields with
  | nil => rfl
  | cons g fields ih => cases hg : stored g <;> simp [ofFields_cons, hg, get?, h g, ih]

lemma get?_ofFields {fields : List Field} (f : Field) :
    get? f.key (ofFields stored fields) = if f ∈ fields then stored f else none := by
  induction fields with
  | nil => rfl
  | cons g fields ih =>
    rcases eq_or_ne f g with rfl | hne
    · cases hf : stored f <;> simp [ofFields_cons, hf, get?, ih]
    · have hkey : g.key ≠ f.key := fun h => hne (Field.key_injective h).symm
      cases hg : stored g <;> simp [ofFields_cons, hg, get?, hkey, hne, ih]

end Record

namespace Criteria

variable {c d : Criteria}

lemma get?_toDocument (c : Criteria) (f : Field) :
    Record.get? f.key c.toDocument = c.stored f :=
  (Record.get?_ofFields f).trans (if_pos f.mem_all)

/-- A field is read from a document as it was stored, if what is stored gives any information. -/
lemma pick_toDocument {f : Field} (h : ∀ v ∈ c.stored f, v.isBlank = false) :
    c.toDocument.pick f = (c.stored f).getD .null := by
  have haliases : ∀ k ∈ f.aliases, (Record.get c.toDocument k).isBlank = true := by
    intro k hk
    have hnone : Record.get? k c.toDocument = none :=
      Record.get?_ofFields_of_forall_ne fun g => Field.key_ne_alias k hk
    rw [Record.get, hnone]
    rfl
  rw [Record.pick, Field.keys, Record.pickFrom, Record.pickFrom_of_forall_blank haliases,
    Record.get, get?_toDocument]
  cases hf : c.stored f with
  | none => rfl
  | some v => simp [h v hf]

lemma same_of_sameEntries {entries : List (String × Value)} {r : Record}
    (h : Value.sameEntries entries r = true) {key : String} {v : Value} (hv : (key, v) ∈ entries) :
    ∃ w, r.get? key = some w ∧ v.same w = true := by
  induction entries with
  | nil => cases hv
  | cons entry entries ih =>
    obtain ⟨k, u⟩ := entry
    rw [Value.sameEntries, Bool.and_eq_true] at h
    rcases List.mem_cons.1 hv with heq | hv
    · cases heq
      cases hw : r.get? key with
      | none => simp [hw] at h
      | some w =>
        rw [hw] at h
        exact ⟨w, rfl, h.1⟩
    · exact ih h.2 hv

/-- Documents that are equal as data have equal values stored for every field. -/
lemma sameOption_stored (h : (Value.object c.toDocument).same (.object d.toDocument) = true)
    (f : Field) : Value.sameOption (c.stored f) (d.stored f) = true := by
  rw [Value.same, Bool.and_eq_true, beq_iff_eq] at h
  obtain ⟨hlength, hentries⟩ := h
  have hsome : ∀ f v, c.stored f = some v → ∃ w, d.stored f = some w ∧ v.same w = true := by
    intro f v hv
    obtain ⟨w, hw, hsame⟩ := same_of_sameEntries hentries (Record.mem_ofFields f.mem_all hv)
    exact ⟨w, (get?_toDocument d f).symm.trans hw, hsame⟩
  have hsublist : (Field.all.filter fun f => (c.stored f).isSome).Sublist
      (Field.all.filter fun f => (d.stored f).isSome) := by
    refine List.monotone_filter_right _ fun f hf => ?_
    obtain ⟨v, hv⟩ := Option.isSome_iff_exists.1 hf
    obtain ⟨w, hw, _⟩ := hsome f v hv
    exact Option.isSome_iff_exists.2 ⟨w, hw⟩
  -- Equal objects have as many keys, so nothing more is stored on the right.
  have hfields := hsublist.eq_of_length
    ((Record.length_ofFields _).symm.trans (hlength.trans (Record.length_ofFields _)))
  cases hc : c.stored f with
  | some v =>
    obtain ⟨w, hw, hsame⟩ := hsome f v hc
    simpa [hw, Value.sameOption] using hsame
  | none =>
    cases hd : d.stored f with
    | none => rfl
    | some w =>
      have hmem : f ∈ Field.all.filter fun f => (d.stored f).isSome := by
        simp [f.mem_all, hd]
      rw [← hfields, List.mem_filter] at hmem
      simp [hc] at hmem

end Criteria
end ListingSearch
