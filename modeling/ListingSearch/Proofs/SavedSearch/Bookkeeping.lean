import ListingSearch.Proofs.Memory.Archive
import Mathlib.Data.List.Nodup

/-! The books that the archive keeps. Every row has an identifier of its own that was given by
counting, and notes as delivered whatever was logged for it. No request of a saved search can spoil
this, and a request to note listings adds them to the log. -/
namespace ListingSearch

/-- The listings noted in a row are texts, and everything marked is among them. -/
def Record.Notes (r : Record) (marked : Value → Prop) : Prop :=
  ∃ ts : List String, r.get? "delivered_listing_ids" = some (.ofTexts ts) ∧
    ∀ x, marked x → x ∈ ts.map Value.text

namespace SavedSearch

lemma distinctMembers_ofTexts (ts : List String) :
    distinctMembers (.ofTexts ts) = .ok (Value.distinctValues (ts.map .text)) := by
  cases ts with
  | nil => rfl
  | cons t ts => exact Value.memberSet_texts (t :: ts)

end SavedSearch

namespace Archive

variable {a b : Archive} {id : Value} {r s : Record} {log : Value → Value → Prop}
  {listings : Value} {ts ss : List String}

/-- Texts are noted in a row whose noted listings are texts. -/
lemma withNoted_of_distinctMembers
    (hr : SavedSearch.distinctMembers (r.get "delivered_listing_ids") = .ok (ts.map .text))
    (hl : listings.members = .ok (ss.map .text)) :
    ∃ us : List String, withNoted r listings = .ok (us.map .text) ∧
      ∀ s, s ∈ us ↔ s ∈ ts ∨ s ∈ ss := by
  obtain ⟨ns, hns, -, hmemNew⟩ := Value.exists_distinctValues_texts ss
  obtain ⟨us, hus, -, hmem⟩ := Value.exists_distinctValues_texts (ts ++ ns)
  refine ⟨(TextSet.ofList us).toList, ?_, fun s => ?_⟩
  · rw [withNoted, hr, hl]
    change (do
      let set ← Value.memberSet (ss.map Value.text)
      Value.ascending (Value.distinctValues (ts.map Value.text ++ set))) = _
    rw [Value.memberSet_texts, hns]
    change Value.ascending (Value.distinctValues (ts.map Value.text ++ ns.map Value.text)) = _
    rw [← List.map_append, hus, Value.ascending_texts]
  · rw [TextSet.mem_toList, TextSet.mem_ofList, hmem, List.mem_append, hmemNew]

lemma withNoted_texts (hr : r.get? "delivered_listing_ids" = some (.ofTexts ts))
    (hl : listings.members = .ok (ss.map .text)) :
    ∃ us : List String, withNoted r listings = .ok (us.map .text) ∧
      ∀ s, s ∈ us ↔ s ∈ ts ∨ s ∈ ss := by
  obtain ⟨os, hos, -, hmemOld⟩ := Value.exists_distinctValues_texts ts
  have hread : SavedSearch.distinctMembers (r.get "delivered_listing_ids") = .ok (os.map .text) := by
    rw [Record.get, hr, Option.getD_some, SavedSearch.distinctMembers_ofTexts, hos]
  obtain ⟨us, hus, hmem⟩ := withNoted_of_distinctMembers hread hl
  exact ⟨us, hus, fun s => by rw [hmem, hmemOld]⟩

lemma exists_members_of_withNoted {all : List Value} (hl : listings.OnlyTexts)
    (h : withNoted r listings = .ok all) :
    ∃ ss : List String, listings.members = .ok (ss.map .text) := by
  obtain ⟨old, _, h⟩ := Outcome.bind_eq_ok h
  obtain ⟨items, hitems, _⟩ := Outcome.bind_eq_ok h
  obtain ⟨ss, rfl⟩ := hl.exists_members hitems
  exact ⟨ss, hitems⟩

lemma get?_set_of_ne {key other : String} {v : Value} (h : key ≠ other) :
    (r.set key v).get? other = r.get? other := by
  rw [Record.get?_set, if_neg h]

/-- No change of a row takes a noted listing away. -/
lemma Rewrites.notes {marked : Value → Prop} (h : Rewrites r s) (hr : r.Notes marked) :
    s.Notes marked := by
  obtain ⟨ts, hts, hmarked⟩ := hr
  cases h with
  | same => exact ⟨ts, hts, hmarked⟩
  | criteria document => exact ⟨ts, by rwa [get?_set_of_ne (by decide)], hmarked⟩
  | version document next =>
    exact ⟨ts, by rwa [get?_set_of_ne (by decide), get?_set_of_ne (by decide)], hmarked⟩
  | active flag => exact ⟨ts, by rwa [get?_set_of_ne (by decide)], hmarked⟩
  | noted htexts hnoted =>
    obtain ⟨ss, hmembers⟩ := exists_members_of_withNoted htexts hnoted
    obtain ⟨us, hus, hmem⟩ := withNoted_texts hts hmembers
    rw [hnoted] at hus
    cases hus
    refine ⟨us, Record.get?_set_self _ _ _, fun x hx => ?_⟩
    obtain ⟨t, ht, rfl⟩ := List.mem_map.1 (hmarked x hx)
    exact List.mem_map_of_mem ((hmem t).2 (.inl ht))

/-- The archive keeps its books: identifiers are its own and counted, only for such identifiers
anything is logged, and every row notes what is logged for it. -/
structure Keeps (a : Archive) (log : Value → Value → Prop) : Prop where
  unique : (a.rows.map (·.1)).Nodup
  numbered : ∀ row ∈ a.rows, ∃ n ≤ a.created, row.1 = .text (numberedId n)
  logged : ∀ id x, log id x → ∃ n ≤ a.created, id = .text (numberedId n)
  noted : ∀ row ∈ a.rows, row.2.Notes (log row.1)

lemma keeps_empty (h : ∀ id x, ¬ log id x) : Keeps ⟨[], 0⟩ log :=
  ⟨.nil, by simp, fun id x hx => absurd hx (h id x), by simp⟩

lemma Keeps.anti {log' : Value → Value → Prop} (h : a.Keeps log)
    (hlog : ∀ id x, log' id x → log id x) : a.Keeps log' := by
  refine ⟨h.unique, h.numbered, fun id x hx => h.logged id x (hlog id x hx), fun row hrow => ?_⟩
  obtain ⟨ts, hts, hmarked⟩ := h.noted row hrow
  exact ⟨ts, hts, fun x hx => hmarked x (hlog _ x hx)⟩

lemma Keeps.key_eq_of_same {key : Value} (h : a.Keeps log) {r : Record} (hrow : (key, r) ∈ a.rows)
    (hsame : key.same id = true) : key = id := by
  obtain ⟨n, _, hn⟩ := h.numbered _ hrow
  rw [show key = _ from hn] at hsame ⊢
  exact (Value.text_same_iff.1 hsame).symm

/-- A row that is found is the only one under its identifier. -/
lemma Keeps.exists_split (h : a.Keeps log) (hr : a.find id = .ok (some r)) :
    ∃ front back, a.rows = front ++ (id, r) :: back ∧
      (∀ s, (a.put id s).rows = front ++ (id, s) :: back) ∧
      ∀ row ∈ front ++ back, row.1 ≠ id := by
  obtain ⟨key, front, back, hrows, hsame, hplace⟩ := exists_split_of_lookUp (lookUp_of_find hr)
  have hkey : key = id := h.key_eq_of_same (r := r) (by simp [hrows]) hsame
  subst hkey
  refine ⟨front, back, hrows, hplace, ?_⟩
  have hunique := h.unique
  rw [hrows, List.map_append, List.map_cons, List.nodup_middle, List.nodup_cons,
    ← List.map_append] at hunique
  intro row hrow heq
  exact hunique.1 (List.mem_map.2 ⟨row, hrow, heq⟩)

lemma Keeps.notes_of_find (h : a.Keeps log) (hr : a.find id = .ok (some r)) :
    r.Notes (log id) := by
  obtain ⟨front, back, hrows, -, -⟩ := h.exists_split hr
  exact h.noted (id, r) (by simp [hrows])

/-- Changing a row keeps the books if the new row notes what is to be logged. -/
lemma Keeps.put {log' : Value → Value → Prop} (h : a.Keeps log)
    (hr : a.find id = .ok (some r)) (hs : s.Notes (log' id))
    (hlog : ∀ other x, other ≠ id → (log' other x ↔ log other x)) : (a.put id s).Keeps log' := by
  obtain ⟨front, back, hrows, hplace, hother⟩ := h.exists_split hr
  have hid : ∃ n ≤ a.created, id = .text (numberedId n) := h.numbered (id, r) (by simp [hrows])
  have hold : ∀ row ∈ front ++ back, row ∈ a.rows := by
    intro row hrow
    rw [hrows]
    rcases List.mem_append.1 hrow with hrow | hrow <;> simp [hrow]
  have hcases : ∀ row ∈ (a.put id s).rows, row = (id, s) ∨ row ∈ front ++ back := by
    intro row hrow
    rw [hplace] at hrow
    simp only [List.mem_append, List.mem_cons] at hrow ⊢
    tauto
  refine ⟨?_, fun row hrow => ?_, fun other x hx => ?_, fun row hrow => ?_⟩
  · rw [hplace]
    have hunique := h.unique
    rw [hrows] at hunique
    simpa using hunique
  · rcases hcases row hrow with rfl | hrow
    · exact hid
    · exact h.numbered row (hold row hrow)
  · rcases eq_or_ne other id with rfl | hne
    · exact hid
    · exact h.logged other x ((hlog other x hne).1 hx)
  · rcases hcases row hrow with rfl | hrow
    · exact hs
    · obtain ⟨ts, hts, hmarked⟩ := h.noted row (hold row hrow)
      exact ⟨ts, hts, fun x hx => hmarked x ((hlog row.1 x (hother row hrow)).1 hx)⟩

lemma Keeps.not_same_nextId (h : a.Keeps log) :
    ∀ row ∈ a.rows, row.1.same (.text a.nextId) = false := by
  intro row hrow
  obtain ⟨n, hn, hkey⟩ := h.numbered row hrow
  rw [← Bool.not_eq_true, Value.same_text_iff, hkey]
  intro heq
  have hnumber : n = a.created + 1 := numberedId_injective (Value.text.inj heq)
  omega

/-- A new row gets an identifier for which nothing was logged. -/
lemma Keeps.create (h : a.Keeps log) (search : SavedSearch) :
    (a.create search.toRow).2.Keeps log := by
  -- Everything logged is for an identifier given before, so the new row may start without notes.
  have hfresh : ∀ x, ¬ log (.text a.nextId) x := by
    intro x hx
    obtain ⟨n, hn, hid⟩ := h.logged _ x hx
    have hnumber : a.created + 1 = n := numberedId_injective (Value.text.inj hid)
    omega
  have hrows : (a.create search.toRow).2.rows =
      a.rows ++ [(.text a.nextId, search.toRow.set "id" (.text a.nextId))] :=
    place_of_forall_not_same h.not_same_nextId _
  have hnew : ∃ n ≤ a.created + 1, Value.text a.nextId = .text (numberedId n) :=
    ⟨a.created + 1, le_rfl, rfl⟩
  refine ⟨?_, fun row hrow => ?_, fun id x hx => ?_, fun row hrow => ?_⟩
  · rw [hrows, List.map_append, List.nodup_append]
    refine ⟨h.unique, by simp, fun key hkey other hother => ?_⟩
    obtain ⟨row, hrow, rfl⟩ := List.mem_map.1 hkey
    obtain rfl : other = .text a.nextId := by simpa using hother
    intro heq
    have hsame := h.not_same_nextId row hrow
    rw [Value.same_text_iff.2 heq] at hsame
    cases hsame
  · rw [hrows, List.mem_append, List.mem_singleton] at hrow
    rcases hrow with hrow | rfl
    · obtain ⟨n, hn, hkey⟩ := h.numbered row hrow
      exact ⟨n, Nat.le_succ_of_le hn, hkey⟩
    · exact hnew
  · obtain ⟨n, hn, hid⟩ := h.logged id x hx
    exact ⟨n, Nat.le_succ_of_le hn, hid⟩
  · rw [hrows, List.mem_append, List.mem_singleton] at hrow
    rcases hrow with hrow | rfl
    · exact h.noted row hrow
    · refine ⟨search.delivered.toList, ?_, fun x hx => absurd hx (hfresh x)⟩
      rw [get?_set_of_ne (by decide)]
      rfl

/-- No request can spoil the books. -/
lemma Keeps.moves (h : a.Keeps log) (hmoves : a.Moves b) : b.Keeps log := by
  cases hmoves with
  | same => exact h
  | created search => exact h.create search
  | replaced hr hs => exact h.put hr (hs.notes (h.notes_of_find hr)) fun _ _ _ => .rfl
  | erased id =>
    have hsublist : (a.erase id).rows.Sublist a.rows := List.filter_sublist
    exact ⟨h.unique.sublist (hsublist.map _), fun row hrow => h.numbered row (hsublist.subset hrow),
      h.logged, fun row hrow => h.noted row (hsublist.subset hrow)⟩

/-- The log with some listings more for one identifier. -/
def logWith (log : Value → Value → Prop) (id : Value) (xs : List Value) : Value → Value → Prop :=
  fun other x => log other x ∨ (other = id ∧ x ∈ xs)

lemma addDelivered_of_find {all : List Value} (hr : a.find id = .ok (some r))
    (hnoted : withNoted r listings = .ok all) : a.addDelivered id listings =
      (.ok (some all), a.put id (r.set "delivered_listing_ids" (.list all))) := by
  rw [Archive.addDelivered, change_of_find hr, hnoted]

/-- Texts can be noted in every row that is there, and are logged with that. -/
lemma Keeps.addDelivered (h : a.Keeps log) (hr : a.find id = .ok (some r))
    (hl : listings.members = .ok (ss.map .text)) :
    ∃ us : List String, (a.addDelivered id listings).1 = .ok (some (us.map .text)) ∧
      (a.addDelivered id listings).2.Keeps (logWith log id (ss.map .text)) := by
  obtain ⟨ts, hts, hmarked⟩ := h.notes_of_find hr
  obtain ⟨us, hus, hmem⟩ := withNoted_texts hts hl
  rw [addDelivered_of_find hr hus]
  refine ⟨us, rfl, h.put hr ⟨us, Record.get?_set_self _ _ _, fun x hx => ?_⟩ fun other x hne => ?_⟩
  · rcases hx with hx | ⟨-, hx⟩
    · obtain ⟨t, ht, rfl⟩ := List.mem_map.1 (hmarked x hx)
      exact List.mem_map_of_mem ((hmem t).2 (.inl ht))
    · obtain ⟨t, ht, rfl⟩ := List.mem_map.1 hx
      exact List.mem_map_of_mem ((hmem t).2 (.inr ht))
  · simp [logWith, hne]

lemma find_of_change {α : Type} {f : Record → Outcome (Option α) × Record} {x : α}
    (h : (a.change id f).1 = .ok (some x)) : ∃ r, a.find id = .ok (some r) := by
  unfold change at h
  split at h
  · rename_i r hr
    exact ⟨r, hr⟩
  · cases h
  · cases h

end Archive
end ListingSearch
