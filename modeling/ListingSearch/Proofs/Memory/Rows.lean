import ListingSearch.Proofs.Memory.Archive

/-! The archive as a partial map from identifiers to rows, and what each request makes of the row
under an identifier. Rows stand under texts, and the identifiers still to be given are not in use;
so a row is changed only under its own identifier, and one that was deleted does not come back. -/
namespace ListingSearch

instance (v : Value) (s : String) : Decidable (v = .text s) :=
  decidable_of_iff (v.same (.text s) = true) Value.same_text_iff

namespace Archive

variable {a b : Archive} {id : Value} {r : Record} {s : String}

def row? (a : Archive) (s : String) : Option Record := lookUp (.text s) a.rows

@[simp] lemma find_text (a : Archive) (s : String) : a.find (.text s) = .ok (a.row? s) := rfl

lemma find_of_row? {row : Option Record} (h : a.row? s = row) : a.find (.text s) = .ok row := by
  rw [find_text, h]

lemma lookUp_place (id : Value) (r : Record) (s : String) (rows : List (Value × Record)) :
    lookUp (.text s) (place id r rows) =
      if id = .text s then some r else lookUp (.text s) rows := by
  induction rows with
  | nil => simp [place, lookUp, Value.same_text_iff]
  | cons row rows ih =>
    obtain ⟨key, t⟩ := row
    rw [place]
    cases hkey : key.same id with
    | true =>
      -- Only the text itself is the same as a text, so both tests of this row agree.
      have htest : key.same (.text s) = true ↔ id = .text s := by
        rw [Value.same_text_iff]
        constructor
        · rintro rfl
          exact Value.text_same_iff.1 hkey
        · rintro rfl
          exact Value.same_text_iff.1 hkey
      by_cases hid : id = .text s <;> simp [lookUp, htest, hid]
    | false =>
      by_cases hs : key = .text s
      · have hid : id ≠ .text s := by
          rintro rfl
          rw [hs, Value.text_same_iff.2 rfl] at hkey
          cases hkey
        simp [lookUp, Value.same_text_iff, hs, hid]
      · simp [lookUp, Value.same_text_iff, hs, ih]

lemma row?_put (a : Archive) (id : Value) (r : Record) (s : String) :
    (a.put id r).row? s = if id = .text s then some r else a.row? s :=
  lookUp_place id r s a.rows

lemma lookUp_erased (id : Value) (s : String) (rows : List (Value × Record)) :
    lookUp (.text s) (rows.filter fun row => !row.1.same id) =
      if id = .text s then none else lookUp (.text s) rows := by
  induction rows with
  | nil => simp [lookUp]
  | cons row rows ih =>
    obtain ⟨key, t⟩ := row
    cases hkey : key.same id with
    | true =>
      rw [List.filter_cons_of_neg (by simp [hkey]), ih]
      by_cases hid : id = .text s
      · rw [if_pos hid, if_pos hid]
      · have hs : key ≠ .text s := by
          rintro rfl
          exact hid (Value.text_same_iff.1 hkey)
        rw [if_neg hid, if_neg hid, lookUp, if_neg (mt Value.same_text_iff.1 hs)]
    | false =>
      rw [List.filter_cons_of_pos (by simp [hkey]), lookUp, lookUp, ih]
      by_cases hs : key = .text s
      · have hid : id ≠ .text s := by
          rintro rfl
          rw [hs, Value.text_same_iff.2 rfl] at hkey
          cases hkey
        rw [if_neg hid, if_neg hid]
      · rw [if_neg (mt Value.same_text_iff.1 hs), if_neg (mt Value.same_text_iff.1 hs)]

lemma row?_erase (a : Archive) (id : Value) (s : String) :
    (a.erase id).row? s = if id = .text s then none else a.row? s :=
  lookUp_erased id s a.rows

lemma row?_create (a : Archive) (r : Record) (s : String) :
    (a.create r).2.row? s =
      if s = a.nextId then some (r.set "id" (.text s)) else a.row? s := by
  have hput := row?_put a (.text a.nextId) (r.set "id" (.text a.nextId)) s
  by_cases hs : s = a.nextId
  · subst hs
    rwa [if_pos rfl] at hput ⊢
  · have hne : Value.text a.nextId ≠ .text s := fun h => hs (Value.text.inj h).symm
    rw [if_neg hne] at hput
    rwa [if_neg hs]

lemma row?_change {α : Type} (a : Archive) (id : Value)
    (f : Record → Outcome (Option α) × Record) (s : String) :
    (a.change id f).2.row? s = if id = .text s then (a.row? s).map fun r => (f r).2
      else a.row? s := by
  unfold change
  by_cases hid : id = .text s
  · subst hid
    rw [if_pos rfl, find_text]
    cases hrow : a.row? s with
    | none => simp [hrow]
    | some r => simp [row?_put]
  · rw [if_neg hid]
    split
    · exact (row?_put a id _ s).trans (if_neg hid)
    · rfl
    · rfl

lemma row?_delete (a : Archive) (id : Value) (s : String) :
    (a.delete id).2.row? s = if id = .text s then none else a.row? s := by
  unfold delete
  split
  · exact row?_erase a id s
  · rename_i failure hfind
    rw [if_neg]
    rintro rfl
    cases hfind

end Archive

def Service.Request.columns : Service.Request → List String
  | .replaceCriteria .. => ["criteria", "version"]
  | .setActive .. => ["is_active"]
  | .addDelivered .. => ["delivered_listing_ids"]
  | _ => []

namespace Archive

variable {a b : Archive} {id : Value} {r : Record} {s : String}

/-- What a request makes of the row under a text. -/
def rowAfter (a : Archive) (s : String) : Service.Request → Option Record
  | .create search => if s = a.nextId then some (search.toRow.set "id" (.text s)) else a.row? s
  | .replaceCriteria id document version =>
    if id = .text s then (a.row? s).map fun r =>
      if (r.get "version").same version then
        match version.next with
        | .ok next => (r.set "criteria" document).set "version" next
        | .error _ => r.set "criteria" document
      else r
    else a.row? s
  | .setActive id active =>
    if id = .text s then (a.row? s).map (·.set "is_active" active) else a.row? s
  | .delete id => if id = .text s then none else a.row? s
  | .addDelivered id listings =>
    if id = .text s then (a.row? s).map fun r =>
      match withNoted r listings with
      | .ok all => r.set "delivered_listing_ids" (.list all)
      | .error _ => r
    else a.row? s
  | _ => a.row? s

end Archive

lemma Memory.row?_handle (request : Service.Request) (m : Memory) (s : String) :
    (handle request m).2.archive.row? s = m.archive.rowAfter s request := by
  cases request with
  | create search => exact Archive.row?_create m.archive _ s
  | replaceCriteria id document version =>
    refine (Archive.row?_change m.archive id _ s).trans ?_
    simp only [Archive.rowAfter]
    congr 2
    funext r
    split
    · cases version.next <;> rfl
    · rfl
  | setActive id active => exact Archive.row?_change m.archive id _ s
  | delete id => exact Archive.row?_delete m.archive id s
  | addDelivered id listings =>
    refine (Archive.row?_change m.archive id _ s).trans ?_
    simp only [Archive.rowAfter]
    congr 2
    funext r
    cases Archive.withNoted r listings <;> rfl
  | send id listings =>
    simp only [handle, send, Archive.rowAfter]
    split <;> rfl
  | _ => rfl

namespace Archive

variable {a b : Archive} {id : Value} {r : Record} {s : String}

/-- Rows stand under texts, and no identifier that is still to be given is in use. -/
structure Labelled (a : Archive) : Prop where
  texts : ∀ row ∈ a.rows, ∃ s, row.1 = .text s
  unused : ∀ n, a.created < n → a.row? (numberedId n) = none

/-- There is no row under the text, and there never will be one. -/
def Spent (a : Archive) (s : String) : Prop :=
  a.row? s = none ∧ ∀ n, a.created < n → s ≠ numberedId n

lemma exists_mem_of_lookUp {rows : List (Value × Record)} (h : lookUp id rows = some r) :
    ∃ key, (key, r) ∈ rows ∧ key.same id = true := by
  obtain ⟨key, front, back, rfl, hkey, -⟩ := exists_split_of_lookUp h
  exact ⟨key, by simp, hkey⟩

lemma mem_of_mem_place {rows : List (Value × Record)} {row : Value × Record}
    (h : row ∈ place id r rows) : row.1 = id ∨ ∃ old ∈ rows, row.1 = old.1 := by
  induction rows with
  | nil =>
    rw [place, List.mem_singleton] at h
    exact .inl (by rw [h])
  | cons old rows ih =>
    obtain ⟨key, t⟩ := old
    rw [place] at h
    split at h
    · rcases List.mem_cons.1 h with rfl | h
      · exact .inr ⟨(key, t), by simp, rfl⟩
      · exact .inr ⟨row, by simp [h], rfl⟩
    · rcases List.mem_cons.1 h with rfl | h
      · exact .inr ⟨(key, t), by simp, rfl⟩
      · obtain hid | ⟨old, hold, heq⟩ := ih h
        · exact .inl hid
        · exact .inr ⟨old, by simp [hold], heq⟩

/-- Only a text identifies a row. -/
lemma Labelled.exists_text (h : a.Labelled) (hr : a.find id = .ok (some r)) :
    ∃ s, id = .text s ∧ a.row? s = some r := by
  have hlook := lookUp_of_find hr
  obtain ⟨key, hmem, hkey⟩ := exists_mem_of_lookUp hlook
  obtain ⟨s, hs⟩ := h.texts _ hmem
  obtain rfl : id = .text s := Value.text_same_iff.1 (hs ▸ hkey)
  exact ⟨s, rfl, hlook⟩

lemma Labelled.moves (h : a.Labelled) (hmoves : a.Moves b) : b.Labelled := by
  cases hmoves with
  | same => exact h
  | created search =>
    refine ⟨fun row hrow => ?_, fun n hn => ?_⟩
    · rcases mem_of_mem_place hrow with hid | ⟨old, hold, heq⟩
      · exact ⟨_, hid⟩
      · exact heq ▸ h.texts old hold
    · have hnext : numberedId n ≠ a.nextId := by
        intro heq
        have hnumber : n = a.created + 1 := numberedId_injective heq
        exact absurd hn (by rw [hnumber]; exact lt_irrefl _)
      rw [row?_create, if_neg hnext]
      exact h.unused n (lt_trans (Nat.lt_succ_self _) hn)
  | replaced hr hs =>
    obtain ⟨s, rfl, hrow⟩ := h.exists_text hr
    refine ⟨fun row hplaced => ?_, fun n hn => ?_⟩
    · rcases mem_of_mem_place hplaced with hid | ⟨old, hold, heq⟩
      · exact ⟨s, hid⟩
      · exact heq ▸ h.texts old hold
    · have hunused := h.unused n hn
      rw [row?_put, if_neg]
      · exact hunused
      · intro heq
        rw [Value.text.inj heq, hunused] at hrow
        cases hrow
  | erased id =>
    refine ⟨fun row hrow => h.texts row (List.mem_of_mem_filter hrow), fun n hn => ?_⟩
    rw [row?_erase, h.unused n hn, ite_self]

def single (s : String) (r : Record) : Archive := ⟨[(.text s, r)], 0⟩

@[simp] lemma row?_single (s t : String) (r : Record) :
    (single s r).row? t = if s = t then some r else none := by
  simp [row?, single, lookUp, Value.same_text_iff]

lemma labelled_single (hs : ∀ n, s ≠ numberedId n) (r : Record) : (single s r).Labelled := by
  refine ⟨fun row hrow => ?_, fun n _ => ?_⟩
  · rw [single, List.mem_singleton] at hrow
    exact ⟨s, by rw [hrow]⟩
  · rw [row?_single, if_neg (hs n)]

lemma ne_numberedId_of_head (h : s.toList.head? ≠ some 'h') (n : Nat) : s ≠ numberedId n := by
  rintro rfl
  simp [numberedId] at h

lemma Labelled.spent_of_row? (h : a.Labelled) (hrow : a.row? s = some r) :
    ∀ n, a.created < n → s ≠ numberedId n := by
  rintro n hn rfl
  rw [h.unused n hn] at hrow
  cases hrow

/-- A request writes only its own columns of a row that stays. -/
lemma Labelled.get?_rowAfter {request : Service.Request} {r' : Record} {column : String}
    (h : a.Labelled) (hr : a.row? s = some r) (hr' : a.rowAfter s request = some r')
    (hcolumn : column ∉ request.columns) : r'.get? column = r.get? column := by
  have hset {key : String} (v : Value) (hkey : key ≠ column) (t : Record) :
      (t.set key v).get? column = t.get? column := by rw [Record.get?_set, if_neg hkey]
  have hsame (hrow : a.row? s = some r') : r'.get? column = r.get? column := by
    rw [hr] at hrow
    cases hrow
    rfl
  cases request with
  | create search =>
    have hnext : s ≠ a.nextId := h.spent_of_row? hr _ (Nat.lt_succ_self _)
    rw [rowAfter, if_neg hnext] at hr'
    exact hsame hr'
  | replaceCriteria id document version =>
    simp only [Service.Request.columns, List.mem_cons, List.not_mem_nil, or_false, not_or] at hcolumn
    simp only [rowAfter] at hr'
    split at hr'
    · rw [hr, Option.map_some] at hr'
      cases hr'
      split
      · cases version.next with
        | ok next => exact (hset next (Ne.symm hcolumn.2) _).trans (hset document (Ne.symm hcolumn.1) r)
        | error failure => exact hset document (Ne.symm hcolumn.1) r
      · rfl
    · exact hsame hr'
  | setActive id active =>
    simp only [Service.Request.columns, List.mem_singleton] at hcolumn
    simp only [rowAfter] at hr'
    split at hr'
    · rw [hr] at hr'
      cases hr'
      exact hset active (Ne.symm hcolumn) r
    · exact hsame hr'
  | delete id =>
    simp only [rowAfter] at hr'
    split at hr'
    · cases hr'
    · exact hsame hr'
  | addDelivered id listings =>
    simp only [Service.Request.columns, List.mem_singleton] at hcolumn
    simp only [rowAfter] at hr'
    split at hr'
    · rw [hr, Option.map_some] at hr'
      cases hr'
      cases withNoted r listings with
      | error failure => rfl
      | ok all => exact hset _ (Ne.symm hcolumn) r
    · exact hsame hr'
  | _ => exact hsame hr'

end Archive

namespace Memory

variable {m : Memory} {s : String}

lemma created_le_handle (request : Service.Request) (m : Memory) :
    m.archive.created ≤ (handle request m).2.archive.created := by
  have hchange {α : Type} (id : Value) (f : Record → Outcome (Option α) × Record) :
      (m.archive.change id f).2.created = m.archive.created := by
    unfold Archive.change
    split <;> rfl
  cases request with
  | create search => exact Nat.le_succ _
  | replaceCriteria id document version => exact (hchange id _).ge
  | setActive id active => exact (hchange id _).ge
  | addDelivered id listings => exact (hchange id _).ge
  | delete id =>
    simp only [handle, withArchive, Archive.delete]
    split <;> exact le_rfl
  | send id listings =>
    simp only [handle, send]
    split <;> exact le_rfl
  | _ => exact le_rfl

/-- A row that is gone does not come back. -/
lemma spent_handle (request : Service.Request) (h : m.archive.Spent s) :
    (handle request m).2.archive.Spent s := by
  refine ⟨?_, fun n hn => h.2 n (lt_of_le_of_lt (created_le_handle request m) hn)⟩
  have hnext : s ≠ m.archive.nextId := h.2 _ (Nat.lt_succ_self _)
  rw [row?_handle]
  cases request <;> simp only [Archive.rowAfter, h.1, if_neg hnext, Option.map_none, ite_self]

/-- A row is gone for good once it is gone. -/
lemma spent_of_row?_handle {r : Record} (hm : m.archive.Labelled) (request : Service.Request)
    (hrow : m.archive.row? s = some r) (h : (handle request m).2.archive.row? s = none) :
    (handle request m).2.archive.Spent s :=
  ⟨h, fun n hn => hm.spent_of_row? hrow n (lt_of_le_of_lt (created_le_handle request m) hn)⟩

end Memory
end ListingSearch
