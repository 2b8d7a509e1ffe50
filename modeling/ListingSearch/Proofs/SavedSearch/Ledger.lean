import ListingSearch.Proofs.SavedSearch.DeliveryRuns
import ListingSearch.Proofs.SavedSearch.Effects

/-! The stored rows against a ledger. The ledger is kept from the calls and their answers alone: who
saved what under which name, the filter given last, the switch set last, and all listings that were
marked. Every row is read as the ledger says, whatever operations wrote its columns; and what was
read is read again from the row in which it would be stored. -/
namespace ListingSearch

open Registry (Setup Operation Answer)

/-- What is known of a saved search from the calls about it. -/
structure Entry where
  owner : Value
  name : Value
  filter : Value
  active : Value
  marked : List Value

namespace Entry

def mark (listings : Value) (e : Entry) : Entry :=
  match Registry.identifiers listings with
  | .ok ids => { e with marked := e.marked ++ ids }
  | .error _ => e

/-- The entry for the saved search under a text, after an operation and what came of it. -/
def after (s : String) (entry : Option Entry) : Operation × Outcome Answer → Option Entry
  | (.create owner name filter, .ok (.search search)) =>
    if search.id = some s then some ⟨owner, name, filter, .bool true, []⟩ else entry
  | (.edit id filter _, .ok _) =>
    if id = .text s then entry.map fun e => { e with filter } else entry
  | (.setActive id active, .ok _) =>
    if id = .text s then entry.map fun e => { e with active } else entry
  | (.delete id, .ok _) => if id = .text s then none else entry
  | (.markDelivered id listings, .ok _) =>
    if id = .text s then entry.map (mark listings) else entry
  | (.deliver id _, .ok (.identifiers ids)) =>
    if id = .text s then entry.map (mark (.list ids)) else entry
  | _ => entry

/-- A saved search is as the entry says. -/
structure Agrees (e : Entry) (s : String) (search : SavedSearch) : Prop where
  id : search.id = some s
  owner : e.owner = .text search.owner ∧ search.owner ≠ ""
  name : ∃ given, e.name = .text given ∧ search.name = Text.trim given ∧
    1 ≤ search.name.length ∧ search.name.length ≤ SavedSearch.nameLimit
  criteria : ∃ c, Criteria.read true e.filter = .ok c ∧ search.criteria = c.reread ∧
    search.criteria.same c = true
  active : e.active = .bool search.active
  version : 1 ≤ search.version
  delivered : ∀ x, x ∈ search.delivered ↔ .text x ∈ e.marked

variable {e : Entry} {s : String} {search : SavedSearch} {entry : Option Entry}

lemma after_of_not_concerns {operation : Operation} {answer : Answer}
    (h : ¬ operation.Concerns s answer) : after s entry (operation, .ok answer) = entry := by
  cases operation with
  | create owner name filter =>
    cases answer with
    | search search => exact if_neg h
    | _ => rfl
  | deliver id chosen =>
    cases answer with
    | identifiers ids => exact if_neg h
    | _ => rfl
  | edit id filter version => exact if_neg h
  | setActive id active => exact if_neg h
  | delete id => exact if_neg h
  | markDelivered id listings => exact if_neg h
  | _ => rfl

lemma after_error (operation : Operation) (failure : Failure) :
    after s entry (operation, .error failure) = entry := by
  cases operation <;> rfl

lemma Agrees.replaced (h : e.Agrees s search) {filter : Value} {c : Criteria} {n : Int}
    (hread : Criteria.read true filter = .ok c) (hn : 1 ≤ n) :
    Agrees { e with filter } s { search with criteria := c.reread, version := n } where
  id := h.id
  owner := h.owner
  name := h.name
  criteria := ⟨c, hread, rfl, Criteria.reread_same (Criteria.canonical_of_read hread)⟩
  active := h.active
  version := hn
  delivered := h.delivered

lemma Agrees.switched (h : e.Agrees s search) (b : Bool) :
    Agrees { e with active := .bool b } s { search with active := b } :=
  ⟨h.id, h.owner, h.name, h.criteria, rfl, h.version, h.delivered⟩

lemma Agrees.marked (h : e.Agrees s search) {listings : Value} {ss us : List String}
    (hids : Registry.identifiers listings = .ok (ss.map .text))
    (hus : ∀ x, x ∈ us ↔ x ∈ search.delivered ∨ x ∈ ss) :
    (e.mark listings).Agrees s { search with delivered := TextSet.ofList us } := by
  rw [mark, hids]
  refine ⟨h.id, h.owner, h.name, h.criteria, h.active, h.version, fun x => ?_⟩
  rw [TextSet.mem_ofList, hus, h.delivered, List.mem_append]
  simp

end Entry

namespace SavedSearch

variable {now : Instant} {r : Record} {search : SavedSearch}

lemma checkName_eq_ok {v : Value} {name : String} (h : checkName v = .ok name) :
    ∃ given, v = .text given ∧ name = Text.trim given ∧ 1 ≤ name.length ∧
      name.length ≤ nameLimit := by
  unfold checkName at h
  split at h
  · rename_i given
    dsimp only at h
    split_ifs at h with hempty hlong
    cases h
    refine ⟨given, rfl, rfl, ?_, not_lt.1 hlong⟩
    rwa [Nat.one_le_iff_ne_zero, ne_eq, String.length_eq_zero_iff]
  · cases h

lemma text_ne_empty (now : Instant) : now.text ≠ "" := by
  intro h
  have hlength := congrArg String.length h
  simp only [Instant.text, String.length_append] at hlength
  simp at hlength

lemma ne_empty_of_text_orElse {v : Value} {s t : String}
    (h : Check.text (orElse v (.text s)) = .valid t) (hs : s ≠ "") : t ≠ "" := by
  unfold orElse at h
  split at h
  · rename_i htruthy
    obtain rfl := Check.text_eq_valid h
    exact bne_iff_ne.1 htruthy
  · cases h
    exact hs

/-- What was read from a row is read again from the row in which it would be stored. -/
lemma ofRow_toRow (hread : ReadFrom now r search)
    (hcriteria : search.criteria.reread = search.criteria) (howner : search.owner ≠ "")
    (hversion : 1 ≤ search.version) {s : String} (hid : search.id = some s) (later : Instant) :
    ofRow later (.object (search.toRow.set "id" (.ofText? search.id))) = .ok search := by
  have hcanonical := Criteria.canonical_of_read hread.criteria
  have hagain := readFrom_toRow hcanonical howner hversion s later
  rw [hcriteria, if_neg (ne_empty_of_text_orElse hread.createdAt (text_ne_empty now)),
    if_neg (ne_empty_of_text_orElse hread.updatedAt (text_ne_empty now)), ← hid] at hagain
  rw [ofRow_eq_ok_iff, hid]
  exact hagain

end SavedSearch

namespace Archive

variable {a b : Archive} {s : String} {entry : Option Entry}

/-- The row under a text is read, at any time, as the entry says; without an entry there is none. -/
inductive Mirrors (a : Archive) (s : String) : Option Entry → Prop
  | absent (h : a.row? s = none) : Mirrors a s none
  | stored {r : Record} {e : Entry} (hrow : a.row? s = some r)
    (h : ∀ now, ∃ search, SavedSearch.ofRow now (.object r) = .ok search ∧ e.Agrees s search) :
    Mirrors a s (some e)

lemma Mirrors.congr (h : a.Mirrors s entry) (hrow : b.row? s = a.row? s) : b.Mirrors s entry := by
  cases h with
  | absent h => exact .absent (hrow.trans h)
  | stored hold h => exact .stored (hrow.trans hold) h

/-- A row that is there and is changed, as its entry is. -/
lemma Mirrors.put {r r' : Record} {f : Entry → Entry} (h : a.Mirrors s entry)
    (hr : a.row? s = some r)
    (hchange : ∀ now search e, SavedSearch.ReadFrom now r search → e.Agrees s search →
      ∃ search', SavedSearch.ReadFrom now r' search' ∧ (f e).Agrees s search') :
    (a.put (.text s) r').Mirrors s (entry.map f) := by
  cases h with
  | absent h =>
    rw [h] at hr
    cases hr
  | @stored old e hold h =>
    obtain rfl : old = r := Option.some.inj (hold.symm.trans hr)
    refine .stored ((row?_put a _ _ s).trans (if_pos rfl)) fun now => ?_
    obtain ⟨search, hread, hagrees⟩ := h now
    obtain ⟨search', hread', hagrees'⟩ :=
      hchange now search e (SavedSearch.ofRow_eq_ok_iff.1 hread) hagrees
    exact ⟨search', SavedSearch.ofRow_eq_ok_iff.2 hread', hagrees'⟩

lemma Mirrors.noting (h : a.Mirrors s entry) {listings : Value} {ss : List String}
    (hids : Registry.identifiers listings = .ok (ss.map .text))
    (hnoting : a.Noting (.text s) ss b) : b.Mirrors s (entry.map (Entry.mark listings)) := by
  cases hnoting with
  | none =>
    have hsame : Entry.mark listings = id := by
      funext e
      rw [Entry.mark, hids]
      simp
    rwa [hsame, Option.map_id]
  | some hr hus =>
    refine h.put hr fun now search e hread hagrees => ?_
    obtain ⟨ts, hts, hset⟩ := hread.delivered
    obtain ⟨us, hus', hmem⟩ := withNoted_of_distinctMembers hts (Value.members_texts ss)
    rw [hus'] at hus
    have heq := (List.map_inj_right fun _ _ => Value.text.inj).1 (Except.ok.inj hus)
    subst heq
    refine ⟨_, hread.setDelivered us, hagrees.marked hids fun x => ?_⟩
    rw [hmem, ← hset, TextSet.mem_ofList]

/-- An operation that succeeds changes the row as it changes the entry. -/
lemma Mirrors.does {now : Instant} {operation : Operation} {answer : Answer}
    (h : a.Mirrors s entry) (hdoes : operation.Does now a answer b) :
    b.Mirrors s (Entry.after s entry (operation, .ok answer)) := by
  by_cases hs : operation.Concerns s answer
  case neg =>
    rw [Entry.after_of_not_concerns hs]
    exact h.congr (hdoes.row?_of_not_concerns hs)
  case pos =>
  cases hdoes with
  | @created owner checked name filter criteria search howner hread hname hid =>
    have hs : search.id = some s := hs
    obtain rfl : a.nextId = s := Option.some.inj (hid.symm.trans hs)
    rw [Entry.after, if_pos hs]
    refine .stored ((row?_create a _ _).trans (if_pos rfl)) fun later => ?_
    have hcanonical : (SavedSearch.create owner checked criteria now).criteria.Canonical :=
      Criteria.canonical_of_read hread
    have hreadFrom := SavedSearch.readFrom_toRow hcanonical howner le_rfl a.nextId later
    refine ⟨_, SavedSearch.ofRow_eq_ok_iff.2 hreadFrom, rfl, ⟨rfl, howner⟩,
      SavedSearch.checkName_eq_ok hname, ⟨criteria, hread, rfl, Criteria.reread_same hcanonical⟩,
      rfl, le_rfl, fun x => ?_⟩
    exact iff_of_false (TextSet.not_mem_empty x) List.not_mem_nil
  | edited hrow hn hread =>
    obtain rfl := Value.text.inj hs
    rw [Entry.after, if_pos rfl]
    refine h.put hrow fun now search e hsearch hagrees => ?_
    have hpositive := hn.positive
    have hreread := Criteria.read_toDocument (Criteria.canonical_of_read hread) false
    exact ⟨_, (hsearch.setCriteria hreread).setVersion (by omega),
      hagrees.replaced hread (by omega)⟩
  | switched hrow =>
    obtain rfl := Value.text.inj hs
    rw [Entry.after, if_pos rfl]
    exact h.put hrow fun now search e hsearch hagrees =>
      ⟨_, hsearch.setActive _, hagrees.switched _⟩
  | deleted hrow =>
    obtain rfl := Value.text.inj hs
    rw [Entry.after, if_pos rfl]
    exact .absent ((row?_erase a _ _).trans (if_pos rfl))
  | marked hids hnoting =>
    obtain rfl := hs
    rw [Entry.after, if_pos rfl]
    exact h.noting hids hnoting
  | delivered hids hnoting =>
    obtain rfl := hs
    rw [Entry.after, if_pos rfl]
    exact h.noting hids hnoting
  | looked hreads => cases operation <;> first | exact h | cases hreads

lemma lookUp_of_mem {rows : List (Value × Record)} {r : Record}
    (hunique : (rows.map (·.1)).Nodup) (h : (.text s, r) ∈ rows) :
    lookUp (.text s) rows = some r := by
  induction rows with
  | nil => cases h
  | cons old rows ih =>
    obtain ⟨key, t⟩ := old
    rw [List.map_cons, List.nodup_cons] at hunique
    rcases List.mem_cons.1 h with heq | hrest
    · cases heq
      rw [lookUp, if_pos (Value.same_text_iff.2 rfl)]
    · have hother : key ≠ .text s := by
        rintro rfl
        exact hunique.1 (List.mem_map.2 ⟨_, hrest, rfl⟩)
      rw [lookUp, if_neg (mt Value.same_text_iff.1 hother), ih hunique.2 hrest]

/-- Every row is found under its identifier. -/
lemma Keeps.exists_row?_of_mem {log : Value → Value → Prop} (h : a.Keeps log)
    {row : Value × Record} (hrow : row ∈ a.rows) :
    ∃ s, row.1 = .text s ∧ a.row? s = some row.2 := by
  obtain ⟨key, r⟩ := row
  obtain ⟨n, -, hkey⟩ := h.numbered _ hrow
  obtain rfl : key = .text (numberedId n) := hkey
  exact ⟨_, rfl, lookUp_of_mem h.unique hrow⟩

end Archive

namespace World

variable {w : World} {events : List Event}

/-- The entry that the calls so far and their answers give for the saved search under a text. -/
def ledger (w : World) (s : String) : Option Entry := w.history.foldl (Entry.after s) none

structure Mirrored (w : World) : Prop where
  /-- Every row stands under a text of its own. -/
  rows : ∀ row ∈ w.memory.archive.rows,
    ∃ s, row.1 = .text s ∧ w.memory.archive.row? s = some row.2
  mirrors : ∀ s, w.memory.archive.Mirrors s (w.ledger s)
  /-- What is read is read again from the row in which it would be stored. -/
  again : ∀ s r, w.memory.archive.row? s = some r → ∀ now search,
    SavedSearch.ofRow now (.object r) = .ok search → ∀ later,
      SavedSearch.ofRow later (.object (search.toRow.set "id" (.ofText? search.id))) = .ok search

structure Balanced (w : World) : Prop where
  orderly : w.memory.archive.Orderly
  keeps : w.memory.archive.Keeps fun _ _ => False
  mirrors : ∀ s, w.memory.archive.Mirrors s (w.ledger s)

lemma balanced_start (now : Instant) : (start now).Balanced where
  orderly := orderly_start now
  keeps := Archive.keeps_empty fun _ _ h => h
  mirrors _ := .absent rfl

lemma Balanced.call (hw : w.Balanced) (setup : Setup) {operation : Operation}
    (h : operation.Proper) : (w.step (.call setup operation)).Balanced := by
  have hkeeps : (w.carryOut setup operation).2.archive.Keeps fun _ _ => False :=
    ((operation.asks_mayAsk setup w.now).mono fun _ hmay => hmay.proper h).preserves Memory.handle
      (P := fun m => m.archive.Keeps fun _ _ => False)
      (fun request m hrequest hm => hm.moves (Memory.moves_handle request m hrequest.onlyTexts))
      hw.keeps
  refine ⟨orderly_step hw.orderly h, hkeeps, fun s => ?_⟩
  have hends : Memory.Ends (operation.Does w.now w.memory.archive) w.memory
      (w.carryOut setup operation) := operation.ends setup w.now hw.orderly h
  cases hcall : w.carryOut setup operation with
  | mk outcome memory =>
    rw [hcall] at hends
    rw [step_call hcall, ledger, List.foldl_append]
    change memory.archive.Mirrors s (Entry.after s (w.ledger s) (operation, outcome))
    cases hends with
    | failed harchive hsent =>
      rw [Entry.after_error]
      exact (hw.mirrors s).congr (by rw [harchive])
    | done hdoes => exact (hw.mirrors s).does hdoes

lemma Balanced.step (hw : w.Balanced) {event : Event} (h : event.Proper) :
    (w.step event).Balanced := by
  cases event with
  | call setup operation => exact hw.call setup h
  | restock listings => exact ⟨hw.orderly, hw.keeps, hw.mirrors⟩
  | clock now => exact ⟨hw.orderly, hw.keeps, hw.mirrors⟩
  | inventoryFault fault => exact ⟨hw.orderly, hw.keeps, hw.mirrors⟩
  | senderFault fault => exact ⟨hw.orderly, hw.keeps, hw.mirrors⟩

lemma Balanced.mirrored (hw : w.Balanced) : w.Mirrored := by
  refine ⟨fun row hrow => hw.keeps.exists_row?_of_mem hrow, hw.mirrors,
    fun s r hrow now search hread later => ?_⟩
  have hmirrors := hw.mirrors s
  generalize w.ledger s = entry at hmirrors
  cases hmirrors with
  | absent hnone =>
    rw [hnone] at hrow
    cases hrow
  | @stored old e hold h =>
    obtain rfl : old = r := Option.some.inj (hold.symm.trans hrow)
    obtain ⟨other, hother, hagrees⟩ := h now
    obtain rfl : other = search := Except.ok.inj (hother.symm.trans hread)
    obtain ⟨c, -, hcriteria, -⟩ := hagrees.criteria
    exact SavedSearch.ofRow_toRow (SavedSearch.ofRow_eq_ok_iff.1 hread)
      (by rw [hcriteria, Criteria.reread_reread]) hagrees.owner.2 hagrees.version hagrees.id later

/-- After every run of calls with proper arguments, the stored rows are those of the ledger. -/
theorem mirrored_run (now : Instant) (h : ∀ event ∈ events, event.Proper) :
    ((start now).run events).Mirrored :=
  Balanced.mirrored (run_preserves (P := Balanced) (fun _ _ hkind hw => hw.step hkind) h
    (balanced_start now))

/-- A saved search is edited, switched off and marked twice, and another one is deleted. -/
def twoSearches : List Event :=
  let setup : Setup := ⟨⟨.empty, 10, 10⟩, true⟩
  [.call setup (.create (.text "ana") (.text " Centro ") .null),
    .call setup (.create (.text "ben") (.text "Playa") .null),
    .call setup (.edit (.text "hs-1") (.object [("zipCode", .text "02108")]) (.int 1)),
    .call setup (.edit (.text "hs-1") (.object [("zipCode", .text "02109")]) (.int 1)),
    .call setup (.setActive (.text "hs-1") (.bool false)),
    .call setup (.markDelivered (.text "hs-1") (.list (["b", "", "a"].map .text))),
    .call setup (.deliver (.text "hs-1") (.list (["c", "b"].map .text))),
    .call setup (.delete (.text "hs-2"))]

theorem mirrored_twoSearches :
    let w := (start ⟨⟨2024, 5, 1⟩, 12, 0, 0, 0, some 0⟩).run twoSearches
    (∀ event ∈ twoSearches, event.Proper) ∧ w.Mirrored ∧
      (w.ledger "hs-1").map (fun e => (e.name.text?, e.marked.map Value.text?)) =
        some (some " Centro ", [some "b", some "a", some "c", some "b"]) ∧
      (w.ledger "hs-2").isNone = true ∧
      (w.memory.archive.row? "hs-1").map (fun r => ((r.get "name").text?,
        (r.get "version").number?, (r.get "delivered_listing_ids").members?.map
          (·.map Value.text?))) =
        some (some "Centro", some (.int 2), some [some "a", some "b", some "c"]) := by
  intro w
  have hevents : ∀ event ∈ twoSearches, event.Proper := by
    simp only [twoSearches, List.forall_mem_cons, Event.Proper, Operation.Proper, ne_eq,
      Value.text.injEq, String.reduceEq, not_false_eq_true, List.not_mem_nil, false_imp_iff,
      implies_true, true_and, and_true]
    exact ⟨.inr ⟨1, rfl⟩, .inr ⟨1, rfl⟩, ⟨false, rfl⟩, Value.onlyTexts_list _,
      Value.onlyTexts_list _⟩
  exact ⟨hevents, mirrored_run _ hevents, by decide +kernel, by decide +kernel, by decide +kernel⟩

end World
end ListingSearch
