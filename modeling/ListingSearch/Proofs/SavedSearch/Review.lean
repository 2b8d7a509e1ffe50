import ListingSearch.Proofs.SavedSearch.DeliveryRuns
import ListingSearch.Proofs.SavedSearch.Effects
import ListingSearch.Proofs.Search

/-! A saved search finds what is found with the filter that it was saved with. Its row keeps the
document of the criteria that were read from the filter, whatever happens to other searches and to
the other columns of the row; and the criteria that are read from the document find the same. -/
namespace ListingSearch

open Registry (Setup Operation Answer)

/-- There is a row under an identifier that was given already; it can be read, and its criteria are
those of a filter. -/
structure Archive.StandsFor (a : Archive) (id : String) (filter : Value) : Prop where
  row : ∃ r n c, a.row? id = some r ∧ r.AtVersion n ∧ Criteria.read true filter = .ok c ∧
    r.get? "criteria" = some (.object c.toDocument)
  given : ∀ n, a.created < n → id ≠ Archive.numberedId n

/-- The request neither replaces the criteria under an identifier nor deletes the row, and what it
writes has the proper type. -/
def Service.Request.Spares (id : String) : Service.Request → Prop
  | .replaceCriteria other _ _ => other ≠ .text id
  | .delete other => other ≠ .text id
  | .setActive _ active => ∃ b, active = .bool b
  | .addDelivered _ ids => ids.OnlyTexts
  | _ => True

namespace Registry

/-- The arguments of the operation have the proper types: a version that is given is a whole number,
a switch is a truth value, and listings are named by texts. -/
def Operation.Typed : Operation → Prop
  | .edit _ _ version => version.isNull = true ∨ ∃ n, version.number? = some (.int n)
  | .setActive _ active => ∃ b, active = .bool b
  | .markDelivered _ listings => listings.OnlyTexts
  | .deliver _ chosen => chosen.OnlyTexts
  | _ => True

/-- The operation neither edits nor deletes the saved search. -/
def Operation.LeavesAlone (id : String) : Operation → Prop
  | .edit other _ _ => other ≠ .text id
  | .delete other => other ≠ .text id
  | _ => True

lemma Operation.MayAsk.spares {now : Instant} {operation : Operation} {request : Service.Request}
    {id : String} (h : operation.MayAsk now request) (htyped : operation.Typed)
    (halone : operation.LeavesAlone id) : request.Spares id := by
  cases h with
  | look h => cases request <;> trivial
  | create => trivial
  | replace => exact halone
  | setActive => exact htyped
  | delete => exact halone
  | mark hids => exact onlyTexts_of_identifiers htyped hids
  | send => trivial
  | note hsent hids =>
    refine onlyTexts_of_identifiers ?_ hids
    rcases hsent with ⟨ss, rfl⟩ | hsent
    · exact Value.onlyTexts_list ss
    · exact onlyTexts_of_identifiers htyped hsent

/-- Without an edit of the saved search, at worst its row is deleted. -/
lemma Operation.MayAsk.spares_or_deletes {now : Instant} {operation : Operation}
    {request : Service.Request} {id : String} (h : operation.MayAsk now request)
    (htyped : operation.Typed)
    (hedit : ∀ filter version, operation ≠ .edit (.text id) filter version) :
    request.Spares id ∨ request = .delete (.text id) := by
  by_cases halone : operation.LeavesAlone id
  · exact .inl (h.spares htyped halone)
  · cases operation with
    | edit other filter version =>
      obtain rfl : other = .text id := not_not.1 halone
      exact absurd rfl (hedit filter version)
    | delete other =>
      obtain rfl : other = .text id := not_not.1 halone
      cases h with
      | look h => cases request <;> first | exact .inl trivial | cases h
      | delete => exact .inr rfl
    | _ => exact absurd trivial halone

end Registry

/-- The arguments of a call have the proper types. -/
def Event.Typed : Event → Prop
  | .call _ operation => operation.Typed
  | _ => True

/-- No call edits or deletes the saved search. -/
def Event.LeavesAlone (id : String) : Event → Prop
  | .call _ operation => operation.LeavesAlone id
  | _ => True

namespace Archive

variable {a : Archive} {id : String} {filter : Value} {request : Service.Request}

/-- The row of a saved search stays readable, and keeps its criteria. -/
lemma StandsFor.exists_rowAfter (h : a.StandsFor id filter) (hrequest : request.Spares id) :
    ∃ r n c, a.rowAfter id request = some r ∧ r.AtVersion n ∧ Criteria.read true filter = .ok c ∧
      r.get? "criteria" = some (.object c.toDocument) := by
  obtain ⟨r, n, c, hrow, hn, hread, hcriteria⟩ := h.row
  have hsame (hafter : a.rowAfter id request = a.row? id) :
      ∃ r n c, a.rowAfter id request = some r ∧ r.AtVersion n ∧ Criteria.read true filter = .ok c ∧
        r.get? "criteria" = some (.object c.toDocument) :=
    ⟨r, n, c, hafter.trans hrow, hn, hread, hcriteria⟩
  cases request with
  | create search => exact hsame (if_neg (h.given _ (Nat.lt_succ_self _)))
  | replaceCriteria other document version => exact hsame (if_neg hrequest)
  | delete other => exact hsame (if_neg hrequest)
  | setActive other active =>
    obtain ⟨b, rfl⟩ := hrequest
    by_cases hother : other = .text id
    · refine ⟨r.set "is_active" (.bool b), n, c, ?_, hn.setActive b, hread, ?_⟩
      · rw [rowAfter, if_pos hother, hrow, Option.map_some]
      · rw [get?_set_of_ne (by decide), hcriteria]
    · exact hsame (if_neg hother)
  | addDelivered other listings =>
    by_cases hother : other = .text id
    · cases hnoted : withNoted r listings with
      | error failure =>
        refine hsame ?_
        rw [rowAfter, if_pos hother, hrow, Option.map_some, hnoted]
      | ok all =>
        obtain ⟨ss, hss⟩ := exists_members_of_withNoted hrequest hnoted
        obtain ⟨us, hus⟩ := hn.exists_withNoted hss
        rw [hnoted] at hus
        cases hus
        refine ⟨r.set "delivered_listing_ids" (.ofTexts us), n, c, ?_, hn.setDelivered us, hread,
          ?_⟩
        · rw [rowAfter, if_pos hother, hrow, Option.map_some, hnoted]
          rfl
        · rw [get?_set_of_ne (by decide), hcriteria]
    · exact hsame (if_neg hother)
  | _ => exact hsame rfl

end Archive

/-- A saved search stands for some filter, or it is gone for good. -/
def Archive.Follows (a : Archive) (id : String) : Prop :=
  (∃ filter, a.StandsFor id filter) ∨ a.Spent id

namespace Memory

variable {m : Memory} {id : String} {filter : Value} {request : Service.Request}

lemma standsFor_handle (h : m.archive.StandsFor id filter) (hrequest : request.Spares id) :
    (handle request m).2.archive.StandsFor id filter := by
  refine ⟨?_, fun n hn => h.given n (lt_of_le_of_lt (created_le_handle request m) hn)⟩
  rw [row?_handle]
  exact h.exists_rowAfter hrequest

lemma follows_handle (h : m.archive.Follows id)
    (hrequest : request.Spares id ∨ request = .delete (.text id)) :
    (handle request m).2.archive.Follows id := by
  rcases h with ⟨filter, hstands⟩ | hspent
  · rcases hrequest with hspares | rfl
    · exact .inl ⟨filter, standsFor_handle hstands hspares⟩
    · refine .inr ⟨?_, fun n hn => hstands.given n (lt_of_le_of_lt (created_le_handle _ m) hn)⟩
      rw [row?_handle, Archive.rowAfter, if_pos rfl]
  · exact .inr (spent_handle request hspent)

end Memory

/-- What a saved search with a filter is to find: what the search for the filter finds, up to the
limit of the filter or, if it sets none, up to that of reviews. -/
def Search.review (policy : Policy) (now : Instant) (filter : Value) :
    Plan Service (List Listing) := do
  let s ← .ofOutcome (ofFilter policy now filter)
  find policy s.condition s.sort (some ((s.limit.map Int.ofNat).getD policy.reviewLimit))

/-- A saved search finds what is found with a filter. -/
structure World.Reviews (w : World) (id : String) (filter : Value) : Prop where
  found : ∀ policy,
    ((Registry.currentMatches policy w.now (.text id)).run Memory.handle w.memory).1 =
      ((Search.review policy w.now filter).run Memory.handle w.memory).1
  limited : ∀ policy c n, Criteria.read true filter = .ok c → c.limit = some n →
    ((Registry.currentMatches policy w.now (.text id)).run Memory.handle w.memory).1 =
      ((Search.run policy w.now filter).run Memory.handle w.memory).1
  unlimited : ∀ policy c, Criteria.read true filter = .ok c → c.limit = none →
    (∀ r ∈ w.memory.listings, ∃ l, Listing.ofRecord r = .valid l) → 1 ≤ policy.reviewLimit →
    1 ≤ policy.maxResults →
    ((Registry.currentMatches policy w.now (.text id)).run Memory.handle w.memory).1 =
      (·.take policy.reviewLimit.toNat) <$>
        ((Search.run policy w.now filter).run Memory.handle w.memory).1

namespace Registry

variable {policy : Policy} {now : Instant} {m m' : Memory} {id : String} {filter : Value}

lemma run_currentMatches (policy : Policy) (now : Instant) (h : m.archive.StandsFor id filter) :
    ∃ c, Criteria.read true filter = .ok c ∧
      ((currentMatches policy now (.text id)).run Memory.handle m).1 =
        m.found policy now c (some ((c.limit.map Int.ofNat).getD policy.reviewLimit)) := by
  obtain ⟨r, n, c, hrow, hn, hread, hcriteria⟩ := h.row
  obtain ⟨search, hsearch, -⟩ := hn.exists_readFrom now
  have hreread : search.criteria = c.reread := by
    have hstored := hsearch.criteria
    rw [Record.get, hcriteria, Option.getD_some,
      Criteria.read_toDocument (Criteria.canonical_of_read hread) false] at hstored
    exact (Except.ok.inj hstored).symm
  refine ⟨c, hread, ?_⟩
  rw [currentMatches, Plan.run_bind_of_ok
    (run_get (Archive.find_of_row? hrow) (SavedSearch.ofRow_eq_ok_iff.2 hsearch)), resultsWithout,
    hreread, ← Memory.found_reread]
  exact Search.run_ofCriteria policy now
    (fun limit => some ((limit.map Int.ofNat).getD policy.reviewLimit)) _ m

end Registry

lemma World.reviews_of_standsFor {w : World} {id : String} {filter : Value}
    (h : w.memory.archive.StandsFor id filter) : w.Reviews id filter := by
  have hrun (policy : Policy) (c : Criteria) (hc : Criteria.read true filter = .ok c) :
      ((Search.run policy w.now filter).run Memory.handle w.memory).1 =
        w.memory.found policy w.now c (c.limit.map Int.ofNat) := by
    refine (Search.run_ofFilter policy w.now (·.map Int.ofNat) filter w.memory).trans ?_
    rw [hc]
    rfl
  refine ⟨fun policy => ?_, fun policy c n hc hlimit => ?_,
    fun policy c hc hlimit hvalid hreview hmax => ?_⟩
  · obtain ⟨c, hc, hfound⟩ := Registry.run_currentMatches policy w.now h
    have hreview := Search.run_ofFilter policy w.now
      (fun limit => some ((limit.map Int.ofNat).getD policy.reviewLimit)) filter w.memory
    rw [hc] at hreview
    exact hfound.trans hreview.symm
  · obtain ⟨c', hc', hfound⟩ := Registry.run_currentMatches policy w.now h
    obtain rfl : c' = c := Except.ok.inj (hc'.symm.trans hc)
    rw [hfound, hrun policy c' hc', hlimit]
    rfl
  · obtain ⟨c', hc', hfound⟩ := Registry.run_currentMatches policy w.now h
    obtain rfl : c' = c := Except.ok.inj (hc'.symm.trans hc)
    rw [hfound, hrun policy c' hc', hlimit]
    exact Memory.found_take hvalid hreview hmax w.now c'

namespace Registry

variable {now : Instant} {m m' : Memory} {id : String} {filter version : Value} {c : Criteria}

/-- What is created stands for its filter, under the next identifier. -/
lemma run_create (now : Instant) (m : Memory) {owner checked : String} {name : Value}
    (hread : Criteria.read true filter = .ok c) (hname : SavedSearch.checkName name = .ok checked)
    (howner : owner ≠ "") :
    ∃ search m', (create now (.text owner) name filter).run Memory.handle m = (.ok search, m') ∧
      search.id = some m.archive.nextId ∧ m'.archive.StandsFor m.archive.nextId filter := by
  obtain ⟨search, hid, hrun⟩ := run_create_eq now m hread hname howner
  set saved := SavedSearch.create owner checked c now with hsaved
  have hcanonical : saved.criteria.Canonical := Criteria.canonical_of_read hread
  have hreadFrom := SavedSearch.readFrom_toRow hcanonical howner le_rfl m.archive.nextId now
  refine ⟨search, _, hrun, hid, ⟨saved.toRow.set "id" (.text m.archive.nextId), 1, c, ?_,
    .of_readFrom hreadFrom le_rfl ?_, hread, ?_⟩, ?_⟩
  · exact (Archive.row?_create m.archive saved.toRow _).trans (if_pos rfl)
  · rw [Archive.get?_set_of_ne (by decide)]
    rfl
  · rw [Archive.get?_set_of_ne (by decide)]
    rfl
  · intro n hn heq
    have hnumber : m.archive.created + 1 = n := Archive.numberedId_injective heq
    exact absurd hn (by rw [← hnumber]; exact lt_irrefl _)

lemma standsFor_revised {r : Record} {n : Int}
    (hgiven : ∀ k, m.archive.created < k → id ≠ Archive.numberedId k) (hn : r.AtVersion n)
    (hread : Criteria.read true filter = .ok c) :
    (m.archive.put (.text id) (r.revised (.object c.toDocument) n)).StandsFor id filter := by
  have hreread := Criteria.read_toDocument (Criteria.canonical_of_read hread) false
  have hpositive := hn.positive
  refine ⟨⟨_, n + 1, c, ?_, hn.replaced hreread (by omega), hread, ?_⟩, hgiven⟩
  · rw [Archive.row?_put, if_pos rfl, Record.revised]
  · rw [Archive.get?_set_of_ne (by decide), Record.get?_set_self]

/-- An edit of a saved search succeeds, and the search stands for the new filter, or it fails, and
nothing is changed. -/
lemma run_edit {old : Value} {outcome : Outcome SavedSearch} (h : m.archive.StandsFor id old)
    (htyped : (Operation.edit (.text id) filter version).Typed)
    (hrun : (edit now (.text id) filter version).run Memory.handle m = (outcome, m')) :
    (∃ failure, outcome = .error failure) ∧ m' = m ∨ m'.archive.StandsFor id filter := by
  obtain ⟨r, n, -, hrow, hn, -, -⟩ := h.row
  rw [edit_eq] at hrun
  cases hread : Criteria.read true filter with
  | error failure =>
    rw [hread] at hrun
    cases hrun
    exact .inl ⟨⟨failure, rfl⟩, rfl⟩
  | ok c =>
    rw [hread] at hrun
    -- Whether the version is given or read from the row, it is compared with that of the row.
    have hreplacing {v : Value} {k : Int} (hv : v.number? = some (.int k))
        (hrun : (replacing now (.text id) c v).run Memory.handle m = (outcome, m')) :
        (∃ failure, outcome = .error failure) ∧ m' = m ∨ m'.archive.StandsFor id filter := by
      by_cases hk : n = k
      · subst hk
        obtain ⟨search, hhit⟩ :=
          run_replacing_hit now (Archive.find_of_row? hrow) hn hread hv
        rw [hhit] at hrun
        obtain ⟨-, rfl⟩ := Prod.mk.inj hrun
        exact .inr (standsFor_revised h.given hn hread)
      · have hother : ∀ t ∈ some r, ¬ (t.get "version").same v = true := by
          rintro t ⟨⟩
          exact mt (Archive.same_version_iff hn hv).1 hk
        obtain ⟨failure, hmiss⟩ := run_replacing_miss now c (Archive.find_of_row? hrow) hother
        rw [hmiss] at hrun
        obtain ⟨rfl, rfl⟩ := Prod.mk.inj hrun
        exact .inl ⟨⟨_, rfl⟩, rfl⟩
    cases hnull : version.isNull with
    | true =>
      obtain ⟨search, hsearch, -⟩ := hn.exists_readFrom now
      have hget : Plan.run Memory.handle ((fun s => Value.int s.version) <$> get now (.text id)) m =
          (.ok (.int search.version), m) :=
        Plan.run_bind_of_ok
          (run_get (Archive.find_of_row? hrow) (SavedSearch.ofRow_eq_ok_iff.2 hsearch))
      rw [hnull] at hrun
      exact hreplacing rfl ((Plan.run_bind_of_ok hget).symm.trans hrun)
    | false =>
      obtain ⟨k, hk⟩ := htyped.resolve_left (by simp [hnull])
      rw [hnull] at hrun
      exact hreplacing hk hrun

/-- Nothing is found under an identifier whose row is gone, so an edit fails. -/
lemma edit_fails_of_spent {outcome : Outcome SavedSearch} (h : m.archive.row? id = none)
    (hrun : (edit now (.text id) filter version).run Memory.handle m = (outcome, m')) :
    ∃ failure, outcome = .error failure := by
  rw [edit_eq] at hrun
  cases hread : Criteria.read true filter with
  | error failure =>
    rw [hread] at hrun
    cases hrun
    exact ⟨failure, rfl⟩
  | ok c =>
    rw [hread] at hrun
    cases hnull : version.isNull with
    | true =>
      have hget : Plan.run Memory.handle ((fun s => Value.int s.version) <$> get now (.text id)) m =
          (.error (.notFound (Value.text id).display), m) := by
        have hmissing : (get now (.text id)).run Memory.handle m =
            (.error (.notFound (Value.text id).display), m) :=
          Plan.run_bind_of_ok (run_find (Archive.find_of_row? h))
        exact Plan.run_bind_of_error hmissing
      rw [hnull] at hrun
      exact ⟨_, (congrArg Prod.fst ((Plan.run_bind_of_error hget).symm.trans hrun)).symm⟩
    | false =>
      have hnone : ∀ r ∈ (none : Option Record), ¬ (r.get "version").same version = true := by
        rintro r ⟨⟩
      obtain ⟨failure, hmiss⟩ := run_replacing_miss now c (Archive.find_of_row? h) hnone
      rw [hnull] at hrun
      exact ⟨failure, (congrArg Prod.fst (hmiss.symm.trans hrun)).symm⟩

end Registry

namespace World

variable {w : World} {id : String} {filter : Value}

/-- A saved search stands for its filter as long as it is neither edited nor deleted. -/
lemma standsFor_step (hw : w.memory.archive.StandsFor id filter) {event : Event}
    (htyped : event.Typed) (halone : event.LeavesAlone id) :
    (w.step event).memory.archive.StandsFor id filter := by
  cases event with
  | call setup operation =>
    exact ((operation.asks_mayAsk setup w.now).mono fun _ h => h.spares htyped halone).preserves
      Memory.handle (P := fun m => m.archive.StandsFor id filter)
      (fun _ _ hrequest h => Memory.standsFor_handle h hrequest) hw
  | restock listings => exact hw
  | clock now => exact hw
  | inventoryFault fault => exact hw
  | senderFault fault => exact hw

/-- The saved search finds what is found with the filter, now and until it is edited or deleted. -/
def Shows (w : World) (id : String) (filter : Value) : Prop :=
  ∀ events, (∀ event ∈ events, event.Typed ∧ event.LeavesAlone id) →
    (w.run events).Reviews id filter

lemma shows_of_standsFor (hw : w.memory.archive.StandsFor id filter) : w.Shows id filter :=
  fun _ h => reviews_of_standsFor (run_preserves
    (P := fun w => w.memory.archive.StandsFor id filter)
    (fun _ _ hkind hw => standsFor_step hw hkind.1 hkind.2) h hw)

/-- Whatever happens, a saved search stands for some filter or is gone for good. -/
lemma follows_step (hw : w.memory.archive.Follows id) {event : Event} (htyped : event.Typed) :
    (w.step event).memory.archive.Follows id := by
  cases event with
  | restock listings => exact hw
  | clock now => exact hw
  | inventoryFault fault => exact hw
  | senderFault fault => exact hw
  | call setup operation =>
    by_cases hedits : ∃ filter version, operation = .edit (.text id) filter version
    · obtain ⟨filter, version, rfl⟩ := hedits
      rcases hw with ⟨old, hstands⟩ | hspent
      · cases h : w.carryOut setup (.edit (.text id) filter version) with
        | mk outcome memory =>
          rw [step_call h]
          obtain ⟨edited, hedit, -⟩ := Plan.exists_of_run_map h
          rcases Registry.run_edit hstands htyped hedit with ⟨-, rfl⟩ | hnew
          · exact .inl ⟨old, hstands⟩
          · exact .inl ⟨filter, hnew⟩
      · exact .inr ((Plan.asks_any _).preserves Memory.handle (P := fun m => m.archive.Spent id)
          (fun request _ _ h => Memory.spent_handle request h) hspent)
    · refine ((operation.asks_mayAsk setup w.now).mono fun request h => ?_).preserves Memory.handle
        (P := fun m => m.archive.Follows id)
        (fun _ _ hrequest h => Memory.follows_handle h hrequest) hw
      exact h.spares_or_deletes htyped fun filter version heq => hedits ⟨filter, version, heq⟩

/-- After an edit that succeeds a saved search finds what is found with the new filter. -/
lemma shows_edited {setup : Setup} {version : Value} {search : SavedSearch}
    (hw : w.memory.archive.Follows id) (htyped : (Operation.edit (.text id) filter version).Typed)
    (h : (w.carryOut setup (.edit (.text id) filter version)).1 = .ok (.search search)) :
    (w.step (.call setup (.edit (.text id) filter version))).Shows id filter := by
  cases hcall : w.carryOut setup (.edit (.text id) filter version) with
  | mk outcome memory =>
    obtain ⟨result, hrun, hresult⟩ := Plan.exists_of_run_map hcall
    have hok : ¬ ∃ failure, result = .error failure := by
      rintro ⟨failure, rfl⟩
      rw [hcall, ← hresult] at h
      cases h
    rw [step_call hcall]
    rcases hw with ⟨old, hold⟩ | hspent
    · rcases Registry.run_edit hold htyped hrun with ⟨hfailed, -⟩ | hnew
      · exact absurd hfailed hok
      · exact shows_of_standsFor hnew
    · exact absurd (Registry.edit_fails_of_spent hspent.1 hrun) hok

/-- What was created finds what is found with its filter, until it is edited or deleted; and after
an edit that succeeds, whatever happened before, it finds what is found with the new filter. -/
theorem shows_filter (w : World) (setup : Setup) {owner checked : String} {name filter : Value}
    {c : Criteria} (hread : Criteria.read true filter = .ok c)
    (hname : SavedSearch.checkName name = .ok checked) (howner : owner ≠ "") :
    ∃ search id, (w.carryOut setup (.create (.text owner) name filter)).1 = .ok (.search search) ∧
      search.id = some id ∧
      (w.step (.call setup (.create (.text owner) name filter))).Shows id filter ∧
      ∀ events, (∀ event ∈ events, event.Typed) → ∀ setup' edited version search',
        (Operation.edit (.text id) edited version).Typed →
        let later := (w.step (.call setup (.create (.text owner) name filter))).run events
        (later.carryOut setup' (.edit (.text id) edited version)).1 = .ok (.search search') →
          (later.step (.call setup' (.edit (.text id) edited version))).Shows id edited := by
  obtain ⟨search, memory, hcreate, hid, hstands⟩ :=
    Registry.run_create w.now w.memory hread hname howner
  have hcall : w.carryOut setup (.create (.text owner) name filter) =
      (.ok (.search search), memory) := Plan.run_bind_of_ok hcreate
  refine ⟨search, _, congrArg Prod.fst hcall, hid, ?_, fun events hevents setup' edited version
    search' htyped hedited => shows_edited ?_ htyped hedited⟩
  · rw [step_call hcall]
    exact shows_of_standsFor hstands
  · refine run_preserves (P := fun w' => w'.memory.archive.Follows w.memory.archive.nextId)
      (fun _ _ hkind hw => follows_step hw hkind) hevents ?_
    rw [step_call hcall]
    exact .inl ⟨filter, hstands⟩

/-- The two dearest listings, from a price of negative zero on. -/
def dearestTwo : Value :=
  .object [("priceMin", .float (.zero true)), ("sortColumn", .text "price"), ("limit", .text "2")]

theorem shows_filter_dearestTwo :
    let w := start ⟨⟨2024, 5, 1⟩, 12, 0, 0, 0, some 0⟩
    let setup : Setup := ⟨⟨.empty, 10, 10⟩, true⟩
    let saved := w.step (.call setup (.create (.text "ana") (.text " Centro ") dearestTwo))
    let stocked := saved.step (.restock
      [[("id", .text "a"), ("price", .int 5)], [("id", .text "b"), ("price", .int 7)],
        [("id", .text "c")], [("id", .text "d"), ("price", .int 6)]])
    (∃ c, Criteria.read true dearestTwo = .ok c) ∧
    SavedSearch.checkName (.text " Centro ") = .ok "Centro" ∧ "ana" ≠ "" ∧
    (∃ search id, (w.carryOut setup (.create (.text "ana") (.text " Centro ") dearestTwo)).1 =
      .ok (.search search) ∧ search.id = some id ∧ saved.Shows id dearestTwo) ∧
    ((Registry.currentMatches setup.policy stocked.now (.text "hs-1")).run Memory.handle
      stocked.memory).1.toOption.map (·.map (·.id)) = some ["b", "d"] := by
  intro w setup saved stocked
  have hread : Criteria.read true dearestTwo = .ok
      { price := { min := some (.zero true) }, sortColumn := some "price", limit := some 2 } := by
    decide +kernel
  have hname : SavedSearch.checkName (.text " Centro ") = .ok "Centro" := by decide +kernel
  have howner : "ana" ≠ "" := by decide
  obtain ⟨search, id, hcreate, hid, hshows, -⟩ := shows_filter w setup hread hname howner
  exact ⟨⟨_, hread⟩, hname, howner, ⟨search, id, hcreate, hid, hshows⟩, by decide +kernel⟩

end World
end ListingSearch
