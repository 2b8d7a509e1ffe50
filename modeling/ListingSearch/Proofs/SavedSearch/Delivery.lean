import ListingSearch.Proofs.Criteria.Admission
import ListingSearch.Proofs.Memory.Inventory
import ListingSearch.Proofs.SavedSearch.Bookkeeping
import ListingSearch.Proofs.SavedSearch.Run

/-! What single operations of the registry do to the books and to what was sent. Only a delivery
sends; it sends in one piece what it then notes and gives, or it changes nothing. What it chooses by
itself was never logged before. -/
namespace ListingSearch

/-- The request neither sends anything nor notes anything but texts. -/
def Service.Request.KeepsBooks (request : Service.Request) : Prop :=
  request.SendsNothing ∧ request.OnlyTexts

lemma Service.Request.OnlyLooks.keepsBooks {request : Service.Request} (h : request.OnlyLooks) :
    request.KeepsBooks := by
  cases request <;> first | exact ⟨trivial, trivial⟩ | cases h

namespace Memory

variable {α : Type} {p : Plan Service α} {m m' : Memory} {outcome : Outcome α}

lemma run_of_onlyLooks (hp : p.Asks Service.Request.OnlyLooks)
    (h : p.run handle m = (outcome, m')) : m'.archive = m.archive ∧ m'.sent = m.sent := by
  have hkept := hp.preserves handle (s := m)
    (P := fun s => s.archive = m.archive ∧ s.sent = m.sent)
    (fun request s hrequest hs => by cases request <;> first | exact hs | cases hrequest)
    ⟨rfl, rfl⟩
  rwa [h] at hkept

/-- A plan that sends nothing and notes only texts spoils no books. -/
lemma run_of_keepsBooks {log : Value → Value → Prop}
    (hp : p.Asks Service.Request.KeepsBooks) (hk : m.archive.Keeps log)
    (h : p.run handle m = (outcome, m')) : m'.archive.Keeps log ∧ m'.sent = m.sent := by
  have hkept := hp.preserves handle (s := m)
    (P := fun s => s.archive.Keeps log ∧ s.sent = m.sent)
    (fun request s hrequest hs => ?_) ⟨hk, rfl⟩
  · rwa [h] at hkept
  · refine ⟨hs.1.moves (moves_handle request s hrequest.2), ?_⟩
    rw [sent_handle request s, hs.2]
    rintro id listings rfl
    exact hrequest.1

lemma listings_run (h : p.run handle m = (outcome, m')) : m'.listings = m.listings := by
  have hkept := (Plan.asks_any p).preserves handle (s := m)
    (P := fun s => s.listings = m.listings)
    (fun request s _ hs => (listings_handle request s).trans hs) rfl
  rwa [h] at hkept

end Memory

namespace Registry

variable {policy : Policy} {now : Instant} {id listings : Value} {ids : List Value}

/-- The identifiers in a collection of texts are texts, not empty, and each once. -/
lemma identifiers_texts (hl : listings.OnlyTexts) (h : identifiers listings = .ok ids) :
    ∃ ss ms : List String, ids = ss.map .text ∧ listings.members = .ok (ms.map .text) ∧
      ss.Nodup ∧ ∀ s, s ∈ ss ↔ s ∈ ms ∧ s ≠ "" := by
  obtain ⟨items, hitems, h⟩ := Outcome.bind_eq_ok h
  obtain ⟨ms, rfl⟩ := hl.exists_members hitems
  have hfilter : (ms.map Value.text).filter Value.truthy = (ms.filter (· ≠ "")).map .text := by
    rw [List.filter_map]
    congr 1
    refine List.filter_congr fun s _ => ?_
    simp only [Function.comp_apply, Value.truthy, decide_not, bne]
    rfl
  obtain ⟨ss, hss, hnodup, hmem⟩ := Value.exists_distinctValues_texts (ms.filter (· ≠ ""))
  have hids := Except.ok.inj h
  rw [hfilter, hss] at hids
  refine ⟨ss, ms, hids.symm, hitems, hnodup, fun s => ?_⟩
  rw [hmem, List.mem_filter, decide_eq_true_eq]

lemma asks_get_keepsBooks : (get now id).Asks Service.Request.KeepsBooks :=
  asks_get.mono fun _ => Service.Request.OnlyLooks.keepsBooks

lemma asks_create (owner name filter : Value) :
    (create now owner name filter).Asks Service.Request.KeepsBooks := by
  refine (Plan.asks_ofOutcome _).bind fun criteria => ?_
  refine (Plan.asks_ofOutcome _).bind fun name => ?_
  refine (Plan.asks_ofOutcome _).bind fun owner => ?_
  refine (Plan.asks_request ⟨trivial, trivial⟩).bind fun row => ?_
  split <;> simp

lemma asks_edit (filter version : Value) :
    (edit now id filter version).Asks Service.Request.KeepsBooks := by
  refine (Plan.asks_ofOutcome _).bind fun criteria => ?_
  dsimp only
  -- However the version is found, what follows is the same.
  split
  case' isTrue => refine (asks_get_keepsBooks.map _).bind fun version => ?_
  case' isFalse => refine (Plan.asks_pure version).bind fun version => ?_
  all_goals
    refine (Plan.asks_request ⟨trivial, trivial⟩).bind fun row => ?_
    split
    · simp
    · refine (Plan.asks_request ⟨trivial, trivial⟩).bind fun row => ?_
      split <;> simp [missing]

lemma asks_setActive (active : Value) :
    (setActive now id active).Asks Service.Request.KeepsBooks := by
  refine (Plan.asks_request ⟨trivial, trivial⟩).bind fun row => ?_
  split <;> simp [missing]

lemma asks_delete : (delete id).Asks Service.Request.KeepsBooks := by
  refine (Plan.asks_request ⟨trivial, trivial⟩).bind fun found => ?_
  split <;> simp [missing]

lemma asks_markDelivered (h : listings.OnlyTexts) :
    (markDelivered now id listings).Asks Service.Request.KeepsBooks := by
  unfold markDelivered
  cases hids : identifiers listings with
  | error failure => trivial
  | ok ids =>
    obtain ⟨ss, ms, rfl, -⟩ := identifiers_texts h hids
    cases ss with
    | nil => exact asks_get_keepsBooks.map _
    | cons s ss =>
      have hquiet : Service.Request.KeepsBooks
          (.addDelivered id (.list ((s :: ss).map .text))) :=
        ⟨trivial, Value.onlyTexts_list (s :: ss)⟩
      change Plan.Asks _ (Plan.request (I := Service)
        (.addDelivered id (.list ((s :: ss).map .text))) >>= _)
      refine (Plan.asks_request hquiet).bind fun all => ?_
      split <;> simp [missing]

end Registry

/-- The delivered listings of a search are those noted in its row. -/
lemma SavedSearch.mem_delivered_of_ofRow {now : Instant} {r : Record} {search : SavedSearch}
    {ts : List String} (h : ofRow now (.object r) = .ok search)
    (hr : r.get? "delivered_listing_ids" = some (.ofTexts ts)) (s : String) :
    s ∈ search.delivered ↔ s ∈ ts := by
  obtain ⟨criteria, _, h⟩ := Outcome.bind_eq_ok h
  obtain ⟨delivered, hdelivered, h⟩ := Outcome.bind_eq_ok h
  obtain ⟨us, hus, -, hmem⟩ := Value.exists_distinctValues_texts ts
  rw [Record.get, hr, Option.getD_some, distinctMembers_ofTexts, hus] at hdelivered
  cases hdelivered
  have hgives : (ofColumns r criteria (us.map .text) now).Gives fun search =>
      s ∈ search.delivered ↔ s ∈ ts := by
    unfold ofColumns
    iterate 4 apply Checked.gives_seq_any
    refine Checked.gives_seq (Q := fun delivered => s ∈ delivered ↔ s ∈ ts) ?_ ?_
    · intro set hset
      have htexts : (TextSet.ofList <$> Check.each Check.text 0 (us.map .text)).Gives
          fun set => s ∈ set ↔ s ∈ ts := by
        refine Checked.gives_map fun ss hss => ?_
        have hlist := Check.each_text_eq_valid hss
        rw [List.map_inj_right fun _ _ => Value.text.inj] at hlist
        simp only [TextSet.mem_ofList, ← hlist, hmem]
      exact htexts set (Checked.within_eq_valid hset)
    · iterate 3 apply Checked.gives_seq_any
      refine Checked.gives_map fun _ _ _ _ _ _ hdelivered => ?_
      intros
      exact hdelivered
  exact hgives search (Checked.outcome_eq_ok h)

namespace Registry

variable {policy : Policy} {now : Instant} {id chosen : Value} {ids : List Value} {m m' : Memory}
  {search : SavedSearch} {excluded : TextSet} {log : Value → Value → Prop}

lemma not_mem_of_holds_without {p : Predicate} {r : Record} {s : String}
    (h : (without excluded p).holds r = .ok true) (hid : r.get? "id" = some (.text s)) :
    ¬ s ∈ excluded := by
  intro hs
  have hget : r.get "id" = .text s := by rw [Record.get, hid, Option.getD_some]
  have hne : excluded.isEmpty = false := TextSet.isEmpty_eq_false_iff.2 ⟨s, hs⟩
  rw [without, if_neg (by simp [hne]), Predicate.holds_allOf, Predicate.allHold_eq_true_iff] at h
  have hnot := h (.not (oneOfTexts "id" excluded.toList)) (by simp)
  obtain ⟨b, hb, hiff⟩ := decidedBy_oneOfTexts (r := r) "id" excluded.toList
  rw [Predicate.holds_not, hb] at hnot
  have hfalse : b = false := by simpa [Except.map] using hnot
  rw [hfalse] at hiff
  exact absurd (hiff.2 ⟨s, hs, hget⟩) (by decide)

lemma run_get_eq_ok (h : (get now id).run Memory.handle m = (.ok search, m')) :
    m' = m ∧ ∃ r, m.archive.find id = .ok (some r) ∧
      SavedSearch.ofRow now (.object r) = .ok search := by
  obtain ⟨row, u, hrow, h⟩ := Plan.run_bind_eq_ok h
  rw [Plan.run_request] at hrow
  obtain ⟨hreply, rfl⟩ := Prod.mk.inj hrow
  obtain ⟨found, hfound, rfl⟩ := Outcome.map_eq_ok hreply
  cases found with
  | none => cases h
  | some r =>
    split at h
    · rename_i v hv
      obtain ⟨rfl, -⟩ := by simpa [present?] using hv
      obtain ⟨hread, rfl⟩ := Plan.run_ofOutcome_eq_ok h
      exact ⟨rfl, r, hfound, hread⟩
    · cases h

lemma resultsWithout_eq_ok {ls : List Listing} (hm : Inventory.Identified m.listings)
    (h : (resultsWithout policy now search excluded).run Memory.handle m = (.ok ls, m')) :
    (ls.map (·.id)).Nodup ∧ ∀ l ∈ ls, l.id ≠ "" ∧ ¬ l.id ∈ excluded := by
  obtain ⟨s, u, hs, h⟩ := Plan.run_bind_eq_ok h
  obtain ⟨-, rfl⟩ := Plan.run_ofOutcome_eq_ok hs
  simp only [Search.find] at h
  split at h
  · cases h
    simp
  · obtain ⟨rows, u, hrows, h⟩ := Plan.run_bind_eq_ok h
    obtain ⟨hread, -⟩ := Plan.run_ofOutcome_eq_ok h
    rw [Plan.run_request] at hrows
    obtain ⟨hsearch, -⟩ := Prod.mk.inj hrows
    unfold Memory.search at hsearch
    split at hsearch
    · cases hsearch
    · obtain ⟨found, hfound, rfl⟩ := Outcome.map_eq_ok hsearch
      obtain ⟨hsubperm, hholds⟩ := Inventory.fetch_spec hfound
      obtain ⟨hnodup, hids⟩ := Listing.ids_of_ofRows (hm.of_subperm hsubperm) hread
      refine ⟨hnodup, fun l hl => ?_⟩
      obtain ⟨hne, r, hr, hid⟩ := hids l hl
      exact ⟨hne, not_mem_of_holds_without (hholds r hr) hid⟩

lemma newMatches_eq_ok {ls : List Listing} (hk : m.archive.Keeps log)
    (hm : Inventory.Identified m.listings)
    (h : (newMatches policy now id).run Memory.handle m = (.ok ls, m')) :
    (∃ r, m.archive.find id = .ok (some r)) ∧ (ls.map (·.id)).Nodup ∧
      ∀ l ∈ ls, l.id ≠ "" ∧ ¬ log id (.text l.id) := by
  obtain ⟨search, u, hsearch, hls⟩ := Plan.run_bind_eq_ok h
  obtain ⟨rfl, r, hr, hread⟩ := run_get_eq_ok hsearch
  obtain ⟨hnodup, hids⟩ := resultsWithout_eq_ok hm hls
  obtain ⟨ts, hts, hlogged⟩ := hk.notes_of_find hr
  refine ⟨⟨r, hr⟩, hnodup, fun l hl => ⟨(hids l hl).1, fun hlog => ?_⟩⟩
  have hmem : l.id ∈ ts := by simpa using hlogged _ hlog
  exact (hids l hl).2 ((SavedSearch.mem_delivered_of_ofRow hread hts l.id).2 hmem)

/-- What a delivery without a choice comes to was neither sent nor marked before; in any case it is
a list of texts, none of them empty and none twice, for a saved search that is there. -/
lemma deliverable_eq_ok (hk : m.archive.Keeps log) (hm : Inventory.Identified m.listings)
    (hc : chosen.OnlyTexts)
    (h : (deliverable policy now id chosen).run Memory.handle m = (.ok ids, m')) :
    (∃ r, m.archive.find id = .ok (some r)) ∧ ∃ ss : List String, ids = ss.map .text ∧
      ss.Nodup ∧ "" ∉ ss ∧ (chosen = .null → ∀ s ∈ ss, ¬ log id (.text s)) := by
  unfold deliverable at h
  split at h
  · obtain ⟨ls, hnew, rfl⟩ := Plan.run_map_eq_ok h
    obtain ⟨hfound, hnodup, hids⟩ := newMatches_eq_ok hk hm hnew
    refine ⟨hfound, ls.map (·.id), by simp, hnodup, fun hempty => ?_, fun _ s hs => ?_⟩
    · obtain ⟨l, hl, hid⟩ := List.mem_map.1 hempty
      exact (hids l hl).1 hid
    · obtain ⟨l, hl, rfl⟩ := List.mem_map.1 hs
      exact (hids l hl).2
  · rename_i hchosen
    obtain ⟨_, u, hget, hrest⟩ := Plan.run_bind_eq_ok h
    obtain ⟨search, hsearch, -⟩ := Plan.run_map_eq_ok hget
    obtain ⟨-, r, hr, -⟩ := run_get_eq_ok hsearch
    obtain ⟨hids, -⟩ := Plan.run_ofOutcome_eq_ok hrest
    obtain ⟨ss, ms, rfl, -, hnodup, hmem⟩ := identifiers_texts hc hids
    refine ⟨⟨r, hr⟩, ss, rfl, hnodup, fun hempty => ((hmem "").1 hempty).2 rfl, ?_⟩
    rintro rfl
    exact absurd rfl hchosen

lemma identifiers_list {ss : List String} (hne : ss ≠ []) (hempty : "" ∉ ss) :
    ∃ us : List String, identifiers (.list (ss.map .text)) = .ok (us.map .text) ∧
      us.map Value.text ≠ [] ∧ ∀ s, s ∈ us ↔ s ∈ ss := by
  have hfilter : (ss.map Value.text).filter Value.truthy = ss.map .text := by
    refine List.filter_eq_self.2 fun v hv => ?_
    obtain ⟨s, hs, rfl⟩ := List.mem_map.1 hv
    exact bne_iff_ne.2 fun heq => hempty (heq ▸ hs)
  obtain ⟨us, hus, -, hmem⟩ := Value.exists_distinctValues_texts ss
  obtain ⟨s, hs⟩ := List.exists_mem_of_ne_nil _ hne
  refine ⟨us, ?_, List.ne_nil_of_mem (List.mem_map_of_mem ((hmem s).2 hs)), hmem⟩
  change Except.ok (Value.distinctValues ((ss.map Value.text).filter Value.truthy)) = _
  rw [hfilter, hus]

/-- Noting listings is a single request. What it answers is given, each listing once, and it has
no answer if there is no such row. -/
lemma run_markDelivered (now : Instant) {listings : Value}
    {noted : Outcome (Option (List Value))} {archive : Archive}
    (hids : identifiers listings = .ok ids) (hne : ids ≠ [])
    (hadd : m.archive.addDelivered id (.list ids) = (noted, archive)) :
    (markDelivered now id listings).run Memory.handle m =
      (noted >>= (·.elim (.error (.notFound id.display)) Value.memberSet),
        { m with archive }) := by
  obtain ⟨i, rest, rfl⟩ := List.exists_cons_of_ne_nil hne
  have hreply : Plan.run Memory.handle (Plan.request (I := Service)
      (.addDelivered id (.list (i :: rest)))) m = (noted, { m with archive }) := by
    rw [Plan.run_request, Memory.handle, hadd]
    rfl
  rw [markDelivered, hids]
  change Plan.run Memory.handle (Plan.request (I := Service)
    (.addDelivered id (.list (i :: rest))) >>= _) m = _
  cases noted with
  | error failure =>
    rw [Plan.run_bind_of_error hreply]
    rfl
  | ok all =>
    rw [Plan.run_bind_of_ok hreply]
    cases all with
    | none => rfl
    | some all => exact Plan.run_ofOutcome ..

lemma run_markDelivered_of_noted (now : Instant) {listings : Value} {us : List String}
    {archive : Archive} (hids : identifiers listings = .ok ids) (hne : ids ≠ [])
    (hadd : m.archive.addDelivered id (.list ids) = (.ok (some (us.map .text)), archive)) :
    (markDelivered now id listings).run Memory.handle m =
      (.ok (Value.distinctValues (us.map .text)), { m with archive }) := by
  rw [run_markDelivered now hids hne hadd, ← Value.memberSet_texts]
  rfl

/-- Listings that are noted are in the books. -/
lemma keeps_markDelivered (now : Instant) {ss : List String} {r : Record}
    (hk : m.archive.Keeps log) (hr : m.archive.find id = .ok (some r)) (hne : ss ≠ [])
    (hempty : "" ∉ ss) :
    ∃ all archive, (markDelivered now id (.list (ss.map .text))).run Memory.handle m =
        (.ok all, { m with archive }) ∧
      archive.Keeps (Archive.logWith log id (ss.map .text)) := by
  obtain ⟨us, hids, hus, hmem⟩ := identifiers_list hne hempty
  obtain ⟨ws, hadd, hkeeps⟩ := hk.addDelivered hr (Value.members_texts us)
  refine ⟨_, _, run_markDelivered_of_noted now hids hus (Prod.ext hadd rfl),
    hkeeps.anti fun other x hx => ?_⟩
  refine hx.imp_right fun ⟨hother, hx⟩ => ⟨hother, ?_⟩
  obtain ⟨t, ht, rfl⟩ := List.mem_map.1 hx
  exact List.mem_map_of_mem ((hmem t).2 ht)

/-- Sending and then noting what was sent: either the sender fails, and nothing is changed, or both
are done. -/
lemma run_send_then_mark {ss : List String} {r : Record} {outcome : Outcome (List Value)}
    (hk : m.archive.Keeps log) (hr : m.archive.find id = .ok (some r)) (hne : ss ≠ [])
    (hempty : "" ∉ ss)
    (h : Plan.run Memory.handle (do
      Plan.request (I := Service) (.send id (ss.map .text))
      discard (markDelivered now id (.list (ss.map .text)))
      return ss.map .text) m = (outcome, m')) :
    ((∃ failure, outcome = .error failure) ∧ m' = m) ∨
      (outcome = .ok (ss.map .text) ∧ m'.sent = m.sent ++ [(id, ss.map .text)] ∧
        m'.archive.Keeps (Archive.logWith log id (ss.map .text))) := by
  cases hfault : m.senderFault with
  | some reason =>
    have hsend : Plan.run Memory.handle (Plan.request (I := Service)
        (.send id (ss.map .text))) m = (.error (.dispatchFailed reason), m) := by
      rw [Plan.run_request, Memory.handle, Memory.send, hfault]
    rw [Plan.run_bind_of_error hsend] at h
    cases h
    exact .inl ⟨⟨_, rfl⟩, rfl⟩
  | none =>
    have hsend : Plan.run Memory.handle (Plan.request (I := Service)
        (.send id (ss.map .text))) m =
        (.ok (), { m with sent := m.sent ++ [(id, ss.map .text)] }) := by
      rw [Plan.run_request, Memory.handle, Memory.send, hfault]
    obtain ⟨all, archive, hmark, hkeeps⟩ := keeps_markDelivered now
      (m := { m with sent := m.sent ++ [(id, ss.map .text)] }) hk hr hne hempty
    have hdiscard : Plan.run Memory.handle
        (discard (markDelivered now id (.list (ss.map .text))))
        { m with sent := m.sent ++ [(id, ss.map .text)] } =
        (.ok (), { m with sent := m.sent ++ [(id, ss.map .text)], archive }) :=
      Plan.run_bind_of_ok hmark
    rw [Plan.run_bind_of_ok hsend, Plan.run_bind_of_ok hdiscard] at h
    cases h
    exact .inr ⟨rfl, rfl, hkeeps⟩

/-- A delivery sends nothing, gives nothing and changes nothing, or it sends what it gives in one
piece and notes it. -/
lemma run_deliver (hk : m.archive.Keeps log) (hm : Inventory.Identified m.listings)
    (hc : chosen.OnlyTexts) {hasSender : Bool} {outcome : Outcome (List Value)}
    (h : (deliver policy now hasSender id chosen).run Memory.handle m = (outcome, m')) :
    ((∀ ids, outcome = .ok ids → ids = []) ∧ m'.archive = m.archive ∧ m'.sent = m.sent) ∨
    ∃ ss : List String, outcome = .ok (ss.map .text) ∧ ss.Nodup ∧
      (chosen = .null → ∀ s ∈ ss, s ≠ "" ∧ ¬ log id (.text s)) ∧
      m'.sent = m.sent ++ [(id, ss.map .text)] ∧
      m'.archive.Keeps (Archive.logWith log id (ss.map .text)) := by
  unfold deliver at h
  split at h
  · cases hready : (deliverable policy now id chosen).run Memory.handle m with
    | mk ready u =>
      obtain ⟨harchive, hsent⟩ := Memory.run_of_onlyLooks (asks_deliverable chosen) hready
      cases ready with
      | error failure =>
        rw [Plan.run_bind_of_error hready] at h
        cases h
        exact .inl ⟨fun _ h => (by cases h), harchive, hsent⟩
      | ok ids =>
        rw [Plan.run_bind_of_ok hready] at h
        obtain ⟨⟨r, hr⟩, ss, rfl, hnodup, hempty, hfresh⟩ := deliverable_eq_ok hk hm hc hready
        cases ss with
        | nil =>
          cases h
          exact .inl ⟨fun _ h => (Except.ok.inj h).symm, harchive, hsent⟩
        | cons s ss =>
          -- Looking for the listings changed nothing, so the row is still there to be marked.
          rw [← harchive] at hk hr
          rcases run_send_then_mark hk hr (List.cons_ne_nil s ss) hempty h with
            ⟨⟨failure, rfl⟩, rfl⟩ | ⟨rfl, hall, hkeeps⟩
          · exact .inl ⟨fun _ h => (by cases h), harchive, hsent⟩
          · rw [hsent] at hall
            refine .inr ⟨s :: ss, rfl, hnodup, fun hnull t ht => ⟨?_, hfresh hnull t ht⟩, hall,
              hkeeps⟩
            rintro rfl
            exact hempty ht
  · cases h
    exact .inl ⟨fun _ h => (by cases h), rfl, rfl⟩

/-- What is marked is logged, apart from the empty text. -/
lemma markDelivered_eq_ok {all : List Value} {listings : Value} (hk : m.archive.Keeps log)
    (hl : listings.OnlyTexts)
    (h : (markDelivered now id listings).run Memory.handle m = (.ok all, m')) :
    ∃ ss ms : List String, listings.members = .ok (ms.map .text) ∧
      (∀ s, s ∈ ss ↔ s ∈ ms ∧ s ≠ "") ∧
      m'.archive.Keeps (Archive.logWith log id (ss.map .text)) := by
  obtain ⟨ids, u, hids, hrest⟩ := Plan.run_bind_eq_ok h
  obtain ⟨hfound, rfl⟩ := Plan.run_ofOutcome_eq_ok hids
  obtain ⟨ss, ms, rfl, hmembers, -, hmem⟩ := identifiers_texts hl hfound
  refine ⟨ss, ms, hmembers, hmem, ?_⟩
  cases ss with
  | nil =>
    obtain ⟨search, hget, -⟩ := Plan.run_map_eq_ok hrest
    obtain ⟨rfl, -⟩ := run_get_eq_ok hget
    exact hk.anti fun other x hx => hx.elim (fun hx => hx) fun hx =>
      absurd hx.2 List.not_mem_nil
  | cons s ss =>
    cases hadd : m.archive.addDelivered id (.list ((s :: ss).map .text)) with
    | mk noted archive =>
      rw [run_markDelivered now hfound (List.cons_ne_nil _ _) hadd] at h
      obtain ⟨hset, rfl⟩ := Prod.mk.inj h
      obtain ⟨found, rfl, hset⟩ := Outcome.bind_eq_ok hset
      cases found with
      | none => cases hset
      | some all =>
        obtain ⟨r, hr⟩ := Archive.find_of_change (congrArg Prod.fst hadd)
        obtain ⟨us, -, hkeeps⟩ := hk.addDelivered hr (Value.members_texts (s :: ss))
        rwa [hadd] at hkeeps

end Registry
end ListingSearch
