import ListingSearch.Proofs.SavedSearch.Columns
import ListingSearch.Proofs.SavedSearch.Traffic

/-! Marks of delivered listings among many operations at the same time. Only requests to add marks
write the column of a row in which they are kept, and these add to what is there at that moment. So
a row has at any time just the marks that it had at first and those that were added since, in
whatever order, and no operation that read the row before can take any of them away. -/
namespace ListingSearch

open Registry (Setup Operation Answer)

namespace Record

def HasMarks (r : Record) (marks : List String) : Prop :=
  SavedSearch.distinctMembers (r.get "delivered_listing_ids") = .ok (marks.map .text)

/-- A listing is marked in the row. -/
def Marked (r : Record) (x : String) : Prop := ∃ marks, r.HasMarks marks ∧ x ∈ marks

variable {r r' : Record} {marks : List String} {x : String}

lemma HasMarks.marked_iff (h : r.HasMarks marks) : r.Marked x ↔ x ∈ marks := by
  refine ⟨fun ⟨others, hothers, hx⟩ => ?_, fun hx => ⟨marks, h, hx⟩⟩
  have hmap := Except.ok.inj (h.symm.trans hothers)
  obtain rfl : marks = others := (List.map_inj_right fun _ _ => Value.text.inj).1 hmap
  exact hx

lemma hasMarks_congr (h : r'.get? "delivered_listing_ids" = r.get? "delivered_listing_ids") :
    r'.HasMarks marks ↔ r.HasMarks marks := by
  rw [HasMarks, HasMarks, get, get, h]

lemma marked_congr (h : r'.get? "delivered_listing_ids" = r.get? "delivered_listing_ids") :
    r'.Marked x ↔ r.Marked x := by simp only [Marked, hasMarks_congr h]

lemma exists_hasMarks_ofTexts (h : r.get? "delivered_listing_ids" = some (.ofTexts marks)) :
    ∃ others, r.HasMarks others ∧ ∀ x, x ∈ others ↔ x ∈ marks := by
  obtain ⟨others, hothers, -, hmem⟩ := Value.exists_distinctValues_texts marks
  refine ⟨others, ?_, hmem⟩
  rw [HasMarks, get, h, Option.getD_some, SavedSearch.distinctMembers_ofTexts, hothers]

end Record

namespace Archive

/-- A listing is marked in the row under a text. -/
def Marked (a : Archive) (s x : String) : Prop := ∃ r, a.row? s = some r ∧ r.Marked x

/-- Rows stand under texts, identifiers still to be given are free, and marks are texts. -/
structure Marking (a : Archive) : Prop where
  labelled : a.Labelled
  marks : ∀ s r, a.row? s = some r → ∃ marks, r.HasMarks marks

end Archive

namespace Service.Request

/-- The request is to add a mark to the row under a text. -/
def Adds (request : Request) (s x : String) : Prop :=
  ∃ ids : List Value, request = .addDelivered (.text s) (.list ids) ∧ .text x ∈ ids

/-- Marks to be added are texts and not empty, and what is created has none. -/
def MarksTexts : Request → Prop
  | .create search => search.delivered = .empty
  | .addDelivered _ ids => ∃ ss : List String, ids = .list (ss.map .text) ∧ "" ∉ ss
  | _ => True

lemma MarksTexts.onlyTexts {request : Request} (h : request.MarksTexts) : request.OnlyTexts := by
  cases request with
  | addDelivered id ids =>
    obtain ⟨ss, rfl, -⟩ := h
    exact Value.onlyTexts_list ss
  | _ => trivial

end Service.Request

namespace Registry

/-- Listings are named by texts. -/
def Operation.NamesListings : Operation → Prop
  | .markDelivered _ listings => listings.OnlyTexts
  | .deliver _ chosen => chosen.OnlyTexts
  | _ => True

lemma exists_texts_of_identifiers {listings : Value} {ids : List Value} (hl : listings.OnlyTexts)
    (h : identifiers listings = .ok ids) : ∃ ss : List String, ids = ss.map .text ∧ "" ∉ ss := by
  obtain ⟨ss, ms, rfl, -, -, hmem⟩ := identifiers_texts hl h
  exact ⟨ss, rfl, fun hempty => ((hmem "").1 hempty).2 rfl⟩

lemma Operation.MayAsk.marksTexts {now : Instant} {operation : Operation}
    {request : Service.Request} (h : operation.MayAsk now request)
    (hoperation : operation.NamesListings) : request.MarksTexts := by
  cases h with
  | look hlook => cases request <;> trivial
  | create hcriteria hname howner => rfl
  | mark hids =>
    obtain ⟨ss, rfl, hempty⟩ := exists_texts_of_identifiers hoperation hids
    exact ⟨ss, rfl, hempty⟩
  | @note id chosen sent ids hsent hids =>
    have htexts : Value.OnlyTexts (.list sent) := by
      rcases hsent with ⟨ss, rfl⟩ | hsent
      · exact Value.onlyTexts_list ss
      · obtain ⟨ss, rfl, -⟩ := exists_texts_of_identifiers hoperation hsent
        exact Value.onlyTexts_list ss
    obtain ⟨ss, rfl, hempty⟩ := exists_texts_of_identifiers htexts hids
    exact ⟨ss, rfl, hempty⟩
  | _ => trivial

end Registry

namespace Archive

variable {a : Archive} {r r' : Record} {s : String} {request : Service.Request}

/-- A row that stays has the marks that it had and those that were to be added. -/
lemma Marking.marked_rowAfter (h : a.Marking) (hrequest : request.MarksTexts)
    (hr : a.row? s = some r) (hr' : a.rowAfter s request = some r') :
    (∃ marks, r'.HasMarks marks) ∧ ∀ x, r'.Marked x ↔ r.Marked x ∨ request.Adds s x := by
  obtain ⟨marks, hmarks⟩ := h.marks s r hr
  by_cases hadds : ∃ listings, request = .addDelivered (.text s) listings
  · obtain ⟨_, rfl⟩ := hadds
    obtain ⟨ss, rfl, -⟩ := hrequest
    obtain ⟨us, hus, hmem⟩ := withNoted_of_distinctMembers hmarks (Value.members_texts ss)
    simp only [rowAfter, hr, if_true, hus, Option.map_some, Option.some.injEq] at hr'
    subst hr'
    obtain ⟨others, hothers, hsame⟩ := Record.exists_hasMarks_ofTexts
      (Record.get?_set_self r "delivered_listing_ids" (.ofTexts us))
    refine ⟨⟨others, hothers⟩, fun x => ?_⟩
    have hadded : (Service.Request.addDelivered (.text s) (.list (ss.map .text))).Adds s x ↔
        x ∈ ss := by simp [Service.Request.Adds]
    change Record.Marked (r.set "delivered_listing_ids" (.ofTexts us)) x ↔ _
    rw [hothers.marked_iff, hsame, hmem, hmarks.marked_iff, hadded]
  · have hnone (x : String) : ¬ request.Adds s x := by
      rintro ⟨_, hadd, -⟩
      exact hadds ⟨_, hadd⟩
    have hcolumn : r'.get? "delivered_listing_ids" = r.get? "delivered_listing_ids" := by
      cases request with
      | addDelivered id listings =>
        have hid : id ≠ .text s := by
          rintro rfl
          exact hadds ⟨listings, rfl⟩
        rw [rowAfter, if_neg hid, hr] at hr'
        cases hr'
        rfl
      | _ => exact h.labelled.get?_rowAfter hr hr' (by simp [Service.Request.columns])
    refine ⟨⟨marks, (Record.hasMarks_congr hcolumn).2 hmarks⟩, fun x => ?_⟩
    rw [Record.marked_congr hcolumn, or_iff_left (hnone x)]

/-- A row that was not there before has no marks. -/
lemma marked_created (hrequest : request.MarksTexts) (hnone : a.row? s = none)
    (hr : a.rowAfter s request = some r) :
    (∃ marks, r.HasMarks marks) ∧ ∀ x, ¬ r.Marked x := by
  cases request with
  | create search =>
    simp only [rowAfter, hnone] at hr
    split at hr
    · cases hr
      have hcolumn : (search.toRow.set "id" (.text s)).get? "delivered_listing_ids" =
          some (.ofTexts []) := by
        rw [get?_set_of_ne (by decide), SavedSearch.toRow, show search.delivered = _ from hrequest]
        rfl
      obtain ⟨marks, hmarks, hmem⟩ := Record.exists_hasMarks_ofTexts hcolumn
      exact ⟨⟨marks, hmarks⟩, fun x hx => by simpa [hmem] using hmarks.marked_iff.1 hx⟩
    · cases hr
  | _ => simp [rowAfter, hnone] at hr

end Archive

lemma Memory.marking_handle {m : Memory} {request : Service.Request} (h : m.archive.Marking)
    (hrequest : request.MarksTexts) : (handle request m).2.archive.Marking := by
  refine ⟨h.labelled.moves (moves_handle request m hrequest.onlyTexts), fun s r' hr' => ?_⟩
  rw [row?_handle] at hr'
  cases hr : m.archive.row? s with
  | some r => exact (h.marked_rowAfter hrequest hr hr').1
  | none => exact (Archive.marked_created hrequest hr hr').1

namespace Registry

variable {now : Instant} {id listings : Value} {past : List Exchange}

/-- Whatever other marks there are, those that were to be added are among those given back. -/
lemma mem_of_leaves_markDelivered {rest : Plan Service (List Value)} {all : List Value}
    (h : Plan.Leaves Memory.handle (markDelivered now id listings) past rest)
    (hl : listings.OnlyTexts) (hbefore : ∀ x ∈ past, x.before.archive.Marking)
    (hresult : rest.result? = some (.ok all)) {given : List Value}
    (hgiven : listings.members = .ok given) : ∀ x, .text x ∈ given → x ≠ "" → .text x ∈ all := by
  rw [markDelivered] at h
  cases hids : identifiers listings with
  | error failure =>
    rw [hids] at h
    obtain ⟨rfl, rfl⟩ := h.eq_of_result? rfl
    cases hresult
  | ok ids =>
  obtain ⟨ss, ms, rfl, hms, -, hmem⟩ := identifiers_texts hl hids
  rw [hms] at hgiven
  cases hgiven
  intro x hx hne
  have hxs : x ∈ ss := (hmem x).2 ⟨by simpa using hx, hne⟩
  obtain ⟨s, ss, rfl⟩ := List.exists_cons_of_ne_nil (List.ne_nil_of_mem hxs)
  rw [hids] at h
  cases h with
  | start => cases hresult
  | @ask _ _ m past _ h =>
    have hm : m.archive.Marking := hbefore _ (List.mem_cons_self ..)
    simp only [Memory.handle, Memory.withArchive, Archive.addDelivered, Archive.change] at h
    cases hfind : m.archive.find id with
    | error failure =>
      rw [hfind] at h
      obtain ⟨rfl, rfl⟩ := h.eq_of_result? rfl
      cases hresult
    | ok row =>
      rw [hfind] at h
      cases row with
      | none =>
        obtain ⟨rfl, rfl⟩ := h.eq_of_result? rfl
        cases hresult
      | some r =>
        obtain ⟨key, rfl, hrow⟩ := hm.labelled.exists_text hfind
        obtain ⟨marks, hmarks⟩ := hm.marks key r hrow
        obtain ⟨us, hus, hunion⟩ :=
          Archive.withNoted_of_distinctMembers hmarks (Value.members_texts (s :: ss))
        simp only [hus] at h
        change Plan.Leaves Memory.handle (.ofOutcome (Value.memberSet (us.map .text))) past rest at h
        obtain ⟨rfl, rfl⟩ := h.eq_of_result? (Plan.result?_ofOutcome _)
        obtain ⟨ts, hts, -, hmemAll⟩ := Value.exists_distinctValues_texts us
        rw [Plan.result?_ofOutcome, Value.memberSet_texts, hts] at hresult
        cases hresult
        exact List.mem_map_of_mem ((hmemAll x).2 ((hunion x).2 (.inr hxs)))

end Registry

namespace Traffic

variable {t : Traffic} {turn : Turn} {turns : List Turn} {m : Memory} {s x : String}

/-- A mark was added to the row under a text, which was there. -/
def Added (t : Traffic) (s x : String) : Prop :=
  ∃ e ∈ t.exchanges, e.request.Adds s x ∧ (e.before.archive.row? s).isSome

/-- The row under a text has the marks that it had at first and those that were added since; and if
it was there at first and once was not found, then it is gone for good. -/
structure Marks (m : Memory) (t : Traffic) (s : String) : Prop where
  exact : ∀ r, t.memory.archive.row? s = some r →
    ∀ x, r.Marked x ↔ m.archive.Marked s x ∨ t.Added s x
  absent : t.memory.archive.row? s = none →
    t.memory.archive.Spent s ∨
      m.archive.row? s = none ∧ ∀ e ∈ t.exchanges, e.before.archive.row? s = none
  missed : (m.archive.row? s).isSome → ∀ e ∈ t.exchanges, e.before.archive.row? s = none →
    t.memory.archive.Spent s

lemma marks_start (m : Memory) (s : String) : Marks m ⟨m, []⟩ s where
  exact r hr x := by simp [Archive.Marked, Added, exchanges, show m.archive.row? s = _ from hr]
  absent hnone := .inr ⟨hnone, by simp [exchanges]⟩
  missed _ e he := by simp [exchanges] at he

lemma Added.congr {u : Traffic} (h : ∀ x, x ∈ u.exchanges ↔ x ∈ t.exchanges) :
    u.Added s x ↔ t.Added s x := by simp only [Added, h]

lemma kept_marking : Kept Operation.NamesListings (·.archive.Marking) where
  handle _ _ _ _ hoperation hmay hm := Memory.marking_handle hm (hmay.marksTexts hoperation)
  surround _ _ _ _ hm := hm

lemma Marks.step (hregular : t.Regular Operation.NamesListings (·.archive.Marking))
    (h : Marks m t s) : Marks m (t.step turn) s := by
  have hm := hregular.memory
  rcases t.step_cases turn with ⟨harchive, hsame⟩ | ⟨call, hcall, request, next, hrest, hnext, hmore⟩
  · refine ⟨fun r hr x => ?_, fun hnone => ?_, fun hfirst e he hnone => ?_⟩
    · rw [harchive] at hr
      rw [Added.congr hsame, h.exact r hr]
    · rw [harchive] at hnone ⊢
      simpa only [hsame] using h.absent hnone
    · rw [harchive]
      exact h.missed hfirst e ((hsame e).1 he) hnone
  · have hcall := hregular.calls call hcall
    have hrequest := (hcall.mayAsk_next hrest).marksTexts hcall.allowed
    have hrow : (t.step turn).memory.archive.row? s = t.memory.archive.rowAfter s request := by
      rw [hnext, Memory.row?_handle]
    have hadded (x : String) : (t.step turn).Added s x ↔
        t.Added s x ∨ request.Adds s x ∧ (t.memory.archive.row? s).isSome := by
      simp only [Added, hmore, or_and_right, exists_or, exists_eq_left]
    have hspent (hold : t.memory.archive.Spent s) : (t.step turn).memory.archive.Spent s := by
      rw [hnext]
      exact Memory.spent_handle request hold
    have hgone {r : Record} (hr : t.memory.archive.row? s = some r)
        (hnone : (t.step turn).memory.archive.row? s = none) :
        (t.step turn).memory.archive.Spent s := by
      rw [hnext] at hnone ⊢
      exact Memory.spent_of_row?_handle hm.labelled request hr hnone
    refine ⟨fun r' hr' x => ?_, fun hnone => ?_, fun hfirst e he hnone => ?_⟩
    · rw [hadded]
      cases hr : t.memory.archive.row? s with
      | some r =>
        rw [(hm.marked_rowAfter hrequest hr (hrow ▸ hr')).2, h.exact r hr]
        simp [or_assoc]
      | none =>
        -- The row was created just now, for it would not come back.
        rcases h.absent hr with hold | ⟨hfirst, hnever⟩
        · rw [(hspent hold).1] at hr'
          cases hr'
        · have hnew := (Archive.marked_created hrequest hr (hrow ▸ hr')).2 x
          refine iff_of_false hnew ?_
          rintro (⟨r, hstart, -⟩ | ⟨e, he, -, hfound⟩ | ⟨-, hfound⟩)
          · rw [hfirst] at hstart
            cases hstart
          · rw [hnever e he] at hfound
            cases hfound
          · cases hfound
    · cases hr : t.memory.archive.row? s with
      | some r => exact .inl (hgone hr hnone)
      | none =>
        refine (h.absent hr).imp hspent fun ⟨hfirst, hnever⟩ => ⟨hfirst, fun e he => ?_⟩
        rcases (hmore e).1 he with he | rfl
        · exact hnever e he
        · exact hr
    · rcases (hmore e).1 he with he | rfl
      · exact hspent (h.missed hfirst e he hnone)
      · refine hspent ((h.absent hnone).resolve_right fun ⟨hnever, _⟩ => ?_)
        rw [hnever] at hfirst
        cases hfirst

/-- No mark is lost in a run from a memory. -/
structure KeepsMarks (m : Memory) (turns : List Turn) : Prop where
  /-- Marks are always texts: those at first and those added since. -/
  exact : ∀ s r, (run ⟨m, []⟩ turns).memory.archive.row? s = some r →
    ∃ marks, r.HasMarks marks ∧
      ∀ x, x ∈ marks ↔ m.archive.Marked s x ∨ (run ⟨m, []⟩ turns).Added s x
  nonempty : ∀ e ∈ (run ⟨m, []⟩ turns).exchanges, ∀ s, ¬ e.request.Adds s ""
  /-- As long as a row from the start is there, every request to add marks found it. -/
  found : ∀ s, (m.archive.row? s).isSome →
    ((run ⟨m, []⟩ turns).memory.archive.row? s).isSome →
      ∀ e ∈ (run ⟨m, []⟩ turns).exchanges, (e.before.archive.row? s).isSome
  grows : ∀ more : List Turn, (∀ turn ∈ more, turn.Allowed Operation.NamesListings) →
    ∀ s r r', (run ⟨m, []⟩ turns).memory.archive.row? s = some r →
      (run ⟨m, []⟩ (turns ++ more)).memory.archive.row? s = some r' →
        ∀ x, r.Marked x → r'.Marked x
  /-- In whatever order the same marks are added, there are the same marks in the end. -/
  unordered : ∀ others : List Turn, (∀ turn ∈ others, turn.Allowed Operation.NamesListings) →
    ∀ s r r', (run ⟨m, []⟩ turns).memory.archive.row? s = some r →
      (run ⟨m, []⟩ others).memory.archive.row? s = some r' →
        (∀ x, (run ⟨m, []⟩ turns).Added s x ↔ (run ⟨m, []⟩ others).Added s x) →
          ∀ x, r.Marked x ↔ r'.Marked x
  /-- No other request of any operation writes marks. -/
  footprint : ∀ e ∈ (run ⟨m, []⟩ turns).exchanges,
    (∀ id ids, e.request ≠ .addDelivered id ids) →
      ∀ s r r', e.before.archive.row? s = some r → e.after.archive.row? s = some r' →
        r'.get? "delivered_listing_ids" = r.get? "delivered_listing_ids"
  /-- An operation to mark listings asks to add those that it was given, apart from empty texts. -/
  asked : ∀ c ∈ (run ⟨m, []⟩ turns).calls, ∀ id listings, c.operation = .markDelivered id listings →
    ∀ e ∈ c.past, ∀ key ids, e.request = .addDelivered key ids → key = id ∧
      ∃ ms ss : List String, listings.members = .ok (ms.map .text) ∧
        ids = .list (ss.map .text) ∧ ∀ x, x ∈ ss ↔ x ∈ ms ∧ x ≠ ""
  returned : ∀ c ∈ (run ⟨m, []⟩ turns).calls, ∀ id listings all,
    c.operation = .markDelivered id listings →
      c.result? = some (.ok (.identifiers all)) → ∀ given, listings.members = .ok given →
        ∀ x, .text x ∈ given → x ≠ "" → .text x ∈ all

lemma marks_run (hm : m.archive.Marking)
    (hturns : ∀ turn ∈ turns, turn.Allowed Operation.NamesListings) :
    (run ⟨m, []⟩ turns).Regular Operation.NamesListings (·.archive.Marking) ∧
      ∀ s, Marks m (run ⟨m, []⟩ turns) s :=
  Regular.run_induction kept_marking (Q := fun t => ∀ s, Marks m t s)
    (fun _ _ ht _ hmarks s => (hmarks s).step ht) hturns ⟨hm, by simp⟩ (marks_start m)

lemma Added.mono (h : t.Added s x) (turns : List Turn) : (t.run turns).Added s x := by
  obtain ⟨e, he, hadds⟩ := h
  exact ⟨e, t.exchanges_subset_run turns e he, hadds⟩

/-- However the requests of any number of operations follow each other, no mark is lost. -/
theorem keepsMarks_run (hm : m.archive.Marking)
    (hturns : ∀ turn ∈ turns, turn.Allowed Operation.NamesListings) : KeepsMarks m turns := by
  obtain ⟨hregular, hmarks⟩ := marks_run hm hturns
  constructor
  · intro s r hr
    obtain ⟨marks, hhas⟩ := hregular.memory.marks s r hr
    refine ⟨marks, hhas, fun x => ?_⟩
    rw [← hhas.marked_iff, (hmarks s).exact r hr]
  · rintro e he s ⟨ids, hadds, hempty⟩
    obtain ⟨c, hc, hec⟩ := List.mem_flatMap.1 he
    have hcall := hregular.calls c hc
    have htexts := (hcall.mayAsk_past e hec).marksTexts hcall.allowed
    rw [hadds] at htexts
    obtain ⟨ss, hss, hnone⟩ := htexts
    cases hss
    exact hnone (by simpa using hempty)
  · intro s hfirst hnow e he
    rw [← Option.ne_none_iff_isSome]
    intro hnone
    rw [((hmarks s).missed hfirst e he hnone).1] at hnow
    cases hnow
  · intro more hmore s r r' hr hr' x hx
    have hall : ∀ turn ∈ turns ++ more, turn.Allowed Operation.NamesListings :=
      List.forall_mem_append.2 ⟨hturns, hmore⟩
    rw [((marks_run hm hall).2 s).exact r' hr' x, run_append]
    exact (((hmarks s).exact r hr x).1 hx).imp_right fun hadded => hadded.mono more
  · intro others hothers s r r' hr hr' hsame x
    rw [(hmarks s).exact r hr x, ((marks_run hm hothers).2 s).exact r' hr' x, hsame]
  · intro e he hother s r r' hr hr'
    obtain ⟨c, hc, hec⟩ := List.mem_flatMap.1 he
    rw [Plan.Exchange.after, Memory.row?_handle] at hr'
    refine ((hregular.calls c hc).before e hec).labelled.get?_rowAfter hr hr' ?_
    cases hrequest : e.request with
    | addDelivered id ids => exact absurd hrequest (hother id ids)
    | _ => simp [Service.Request.columns]
  · intro c hc id listings hoperation e he key ids hrequest
    have hmay := (hregular.calls c hc).mayAsk_past e he
    have hallowed := (hregular.calls c hc).allowed
    rw [hoperation, hrequest] at hmay
    rw [hoperation] at hallowed
    cases hmay with
    | look hlook => cases hlook
    | mark hids =>
      obtain ⟨ss, ms, rfl, hms, -, hmem⟩ := Registry.identifiers_texts hallowed hids
      exact ⟨rfl, ms, ss, hms, rfl, hmem⟩
  · intro c hc id listings all hoperation hresult given hgiven
    have hcall := hregular.calls c hc
    have hleaves := hcall.leaves
    have hallowed := hcall.allowed
    rw [hoperation] at hleaves hallowed
    obtain ⟨q, hq, hrest⟩ := hleaves.exists_of_map
    rw [Call.result?, hrest, Plan.result?_map, Option.map_eq_some_iff] at hresult
    obtain ⟨outcome, houtcome, hmap⟩ := hresult
    obtain ⟨ids, rfl, hids⟩ := Outcome.map_eq_ok hmap
    cases hids
    exact Registry.mem_of_leaves_markDelivered hq hallowed hcall.before houtcome hgiven

def oneMarked : Memory :=
  { archive := .single "centro" [("user_id", .text "ana"), ("name", .text "Centro"),
      ("delivered_listing_ids", .ofTexts ["a"]), ("version", .int 1)] }

lemma marking_oneMarked : oneMarked.archive.Marking := by
  refine ⟨Archive.labelled_single (Archive.ne_numberedId_of_head (by decide)) _, fun s r hr => ?_⟩
  rw [oneMarked, Archive.row?_single, Option.ite_none_right_eq_some] at hr
  obtain ⟨-, hr⟩ := hr
  cases hr
  have hcolumn : Record.get? "delivered_listing_ids" [("user_id", .text "ana"),
      ("name", .text "Centro"), ("delivered_listing_ids", .ofTexts ["a"]), ("version", .int 1)] =
      some (.ofTexts ["a"]) := rfl
  obtain ⟨marks, hmarks, -⟩ := Record.exists_hasMarks_ofTexts hcolumn
  exact ⟨marks, hmarks⟩

/-- An edit and a switch read the row or are called before two further listings are marked, and
write after that. -/
def lateEdit : List Turn :=
  let setup : Registry.Setup := ⟨⟨.empty, 10, 10⟩, true⟩
  let now : Instant := ⟨⟨2024, 5, 2⟩, 9, 0, 0, 0, none⟩
  [.call setup now (.edit (.text "centro") (.object [("zipCode", .text "02108")]) .null),
    .call setup now (.setActive (.text "centro") (.bool false)),
    .call setup now (.markDelivered (.text "centro") (.list (["c", "", "a"].map .text))),
    .call setup now (.markDelivered (.text "centro") (.list (["b"].map .text))),
    .proceed 0, .proceed 3, .proceed 0, .proceed 2, .proceed 1]

lemma allowed_lateEdit : ∀ turn ∈ lateEdit, turn.Allowed Operation.NamesListings := by
  simp only [lateEdit, List.forall_mem_cons, Turn.Allowed, Operation.NamesListings,
    List.not_mem_nil, false_imp_iff, implies_true, true_and, and_true]
  exact ⟨Value.onlyTexts_list _, Value.onlyTexts_list _⟩

theorem keepsMarks_lateEdit :
    oneMarked.archive.Marking ∧ (∀ turn ∈ lateEdit, turn.Allowed Operation.NamesListings) ∧
    KeepsMarks oneMarked lateEdit ∧
    ((run ⟨oneMarked, []⟩ lateEdit).memory.archive.row? "centro").map (fun r =>
      ((r.get "version").number?,
        (r.get "delivered_listing_ids").members?.map (·.map Value.text?))) =
      some (some (.int 2), some [some "a", some "b", some "c"]) :=
  ⟨marking_oneMarked, allowed_lateEdit, keepsMarks_run marking_oneMarked allowed_lateEdit,
    by decide +kernel⟩

end Traffic
end ListingSearch
