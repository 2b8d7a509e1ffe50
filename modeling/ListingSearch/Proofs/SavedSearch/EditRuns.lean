import ListingSearch.Proofs.SavedSearch.Edits

/-! Edits of many clients at the same time. An edit succeeds just if the row has the version that
the edit expects when it tries to write, and then it writes its own criteria and the next version;
other edits change nothing, and other operations leave criteria and versions as they are. So the
successful edits of a saved search get one version each, one after the other, and none of them
overwrites criteria that its caller did not know of. -/
namespace ListingSearch

open Registry (Setup Operation Answer)

/-- What an edit has done so far and what came of it. -/
structure Call.EditsSafely (c : Call) (id filter given : Value) : Prop where
  /-- It tries to store its own criteria, for the version that it was given or has read at first. -/
  attempt : ∀ x ∈ c.past, ∀ key document version,
    x.request = .replaceCriteria key document version →
      key = id ∧
      (∃ criteria, Criteria.read true filter = .ok criteria ∧
        document = .object criteria.toDocument) ∧
      if given.isNull then
        ∃ y n, c.past.head? = some y ∧ y.request = .find id ∧ y.before.archive.HasVersion id n ∧
          version = .int n
      else version = given
  succeeds_iff : ∀ x ∈ c.past, ∀ document version n,
    x.request = .replaceCriteria id document version → version.number? = some (.int n) →
      ((∃ search, c.result? = some (.ok (.search search))) ↔ x.before.archive.HasVersion id n)
  /-- If it succeeds, the row has its criteria and the next version, and nothing else changed. -/
  stores : ∀ search, c.result? = some (.ok (.search search)) →
    ∃ x ∈ c.past, ∃ document version n r,
      x.request = .replaceCriteria id document version ∧ version.number? = some (.int n) ∧
      x.before.archive.find id = .ok (some r) ∧ r.get? "version" = some (.int n) ∧
      x.after.archive = x.before.archive.put id (r.revised document n) ∧
      search.version = n + 1 ∧ Criteria.read false document = .ok search.criteria
  harmless : (∀ search, c.result? ≠ some (.ok (.search search))) → ∀ x ∈ c.past, x.after = x.before
  /-- It calls the version stale only if the row was there when it looked last. -/
  stale : ∀ s t, c.result? = some (.error (.staleVersion s t)) →
    ∃ y r, c.past.getLast? = some y ∧ y.request = .find id ∧
      y.before.archive.find id = .ok (some r)

namespace Call

variable {c : Call} {id filter given : Value} {s : String}

open Registry (Editing)

/-- What an edit has done is told by how far it has come. -/
lemma editsSafely_of_editing {q : Plan Service SavedSearch}
    (h : Editing c.now id filter given c.past q) (hrest : c.rest = .search <$> q)
    (hbefore : ∀ x ∈ c.past, x.before.archive.Orderly) : c.EditsSafely id filter given := by
  have hresult (outcome : Outcome SavedSearch) :
      c.result? = some (.search <$> outcome) ↔ q.result? = some outcome := by
    rw [Call.result?, hrest, Plan.result?_map]
    cases hq : q.result? with
    | none => simp
    | some other => cases outcome <;> cases other <;> simp
  have hok (search : SavedSearch) :
      c.result? = some (.ok (.search search)) ↔ q.result? = some (.ok search) := hresult (.ok search)
  have herror (failure : Failure) :
      c.result? = some (.error failure) ↔ q.result? = some (.error failure) :=
    hresult (.error failure)
  generalize hpast : c.past = past at h hbefore
  cases h with
  | reading hfind hreading =>
    have hnever (search : SavedSearch) : c.result? ≠ some (.ok (.search search)) := by
      rw [Ne, hok]
      rcases hreading with hnone | ⟨failure, rfl, -⟩
      · simp [hnone]
      · exact fun h => by cases h
    constructor
    · intro x hx key document version hrequest
      rw [hpast] at hx
      rw [hfind x hx] at hrequest
      cases hrequest
    · intro x hx document version n hrequest
      rw [hpast] at hx
      rw [hfind x hx] at hrequest
      cases hrequest
    · exact fun search hsearch => absurd hsearch (hnever search)
    · exact fun _ x hx => Registry.after_eq_before_of_find (hfind x (hpast ▸ hx))
    · intro s t hstale
      rw [herror] at hstale
      rcases hreading with hnone | ⟨failure, rfl, hfailure⟩
      · rw [hnone] at hstale
        cases hstale
      · cases hstale
        exact absurd rfl (hfailure s t)
  | @trying reads tries criteria version n _ hcriteria hknows htries =>
    have htriesBefore : ∀ x ∈ tries, x.before.archive.Orderly :=
      fun x hx => hbefore x (List.mem_append_right _ hx)
    -- Only among the tries there can be an attempt to replace.
    have hcases : ∀ x ∈ c.past, x.request = .find id ∨ x ∈ tries ∧
        x.request = .replaceCriteria id (.object criteria.toDocument) version := by
      intro x hx
      rw [hpast] at hx
      rcases List.mem_append.1 hx with hx | hx
      · exact .inl (hknows.mem_reads hx)
      · exact (htries.mem_tries hx).symm.imp_right fun h => ⟨hx, h⟩
    constructor
    · intro x hx key document version' hrequest
      rcases hcases x hx with hfind | ⟨-, hreplace⟩
      · rw [hfind] at hrequest
        cases hrequest
      · rw [hreplace] at hrequest
        cases hrequest
        refine ⟨rfl, ⟨criteria, hcriteria, rfl⟩, ?_⟩
        cases hknows with
        | read hgiven hhas =>
          rw [if_pos hgiven]
          exact ⟨_, n, by rw [hpast]; rfl, rfl, hhas, rfl⟩
        | given hgiven hn => rw [if_neg (by simp [hgiven])]
    · intro x hx document version' k hrequest hk
      rcases hcases x hx with hfind | ⟨hx, hreplace⟩
      · rw [hfind] at hrequest
        cases hrequest
      · rw [hreplace] at hrequest
        cases hrequest
        obtain rfl : n = k := by simpa [hknows.number?] using hk
        simp only [hok]
        exact htries.succeeds_iff hcriteria htriesBefore hx hreplace
    · intro search hsearch
      obtain ⟨m, r, rfl, hr, hn, hread⟩ := htries.exists_hit ((hok search).1 hsearch)
      obtain ⟨other, hother, hversion, hdocument⟩ := Registry.exists_ofRow_revised c.now
        (htriesBefore _ (List.mem_cons_self ..)) hcriteria hr hn
      obtain rfl : search = other := Except.ok.inj (hread.symm.trans hother)
      refine ⟨⟨.replaceCriteria id (.object criteria.toDocument) version, m⟩, by simp [hpast], _, _,
        n, r, rfl, hknows.number?, hr, hn, ?_, hversion, hdocument⟩
      rw [Plan.Exchange.after, Memory.handle_replaceCriteria_hit hr hn hknows.number?]
    · intro hnever x hx
      rcases hcases x hx with hfind | ⟨hx, hreplace⟩
      · exact Registry.after_eq_before_of_find hfind
      · exact htries.after_eq_before hcriteria hknows.number? htriesBefore
          (fun search hsearch => hnever search ((hok search).2 hsearch)) x hx
    · intro s t hstale
      obtain ⟨m', r, front, rfl, hr⟩ :=
        htries.stale_cases ((herror _).1 hstale) htriesBefore hcriteria
      refine ⟨⟨.find id, m'⟩, r, ?_, rfl, hr⟩
      rw [hpast, ← List.append_assoc, List.getLast?_concat]

lemma Regular.editsSafely (h : c.Regular Operation.Proper (·.archive.Orderly))
    (hoperation : c.operation = .edit id filter given) : c.EditsSafely id filter given := by
  have hleaves := h.leaves
  have hproper := h.allowed
  rw [hoperation] at hleaves hproper
  obtain ⟨q, hq, hrest⟩ := hleaves.exists_of_map
  exact editsSafely_of_editing (Registry.editing_of_leaves hq h.before hproper) hrest h.before

/-- The version that a saved search got by the call, if that is an edit that succeeded. -/
def versionGiven? (c : Call) (s : String) : Option Int :=
  match c.operation, c.result? with
  | .edit id _ _, some (.ok (.search search)) => if id = .text s then some search.version else none
  | _, _ => none

lemma versionGiven?_eq_some {v : Int} (h : c.versionGiven? s = some v) :
    ∃ filter given search, c.operation = .edit (.text s) filter given ∧
      c.result? = some (.ok (.search search)) ∧ search.version = v := by
  unfold versionGiven? at h
  split at h
  · rename_i id filter given search hoperation hresult
    split at h
    · rename_i hid
      exact ⟨filter, given, search, hid ▸ hoperation, hresult, Option.some.inj h⟩
    · cases h
  · cases h

lemma versionGiven?_of_result?_eq_none (h : c.result? = none) : c.versionGiven? s = none := by
  rw [versionGiven?, h]
  split <;> simp_all

lemma versionGiven?_start {setup : Setup} {now : Instant} {operation : Operation}
    (h : operation.Proper) : (start setup now operation).versionGiven? s = none := by
  rw [Option.eq_none_iff_forall_ne_some]
  intro v hv
  obtain ⟨filter, given, search, hoperation, hresult, -⟩ := versionGiven?_eq_some hv
  have hregular := regular_start (P := (·.archive.Orderly)) setup now h
  obtain ⟨x, hx, -⟩ := (hregular.editsSafely hoperation).stores search hresult
  cases hx

/-- A request by which an edit succeeds gives the row the next version; any other request leaves a
row that stays its criteria and its version. -/
lemma Regular.answered_cases {request : Service.Request}
    {next : request.Reply → Plan Service Answer} {m : Memory}
    (h : c.Regular Operation.Proper (·.archive.Orderly)) (hrest : c.rest = .ask request next)
    (hm : m.archive.Orderly) (s : String) :
    let after : Call := { c with
      past := c.past ++ [⟨request, m⟩], rest := Plan.resume next (Memory.handle request m).1 }
    (∃ n r, after.versionGiven? s = some (n + 1) ∧ m.archive.row? s = some r ∧
        r.get? "version" = some (.int n) ∧ ∀ r',
          (Memory.handle request m).2.archive.row? s = some r' →
            r'.get? "version" = some (.int (n + 1))) ∨
      after.versionGiven? s = none ∧ ∀ r r', m.archive.row? s = some r →
        (Memory.handle request m).2.archive.row? s = some r' →
          r'.get? "version" = r.get? "version" := by
  intro after
  have hafter : after.Regular Operation.Proper (·.archive.Orderly) := h.answered hrest hm
  have hunfinished : c.result? = none := by rw [Call.result?, hrest]; rfl
  have hmay := h.mayAsk_next hrest
  have hrequest := hmay.proper h.allowed
  have hlast : ⟨request, m⟩ ∈ after.past := by simp [after]
  cases hgiven : after.versionGiven? s with
  | some v =>
    left
    obtain ⟨filter, given, search, hoperation, hresult, rfl⟩ := versionGiven?_eq_some hgiven
    obtain ⟨x, hx, document, version, n, r, hreplace, hversion, hr, hn, hput, hnext, -⟩ :=
      (hafter.editsSafely hoperation).stores search hresult
    rcases List.mem_append.1 hx with hx | hx
    · -- The call was not over before, so the row was not hit then.
      obtain ⟨other, hother⟩ :=
        ((h.editsSafely hoperation).succeeds_iff x hx document version n hreplace hversion).2
          ⟨r, hr, hn⟩
      rw [hunfinished] at hother
      cases hother
    · obtain rfl := List.mem_singleton.1 hx
      refine ⟨n, r, by rw [hnext], by simpa using hr, hn, fun r' hr' => ?_⟩
      rw [show (Memory.handle request m).2.archive = _ from hput, Archive.row?_put, if_pos rfl] at hr'
      cases hr'
      exact Record.get?_set_self _ _ _
  | none =>
    refine .inr ⟨rfl, fun r r' hr hr' => ?_⟩
    rw [Memory.row?_handle] at hr'
    refine (hm.labelled.kept_rowAfter hr hr' fun document version hreplace => ?_).2
    rw [← Bool.not_eq_true]
    intro hsame
    subst hreplace
    obtain ⟨-, k, hk⟩ := hrequest
    obtain ⟨n, hn⟩ := hm.versions s r hr
    obtain rfl := (Archive.same_version_iff hn hk).1 hsame
    generalize hoperation : c.operation = operation at hmay
    cases hmay with
    | look hlook => cases hlook
    | replace hcriteria hversion =>
      have hhas : m.archive.HasVersion (.text s) n := ⟨r, by simpa using hr, hn.version⟩
      obtain ⟨search, hsearch⟩ := ((hafter.editsSafely hoperation).succeeds_iff _ hlast _ _ n rfl
        hk).2 hhas
      have hsome : after.versionGiven? s = some search.version := by
        rw [versionGiven?, show after.operation = _ from hoperation, hsearch]
        exact if_pos rfl
      rw [hgiven] at hsome
      cases hsome

end Call

lemma Archive.version_of_created {a : Archive} {s : String} {request : Service.Request}
    {r : Record} (hrequest : request.Proper) (hnone : a.row? s = none)
    (hr : a.rowAfter s request = some r) : r.get? "version" = some (.int 1) := by
  cases request with
  | create search =>
    simp only [rowAfter, hnone] at hr
    split at hr
    · cases hr
      rw [get?_set_of_ne (by decide), SavedSearch.toRow, hrequest.2.1]
      rfl
    · cases hr
  | _ => simp [rowAfter, hnone] at hr

namespace Traffic

variable {t : Traffic} {turn : Turn} {turns : List Turn} {s : String} {first : Int} {m : Memory}

def versionsGiven (t : Traffic) (s : String) : List Int := t.calls.filterMap (·.versionGiven? s)

/-- Successful edits gave the versions after the first one, each of them once, and the row has the
last one. -/
structure Counted (t : Traffic) (s : String) (first : Int) : Prop where
  numbered : (t.versionsGiven s).Perm
    ((List.range (t.versionsGiven s).length).map fun i : Nat => first + 1 + i)
  version : ∀ r, t.memory.archive.row? s = some r →
    r.get? "version" = some (.int (first + (t.versionsGiven s).length))
  /-- The row is gone for good, or there was none yet. -/
  absent : t.memory.archive.row? s = none →
    t.memory.archive.Spent s ∨ t.versionsGiven s = [] ∧ first = 1

lemma versionsGiven_of_calls {front back : List Call} {call : Call}
    (h : t.calls = front ++ call :: back) (s : String) :
    t.versionsGiven s = front.filterMap (·.versionGiven? s) ++
      ((call.versionGiven? s).toList ++ back.filterMap (·.versionGiven? s)) := by
  rw [versionsGiven, h, List.filterMap_append, List.filterMap_cons]
  cases call.versionGiven? s <;> rfl

/-- One version more is the next number. -/
lemma perm_range_succ {front back : List Int} {first : Int}
    (h : (front ++ back).Perm
      ((List.range (front ++ back).length).map fun i : Nat => first + 1 + i)) :
    (front ++ (first + (front ++ back).length + 1) :: back).Perm
      ((List.range (front ++ (first + (front ++ back).length + 1) :: back).length).map
        fun i : Nat => first + 1 + i) := by
  have hlength : (front ++ (first + (front ++ back).length + 1) :: back).length =
      (front ++ back).length + 1 := by simp; omega
  have hlast : first + (front ++ back).length + 1 = first + 1 + (front ++ back).length := by omega
  rw [hlength, List.range_succ, List.map_append, List.map_singleton, hlast]
  calc
    List.Perm (front ++ (first + 1 + (front ++ back).length) :: back)
      ((first + 1 + (front ++ back).length) :: (front ++ back)) := List.perm_middle
    List.Perm _ ((first + 1 + (front ++ back).length) ::
        (List.range (front ++ back).length).map fun i : Nat => first + 1 + i) := h.cons _
    List.Perm _ _ := (List.perm_append_singleton _ _).symm

lemma kept_orderly : Kept Operation.Proper (·.archive.Orderly) where
  handle _ _ _ _ hoperation hmay hm := Memory.orderly_handle hm (hmay.proper hoperation)
  surround _ _ _ _ hm := hm

lemma Counted.step (hregular : t.Regular Operation.Proper (·.archive.Orderly))
    (hturn : turn.Allowed Operation.Proper) (h : t.Counted s first) :
    (t.step turn).Counted s first := by
  have hsteps := t.steps turn
  generalize t.step turn = u at hsteps
  cases hsteps with
  | called setup now operation =>
    have hsame : versionsGiven { t with calls := t.calls ++ [.start setup now operation] } s =
        t.versionsGiven s := by
      simp [versionsGiven, List.filterMap_append, Call.versionGiven?_start hturn]
    exact ⟨by rw [hsame]; exact h.numbered, by rw [hsame]; exact h.version,
      by rw [hsame]; exact h.absent⟩
  | idle => exact h
  | surrounded listings inventoryFault senderFault => exact ⟨h.numbered, h.version, h.absent⟩
  | @answered i front back call request next hcalls hrest =>
    have hcall : call.Regular Operation.Proper (·.archive.Orderly) :=
      hregular.calls call (by simp [hcalls])
    have hm := hregular.memory
    have hrequest := (hcall.mayAsk_next hrest).proper hcall.allowed
    have hnone : call.versionGiven? s = none :=
      Call.versionGiven?_of_result?_eq_none (by rw [Call.result?, hrest]; rfl)
    have hbefore := versionsGiven_of_calls hcalls s
    rw [hnone, Option.toList_none, List.nil_append] at hbefore
    set u : Traffic := ⟨(Memory.handle request t.memory).2, front ++ { call with
      past := call.past ++ [⟨request, t.memory⟩]
      rest := Plan.resume next (Memory.handle request t.memory).1 } :: back⟩ with hu
    have hafter := versionsGiven_of_calls (t := u) rfl s
    rcases hcall.answered_cases hrest hm s with ⟨n, r, hgiven, hr, hn, hr'⟩ | ⟨hgiven, hkept⟩
    · -- The edit succeeds, and its version is the next one.
      rw [hgiven, Option.toList_some, List.singleton_append] at hafter
      have hcount := h.version r hr
      rw [hn, Option.some.injEq, Value.int.injEq] at hcount
      have hnumbered := h.numbered
      rw [hbefore] at hcount hnumbered
      subst hcount
      constructor
      · rw [hafter]
        exact perm_range_succ hnumbered
      · intro r' hrow
        rw [hr' r' hrow, hafter]
        simp
        omega
      · intro hnone
        exact .inl (Memory.spent_of_row?_handle hm.labelled request hr hnone)
    · rw [hgiven, Option.toList_none, List.nil_append, ← hbefore] at hafter
      constructor
      · rw [hafter]
        exact h.numbered
      · intro r' hr'
        rw [hafter]
        cases hr : t.memory.archive.row? s with
        | some r => rw [hkept r r' hr hr', h.version r hr]
        | none =>
          rcases h.absent hr with hspent | ⟨hnil, rfl⟩
          · have hgone := (Memory.spent_handle request hspent).1
            rw [hgone] at hr'
            cases hr'
          · rw [Memory.row?_handle] at hr'
            rw [Archive.version_of_created hrequest hr hr', hnil]
            rfl
      · intro hnone
        rw [hafter]
        cases hr : t.memory.archive.row? s with
        | some r => exact .inl (Memory.spent_of_row?_handle hm.labelled request hr hnone)
        | none => exact (h.absent hr).imp_left (Memory.spent_handle request)

/-- The calls of edits that may have been made since a memory: none overwrites silently. -/
structure EditsSafely (m : Memory) (t : Traffic) : Prop where
  orderly : t.memory.archive.Orderly
  edits : ∀ c ∈ t.calls, ∀ id filter given, c.operation = .edit id filter given →
    c.EditsSafely id filter given
  /-- Other operations leave the criteria and the version of a row that stays. -/
  others : ∀ c ∈ t.calls, (∀ id filter given, c.operation ≠ .edit id filter given) →
    ∀ x ∈ c.past, ∀ s r r', x.before.archive.row? s = some r → x.after.archive.row? s = some r' →
      r'.get? "criteria" = r.get? "criteria" ∧ r'.get? "version" = r.get? "version"
  /-- Versions are counted on from that of the row at first, or from one. -/
  counted : ∀ s, ∃ first : Int,
    (∀ r, m.archive.row? s = some r → r.get? "version" = some (.int first)) ∧
      (m.archive.row? s = none → first = 1) ∧ t.Counted s first

lemma exists_counted_start (hm : m.archive.Orderly) (s : String) : ∃ first : Int,
    (∀ r, m.archive.row? s = some r → r.get? "version" = some (.int first)) ∧
      (m.archive.row? s = none → first = 1) ∧ Counted ⟨m, []⟩ s first := by
  cases hrow : m.archive.row? s with
  | none =>
    refine ⟨1, by simp, by simp, .refl _, ?_, fun _ => .inr ⟨rfl, rfl⟩⟩
    intro r hr
    rw [hrow] at hr
    cases hr
  | some r =>
    obtain ⟨n, hn⟩ := hm.versions s r hrow
    have hversion : ∀ r', some r = some r' → r'.get? "version" = some (.int n) := by
      rintro r' ⟨⟩
      exact hn.version
    refine ⟨n, hversion, by simp, .refl _, fun r' hr' => ?_, fun hnone => ?_⟩
    · rw [hrow] at hr'
      simpa [versionsGiven] using hversion r' hr'
    · rw [hrow] at hnone
      cases hnone

lemma others_of_regular {c : Call} (h : c.Regular Operation.Proper (·.archive.Orderly))
    (hother : ∀ id filter given, c.operation ≠ .edit id filter given) {x : Exchange}
    (hx : x ∈ c.past) {r r' : Record} (hr : x.before.archive.row? s = some r)
    (hr' : x.after.archive.row? s = some r') :
    r'.get? "criteria" = r.get? "criteria" ∧ r'.get? "version" = r.get? "version" := by
  rw [Plan.Exchange.after, Memory.row?_handle] at hr'
  refine (h.before x hx).labelled.kept_rowAfter hr hr' fun document version hreplace => ?_
  have hmay := h.mayAsk_past x hx
  rw [hreplace] at hmay
  generalize hoperation : c.operation = operation at hmay
  cases hmay with
  | look hlook => cases hlook
  | replace hcriteria hversion => exact absurd hoperation (hother _ _ _)

/-- However the requests of any number of operations follow each other, no edit overwrites
silently. -/
theorem editsSafely_run (hm : m.archive.Orderly)
    (hturns : ∀ turn ∈ turns, turn.Allowed Operation.Proper) :
    EditsSafely m (run ⟨m, []⟩ turns) := by
  have hregular : Regular Operation.Proper (·.archive.Orderly) ⟨m, []⟩ := ⟨hm, by simp⟩
  have hrun := hregular.run_induction kept_orderly
    (Q := fun t => ∀ s, ∃ first : Int,
      (∀ r, m.archive.row? s = some r → r.get? "version" = some (.int first)) ∧
        (m.archive.row? s = none → first = 1) ∧ t.Counted s first)
    (fun t turn ht hturn hcounted s => by
      obtain ⟨first, hrow, hnone, hcount⟩ := hcounted s
      exact ⟨first, hrow, hnone, hcount.step ht hturn⟩)
    hturns (exists_counted_start hm)
  exact {
    orderly := hrun.1.memory
    edits := fun c hc _ _ _ hoperation => (hrun.1.calls c hc).editsSafely hoperation
    others := fun c hc hother _ hx _ _ _ hr hr' =>
      others_of_regular (hrun.1.calls c hc) hother hx hr hr'
    counted := hrun.2 }

def fourthVersion : SavedSearch :=
  { SavedSearch.create "ana" "Centro" {} ⟨⟨2024, 5, 1⟩, 12, 0, 0, 0, none⟩ with version := 4 }

def fourthVersionStored : Memory :=
  { archive := .single "centro" (fourthVersion.toRow.set "id" (.text "centro")) }

lemma orderly_fourthVersionStored : fourthVersionStored.archive.Orderly := by
  refine ⟨Archive.labelled_single (Archive.ne_numberedId_of_head (by decide)) _, fun s r hr => ?_⟩
  rw [fourthVersionStored, Archive.row?_single, Option.ite_none_right_eq_some] at hr
  obtain ⟨-, hr⟩ := hr
  cases hr
  have hcriteria : fourthVersion.criteria.Canonical := Criteria.canonical_default
  have hread := SavedSearch.readFrom_toRow hcriteria (by decide) (by decide) "centro"
    ⟨⟨2024, 5, 1⟩, 12, 0, 0, 0, none⟩
  exact ⟨4, .of_readFrom hread (by decide) rfl⟩

/-- Two edits know of the fourth version. The one that writes later is told that it is stale, and a
third one goes on from the fifth. -/
def threeEdits : List Turn :=
  let setup : Registry.Setup := ⟨⟨.empty, 10, 10⟩, true⟩
  let now : Instant := ⟨⟨2024, 5, 2⟩, 9, 0, 0, 0, none⟩
  [.call setup now (.edit (.text "centro") (.object [("zipCode", .text "02108")]) .null),
    .proceed 0,
    .call setup now (.edit (.text "centro") (.object [("zipCode", .text "02109")]) (.int 4)),
    .proceed 1, .proceed 0, .proceed 0,
    .call setup now (.edit (.text "centro") (.object [("zipCode", .text "02110")]) .null),
    .proceed 2, .proceed 2]

lemma allowed_threeEdits : ∀ turn ∈ threeEdits, turn.Allowed Operation.Proper := by
  simp only [threeEdits, List.forall_mem_cons, Turn.Allowed, Operation.Proper, List.not_mem_nil,
    false_imp_iff, implies_true, true_and, and_true]
  exact ⟨.inl rfl, .inr ⟨4, rfl⟩, .inl rfl⟩

theorem editsSafely_threeEdits :
    fourthVersionStored.archive.Orderly ∧ (∀ turn ∈ threeEdits, turn.Allowed Operation.Proper) ∧
    EditsSafely fourthVersionStored (run ⟨fourthVersionStored, []⟩ threeEdits) ∧
    (run ⟨fourthVersionStored, []⟩ threeEdits).versionsGiven "centro" = [5, 6] ∧
    (run ⟨fourthVersionStored, []⟩ threeEdits).calls.map (fun c => match c.result? with
      | some (.error failure) => some failure
      | _ => none) = [some (.staleVersion "centro" "4"), none, none] :=
  ⟨orderly_fourthVersionStored, allowed_threeEdits,
    editsSafely_run orderly_fourthVersionStored allowed_threeEdits, by decide +kernel,
    by decide +kernel⟩

end Traffic
end ListingSearch
