import ListingSearch.Proofs.SavedSearch.Delivery
import ListingSearch.Proofs.SavedSearch.Edits

/-! What an operation of the registry does as a whole. It fails and leaves no trace, in the archive
or in what was sent; or it succeeds, and the archive has changed in just the way that the operation
is there for. So no operation can fail after it has written, and only one row is ever written. -/
namespace ListingSearch

open Registry (Setup Operation Answer)

/-- How a plan ends in a memory: it fails without a trace, or it succeeds, and it is known what it
did to the archive. -/
inductive Memory.Ends {α : Type} (did : α → Archive → Prop) (m : Memory) :
    Outcome α × Memory → Prop
  | failed {failure : Failure} {m' : Memory} (harchive : m'.archive = m.archive)
    (hsent : m'.sent = m.sent) : Ends did m (.error failure, m')
  | done {a : α} {m' : Memory} (h : did a m'.archive) : Ends did m (.ok a, m')

namespace Memory.Ends

variable {α β : Type} {did : α → Archive → Prop} {did' : β → Archive → Prop} {m m' : Memory}
  {p : Plan Service α} {f : α → Plan Service β}

lemma unchanged (failure : Failure) : Ends did m (.error failure, m) := .failed rfl rfl

lemma mono {did' : α → Archive → Prop} {result : Outcome α × Memory} (h : Ends did m result)
    (hdid : ∀ a archive, did a archive → did' a archive) : Ends did' m result := by
  cases h with
  | failed harchive hsent => exact .failed harchive hsent
  | done h => exact .done (hdid _ _ h)

lemma map (h : Ends did m (p.run handle m)) {g : α → β}
    (hdid : ∀ a archive, did a archive → did' (g a) archive) :
    Ends did' m ((g <$> p).run handle m) := by
  cases hp : p.run handle m with
  | mk outcome u =>
    rw [hp] at h
    cases h with
    | failed harchive hsent =>
      rw [show (g <$> p).run handle m = _ from Plan.run_bind_of_error hp]
      exact .failed harchive hsent
    | done hdone =>
      rw [show (g <$> p).run handle m = (.ok (g _), u) from Plan.run_bind_of_ok hp]
      exact .done (hdid _ _ hdone)

lemma of_onlyLooks (hp : p.Asks Service.Request.OnlyLooks) :
    Ends (fun _ archive => archive = m.archive) m (p.run handle m) := by
  cases h : p.run handle m with
  | mk outcome u =>
    obtain ⟨harchive, hsent⟩ := run_of_onlyLooks hp h
    cases outcome with
    | ok a => exact .done harchive
    | error failure => exact .failed harchive hsent

lemma bind_ofOutcome {x : Outcome α} (hf : ∀ a, x = .ok a → Ends did' m ((f a).run handle m)) :
    Ends did' m ((Plan.ofOutcome x >>= f).run handle m) := by
  cases x with
  | ok a => exact hf a rfl
  | error failure => exact unchanged failure

/-- After a look it is as if nothing had been asked. -/
lemma bind_look (hp : p.Asks Service.Request.OnlyLooks)
    (hf : ∀ a u, p.run handle m = (.ok a, u) → u.archive = m.archive →
      Ends did' u ((f a).run handle u)) :
    Ends did' m ((p >>= f).run handle m) := by
  cases h : p.run handle m with
  | mk outcome u =>
    obtain ⟨harchive, hsent⟩ := run_of_onlyLooks hp h
    cases outcome with
    | error failure =>
      rw [Plan.run_bind_of_error h]
      exact .failed harchive hsent
    | ok a =>
      rw [Plan.run_bind_of_ok h]
      have hends := hf a u h harchive
      generalize (f a).run handle u = result at hends
      cases hends with
      | failed hsame hsent' => exact .failed (hsame.trans harchive) (hsent'.trans hsent)
      | done hdone => exact .done hdone

end Memory.Ends

namespace Archive

variable {a : Archive} {id : Value}

lemma erase_of_lookUp (h : lookUp id a.rows = none) : a.erase id = a := by
  have hkept : ∀ rows : List (Value × Record), lookUp id rows = none →
      rows.filter (fun row => !row.1.same id) = rows := by
    intro rows hrows
    refine List.filter_eq_self.2 fun row hrow => ?_
    induction rows with
    | nil => cases hrow
    | cons old rows ih =>
      obtain ⟨key, t⟩ := old
      rw [lookUp] at hrows
      split at hrows
      · cases hrows
      · rename_i hkey
        rcases List.mem_cons.1 hrow with rfl | hrow
        · simp [hkey]
        · exact ih hrows hrow
  rw [erase, hkept _ h]

end Archive

/-- Texts are noted in the row under an identifier, beside those that were; without texts nothing
is done, not even to a row that is there. -/
inductive Archive.Noting (a : Archive) : Value → List String → Archive → Prop
  | none {id : Value} : Noting a id [] a
  | some {s : String} {r : Record} {ss us : List String} (hr : a.row? s = some r)
    (hus : Archive.withNoted r (.list (ss.map .text)) = .ok (us.map .text)) :
    Noting a (.text s) ss (a.put (.text s) (r.set "delivered_listing_ids" (.ofTexts us)))

namespace Registry

variable {now : Instant} {m : Memory} {id filter version active listings chosen : Value}
  {criteria : Criteria} {n : Int}

/-- Saves the criteria in a new row, and reads the row. -/
lemma run_create_eq (now : Instant) (m : Memory) {owner checked : String} {name : Value}
    (hread : Criteria.read true filter = .ok criteria)
    (hname : SavedSearch.checkName name = .ok checked) (howner : owner ≠ "") :
    ∃ search, search.id = some m.archive.nextId ∧
      (create now (.text owner) name filter).run Memory.handle m = (.ok search,
        { m with archive :=
          (m.archive.create (SavedSearch.create owner checked criteria now).toRow).2 }) := by
  set saved := SavedSearch.create owner checked criteria now with hsaved
  have hcanonical : saved.criteria.Canonical := Criteria.canonical_of_read hread
  obtain ⟨search, hsearch, hid⟩ : ∃ search, SavedSearch.ReadFrom now
      (saved.toRow.set "id" (.text m.archive.nextId)) search ∧
      search.id = some m.archive.nextId :=
    ⟨_, SavedSearch.readFrom_toRow hcanonical howner le_rfl m.archive.nextId now, rfl⟩
  have hofRow := SavedSearch.ofRow_eq_ok_iff.2 hsearch
  have hrequest : (Plan.request (I := Service) (.create saved)).run Memory.handle m =
      (.ok (some (.object (saved.toRow.set "id" (.text m.archive.nextId)))),
        { m with archive := (m.archive.create saved.toRow).2 }) :=
    Plan.run_request _ m
  refine ⟨search, hid, ?_⟩
  rw [create, hread, hname]
  change Plan.run Memory.handle (Plan.request (I := Service) (.create saved) >>= _) m = _
  rw [Plan.run_bind_of_ok hrequest, present?_of_ofRow hofRow]
  dsimp only
  rw [Plan.run_ofOutcome, hofRow]

lemma ends_create {owner name : Value} (howner : owner ≠ .text "") :
    Memory.Ends (fun search archive => ∃ text checked criteria, owner = .text text ∧
        Criteria.read true filter = .ok criteria ∧ SavedSearch.checkName name = .ok checked ∧
        search.id = some m.archive.nextId ∧
        archive = (m.archive.create (SavedSearch.create text checked criteria now).toRow).2)
      m ((create now owner name filter).run Memory.handle m) := by
  refine .bind_ofOutcome fun criteria hcriteria => .bind_ofOutcome fun checked hchecked =>
    .bind_ofOutcome fun text htext => ?_
  obtain rfl := owner_of_checkOwner htext
  have hne : text ≠ "" := fun hempty => howner (congrArg _ hempty)
  obtain ⟨search, hid, hrun⟩ := run_create_eq now m hcriteria hchecked hne
  have hsaved := hrun
  rw [create, hcriteria, hchecked] at hsaved
  exact hsaved ▸ .done ⟨text, checked, criteria, rfl, hcriteria, hchecked, hid, rfl⟩

/-- What hits the row replaces its criteria, and reads the row. -/
lemma run_replacing_hit {r : Record} (now : Instant) (hr : m.archive.find id = .ok (some r))
    (hn : r.AtVersion n) (hread : Criteria.read true filter = .ok criteria)
    (hversion : version.number? = some (.int n)) :
    ∃ search, (replacing now id criteria version).run Memory.handle m = (.ok search,
      { m with archive := m.archive.put id (r.revised (.object criteria.toDocument) n) }) := by
  obtain ⟨edited, hedited, -⟩ := exists_ofRow_of_atVersion now hn hread
  refine ⟨edited, ?_⟩
  rw [replacing, Plan.run_bind_of_ok ((Plan.run_request _ m).trans
    (Memory.handle_replaceCriteria_hit hr hn.version hversion))]
  dsimp only
  rw [Plan.run_ofOutcome, hedited]

/-- What misses the row fails: the row has another version, or there is none. -/
lemma run_replacing_miss {row : Option Record} (now : Instant) (criteria : Criteria)
    (hrow : m.archive.find id = .ok row)
    (hother : ∀ r ∈ row, ¬ (r.get "version").same version = true) :
    ∃ failure, (replacing now id criteria version).run Memory.handle m = (.error failure, m) := by
  have hmissed : (Plan.request (I := Service)
      (.replaceCriteria id (.object criteria.toDocument) version)).run Memory.handle m =
        (.ok none, m) :=
    (Plan.run_request _ m).trans (Memory.handle_replaceCriteria_other hrow hother)
  rw [replacing, Plan.run_bind_of_ok hmissed]
  cases row with
  | none => exact ⟨_, Plan.run_bind_of_ok (run_find hrow)⟩
  | some r => exact ⟨_, Plan.run_bind_of_ok (run_find hrow)⟩

lemma ends_replacing (hm : m.archive.Orderly) (hread : Criteria.read true filter = .ok criteria)
    (hversion : version.number? = some (.int n)) :
    Memory.Ends (fun _ archive => ∃ s r, id = .text s ∧ m.archive.row? s = some r ∧
        r.AtVersion n ∧ archive = m.archive.put id (r.revised (.object criteria.toDocument) n))
      m ((replacing now id criteria version).run Memory.handle m) := by
  cases hfind : m.archive.find id with
  | error failure =>
    have hrefused : (Plan.request (I := Service)
        (.replaceCriteria id (.object criteria.toDocument) version)).run Memory.handle m =
          (.error failure, m) := by
      rw [Plan.run_request]
      simp only [Memory.handle, Archive.replaceCriteria, Archive.change_of_find_error hfind]
      rfl
    rw [replacing, Plan.run_bind_of_error hrefused]
    exact .unchanged failure
  | ok row =>
    by_cases hhit : ∃ r ∈ row, (r.get "version").same version = true
    · obtain ⟨r, hr, hsame⟩ := hhit
      obtain rfl : row = some r := hr
      obtain ⟨s, k, rfl, hrow, hk⟩ := hm.atVersion_of_find hfind
      obtain rfl : k = n := (Archive.same_version_iff hk hversion).1 hsame
      obtain ⟨search, hrun⟩ := run_replacing_hit now hfind hk hread hversion
      rw [hrun]
      exact .done ⟨s, r, rfl, hrow, hk, rfl⟩
    · have hother : ∀ r ∈ row, ¬ (r.get "version").same version = true :=
        fun r hr hsame => hhit ⟨r, hr, hsame⟩
      obtain ⟨failure, hrun⟩ := run_replacing_miss now criteria hfind hother
      rw [hrun]
      exact .unchanged failure

lemma ends_edit (hm : m.archive.Orderly)
    (hproper : version.isNull = true ∨ ∃ n, version.number? = some (.int n)) :
    Memory.Ends (fun _ archive => ∃ s r n criteria, id = .text s ∧ m.archive.row? s = some r ∧
        r.AtVersion n ∧ Criteria.read true filter = .ok criteria ∧
        archive = m.archive.put id (r.revised (.object criteria.toDocument) n))
      m ((edit now id filter version).run Memory.handle m) := by
  rw [edit_eq]
  refine .bind_ofOutcome fun criteria hcriteria => ?_
  have hreplacing {given : Value} {k : Int} (hk : given.number? = some (.int k)) :
      Memory.Ends (fun _ archive => ∃ s r n criteria, id = .text s ∧
          m.archive.row? s = some r ∧ r.AtVersion n ∧ Criteria.read true filter = .ok criteria ∧
          archive = m.archive.put id (r.revised (.object criteria.toDocument) n))
        m ((replacing now id criteria given).run Memory.handle m) :=
    (ends_replacing hm hcriteria hk).mono fun _ _ ⟨s, r, hid, hrow, hn, harchive⟩ =>
      ⟨s, r, k, criteria, hid, hrow, hn, hcriteria, harchive⟩
  cases hnull : version.isNull with
  | false =>
    obtain ⟨k, hk⟩ := hproper.resolve_left (by simp [hnull])
    exact hreplacing hk
  | true =>
    refine .bind_look (asks_get.map _) fun given u hget _ => ?_
    obtain ⟨search, hsearch, rfl⟩ := Plan.run_map_eq_ok hget
    obtain ⟨rfl, -⟩ := run_get_eq_ok hsearch
    exact hreplacing rfl

lemma ends_setActive (hm : m.archive.Orderly) (b : Bool) :
    Memory.Ends (fun _ archive => ∃ s r, id = .text s ∧ m.archive.row? s = some r ∧
        archive = m.archive.put id (r.set "is_active" (.bool b)))
      m ((setActive now id (.bool b)).run Memory.handle m) := by
  have hrequest {x : Outcome (Option Record)} {archive : Archive}
      (hx : m.archive.setActive id (.bool b) = (x, archive)) :
      (Plan.request (I := Service) (.setActive id (.bool b))).run Memory.handle m =
        (Memory.reply x, { m with archive }) := by
    rw [Plan.run_request, Memory.handle, hx]
    rfl
  rw [setActive]
  cases hfind : m.archive.find id with
  | error failure =>
    rw [Plan.run_bind_of_error (hrequest (Archive.change_of_find_error hfind))]
    exact .unchanged failure
  | ok row =>
    cases row with
    | none =>
      rw [Plan.run_bind_of_ok (hrequest (Archive.change_of_find_none hfind))]
      exact .unchanged _
    | some r =>
      obtain ⟨s, n, rfl, hrow, hn⟩ := hm.atVersion_of_find hfind
      obtain ⟨search, hsearch, -⟩ := (hn.setActive b).exists_readFrom now
      have hread := SavedSearch.ofRow_eq_ok_iff.2 hsearch
      have hset : (Plan.request (I := Service) (.setActive (.text s) (.bool b))).run
          Memory.handle m = (.ok (some (.object (r.set "is_active" (.bool b)))),
            { m with archive := m.archive.put (.text s) (r.set "is_active" (.bool b)) }) :=
        hrequest (Archive.change_of_find hfind)
      rw [Plan.run_bind_of_ok hset, present?_of_ofRow hread]
      dsimp only
      rw [Plan.run_ofOutcome, hread]
      exact .done ⟨s, r, rfl, hrow, rfl⟩

lemma ends_delete (hm : m.archive.Labelled) :
    Memory.Ends (fun _ archive => ∃ s r, id = .text s ∧ m.archive.row? s = some r ∧
      archive = m.archive.erase id) m ((delete id).run Memory.handle m) := by
  have hrequest {x : Outcome Bool × Archive} (hx : m.archive.delete id = x) :
      (Plan.request (I := Service) (.delete id)).run Memory.handle m = m.withArchive x := by
    rw [Plan.run_request, ← hx]
    rfl
  rw [delete]
  cases hfind : m.archive.find id with
  | error failure =>
    have hrefused : m.archive.delete id = (.error failure, m.archive) := by
      rw [Archive.delete, hfind]
    rw [Plan.run_bind_of_error (hrequest hrefused)]
    exact .unchanged failure
  | ok row =>
    have hdone : m.archive.delete id = (.ok row.isSome, m.archive.erase id) := by
      rw [Archive.delete, hfind]
    rw [Plan.run_bind_of_ok (hrequest hdone)]
    cases row with
    | some r =>
      obtain ⟨s, rfl, hrow⟩ := hm.exists_text hfind
      exact .done ⟨s, r, rfl, hrow, rfl⟩
    | none =>
      refine .failed (Archive.erase_of_lookUp ?_) rfl
      unfold Archive.find at hfind
      split at hfind
      · exact Except.ok.inj hfind
      · cases hfind

/-- Marking listings in a row that is there succeeds. -/
lemma noting_markDelivered {r : Record} {ss : List String} (now : Instant)
    (hm : m.archive.Orderly) (hr : m.archive.find id = .ok (some r))
    (hids : identifiers listings = .ok (ss.map .text)) :
    ∃ all archive, (markDelivered now id listings).run Memory.handle m =
      (.ok all, { m with archive }) ∧ m.archive.Noting id ss archive := by
  obtain ⟨key, n, rfl, hrow, hn⟩ := hm.atVersion_of_find hr
  cases ss with
  | nil =>
    obtain ⟨search, hsearch, -⟩ := hn.exists_readFrom now
    have hget := run_get hr (SavedSearch.ofRow_eq_ok_iff.2 hsearch)
    rw [markDelivered, hids]
    exact ⟨_, m.archive, Plan.run_bind_of_ok hget, .none⟩
  | cons s ss =>
    obtain ⟨us, hus⟩ := hn.exists_withNoted (Value.members_texts (s :: ss))
    have hadd := Archive.addDelivered_of_find hr hus
    exact ⟨_, _, run_markDelivered_of_noted now hids (List.cons_ne_nil _ _) hadd, .some hrow hus⟩

lemma ends_markDelivered (hm : m.archive.Orderly) (hl : listings.OnlyTexts) :
    Memory.Ends (fun _ archive => ∃ ss : List String,
        identifiers listings = .ok (ss.map .text) ∧ m.archive.Noting id ss archive)
      m ((markDelivered now id listings).run Memory.handle m) := by
  cases hids : identifiers listings with
  | error failure =>
    rw [markDelivered, hids]
    exact .unchanged failure
  | ok ids =>
    obtain ⟨ss, -, rfl, -⟩ := identifiers_texts hl hids
    by_cases hfound : ∃ r, m.archive.find id = .ok (some r)
    · obtain ⟨r, hr⟩ := hfound
      obtain ⟨all, archive, hrun, hnoting⟩ := noting_markDelivered now hm hr hids
      rw [hrun]
      exact .done ⟨ss, rfl, hnoting⟩
    · cases ss with
      | nil =>
        -- Without listings the row is only looked for.
        rw [markDelivered, hids]
        refine (Memory.Ends.of_onlyLooks asks_get).map fun _ archive harchive => ?_
        exact ⟨[], rfl, harchive ▸ .none⟩
      | cons s ss =>
        cases hfind : m.archive.find id with
        | error failure =>
          rw [run_markDelivered now hids (List.cons_ne_nil _ _)
            (Archive.change_of_find_error hfind)]
          exact .unchanged failure
        | ok row =>
          cases row with
          | some r => exact absurd ⟨r, hfind⟩ hfound
          | none =>
            rw [run_markDelivered now hids (List.cons_ne_nil _ _)
              (Archive.change_of_find_none hfind)]
            exact .unchanged _

/-- What is to be delivered is a list of texts, for a saved search that is there. -/
lemma deliverable_texts {policy : Policy} {ids : List Value} {m' : Memory}
    (hc : chosen.OnlyTexts)
    (h : (deliverable policy now id chosen).run Memory.handle m = (.ok ids, m')) :
    (∃ r, m.archive.find id = .ok (some r)) ∧ ∃ ss : List String, ids = ss.map .text := by
  unfold deliverable at h
  split at h
  · obtain ⟨ls, hnew, rfl⟩ := Plan.run_map_eq_ok h
    obtain ⟨search, u, hsearch, -⟩ := Plan.run_bind_eq_ok hnew
    obtain ⟨-, r, hr, -⟩ := run_get_eq_ok hsearch
    exact ⟨⟨r, hr⟩, ls.map (·.id), by simp⟩
  · obtain ⟨_, u, hget, hrest⟩ := Plan.run_bind_eq_ok h
    obtain ⟨search, hsearch, -⟩ := Plan.run_map_eq_ok hget
    obtain ⟨-, r, hr, -⟩ := run_get_eq_ok hsearch
    obtain ⟨hids, -⟩ := Plan.run_ofOutcome_eq_ok hrest
    obtain ⟨ss, -, rfl, -⟩ := identifiers_texts hc hids
    exact ⟨⟨r, hr⟩, ss, rfl⟩

lemma ends_deliver (hm : m.archive.Orderly) (hc : chosen.OnlyTexts) (policy : Policy)
    (hasSender : Bool) :
    Memory.Ends (fun ids archive => ∃ ss : List String,
        identifiers (.list ids) = .ok (ss.map .text) ∧ m.archive.Noting id ss archive)
      m ((deliver policy now hasSender id chosen).run Memory.handle m) := by
  unfold deliver
  split
  case isFalse => exact .unchanged _
  case isTrue =>
    refine .bind_look (asks_deliverable chosen) fun ids u hids harchive => ?_
    obtain ⟨⟨r, hr⟩, sent, rfl⟩ := deliverable_texts hc hids
    cases sent with
    | nil => exact .done ⟨[], rfl, harchive ▸ .none⟩
    | cons t ts =>
      have hsend : (Plan.request (I := Service) (.send id ((t :: ts).map .text))).run
          Memory.handle u = u.send id ((t :: ts).map .text) := Plan.run_request _ u
      change Memory.Ends _ u (Plan.run Memory.handle (Plan.request (I := Service)
        (.send id ((t :: ts).map .text)) >>= _) u)
      rw [Memory.send] at hsend
      split at hsend
      · rw [Plan.run_bind_of_error hsend]
        exact .unchanged _
      · rw [Plan.run_bind_of_ok hsend]
        -- From here on nothing can fail, for the row was found.
        have hlist : (Value.list ((t :: ts).map .text)).OnlyTexts := Value.onlyTexts_list _
        obtain ⟨ss, hss⟩ : ∃ ss : List String,
            identifiers (.list ((t :: ts).map .text)) = .ok (ss.map .text) := by
          have hnamed : identifiers (.list ((t :: ts).map .text)) =
              .ok (Value.distinctValues (((t :: ts).map Value.text).filter Value.truthy)) := rfl
          obtain ⟨ss, -, hss, -⟩ := identifiers_texts hlist hnamed
          exact ⟨ss, hnamed.trans (congrArg _ hss)⟩
        rw [← harchive] at hm hr ⊢
        obtain ⟨all, archive, hmark, hnoting⟩ := noting_markDelivered now
          (m := { u with sent := u.sent ++ [(id, (t :: ts).map .text)] }) hm hr hss
        have hdiscard : Plan.run Memory.handle
            (discard (markDelivered now id (.list ((t :: ts).map .text))))
            { u with sent := u.sent ++ [(id, (t :: ts).map .text)] } =
            (.ok (), { u with sent := u.sent ++ [(id, (t :: ts).map .text)], archive }) :=
          Plan.run_bind_of_ok hmark
        rw [Plan.run_bind_of_ok hdiscard]
        exact .done ⟨ss, hss, hnoting⟩

/-- The operation is there to look only. -/
def Operation.Reads : Operation → Prop
  | .get _ | .ofOwner _ | .currentMatches _ | .newMatches _ => True
  | _ => False

/-- The operation, with the answer that it gave, is about the saved search under a text. -/
def Operation.Concerns (s : String) : Operation → Answer → Prop
  | .create .., .search search => search.id = some s
  | .edit id .., _ | .setActive id _, _ | .delete id, _ | .markDelivered id _, _
  | .deliver id _, _ => id = .text s
  | _, _ => False

/-- What an operation that succeeded has done to the archive. -/
inductive Operation.Does (now : Instant) (a : Archive) : Operation → Answer → Archive → Prop
  | created {owner checked : String} {name filter : Value} {criteria : Criteria}
    {search : SavedSearch} (howner : owner ≠ "")
    (hread : Criteria.read true filter = .ok criteria)
    (hname : SavedSearch.checkName name = .ok checked) (hid : search.id = some a.nextId) :
    Does now a (.create (.text owner) name filter) (.search search)
      (a.create (SavedSearch.create owner checked criteria now).toRow).2
  | edited {s : String} {r : Record} {n : Int} {filter version : Value} {criteria : Criteria}
    {search : SavedSearch} (hrow : a.row? s = some r) (hn : r.AtVersion n)
    (hread : Criteria.read true filter = .ok criteria) :
    Does now a (.edit (.text s) filter version) (.search search)
      (a.put (.text s) (r.revised (.object criteria.toDocument) n))
  | switched {s : String} {r : Record} {b : Bool} {search : SavedSearch}
    (hrow : a.row? s = some r) :
    Does now a (.setActive (.text s) (.bool b)) (.search search)
      (a.put (.text s) (r.set "is_active" (.bool b)))
  | deleted {s : String} {r : Record} (hrow : a.row? s = some r) :
    Does now a (.delete (.text s)) .nothing (a.erase (.text s))
  | marked {id listings : Value} {ids : List Value} {ss : List String} {b : Archive}
    (hids : identifiers listings = .ok (ss.map .text)) (h : a.Noting id ss b) :
    Does now a (.markDelivered id listings) (.identifiers ids) b
  | delivered {id chosen : Value} {ids : List Value} {ss : List String} {b : Archive}
    (hids : identifiers (.list ids) = .ok (ss.map .text)) (h : a.Noting id ss b) :
    Does now a (.deliver id chosen) (.identifiers ids) b
  | looked {operation : Operation} {answer : Answer} (h : operation.Reads) :
    Does now a operation answer a

/-- Every operation with proper arguments fails without a trace, or does what it is there for. -/
lemma Operation.ends {operation : Operation} (setup : Setup) (now : Instant)
    (hm : m.archive.Orderly) (h : operation.Proper) :
    Memory.Ends (operation.Does now m.archive) m
      ((operation.plan setup now).run Memory.handle m) := by
  cases operation with
  | create owner name filter =>
    refine (ends_create h).map ?_
    rintro search _ ⟨text, checked, criteria, rfl, hread, hname, hid, rfl⟩
    exact .created (fun hempty => h (congrArg _ hempty)) hread hname hid
  | edit id filter version =>
    refine (ends_edit hm h).map ?_
    rintro search _ ⟨s, r, n, criteria, rfl, hrow, hn, hread, rfl⟩
    exact .edited hrow hn hread
  | setActive id active =>
    obtain ⟨b, rfl⟩ := h
    refine (ends_setActive hm b).map ?_
    rintro search _ ⟨s, r, rfl, hrow, rfl⟩
    exact .switched hrow
  | delete id =>
    refine (ends_delete hm.labelled).map ?_
    rintro _ _ ⟨s, r, rfl, hrow, rfl⟩
    exact .deleted hrow
  | markDelivered id listings =>
    exact (ends_markDelivered hm h).map fun _ _ ⟨ss, hids, hnoting⟩ => .marked hids hnoting
  | deliver id chosen =>
    exact (ends_deliver hm h setup.policy setup.hasSender).map fun _ _ ⟨ss, hids, hnoting⟩ =>
      .delivered hids hnoting
  | get id =>
    exact (Memory.Ends.of_onlyLooks asks_get).map fun _ _ hsame => hsame ▸ .looked trivial
  | ofOwner owner =>
    exact (Memory.Ends.of_onlyLooks (asks_ofOwner owner)).map fun _ _ hsame =>
      hsame ▸ .looked trivial
  | currentMatches id =>
    exact (Memory.Ends.of_onlyLooks asks_currentMatches).map fun _ _ hsame =>
      hsame ▸ .looked trivial
  | newMatches id =>
    exact (Memory.Ends.of_onlyLooks asks_newMatches).map fun _ _ hsame => hsame ▸ .looked trivial

lemma row?_of_noting {a b : Archive} {ss : List String} {s : String} (h : a.Noting id ss b)
    (hs : id ≠ .text s) : b.row? s = a.row? s := by
  cases h with
  | none => rfl
  | some hr hus => rw [Archive.row?_put, if_neg hs]

/-- An operation does nothing to the rows of other saved searches. -/
lemma Operation.Does.row?_of_not_concerns {a b : Archive} {operation : Operation} {answer : Answer}
    {s : String} (h : operation.Does now a answer b) (hs : ¬ operation.Concerns s answer) :
    b.row? s = a.row? s := by
  cases h with
  | created howner hread hname hid =>
    rw [Archive.row?_create, if_neg]
    rintro rfl
    exact hs hid
  | edited hrow hn hread => exact (Archive.row?_put a _ _ s).trans (if_neg hs)
  | switched hrow => exact (Archive.row?_put a _ _ s).trans (if_neg hs)
  | deleted hrow => exact (Archive.row?_erase a _ s).trans (if_neg hs)
  | marked hids h => exact row?_of_noting h hs
  | delivered hids h => exact row?_of_noting h hs
  | looked h => rfl

lemma Operation.asks_onlyLooks {operation : Operation} (setup : Setup) (now : Instant)
    (h : operation.Reads) : (operation.plan setup now).Asks Service.Request.OnlyLooks := by
  cases operation with
  | get id => exact asks_get.map _
  | ofOwner owner => exact (asks_ofOwner owner).map _
  | currentMatches id => exact asks_currentMatches.map _
  | newMatches id => exact asks_newMatches.map _
  | _ => cases h

end Registry

/-- The arguments of a call have the proper types. -/
def Event.Proper : Event → Prop
  | .call _ operation => operation.Proper
  | _ => True

namespace World

variable {w : World} {setup : Setup} {operation : Operation} {events : List Event}

lemma orderly_start (now : Instant) : (start now).memory.archive.Orderly where
  labelled := ⟨fun _ hrow => absurd hrow List.not_mem_nil, fun _ _ => rfl⟩
  versions _ _ hrow := nomatch hrow

lemma orderly_carryOut (hw : w.memory.archive.Orderly) (h : operation.Proper) :
    (w.carryOut setup operation).2.archive.Orderly :=
  ((operation.asks_mayAsk setup w.now).mono fun _ hmay => hmay.proper h).preserves Memory.handle
    (P := fun m => m.archive.Orderly) (fun _ _ hrequest hm => Memory.orderly_handle hm hrequest) hw

lemma orderly_step (hw : w.memory.archive.Orderly) {event : Event} (h : event.Proper) :
    (w.step event).memory.archive.Orderly := by
  cases event with
  | call setup operation => exact orderly_carryOut hw h
  | restock listings => exact hw
  | clock now => exact hw
  | inventoryFault fault => exact hw
  | senderFault fault => exact hw

lemma orderly_run (now : Instant) (h : ∀ event ∈ events, event.Proper) :
    ((start now).run events).memory.archive.Orderly :=
  run_preserves (P := fun w => w.memory.archive.Orderly)
    (fun _ _ hkind hw => orderly_step hw hkind) h (orderly_start now)

/-- A call leaves no trace if it fails or is there to look only, and it touches only the row of the
saved search that it is about. -/
structure Confined (w : World) (setup : Setup) (operation : Operation) : Prop where
  failed : ∀ failure, (w.carryOut setup operation).1 = .error failure →
    (w.carryOut setup operation).2.archive = w.memory.archive ∧
      (w.carryOut setup operation).2.sent = w.memory.sent
  looked : operation.Reads → (w.carryOut setup operation).2.archive = w.memory.archive ∧
    (w.carryOut setup operation).2.sent = w.memory.sent
  others : ∀ answer, (w.carryOut setup operation).1 = .ok answer →
    ∀ s, ¬ operation.Concerns s answer →
      (w.carryOut setup operation).2.archive.row? s = w.memory.archive.row? s

/-- In every state to which the registry can come, the effects of every operation are confined. -/
theorem confined_run (now : Instant) (hevents : ∀ event ∈ events, event.Proper) (setup : Setup)
    (h : operation.Proper) : ((start now).run events).Confined setup operation := by
  have hends := operation.ends setup ((start now).run events).now (orderly_run now hevents) h
  refine ⟨fun failure hfailure => ?_, fun hreads => ?_, fun answer hanswer s hs => ?_⟩
  · change Memory.Ends _ _ (carryOut _ setup operation) at hends
    generalize carryOut _ setup operation = result at hends hfailure
    cases hends with
    | failed harchive hsent => exact ⟨harchive, hsent⟩
    | done hdone => cases hfailure
  · exact Memory.run_of_onlyLooks (Operation.asks_onlyLooks setup _ hreads) rfl
  · change Memory.Ends _ _ (carryOut _ setup operation) at hends
    generalize carryOut _ setup operation = result at hends hanswer
    cases hends with
    | failed harchive hsent => cases hanswer
    | done hdone =>
      cases hanswer
      exact hdone.row?_of_not_concerns hs

/-- Two saved searches, one of them with a delivered listing, and a sender that fails. -/
def brokenSender : List Event :=
  let setup : Setup := ⟨⟨.empty, 10, 10⟩, true⟩
  [.call setup (.create (.text "ana") (.text "Centro") .null),
    .call setup (.create (.text "ben") (.text "Playa") (.object [("zipCode", .text "02108")])),
    .call setup (.markDelivered (.text "hs-1") (.list (["a"].map .text))),
    .restock [[("id", .text "a")], [("id", .text "b")]], .senderFault (some "offline")]

theorem confined_brokenSender :
    let setup : Setup := ⟨⟨.empty, 10, 10⟩, true⟩
    let w := (start ⟨⟨2024, 5, 1⟩, 12, 0, 0, 0, some 0⟩).run brokenSender
    let operation : Operation := .deliver (.text "hs-1") (.list (["b"].map .text))
    (∀ event ∈ brokenSender, event.Proper) ∧ operation.Proper ∧ w.Confined setup operation ∧
      (w.carryOut setup operation).1.toOption.isNone = true ∧ w.memory.archive.rows.length = 2 := by
  intro setup w operation
  have hevents : ∀ event ∈ brokenSender, event.Proper := by
    simp only [brokenSender, List.forall_mem_cons, Event.Proper, Operation.Proper, ne_eq,
      Value.text.injEq, String.reduceEq, not_false_eq_true, List.not_mem_nil, false_imp_iff,
      implies_true, true_and, and_true]
    exact Value.onlyTexts_list _
  have hproper : operation.Proper := Value.onlyTexts_list ["b"]
  exact ⟨hevents, hproper, confined_run _ hevents setup hproper, by decide +kernel,
    by decide +kernel⟩

end World
end ListingSearch
