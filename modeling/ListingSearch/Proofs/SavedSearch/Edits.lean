import ListingSearch.Proofs.Criteria.Failures
import ListingSearch.Proofs.SavedSearch.Traffic
import ListingSearch.Proofs.SavedSearch.Versions

/-! One edit among many operations. It may read the version that it expects; it then tries to
replace the criteria of that version; and only if it missed, it looks whether the row is still
there. What it asked tells whether it succeeds, and the only thing that it ever changes is the row
that it hits. -/
namespace ListingSearch

open Registry (Setup Operation Answer)

def Archive.HasVersion (a : Archive) (id : Value) (n : Int) : Prop :=
  ∃ r, a.find id = .ok (some r) ∧ r.get? "version" = some (.int n)

def Record.revised (r : Record) (document : Value) (n : Int) : Record :=
  (r.set "criteria" document).set "version" (.int (n + 1))

namespace Archive

variable {a : Archive} {id version : Value} {r : Record} {n : Int}

lemma Orderly.atVersion_of_find (h : a.Orderly) (hr : a.find id = .ok (some r)) :
    ∃ s n, id = .text s ∧ a.row? s = some r ∧ r.AtVersion n := by
  obtain ⟨s, rfl, hrow⟩ := h.labelled.exists_text hr
  obtain ⟨n, hn⟩ := h.versions s r hrow
  exact ⟨s, n, rfl, hrow, hn⟩

lemma find_eq_error {failure : Failure} (h : a.find id = .error failure) : failure = .notMember := by
  unfold find at h
  split at h
  · cases h
  · exact (Except.error.inj h).symm

lemma place_of_lookUp {rows : List (Value × Record)} (h : lookUp id rows = some r) :
    place id r rows = rows := by
  induction rows with
  | nil => cases h
  | cons row rows ih =>
    obtain ⟨key, t⟩ := row
    rw [lookUp] at h
    rw [place]
    split at h
    · rename_i hkey
      cases h
      rw [if_pos hkey]
    · rename_i hkey
      rw [if_neg hkey, ih h]

/-- Putting a row where it stands changes nothing. -/
lemma put_of_find (h : a.find id = .ok (some r)) : a.put id r = a := by
  rw [put, place_of_lookUp (lookUp_of_find h)]

end Archive

namespace Memory

variable {m : Memory} {id version document : Value} {r : Record} {n : Int}

/-- Criteria are replaced in a row that has the version. -/
lemma handle_replaceCriteria_hit (hr : m.archive.find id = .ok (some r))
    (hn : r.get? "version" = some (.int n)) (hversion : version.number? = some (.int n)) :
    handle (.replaceCriteria id document version) m =
      (.ok (some (.object (r.revised document n))),
        { m with archive := m.archive.put id (r.revised document n) }) := by
  have hget : r.get "version" = .int n := by rw [Record.get, hn, Option.getD_some]
  have hsame : (Value.int n).same version = true := (Value.int_same_iff hversion).2 rfl
  have hnext : version.next = .ok (.int (n + 1)) := by rw [Value.next, hversion]
  simp only [handle, Archive.replaceCriteria, Archive.change, hr, hget, hsame, if_true, hnext]
  rfl

/-- Nothing is replaced where the row, if there is one, has another version. -/
lemma handle_replaceCriteria_other {row : Option Record} (hrow : m.archive.find id = .ok row)
    (hother : ∀ r ∈ row, ¬ (r.get "version").same version = true) :
    handle (.replaceCriteria id document version) m = (.ok none, m) := by
  simp only [handle, Archive.replaceCriteria, Archive.change, hrow]
  cases row with
  | none => rfl
  | some r =>
    simp only [if_neg (hother r rfl), Archive.put_of_find hrow]
    rfl

/-- Nothing is replaced where no row has the version. -/
lemma handle_replaceCriteria_miss (h : m.archive.Orderly)
    (hversion : version.number? = some (.int n)) (hmiss : ¬ m.archive.HasVersion id n) :
    handle (.replaceCriteria id document version) m = (.ok none, m) ∨
      handle (.replaceCriteria id document version) m = (.error .notMember, m) := by
  cases hfind : m.archive.find id with
  | error failure =>
    rw [Archive.find_eq_error hfind] at hfind
    simp only [handle, Archive.replaceCriteria, Archive.change, hfind]
    exact .inr rfl
  | ok row =>
    refine .inl (handle_replaceCriteria_other hfind fun r hr => ?_)
    obtain rfl : row = some r := hr
    obtain ⟨s, k, rfl, hrow, hk⟩ := h.atVersion_of_find hfind
    rw [Archive.same_version_iff hk hversion]
    rintro rfl
    exact hmiss ⟨r, hfind, hk.version⟩

end Memory

namespace Registry

variable {now : Instant} {id filter given version : Value} {criteria : Criteria} {n : Int}
  {past : List Exchange}

/-- What is left of an edit when it knows the version. -/
def replacing (now : Instant) (id : Value) (criteria : Criteria) (version : Value) :
    Plan Service SavedSearch := do
  match ← Plan.request (I := Service)
    (.replaceCriteria id (.object criteria.toDocument) version) with
  | some row => .ofOutcome (SavedSearch.ofRow now row)
  | none =>
    match ← Plan.request (I := Service) (.find id) with
    | some _ => .fail (.staleVersion id.display version.display)
    | none => missing id

lemma edit_eq (now : Instant) (id filter given : Value) :
    edit now id filter given = (do
      let criteria ← .ofOutcome (Criteria.read true filter)
      let version ← if given.isNull then (fun s => .int s.version) <$> get now id else pure given
      replacing now id criteria version) := rfl

/-- How far an edit has come that tries to replace the criteria of a version: it has asked nothing
yet; it hit the row; or it missed, and then it found the row stale or no row. -/
inductive Attempt (now : Instant) (id : Value) (criteria : Criteria) (version : Value) (n : Int) :
    List Exchange → Plan Service SavedSearch → Prop
  | ahead {rest : Plan Service SavedSearch} (h : rest.result? = none) :
    Attempt now id criteria version n [] rest
  | hit {m : Memory} {r : Record} (hr : m.archive.find id = .ok (some r))
    (hn : r.get? "version" = some (.int n)) :
    Attempt now id criteria version n
      [⟨.replaceCriteria id (.object criteria.toDocument) version, m⟩]
      (.ofOutcome (SavedSearch.ofRow now (.object (r.revised (.object criteria.toDocument) n))))
  | missed {m : Memory} {rest : Plan Service SavedSearch} (h : ¬ m.archive.HasVersion id n)
    (hrest : rest.result? = none ∨ rest = .fail .notMember) :
    Attempt now id criteria version n
      [⟨.replaceCriteria id (.object criteria.toDocument) version, m⟩] rest
  | stale {m m' : Memory} {r : Record} (h : ¬ m.archive.HasVersion id n)
    (hr : m'.archive.find id = .ok (some r)) :
    Attempt now id criteria version n
      [⟨.replaceCriteria id (.object criteria.toDocument) version, m⟩, ⟨.find id, m'⟩]
      (.fail (.staleVersion id.display version.display))
  | gone {m m' : Memory} {failure : Failure} (h : ¬ m.archive.HasVersion id n)
    (hfailure : ∀ s t, failure ≠ .staleVersion s t) :
    Attempt now id criteria version n
      [⟨.replaceCriteria id (.object criteria.toDocument) version, m⟩, ⟨.find id, m'⟩]
      (.fail failure)

lemma attempt_of_leaves {rest : Plan Service SavedSearch}
    (h : Plan.Leaves Memory.handle (replacing now id criteria version) past rest)
    (hbefore : ∀ x ∈ past, x.before.archive.Orderly) (hversion : version.number? = some (.int n)) :
    Attempt now id criteria version n past rest := by
  cases h with
  | start => exact .ahead rfl
  | @ask _ _ m past _ h =>
    have hm : m.archive.Orderly := hbefore _ (List.mem_cons_self ..)
    by_cases hhas : m.archive.HasVersion id n
    · obtain ⟨r, hr, hn⟩ := hhas
      rw [Memory.handle_replaceCriteria_hit hr hn hversion] at h
      obtain ⟨rfl, rfl⟩ := h.eq_of_result? (Plan.result?_ofOutcome _)
      exact .hit hr hn
    · rcases Memory.handle_replaceCriteria_miss hm hversion hhas with hmiss | hmiss
      · rw [hmiss] at h
        cases h with
        | start => exact .missed hhas (.inl rfl)
        | @ask _ _ m' past _ h =>
          cases hfind : m'.archive.find id with
          | error failure =>
            simp only [Memory.handle, Memory.reply, hfind] at h
            obtain ⟨rfl, rfl⟩ := h.eq_of_result? rfl
            refine .gone hhas fun s t => ?_
            rw [Archive.find_eq_error hfind]
            exact Failure.noConfusion
          | ok row =>
            simp only [Memory.handle, Memory.reply, hfind] at h
            cases row with
            | none =>
              obtain ⟨rfl, rfl⟩ := h.eq_of_result? rfl
              exact .gone hhas fun s t => Failure.noConfusion
            | some r =>
              obtain ⟨rfl, rfl⟩ := h.eq_of_result? rfl
              exact .stale hhas hfind
      · rw [hmiss] at h
        obtain ⟨rfl, rfl⟩ := h.eq_of_result? rfl
        exact .missed hhas (.inr rfl)

/-- Where an edit has the version from that it expects: from a row that it has read, or from its
caller. -/
inductive Knows (id given : Value) : List Exchange → Value → Int → Prop
  | read {m : Memory} {n : Int} (hgiven : given.isNull = true) (h : m.archive.HasVersion id n) :
    Knows id given [⟨.find id, m⟩] (.int n) n
  | given {n : Int} (hgiven : given.isNull = false) (hn : given.number? = some (.int n)) :
    Knows id given [] given n

/-- How far an edit has come: it does not know the version yet, or it tries to replace. -/
inductive Editing (now : Instant) (id filter given : Value) :
    List Exchange → Plan Service SavedSearch → Prop
  | reading {past : List Exchange} {rest : Plan Service SavedSearch}
    (hpast : ∀ x ∈ past, x.request = .find id)
    (hrest : rest.result? = none ∨
      ∃ failure, rest = .fail failure ∧ ∀ s t, failure ≠ .staleVersion s t) :
    Editing now id filter given past rest
  | trying {reads tries : List Exchange} {criteria : Criteria} {version : Value} {n : Int}
    {rest : Plan Service SavedSearch} (hcriteria : Criteria.read true filter = .ok criteria)
    (hknows : Knows id given reads version n)
    (h : Attempt now id criteria version n tries rest) :
    Editing now id filter given (reads ++ tries) rest

lemma Knows.number? {reads : List Exchange} (h : Knows id given reads version n) :
    version.number? = some (.int n) := by
  cases h with
  | read hgiven h => rfl
  | given hgiven hn => exact hn

/-- Reading a saved search asks for its row, and fails only where there is none. -/
lemma leaves_get {rest : Plan Service SavedSearch}
    (h : Plan.Leaves Memory.handle (get now id) past rest)
    (hbefore : ∀ x ∈ past, x.before.archive.Orderly) :
    past = [] ∧ rest.result? = none ∨ ∃ m, past = [⟨.find id, m⟩] ∧
      ((∃ failure, rest = .fail failure ∧ ∀ s t, failure ≠ .staleVersion s t) ∨
        ∃ search, rest = .done search ∧ m.archive.HasVersion id search.version) := by
  cases h with
  | start => exact .inl ⟨rfl, rfl⟩
  | @ask _ _ m past _ h =>
    right
    cases hfind : m.archive.find id with
    | error failure =>
      simp only [Memory.handle, Memory.reply, hfind] at h
      obtain ⟨rfl, rfl⟩ := h.eq_of_result? rfl
      refine ⟨m, rfl, .inl ⟨failure, rfl, fun s t => ?_⟩⟩
      rw [Archive.find_eq_error hfind]
      exact Failure.noConfusion
    | ok row =>
      simp only [Memory.handle, Memory.reply, hfind] at h
      cases row with
      | none =>
        obtain ⟨rfl, rfl⟩ := h.eq_of_result? rfl
        exact ⟨m, rfl, .inl ⟨_, rfl, fun s t => Failure.noConfusion⟩⟩
      | some r =>
        have hm : m.archive.Orderly := hbefore _ (List.mem_cons_self ..)
        obtain ⟨s, n, rfl, hrow, hn⟩ := hm.atVersion_of_find hfind
        obtain ⟨search, hsearch, hversion⟩ := hn.exists_readFrom now
        have hread := SavedSearch.ofRow_eq_ok_iff.2 hsearch
        have hpresent := present?_of_ofRow hread
        have hgot : Plan.Leaves Memory.handle (.done search) past rest := by
          simp only [Plan.resume, Functor.map, Except.map, Option.map_some, Plan.bind, hpresent,
            hread] at h
          exact h
        obtain ⟨rfl, rfl⟩ := hgot.eq_of_result? rfl
        exact ⟨m, rfl, .inr ⟨search, rfl, r, hfind, hversion ▸ hn.version⟩⟩

lemma editing_of_leaves {rest : Plan Service SavedSearch}
    (h : Plan.Leaves Memory.handle (edit now id filter given) past rest)
    (hbefore : ∀ x ∈ past, x.before.archive.Orderly)
    (hproper : (Operation.edit id filter given).Proper) :
    Editing now id filter given past rest := by
  rw [edit_eq] at h
  cases hcriteria : Criteria.read true filter with
  | error failure =>
    rw [hcriteria] at h
    obtain ⟨rfl, rfl⟩ := h.eq_of_result? rfl
    refine .reading (by simp) (.inr ⟨failure, rfl, fun s t => ?_⟩)
    rintro rfl
    exact Criteria.read_failsAs _ hcriteria
  | ok criteria =>
    rw [hcriteria] at h
    cases hgiven : given.isNull with
    | false =>
      obtain ⟨n, hn⟩ := hproper.resolve_left (by simp [hgiven])
      rw [hgiven] at h
      exact .trying hcriteria (.given hgiven hn) (attempt_of_leaves h hbefore hn)
    | true =>
      rw [hgiven] at h
      have hread : Plan.Leaves Memory.handle
          (((fun s => Value.int s.version) <$> get now id) >>= replacing now id criteria)
          past rest := h
      rcases hread.bind_cases with ⟨q, hq, rfl⟩ | ⟨front, back, version, rfl, hfront, hback⟩
      · obtain ⟨reading, hreading, rfl⟩ := hq.exists_of_map
        rcases leaves_get hreading hbefore with ⟨rfl, hnone⟩ | ⟨m, rfl, hfailed | hdone⟩
        · refine .reading (by simp) (.inl ?_)
          cases reading <;> cases hnone
          rfl
        · obtain ⟨failure, rfl, hfailure⟩ := hfailed
          exact .reading (by simp) (.inr ⟨failure, rfl, hfailure⟩)
        · obtain ⟨search, rfl, hhas⟩ := hdone
          have hahead : Attempt now id criteria (.int search.version) search.version []
              (replacing now id criteria (.int search.version)) := .ahead rfl
          have hreads : Knows id given [⟨.find id, m⟩] (.int search.version) search.version :=
            .read hgiven hhas
          exact .trying hcriteria hreads hahead
      · obtain ⟨q, hq, hdone⟩ := hfront.exists_of_map
        have hbeforeBack : ∀ x ∈ back, x.before.archive.Orderly :=
          fun x hx => hbefore x (List.mem_append_right _ hx)
        rcases leaves_get hq fun x hx => hbefore x (List.mem_append_left _ hx) with
          ⟨-, hnone⟩ | ⟨m, rfl, hfailed | hread⟩
        · cases q <;> cases hdone
          cases hnone
        · obtain ⟨failure, rfl, -⟩ := hfailed
          cases hdone
        · obtain ⟨search, rfl, hhas⟩ := hread
          cases hdone
          exact .trying hcriteria (.read hgiven hhas) (attempt_of_leaves hback hbeforeBack rfl)

variable {rest : Plan Service SavedSearch}

/-- A row with new criteria is read as the edited search. -/
lemma exists_ofRow_of_atVersion (now : Instant) {r : Record} (h : r.AtVersion n)
    (hcriteria : Criteria.read true filter = .ok criteria) :
    ∃ search, SavedSearch.ofRow now (.object (r.revised (.object criteria.toDocument) n)) =
        .ok search ∧ search.version = n + 1 ∧
      Criteria.read false (.object criteria.toDocument) = .ok search.criteria := by
  have hdocument := Criteria.read_toDocument (Criteria.canonical_of_read hcriteria) false
  have hpositive := h.positive
  obtain ⟨search, hsearch, -⟩ := h.exists_readFrom now
  have hrevised := (hsearch.setCriteria hdocument).setVersion (n := n + 1) (by omega)
  exact ⟨_, SavedSearch.ofRow_eq_ok_iff.2 hrevised, rfl, hdocument⟩

/-- The row that an edit has hit is read as the edited search. -/
lemma exists_ofRow_revised (now : Instant) {m : Memory} {r : Record} (hm : m.archive.Orderly)
    (hcriteria : Criteria.read true filter = .ok criteria)
    (hr : m.archive.find id = .ok (some r)) (hn : r.get? "version" = some (.int n)) :
    ∃ search, SavedSearch.ofRow now (.object (r.revised (.object criteria.toDocument) n)) =
        .ok search ∧ search.version = n + 1 ∧
      Criteria.read false (.object criteria.toDocument) = .ok search.criteria := by
  obtain ⟨s, k, rfl, hrow, hk⟩ := hm.atVersion_of_find hr
  obtain rfl : k = n := by simpa [hk.version] using hn
  exact exists_ofRow_of_atVersion now hk hcriteria

lemma Attempt.mem_tries {x : Exchange} (h : Attempt now id criteria version n past rest)
    (hx : x ∈ past) :
    x.request = .replaceCriteria id (.object criteria.toDocument) version ∨ x.request = .find id := by
  cases h <;> simp at hx
  case hit => exact .inl (by rw [hx])
  case missed => exact .inl (by rw [hx])
  all_goals
    rcases hx with rfl | rfl
    · exact .inl rfl
    · exact .inr rfl

/-- An edit that hit the row succeeds, and one that missed it does not. -/
lemma Attempt.succeeds_iff {x : Exchange} {key document v : Value}
    (h : Attempt now id criteria version n past rest)
    (hcriteria : Criteria.read true filter = .ok criteria)
    (hbefore : ∀ x ∈ past, x.before.archive.Orderly) (hx : x ∈ past)
    (hrequest : x.request = .replaceCriteria key document v) :
    (∃ search, rest.result? = some (.ok search)) ↔ x.before.archive.HasVersion id n := by
  cases h with
  | ahead h => cases hx
  | hit hr hn =>
    obtain rfl := List.mem_singleton.1 hx
    obtain ⟨search, hsearch, -⟩ :=
      exists_ofRow_revised now (hbefore _ hx) hcriteria hr hn
    simp only [Plan.result?_ofOutcome, hsearch]
    exact ⟨fun _ => ⟨_, hr, hn⟩, fun _ => ⟨search, rfl⟩⟩
  | missed h hrest =>
    obtain rfl := List.mem_singleton.1 hx
    refine iff_of_false ?_ h
    rintro ⟨search, hsearch⟩
    rcases hrest with hrest | rfl
    · rw [hrest] at hsearch
      cases hsearch
    · cases hsearch
  | stale h hr =>
    refine iff_of_false (by rintro ⟨_, h⟩; cases h) ?_
    simp only [List.mem_cons, List.not_mem_nil, or_false] at hx
    rcases hx with rfl | rfl
    · exact h
    · cases hrequest
  | gone h hfailure =>
    refine iff_of_false (by rintro ⟨_, h⟩; cases h) ?_
    simp only [List.mem_cons, List.not_mem_nil, or_false] at hx
    rcases hx with rfl | rfl
    · exact h
    · cases hrequest

lemma Attempt.exists_hit {search : SavedSearch} (h : Attempt now id criteria version n past rest)
    (hresult : rest.result? = some (.ok search)) :
    ∃ m r, past = [⟨.replaceCriteria id (.object criteria.toDocument) version, m⟩] ∧
      m.archive.find id = .ok (some r) ∧ r.get? "version" = some (.int n) ∧
      SavedSearch.ofRow now (.object (r.revised (.object criteria.toDocument) n)) = .ok search := by
  cases h with
  | ahead h =>
    rw [h] at hresult
    cases hresult
  | @hit m r hr hn =>
    rw [Plan.result?_ofOutcome, Option.some.injEq] at hresult
    exact ⟨m, r, rfl, hr, hn, hresult⟩
  | missed h hrest =>
    rcases hrest with hrest | rfl
    · rw [hrest] at hresult
      cases hresult
    · cases hresult
  | stale h hr => cases hresult
  | gone h hfailure => cases hresult

lemma after_eq_before_of_find {x : Exchange} (h : x.request = .find id) : x.after = x.before := by
  obtain ⟨request, m⟩ := x
  subst h
  rfl

/-- A miss changes nothing, nor does a look at the row. -/
lemma Attempt.after_eq_before (h : Attempt now id criteria version n past rest)
    (hcriteria : Criteria.read true filter = .ok criteria)
    (hversion : version.number? = some (.int n)) (hbefore : ∀ x ∈ past, x.before.archive.Orderly)
    (hresult : ∀ search, rest.result? ≠ some (.ok search)) : ∀ x ∈ past, x.after = x.before := by
  intro x hx
  rcases h.mem_tries hx with hrequest | hfind
  · have hmiss : ¬ x.before.archive.HasVersion id n := by
      intro hhas
      obtain ⟨search, hsearch⟩ := (h.succeeds_iff hcriteria hbefore hx hrequest).2 hhas
      exact hresult search hsearch
    have horderly := hbefore x hx
    obtain ⟨request, m⟩ := x
    subst hrequest
    rcases Memory.handle_replaceCriteria_miss horderly hversion hmiss with heq | heq <;>
      exact congrArg Prod.snd heq
  · exact after_eq_before_of_find hfind

lemma Attempt.stale_cases {s t : String} (h : Attempt now id criteria version n past rest)
    (hresult : rest.result? = some (.error (.staleVersion s t)))
    (hhit : ∀ x ∈ past, x.before.archive.Orderly)
    (hcriteria : Criteria.read true filter = .ok criteria) :
    ∃ m' r front, past = front ++ [⟨.find id, m'⟩] ∧ m'.archive.find id = .ok (some r) := by
  cases h with
  | ahead h =>
    rw [h] at hresult
    cases hresult
  | hit hr hn =>
    obtain ⟨search, hsearch, -⟩ :=
      exists_ofRow_revised now (hhit _ (List.mem_cons_self ..)) hcriteria hr hn
    rw [Plan.result?_ofOutcome, hsearch] at hresult
    cases hresult
  | missed h hrest =>
    rcases hrest with hrest | rfl
    · rw [hrest] at hresult
      cases hresult
    · cases hresult
  | @stale m m' r h hr => exact ⟨m', r, [_], rfl, hr⟩
  | gone h hfailure =>
    cases hresult
    exact absurd rfl (hfailure s t)

lemma Knows.mem_reads {reads : List Exchange} {x : Exchange} (h : Knows id given reads version n)
    (hx : x ∈ reads) : x.request = .find id := by
  cases h with
  | read hgiven h => rw [List.mem_singleton.1 hx]
  | given hgiven hn => cases hx

end Registry
end ListingSearch
