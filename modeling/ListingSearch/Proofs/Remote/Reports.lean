import ListingSearch.Proofs.Remote.Repetition

/-! What callers are told of their writes. As long as no write was carried out unheard, they are
told the truth: a search that was created is stored once, and one that is told to be stale or
missing was so before. A write that was carried out unheard and made again stores the new search
once more, or it is told that there was nothing to change. -/
namespace ListingSearch

open Outcome (FailsAs)

lemma Failure.OfReading.not_isStale {failure : Failure} (h : failure.OfReading) :
    ¬ failure.IsStale := by
  intro hstale
  cases failure with
  | staleVersion id version => exact h
  | _ => exact hstale

lemma Value.members_failsAs (v : Value) : FailsAs (¬ ·.IsStale) v.members := by
  unfold members
  split
  · exact Outcome.failsAs_ok _
  · exact Outcome.failsAs_error not_false

lemma Value.memberSet_failsAs (vs : List Value) : FailsAs (¬ ·.IsStale) (memberSet vs) := by
  unfold memberSet
  split
  · exact Outcome.failsAs_ok _
  · exact Outcome.failsAs_error not_false

lemma SavedSearch.distinctMembers_failsAs (v : Value) :
    FailsAs (¬ ·.IsStale) (distinctMembers v) := by
  unfold distinctMembers
  split
  · exact v.members_failsAs.bind Value.memberSet_failsAs
  · exact Outcome.failsAs_ok _

lemma SavedSearch.ofRow_failsAs (now : Instant) (row : Value) :
    FailsAs (¬ ·.IsStale) (ofRow now row) := by
  cases row with
  | object r =>
    have hread : FailsAs (¬ ·.IsStale) (Criteria.read false (Record.get r "criteria")) :=
      fun failure h => (Criteria.read_failsAs failure h).not_isStale
    refine hread.bind fun criteria => (distinctMembers_failsAs _).bind fun delivered => ?_
    cases ofColumns r criteria delivered now with
    | valid search => exact Outcome.failsAs_ok search
    | faulty faults => exact Outcome.failsAs_error not_false
  | _ => exact Outcome.failsAs_error not_false

namespace Remote.Wire

open Table (Under Hit)

variable {fates : Nat → Fate} {patience : Patience} {access : Access} {now : Instant} {w w' : Wire}
  {id : Value}

/-- The version that an edit expects: the one that is given, or the one that is read from the first
row under the identifier. -/
inductive Expects (now : Instant) (id given : Value) (rows : List Record) : Value → Prop
  | given (h : given.isNull = false) : Expects now id given rows given
  | read {r : Record} {search : SavedSearch} (hnull : given.isNull = true)
    (hrow : rows.find? (Table.chosen [withId id]) = some r)
    (hread : SavedSearch.ofRow now (.object r) = .ok search) :
    Expects now id given rows (.int search.version)

lemma run_get_cases {outcome : Outcome SavedSearch}
    (h : (Registry.get now id).run (client fates patience access now) w = (outcome, w')) :
    (∃ failure, outcome = .error failure ∧ ¬ failure.IsStale) ∨
      ∃ r search, outcome = .ok search ∧ w'.table = w.table ∧ w'.unheard = w.unheard ∧
        w.table.rows.find? (Table.chosen [withId id]) = some r ∧
        SavedSearch.ofRow now (.object r) = .ok search := by
  rw [Registry.get] at h
  obtain ⟨found, u, hfind, hrun, hfailed⟩ := Plan.exists_of_run_bind h
  rcases run_find_cases hfind with ⟨_, _, rfl⟩ | ⟨htable, hunheard, rfl⟩
  · obtain ⟨rfl, -⟩ := hfailed _ rfl
    exact .inl ⟨_, rfl, not_false⟩
  have hend := hrun _ rfl
  cases hpresent : Registry.present?
    ((w.table.rows.find? (Table.chosen [withId id])).map .object) with
  | none =>
    rw [hpresent] at hend
    cases hend
    exact .inl ⟨_, rfl, not_false⟩
  | some row =>
    rw [hpresent, Plan.run_ofOutcome] at hend
    obtain ⟨rfl, rfl⟩ := Prod.mk.inj hend
    obtain ⟨hrow, -⟩ := Option.filter_eq_some_iff.1 hpresent
    obtain ⟨r, hr, rfl⟩ := Option.map_eq_some_iff.1 hrow
    cases hread : SavedSearch.ofRow now (.object r) with
    | error failure => exact .inl ⟨failure, rfl, SavedSearch.ofRow_failsAs _ _ _ hread⟩
    | ok search => exact .inr ⟨r, search, rfl, htable, hunheard, hr, hread⟩

/-- What comes of an edit that knows the version: only after the row was missed it is told that
somebody else changed it. -/
lemma run_replacing_cases {criteria : Criteria} {version : Value} {outcome : Outcome SavedSearch}
    (h : (Registry.replacing now id criteria version).run (client fates patience access now) w =
      (outcome, w')) :
    (∃ failure, outcome = .error failure ∧ ¬ failure.IsStale) ∨
      (∀ n, version.number? = some (.int n) → w'.table.rows =
        Table.replaced now id (.object criteria.toDocument) version n w.table.rows) ∧
      ((∃ search, outcome = .ok search ∧ ((∃ n, version.number? = some (.int n)) →
        w'.unheard = w.unheard ∧ ∃ r ∈ w.table.rows, Hit id version r)) ∨
        outcome = .error (.staleVersion id.display version.display) ∧ (Repeated patience w w' ∨
          (∃ r ∈ w.table.rows, Under id r) ∧ ∀ r ∈ w.table.rows, ¬ Hit id version r)) := by
  rw [Registry.replacing] at h
  obtain ⟨answer, u, hreplace, hrun, hfailed⟩ := Plan.exists_of_run_bind h
  rcases run_replaceCriteria_cases hreplace with ⟨failure, rfl, hother⟩ |
    ⟨hreplaced, ⟨row, rfl, htold⟩ | ⟨rfl, htold⟩⟩
  · obtain ⟨rfl, -⟩ := hfailed failure rfl
    exact .inl ⟨failure, rfl, hother⟩
  · have hend := hrun _ rfl
    rw [Plan.run_ofOutcome] at hend
    obtain ⟨rfl, rfl⟩ := Prod.mk.inj hend
    cases hread : SavedSearch.ofRow now row with
    | error failure => exact .inl ⟨failure, rfl, SavedSearch.ofRow_failsAs _ _ _ hread⟩
    | ok search => exact .inr ⟨hreplaced, .inl ⟨search, rfl, htold⟩⟩
  · obtain ⟨found, v, hfind, hrun, hfailed⟩ := Plan.exists_of_run_bind (hrun _ rfl)
    rcases run_find_cases hfind with ⟨_, _, rfl⟩ | ⟨htable, hunheard, rfl⟩
    · obtain ⟨rfl, -⟩ := hfailed _ rfl
      exact .inl ⟨_, rfl, not_false⟩
    have hend := hrun _ rfl
    cases hfound : u.table.rows.find? (Table.chosen [withId id]) with
    | none =>
      rw [hfound] at hend
      cases hend
      exact .inl ⟨_, rfl, not_false⟩
    | some r =>
      rw [hfound] at hend
      cases hend
      rw [Repeated, hunheard, htable]
      refine .inr ⟨hreplaced, .inr ⟨rfl, htold.imp_right (And.imp_left fun hrows => ?_)⟩⟩
      -- A miss at the first attempt changed nothing, so the row that is found was there before.
      rw [hrows] at hfound
      exact ⟨r, List.mem_of_find?_eq_some hfound, Table.chosen_withId.1 (List.find?_some hfound)⟩

/-- What comes of an edit. -/
lemma run_edit_cases {filter given : Value} {outcome : Outcome SavedSearch}
    (h : (Registry.edit now id filter given).run (client fates patience access now) w =
      (outcome, w')) :
    (∃ failure, outcome = .error failure ∧ ¬ failure.IsStale) ∨
      ∃ criteria expected, Criteria.read true filter = .ok criteria ∧
        Expects now id given w.table.rows expected ∧
        (∀ n, expected.number? = some (.int n) → w'.table.rows =
          Table.replaced now id (.object criteria.toDocument) expected n w.table.rows) ∧
        ((∃ search, outcome = .ok search ∧ ((∃ n, expected.number? = some (.int n)) →
          w'.unheard = w.unheard ∧ ∃ r ∈ w.table.rows, Hit id expected r)) ∨
          outcome = .error (.staleVersion id.display expected.display) ∧
            (Repeated patience w w' ∨
              (∃ r ∈ w.table.rows, Under id r) ∧ ∀ r ∈ w.table.rows, ¬ Hit id expected r)) := by
  rw [Registry.edit_eq] at h
  obtain ⟨x, u, hcriteria, hrun, hfailed⟩ := Plan.exists_of_run_bind h
  rw [Plan.run_ofOutcome] at hcriteria
  obtain ⟨rfl, rfl⟩ := Prod.mk.inj hcriteria
  cases hread : Criteria.read true filter with
  | error failure =>
    obtain ⟨rfl, -⟩ := hfailed failure hread
    exact .inl ⟨failure, rfl, (Criteria.read_failsAs _ hread).not_isStale⟩
  | ok criteria =>
    have hedit := hrun criteria hread
    cases hgiven : given.isNull with
    | false =>
      rw [hgiven] at hedit
      exact (run_replacing_cases hedit).imp_right fun htold =>
        ⟨criteria, given, rfl, .given hgiven, htold⟩
    | true =>
      rw [hgiven] at hedit
      have hreading : (((fun s => Value.int s.version) <$> Registry.get now id) >>=
        Registry.replacing now id criteria).run (client fates patience access now) w =
          (outcome, w') := hedit
      obtain ⟨version, v, hversion, hrest, hunread⟩ := Plan.exists_of_run_bind hreading
      obtain ⟨got, hget, rfl⟩ := Plan.exists_of_run_map hversion
      rcases run_get_cases hget with ⟨failure, rfl, hother⟩ |
        ⟨r, search, rfl, htable, hunheard, hrow, hofRow⟩
      · obtain ⟨rfl, -⟩ := hunread failure rfl
        exact .inl ⟨failure, rfl, hother⟩
      · have hcases := run_replacing_cases (hrest _ rfl)
        rw [Repeated, htable, hunheard] at hcases
        exact hcases.imp_right fun htold => ⟨criteria, _, rfl, .read hgiven hrow hofRow, htold⟩

/-- What comes of a creation: every time its insertion is carried out, there is one row more. -/
lemma run_create_eq_ok {owner name filter : Value} {search : SavedSearch}
    (h : (Registry.create now owner name filter).run (client fates patience access now) w =
      (.ok search, w')) :
    ∃ criteria holder title added, Criteria.read true filter = .ok criteria ∧
      SavedSearch.checkOwner owner = .ok holder ∧ SavedSearch.checkName name = .ok title ∧
      w'.table.rows = w.table.rows ++ added ∧ w.unheard + added.length = w'.unheard + 1 ∧
      (w'.unheard = w.unheard ∨ Repeated patience w w') ∧
      ∀ r ∈ added, ∃ id : String,
        r = (SavedSearch.create holder title criteria now).toRow.set "id" (.text id) := by
  rw [Registry.create] at h
  obtain ⟨criteria, _, hread, h⟩ := Plan.run_bind_eq_ok h
  obtain ⟨hcriteria, rfl⟩ := Plan.run_ofOutcome_eq_ok hread
  obtain ⟨title, _, hnamed, h⟩ := Plan.run_bind_eq_ok h
  obtain ⟨htitle, rfl⟩ := Plan.run_ofOutcome_eq_ok hnamed
  obtain ⟨holder, _, howned, h⟩ := Plan.run_bind_eq_ok h
  obtain ⟨hholder, rfl⟩ := Plan.run_ofOutcome_eq_ok howned
  obtain ⟨row, u, hinsert, hend⟩ := Plan.run_bind_eq_ok h
  obtain rfl : u = w' := by
    cases hpresent : Registry.present? row with
    | none =>
      rw [hpresent] at hend
      cases hend
      rfl
    | some value =>
      rw [hpresent] at hend
      exact (Plan.run_ofOutcome_eq_ok hend).2
  rcases run_create_cases hinsert with ⟨_, _, hfailure⟩ | ⟨added, hrows, hcount, hunheard, hadded⟩
  · cases hfailure
  · exact ⟨criteria, holder, title, added, hcriteria, hholder, htitle, hrows, hcount, hunheard,
      hadded⟩

/-- What comes of a deletion. -/
lemma run_deletion_cases {outcome : Outcome Unit}
    (h : (Registry.delete id).run (client fates patience access now) w = (outcome, w')) :
    (∃ operation reason, outcome = .error (.unreachable operation reason)) ∨
      w'.table.rows = w.table.rows.filter (¬ Under id ·) ∧
        ((outcome = .ok () ∧ w'.unheard = w.unheard ∧ ∃ r ∈ w.table.rows, Under id r) ∨
          (outcome = .error (.notFound id.display) ∧
            (Repeated patience w w' ∨ ∀ r ∈ w.table.rows, ¬ Under id r))) := by
  rw [Registry.delete] at h
  obtain ⟨found, u, hdelete, hrun, hfailed⟩ := Plan.exists_of_run_bind h
  rcases run_delete_cases hdelete with ⟨_, _, rfl⟩ | ⟨hdeleted, ⟨rfl, htold⟩ | ⟨rfl, htold⟩⟩
  · obtain ⟨rfl, -⟩ := hfailed _ rfl
    exact .inl ⟨_, _, rfl⟩
  · cases hrun _ rfl
    exact .inr ⟨hdeleted, .inl ⟨rfl, htold⟩⟩
  · cases hrun _ rfl
    exact .inr ⟨hdeleted, .inr ⟨rfl, htold⟩⟩

/-- What callers are told of their writes, what was written, and when they are told the truth. -/
structure Tells (fates : Nat → Fate) (patience : Patience) (access : Access) (now : Instant)
    (w : Wire) : Prop where
  /-- A search that is told to be created was stored once, and once more for each time that this
  went unheard. -/
  created (owner name filter : Value) (search : SavedSearch) (w' : Wire) :
    (Registry.create now owner name filter).run (client fates patience access now) w =
      (.ok search, w') →
    ∃ criteria holder title added, Criteria.read true filter = .ok criteria ∧
      SavedSearch.checkOwner owner = .ok holder ∧ SavedSearch.checkName name = .ok title ∧
      w'.table.rows = w.table.rows ++ added ∧ w.unheard + added.length = w'.unheard + 1 ∧
      (w'.unheard = w.unheard ∨ Repeated patience w w') ∧
      ∀ r ∈ added, ∃ id : String,
        r = (SavedSearch.create holder title criteria now).toRow.set "id" (.text id)
  /-- Criteria of a version that is a whole number are told to be replaced only if a row had the
  version and this did not go unheard; they were replaced once. -/
  edited (id filter given : Value) (search : SavedSearch) (w' : Wire) :
    (Registry.edit now id filter given).run (client fates patience access now) w =
      (.ok search, w') →
    ∃ criteria expected, Criteria.read true filter = .ok criteria ∧
      Expects now id given w.table.rows expected ∧
      ∀ n, expected.number? = some (.int n) →
        w'.table.rows =
          Table.replaced now id (.object criteria.toDocument) expected n w.table.rows ∧
        w'.unheard = w.unheard ∧ ∃ r ∈ w.table.rows, Hit id expected r
  /-- A search is told to be changed by somebody else only if its version was another one, or if its
  criteria were replaced unheard, which was once then. -/
  stale (id filter given : Value) (s version : String) (w' : Wire) :
    (Registry.edit now id filter given).run (client fates patience access now) w =
      (.error (.staleVersion s version), w') →
    ∃ criteria expected, Criteria.read true filter = .ok criteria ∧
      Expects now id given w.table.rows expected ∧
      (∀ n, expected.number? = some (.int n) → w'.table.rows =
        Table.replaced now id (.object criteria.toDocument) expected n w.table.rows) ∧
      (Repeated patience w w' ∨
        (∃ r ∈ w.table.rows, Under id r) ∧ ∀ r ∈ w.table.rows, ¬ Hit id expected r)
  /-- A search is told to be deleted only if it was there and this did not go unheard. -/
  deleted (id : Value) (w' : Wire) :
    (Registry.delete id).run (client fates patience access now) w = (.ok (), w') →
    w'.table.rows = w.table.rows.filter (¬ Under id ·) ∧
      w'.unheard = w.unheard ∧ ∃ r ∈ w.table.rows, Under id r
  /-- A search is told to be missing only if it was not there, or if it was deleted unheard. -/
  missing (id : Value) (s : String) (w' : Wire) :
    (Registry.delete id).run (client fates patience access now) w = (.error (.notFound s), w') →
    w'.table.rows = w.table.rows.filter (¬ Under id ·) ∧
      (Repeated patience w w' ∨ ∀ r ∈ w.table.rows, ¬ Under id r)

/-- Whatever becomes of the attempts, what is told is true, unless a write was carried out unheard
and made again; and only a creation has its effect more than once. -/
theorem tells (fates : Nat → Fate) (patience : Patience) (access : Access) (now : Instant)
    (w : Wire) : Tells fates patience access now w where
  created owner name filter search w' h := run_create_eq_ok h
  edited id filter given search w' h := by
    rcases run_edit_cases h with ⟨_, hfailure, -⟩ |
      ⟨criteria, expected, hread, hexpected, hreplaced, ⟨_, -, htold⟩ | ⟨hstale, -⟩⟩
    · cases hfailure
    · exact ⟨criteria, expected, hread, hexpected, fun n hn => ⟨hreplaced n hn, htold ⟨n, hn⟩⟩⟩
    · cases hstale
  stale id filter given s version w' h := by
    rcases run_edit_cases h with ⟨_, hfailure, hother⟩ |
      ⟨criteria, expected, hread, hexpected, hreplaced, ⟨_, hedited, -⟩ | ⟨-, htold⟩⟩
    · cases hfailure
      exact absurd trivial hother
    · cases hedited
    · exact ⟨criteria, expected, hread, hexpected, hreplaced, htold⟩
  deleted id w' h := by
    rcases run_deletion_cases h with ⟨_, _, hfailure⟩ | ⟨hrows, ⟨-, htold⟩ | ⟨hmissing, -⟩⟩
    · cases hfailure
    · exact ⟨hrows, htold⟩
    · cases hmissing
  missing id s w' h := by
    rcases run_deletion_cases h with ⟨_, _, hfailure⟩ | ⟨hrows, ⟨hdeleted, -⟩ | ⟨-, htold⟩⟩
    · cases hfailure
    · cases hdeleted
    · exact ⟨hrows, htold⟩

def oneSearch : Wire :=
  ⟨{ rows := [[("id", .text "hs-1"), ("user_id", .text "ana"), ("name", .text "Centro"),
        ("version", .int 1)]]
     newId := fun n => if n = 0 then "hs-2" else "hs-3" }, 0, 0⟩

/-- Only the first answer is lost. -/
def firstLost : Nat → Fate
  | 0 => .unheard "timed out"
  | _ => .heard

/-- After one lost answer, a saved search is told to be missing that was there, it is told to be
changed by somebody else although it had the version, and another one is stored twice. -/
theorem tells_firstLost :
    let now : Instant := ⟨⟨2026, 3, 15⟩, 12, 30, 0, 0, some 0⟩
    let handle := client firstLost { maxPause := .zero false } { sender := "", pageLimit := 1 } now
    let deletion := (Registry.delete (.text "hs-1")).run handle oneSearch
    let edit := (Registry.edit now (.text "hs-1") (.object []) (.int 1)).run handle oneSearch
    let creation := (Registry.create now (.text "ana") (.text "Playa") (.object [])).run handle
      oneSearch
    (∃ r ∈ oneSearch.table.rows, Hit (.text "hs-1") (.int 1) r) ∧
      deletion.1 = .error (.notFound "hs-1") ∧
      discard edit.1 = .error (.staleVersion "hs-1" "1") ∧
      discard creation.1 = .ok () ∧
      creation.2.table.rows.length = oneSearch.table.rows.length + 2 := by
  decide +kernel

end Remote.Wire
end ListingSearch
