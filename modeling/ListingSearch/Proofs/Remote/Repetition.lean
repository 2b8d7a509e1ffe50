import ListingSearch.Proofs.Remote.Table
import ListingSearch.Proofs.SavedSearch.Edits

/-! What repeated queries of the saved searches come to. A write that was carried out unheard is
carried out once more, and only the last answer is heard: so a row may be inserted several times,
and an update or a deletion may find nothing left to change. -/
namespace ListingSearch

def Failure.IsStale : Failure → Prop
  | .staleVersion .. => True
  | _ => False

open Outcome (FailsAs)

lemma Value.next_failsAs (v : Value) : FailsAs (¬ ·.IsStale) v.next := by
  unfold next
  split
  · exact Outcome.failsAs_ok _
  · exact Outcome.failsAs_ok _
  · exact Outcome.failsAs_error not_false

namespace Remote

open Query (Clause)

namespace Table

variable {id version : Value} {r : Record}

def Under (id : Value) (r : Record) : Prop := admits r (withId id) = true

def Hit (id version : Value) (r : Record) : Prop :=
  Under id r ∧ admits r (.eq "version" version) = true

instance : Decidable (Under id r) := inferInstanceAs (Decidable (_ = true))

instance : Decidable (Hit id version r) := inferInstanceAs (Decidable (_ ∧ _))

lemma chosen_withId : chosen [withId id] r = true ↔ Under id r := by
  rw [chosen, List.all_cons, List.all_nil, Bool.and_true, Under]

lemma chosen_withVersion :
    chosen [withId id, .eq "version" version] r = true ↔ Hit id version r := by
  rw [chosen, List.all_cons, List.all_cons, List.all_nil, Bool.and_true, Bool.and_eq_true, Hit,
    Under]

def revision (now : Instant) (document version : Value) : Record :=
  [("criteria", document), ("version", version), ("updated_at", .text now.text)]

def replaced (now : Instant) (id document version : Value) (n : Int) (rows : List Record) :
    List Record :=
  rows.map fun r =>
    if Hit id version r then overwrite (revision now document (.int (n + 1))) r else r

variable {now : Instant} {document next : Value} {n : Int}

/-- A row whose version is a whole number has it no more once that was counted. -/
lemma chosen_revision (hversion : version.number? = some (.int n))
    (hnext : version.next = .ok next) (r : Record) :
    chosen [withId id, .eq "version" version] (overwrite (revision now document next) r) =
      false := by
  refine Bool.eq_false_iff.2 fun hchosen => ?_
  obtain ⟨-, hhit⟩ := chosen_withVersion.1 hchosen
  rw [Value.next, hversion] at hnext
  cases hnext
  simp (disch := decide) only [admits, overwrite, revision, List.foldl_cons, List.foldl_nil,
    Record.get_set_of_ne, Record.get_set_self, Bool.and_eq_true,
    Value.int_same_iff hversion] at hhit
  omega

lemma updated_revision (hversion : version.number? = some (.int n))
    (hnext : version.next = .ok next) (rows : List Record) :
    updated (revision now document next) [withId id, .eq "version" version] rows =
      replaced now id document version n rows := by
  rw [Value.next, hversion] at hnext
  cases hnext
  exact List.map_congr_left fun r _ => if_congr chosen_withVersion rfl rfl

end Table

namespace Wire

open Table (Under Hit)

variable {fates : Nat → Fate} {patience : Patience} {access : Access} {now : Instant} {w w' : Wire}
  {id : Value} {α : Type}

/-- What a request leaves that is answered after it was carried out unheard some times. -/
def heard (r : Request) (lost made : Nat) (w : Wire) : Wire :=
  ⟨(Table.after r)^[lost + 1] w.table, made, w.unheard + lost * r.writes.toNat⟩

/-- A query and what follows it. -/
lemma run_query_cases {purpose : String} {clauses : List Clause} {f : Response → Plan Remote α}
    {outcome : Outcome α}
    (h : (query purpose searchTable (.plain clauses) >>= f).run
      ((transport fates).handle patience) w = (outcome, w')) :
    (∃ reason, outcome = .error (.unreachable purpose reason)) ∨
      ∃ lost made, lost ≤ patience.attempts - 1 ∧
        (f (((Table.after (.ofSearches purpose clauses))^[lost] w.table).execute clauses).1).run
          ((transport fates).handle patience)
          (w.heard (.ofSearches purpose clauses) lost made) = (outcome, w') := by
  have hpersisted := persisted_query fates patience purpose clauses w
  generalize hquery : (query purpose searchTable (.plain clauses)).run
    ((transport fates).handle patience) w = result at hpersisted
  cases hpersisted with
  | unreachable lost more made reason =>
    rw [Plan.run_bind_of_error hquery] at h
    cases h
    exact .inl ⟨reason, rfl⟩
  | @answered lost more hlost made =>
    rw [Plan.run_bind_of_ok hquery, Table.carryOut_ofSearches] at h
    exact .inr ⟨lost, made, hlost, h⟩

lemma run_searchRow_cases {purpose : String} {clauses : List Clause}
    {outcome : Outcome (Option Value)}
    (h : (searchRow purpose clauses).run ((transport fates).handle patience) w = (outcome, w')) :
    (∃ reason, outcome = .error (.unreachable purpose reason)) ∨
      ∃ lost made, lost ≤ patience.attempts - 1 ∧
        outcome = (((Table.after (.ofSearches purpose clauses))^[lost] w.table).execute
          clauses).1.first? ∧
        w' = w.heard (.ofSearches purpose clauses) lost made := by
  rcases run_query_cases h with hreason | ⟨lost, made, hlost, hrun⟩
  · exact .inl hreason
  · rw [Plan.run_ofOutcome] at hrun
    obtain ⟨rfl, rfl⟩ := Prod.mk.inj hrun
    exact .inr ⟨lost, made, hlost, rfl, rfl⟩

/-- A query of which the first row counts answers with rows. -/
lemma run_searchRow?_cases {purpose : String} {clauses : List Clause}
    {outcome : Outcome (Option Value)} (rows : Nat → List Record)
    (hrows : ∀ lost, (((Table.after (.ofSearches purpose clauses))^[lost] w.table).execute
      clauses).1 = Table.answer (rows lost))
    (h : (searchRow? purpose clauses).run ((transport fates).handle patience) w = (outcome, w')) :
    (∃ reason, outcome = .error (.unreachable purpose reason)) ∨
      ∃ lost made, lost ≤ patience.attempts - 1 ∧
        outcome = .ok ((rows lost).head?.map .object) ∧
        w' = w.heard (.ofSearches purpose clauses) lost made := by
  obtain ⟨row, hrow, rfl⟩ := Plan.exists_of_run_map h
  rcases run_searchRow_cases hrow with ⟨reason, rfl⟩ | ⟨lost, made, hlost, rfl, hw⟩
  · exact .inl ⟨reason, rfl⟩
  · refine .inr ⟨lost, made, hlost, ?_, hw⟩
    rw [hrows, Table.first?_answer]
    cases (rows lost).head? <;> rfl

/-- A write was carried out unheard and was made again. Where only one attempt is made, this cannot
be. -/
def Repeated (patience : Patience) (w w' : Wire) : Prop :=
  w.unheard < w'.unheard ∧ w'.unheard < w.unheard + patience.attempts

/-- Nothing is carried out unheard by a request that changes nothing. -/
lemma unheard_heard_of_reads {r : Request} (h : r.writes = false) (lost made : Nat) (w : Wire) :
    (w.heard r lost made).unheard = w.unheard := by
  simp only [heard, h, Bool.toNat_false, Nat.mul_zero, Nat.add_zero]

lemma unheard_heard_of_writes {r : Request} (h : r.writes = true) (lost made : Nat) (w : Wire) :
    (w.heard r lost made).unheard = w.unheard + lost := by
  simp only [heard, h, Bool.toNat_true, Nat.mul_one]

lemma repeated_heard {r : Request} (h : r.writes = true) {lost : Nat} (hlost : lost ≠ 0)
    (hle : lost ≤ patience.attempts - 1) (made : Nat) (w : Wire) :
    Repeated patience w (w.heard r lost made) := by
  rw [Repeated, unheard_heard_of_writes h]
  omega

/-- A request to the stores is carried out by queries. -/
lemma run_request (r : Service.Request) (w : Wire) :
    (Plan.request (I := Service) r).run (client fates patience access now) w =
      (answer access now r).run ((transport fates).handle patience) w := by
  rw [Plan.run_request, client, service]

/-- A row is found to be deleted only if nothing was carried out unheard, and none is found only if
there is none or if it was deleted before. In any case it is deleted then. -/
lemma run_delete_cases {outcome : Outcome Bool}
    (h : (Plan.request (I := Service) (.delete id)).run (client fates patience access now) w =
      (outcome, w')) :
    (∃ operation reason, outcome = .error (.unreachable operation reason)) ∨
      w'.table.rows = w.table.rows.filter (¬ Under id ·) ∧
        ((outcome = .ok true ∧ w'.unheard = w.unheard ∧ ∃ r ∈ w.table.rows, Under id r) ∨
          (outcome = .ok false ∧ (Repeated patience w w' ∨ ∀ r ∈ w.table.rows, ¬ Under id r))) := by
  rw [run_request, answer, delete] at h
  rcases run_query_cases h with ⟨reason, rfl⟩ | ⟨lost, made, hle, hrun⟩
  · exact .inl ⟨_, reason, rfl⟩
  · right
    simp only [Table.execute, Table.rows_answer, Table.filter_iterate Table.filter_deleted] at hrun
    obtain ⟨rfl, rfl⟩ := Prod.mk.inj hrun
    refine ⟨(Table.iterate_deleted lost w.table).trans ?_, ?_⟩
    · exact List.filter_congr fun r _ => Bool.eq_iff_iff.2 (by simp [← Table.chosen_withId])
    by_cases hlost : lost = 0
    · subst hlost
      rw [if_pos rfl, List.isEmpty_map]
      cases hfound : w.table.rows.filter (Table.chosen [withId id]) with
      | nil =>
        refine .inr ⟨rfl, .inr fun r hr hunder => ?_⟩
        exact List.filter_eq_nil_iff.1 hfound r hr (Table.chosen_withId.2 hunder)
      | cons r rows =>
        obtain ⟨hr, hchosen⟩ := List.mem_filter.1 (hfound ▸ List.mem_cons_self ..)
        exact .inl ⟨rfl, unheard_heard_of_writes rfl .., r, hr, Table.chosen_withId.1 hchosen⟩
    · rw [if_neg hlost]
      exact .inr ⟨rfl, .inl (repeated_heard rfl hlost hle ..)⟩

/-- The first row under the identifier is found, and finding it changes nothing. -/
lemma run_find_cases {outcome : Outcome (Option Value)}
    (h : (Plan.request (I := Service) (.find id)).run (client fates patience access now) w =
      (outcome, w')) :
    (∃ operation reason, outcome = .error (.unreachable operation reason)) ∨
      w'.table = w.table ∧ w'.unheard = w.unheard ∧
        outcome = .ok ((w.table.rows.find? (Table.chosen [withId id])).map .object) := by
  rw [run_request, answer] at h
  have hrows (lost : Nat) : (((Table.after (.ofSearches "hot_sheets.get"
      [.select "*", withId id, .limit 1]))^[lost] w.table).execute
        [.select "*", withId id, .limit 1]).1 =
          Table.answer ((w.table.rows.filter (Table.chosen [withId id])).take 1) := by
    rw [Table.iterate_selected]
    rfl
  rcases run_searchRow?_cases _ hrows h with ⟨reason, rfl⟩ | ⟨lost, made, -, rfl, rfl⟩
  · exact .inl ⟨_, reason, rfl⟩
  · refine .inr ⟨Table.iterate_selected .., unheard_heard_of_reads rfl .., ?_⟩
    rw [List.head?_take, if_neg one_ne_zero, List.head?_filter]

/-- No row is found to be updated only if none was chosen or if it was updated before. An update
that leaves nothing to update comes to one update, and a row is found only if nothing was carried
out unheard. -/
lemma run_update_cases {purpose : String} {fields : Record} {clauses : List Clause}
    {outcome : Outcome (Option Value)}
    (h : (searchRow? purpose (.update fields :: clauses)).run ((transport fates).handle patience)
      w = (outcome, w')) :
    (∃ reason, outcome = .error (.unreachable purpose reason)) ∨
      ((∀ r, Table.chosen clauses (Table.overwrite fields r) = false) →
        w'.table.rows = Table.updated fields clauses w.table.rows) ∧
      ((∃ row, outcome = .ok (some row) ∧
        ((∀ r, Table.chosen clauses (Table.overwrite fields r) = false) →
          w'.unheard = w.unheard ∧ ∃ r ∈ w.table.rows, Table.chosen clauses r = true)) ∨
        outcome = .ok none ∧ (Repeated patience w w' ∨
          w'.table.rows = w.table.rows ∧ ∀ r ∈ w.table.rows, ¬ Table.chosen clauses r = true)) := by
  rcases run_searchRow?_cases (fun lost => (((Table.after (.ofSearches purpose
    (.update fields :: clauses)))^[lost] w.table).rows.filter (Table.chosen clauses)).map
      (Table.overwrite fields)) (fun _ => rfl) h with hreason | ⟨lost, made, hle, rfl, rfl⟩
  · exact .inl hreason
  refine .inr ⟨fun hstops => Table.iterate_updated hstops lost w.table, ?_⟩
  -- The answer that is heard tells of the rows that were left by the updates before.
  by_cases hlost : lost = 0
  · subst hlost
    rw [Function.iterate_zero_apply]
    cases hfound : w.table.rows.filter (Table.chosen clauses) with
    | nil =>
      have hrows : (w.heard (.ofSearches purpose (.update fields :: clauses)) 0 made).table.rows =
          w.table.rows :=
        (Table.rows_updated purpose w.table).trans (Table.updated_of_filter_eq_nil hfound)
      exact .inr ⟨rfl, .inr ⟨hrows, List.filter_eq_nil_iff.1 hfound⟩⟩
    | cons r rows =>
      have hr : r ∈ w.table.rows.filter (Table.chosen clauses) := hfound ▸ List.mem_cons_self ..
      exact .inl ⟨_, rfl, fun _ => ⟨unheard_heard_of_writes rfl .., r, List.mem_filter.1 hr⟩⟩
  · cases hfound : ((Table.after (.ofSearches purpose (.update fields :: clauses)))^[lost]
      w.table).rows.filter (Table.chosen clauses) with
    | nil => exact .inr ⟨rfl, .inl (repeated_heard rfl hlost hle ..)⟩
    | cons r rows =>
      refine .inl ⟨_, rfl, fun hstops => ?_⟩
      rw [Table.filter_iterate (Table.filter_updated hstops), if_neg hlost] at hfound
      cases hfound

/-- Criteria are not found to be replaced only if no row has the version or if they were replaced
before. As a whole number is no version of a row any more once it was counted, they are replaced
once then, and they are found to be replaced only if nothing was carried out unheard. -/
lemma run_replaceCriteria_cases {document version : Value} {outcome : Outcome (Option Value)}
    (h : (Plan.request (I := Service) (.replaceCriteria id document version)).run
      (client fates patience access now) w = (outcome, w')) :
    (∃ failure, outcome = .error failure ∧ ¬ failure.IsStale) ∨
      (∀ n, version.number? = some (.int n) →
        w'.table.rows = Table.replaced now id document version n w.table.rows) ∧
      ((∃ row, outcome = .ok (some row) ∧ ((∃ n, version.number? = some (.int n)) →
        w'.unheard = w.unheard ∧ ∃ r ∈ w.table.rows, Hit id version r)) ∨
        outcome = .ok none ∧ (Repeated patience w w' ∨
          w'.table.rows = w.table.rows ∧ ∀ r ∈ w.table.rows, ¬ Hit id version r)) := by
  rw [run_request, answer, replaceCriteria] at h
  obtain ⟨counted, u, hnext, hrun, hfailed⟩ := Plan.exists_of_run_bind h
  rw [Plan.run_ofOutcome] at hnext
  obtain ⟨rfl, rfl⟩ := Prod.mk.inj hnext
  cases hcounted : version.next with
  | error failure =>
    obtain ⟨rfl, -⟩ := hfailed failure hcounted
    exact .inl ⟨failure, rfl, Value.next_failsAs _ _ hcounted⟩
  | ok next =>
    rcases run_update_cases (hrun next hcounted) with ⟨reason, rfl⟩ | ⟨hrows, htold⟩
    · exact .inl ⟨_, rfl, not_false⟩
    simp only [Table.chosen_withVersion] at htold
    refine .inr ⟨fun n hn => ?_, htold.imp_left fun ⟨row, hrow, hmet⟩ => ⟨row, hrow, ?_⟩⟩
    · exact (hrows (Table.chosen_revision hn hcounted)).trans
        (Table.updated_revision hn hcounted _)
    · rintro ⟨n, hn⟩
      exact hmet (Table.chosen_revision hn hcounted)

/-- Creating inserts the row as often as it is carried out. -/
lemma run_create_cases {search : SavedSearch} {outcome : Outcome (Option Value)}
    (h : (Plan.request (I := Service) (.create search)).run (client fates patience access now) w =
      (outcome, w')) :
    (∃ operation reason, outcome = .error (.unreachable operation reason)) ∨
      ∃ added : List Record, w'.table.rows = w.table.rows ++ added ∧
        w.unheard + added.length = w'.unheard + 1 ∧
        (w'.unheard = w.unheard ∨ Repeated patience w w') ∧
        ∀ r ∈ added, ∃ id : String, r = search.toRow.set "id" (.text id) := by
  rw [run_request, answer] at h
  rcases run_searchRow_cases h with ⟨reason, rfl⟩ | ⟨lost, made, hle, rfl, rfl⟩
  · exact .inl ⟨_, reason, rfl⟩
  obtain ⟨added, hrows, hlength, hadded⟩ :=
    Table.iterate_inserted "hot_sheets.create" search.toRow (lost + 1) w.table
  refine .inr ⟨added, hrows, ?_, ?_, hadded⟩
  · rw [unheard_heard_of_writes rfl, hlength, Nat.add_assoc]
  · by_cases hlost : lost = 0
    · rw [hlost]
      exact .inl (unheard_heard_of_writes rfl ..)
    · exact .inr (repeated_heard rfl hlost hle ..)

end Wire
end Remote
end ListingSearch
