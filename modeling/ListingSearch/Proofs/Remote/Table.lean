import ListingSearch.Proofs.Plan
import ListingSearch.Remote.Retry
import ListingSearch.Remote.Stores
import Mathlib.Logic.Function.Iterate

/-! The table of saved searches behind the service, and a way to it on which answers get lost. An
attempt may not arrive, or it may be carried out without its answer being heard, and both look alike
to the one who repeats it. What comes of a request that is repeated in this way is told by how often
it was carried out unheard. -/
namespace ListingSearch.Remote

open Query (Clause)

/-- The stored rows, and the identifiers that new rows get. -/
structure Table where
  rows : List Record
  newId : Nat → String
  issued : Nat := 0

namespace Table

/-- The row passes a restriction. Nothing is equal to null. -/
def admits (r : Record) : Clause → Bool
  | .eq field v => (r.get field).same v && !v.isNull
  | _ => true

def chosen (clauses : List Clause) (r : Record) : Bool := clauses.all (admits r)

def overwrite (fields r : Record) : Record := fields.foldl (fun r field => r.set field.1 field.2) r

def limited (rows : List Record) : List Clause → List Record
  | [] => rows
  | .limit n :: clauses => limited (rows.take n.toNat) clauses
  | _ :: clauses => limited rows clauses

def answer (rows : List Record) : Response := { data := .list (rows.map .object) }

/-- Carries out a query. A change answers with the rows that it concerned. -/
def execute (t : Table) : List Clause → Response × Table
  | .insert row :: _ =>
    let row := row.set "id" (.text (t.newId t.issued))
    (answer [row], { t with rows := t.rows ++ [row], issued := t.issued + 1 })
  | .update fields :: clauses =>
    (answer ((t.rows.filter (chosen clauses)).map (overwrite fields)),
      { t with rows := t.rows.map fun r => if chosen clauses r then overwrite fields r else r })
  | .delete :: clauses =>
    (answer (t.rows.filter (chosen clauses)),
      { t with rows := t.rows.filter fun r => !chosen clauses r })
  | .select _ :: clauses => (answer (limited (t.rows.filter (chosen clauses)) clauses), t)
  | _ => ({}, t)

/-- Carries out a request; only queries of the saved searches concern the table. -/
def carryOut (t : Table) : Request → Response × Table
  | .query _ table draft => if table = searchTable then t.execute draft.clauses else ({}, t)
  | _ => ({}, t)

def after (r : Request) (t : Table) : Table := (t.carryOut r).2

end Table

/-- A query of the saved searches. -/
abbrev Request.ofSearches (purpose : String) (clauses : List Clause) : Request :=
  .query purpose searchTable (.plain clauses)

def Request.writes : Request → Bool
  | .query _ _ draft => draft.clauses.any fun
    | .insert _ | .update _ | .delete => true
    | _ => false
  | _ => false

namespace Table

variable {t : Table} {clauses : List Clause} {purpose : String} {fields : Record}

lemma rows_answer (rows : List Record) : (answer rows).rows = .ok (rows.map .object) := by
  cases rows <;> rfl

lemma first?_answer (rows : List Record) : (answer rows).first? = .ok (rows.head?.map .object) := by
  cases rows <;> rfl

lemma carryOut_ofSearches : t.carryOut (.ofSearches purpose clauses) = t.execute clauses := by
  rw [carryOut, if_pos rfl, Query.Draft.plain]

lemma filter_deleted (t : Table) : ((t.after (.ofSearches purpose (.delete :: clauses))).rows.filter
    (chosen clauses)) = [] := by
  rw [after, carryOut_ofSearches, execute, List.filter_filter]
  simp

def updated (fields : Record) (clauses : List Clause) (rows : List Record) : List Record :=
  rows.map fun r => if chosen clauses r then overwrite fields r else r

lemma rows_updated (purpose : String) (t : Table) :
    (t.after (.ofSearches purpose (.update fields :: clauses))).rows =
      updated fields clauses t.rows := by
  rw [after, carryOut_ofSearches, execute, updated]

lemma filter_updated (h : ∀ r, chosen clauses (overwrite fields r) = false) (t : Table) :
    ((t.after (.ofSearches purpose (.update fields :: clauses))).rows.filter
      (chosen clauses)) = [] := by
  rw [rows_updated, updated, List.filter_eq_nil_iff]
  simp only [List.mem_map, forall_exists_index, and_imp]
  rintro _ r - rfl
  split
  · simp [h r]
  · assumption

/-- What is chosen is not there any more once it was changed. -/
lemma filter_iterate {p : Record → Bool} {f : Table → Table}
    (hf : ∀ t, (f t).rows.filter p = []) (lost : Nat) (t : Table) :
    (f^[lost] t).rows.filter p = if lost = 0 then t.rows.filter p else [] := by
  cases lost with
  | zero => rfl
  | succ lost => rw [Function.iterate_succ_apply', hf, if_neg (Nat.succ_ne_zero lost)]

lemma iterate_selected {columns : String} (lost : Nat) :
    (after (.ofSearches purpose (.select columns :: clauses)))^[lost] t = t :=
  Function.iterate_fixed (by rw [after, carryOut_ofSearches, execute]) lost

/-- An update that concerns no row changes nothing. -/
lemma updated_of_filter_eq_nil {rows : List Record} (h : rows.filter (chosen clauses) = []) :
    updated fields clauses rows = rows :=
  (List.map_congr_left fun r hr => if_neg (List.filter_eq_nil_iff.1 h r hr)).trans
    (List.map_id' rows)

/-- An update that leaves nothing to update comes to the same if it is repeated. -/
lemma iterate_updated (h : ∀ r, chosen clauses (overwrite fields r) = false) (lost : Nat)
    (t : Table) : ((after (.ofSearches purpose (.update fields :: clauses)))^[lost + 1] t).rows =
      updated fields clauses t.rows := by
  induction lost with
  | zero => exact rows_updated purpose t
  | succ lost ih =>
    have hnone : (updated fields clauses t.rows).filter (chosen clauses) = [] := by
      rw [← ih, filter_iterate (filter_updated h), if_neg lost.succ_ne_zero]
    rw [Function.iterate_succ_apply', rows_updated, ih, updated_of_filter_eq_nil hnone]

/-- A deletion comes to the same if it is repeated. -/
lemma iterate_deleted (lost : Nat) (t : Table) :
    ((after (.ofSearches purpose (.delete :: clauses)))^[lost + 1] t).rows =
      t.rows.filter fun r => !chosen clauses r := by
  induction lost with
  | zero => rw [Function.iterate_one, after, carryOut_ofSearches, execute]
  | succ lost ih =>
    rw [Function.iterate_succ_apply', after, carryOut_ofSearches, execute, ih]
    simp only [List.filter_filter, Bool.and_self]

/-- Every time a row is inserted, there is one row more. -/
lemma iterate_inserted (purpose : String) (row : Record) (lost : Nat) (t : Table) :
    ∃ added : List Record,
      ((after (.ofSearches purpose [.insert row]))^[lost] t).rows = t.rows ++ added ∧
      added.length = lost ∧ ∀ r ∈ added, ∃ id : String, r = row.set "id" (.text id) := by
  induction lost with
  | zero => exact ⟨[], by simp⟩
  | succ lost ih =>
    obtain ⟨added, hrows, hlength, hadded⟩ := ih
    rw [Function.iterate_succ_apply', after, carryOut_ofSearches, execute, hrows]
    refine ⟨added ++ [row.set "id" (.text _)], List.append_assoc .., by simp [hlength], ?_⟩
    simp only [List.forall_mem_append, List.forall_mem_singleton]
    exact ⟨hadded, _, rfl⟩

end Table

inductive Fate where
  /-- It does not arrive. -/
  | unsent (reason : String)
  /-- It is carried out, and its answer is lost. -/
  | unheard (reason : String)
  | heard

/-- The table, how many attempts were made at all, and how many that changed it were unheard. -/
structure Wire where
  table : Table
  made : Nat := 0
  unheard : Nat := 0

namespace Wire

/-- The way to the table on which every attempt has its fate. -/
def transport (fates : Nat → Fate) : Transport Wire where
  prepare _ w := w
  attempt r w :=
    match fates w.made with
    | .unsent reason => (.lost reason, { w with made := w.made + 1 })
    | .unheard reason =>
      (.lost reason, ⟨w.table.after r, w.made + 1, w.unheard + r.writes.toNat⟩)
    | .heard => (.answered (w.table.carryOut r).1, ⟨w.table.after r, w.made + 1, w.unheard⟩)
  pause _ w := w

/-- The stores and the sender, reached on such a way. -/
def client (fates : Nat → Fate) (patience : Patience) (access : Access) (now : Instant) :
    Handler Service Wire := service ((transport fates).handle patience) access now

end Wire

/-- What comes of a request that is repeated so many times as long as its answer is lost: it is
answered after it was carried out unheard some times, or it is given up then. -/
inductive Persisted (r : Request) (t : Table) (unheard : Nat) :
    Nat → Outcome Response × Wire → Prop
  | answered {lost more : Nat} (h : lost ≤ more) (made : Nat) :
    Persisted r t unheard more (.ok (((Table.after r)^[lost] t).carryOut r).1,
      ⟨(Table.after r)^[lost + 1] t, made, unheard + lost * r.writes.toNat⟩)
  | unreachable (lost more made : Nat) (reason : String) :
    Persisted r t unheard more (.error (.unreachable r.operation reason),
      ⟨(Table.after r)^[lost] t, made, unheard + lost * r.writes.toNat⟩)

namespace Persisted

variable {r : Request} {t : Table} {unheard made more : Nat} {result : Outcome Response × Wire}

lemma heard : Persisted r t unheard more
    (.ok (t.carryOut r).1, ⟨t.after r, made, unheard⟩) := by
  have h : Persisted r t unheard more _ := .answered (Nat.zero_le more) made
  rwa [Nat.zero_mul] at h

lemma givenUp (reason : String) : Persisted r t unheard more
    (.error (.unreachable r.operation reason), ⟨t, made, unheard⟩) := by
  have h : Persisted r t unheard more _ := .unreachable 0 more made reason
  rwa [Nat.zero_mul] at h

/-- One more attempt before did not arrive. -/
lemma unsent (h : Persisted r t unheard more result) : Persisted r t unheard (more + 1) result := by
  cases h with
  | answered h made => exact .answered (Nat.le_succ_of_le h) made
  | unreachable lost more made reason => exact .unreachable lost (more + 1) made reason

lemma unheard_succ (lost : Nat) : unheard + r.writes.toNat + lost * r.writes.toNat =
    unheard + (lost + 1) * r.writes.toNat := by
  rw [Nat.succ_mul]
  omega

/-- One more attempt before was carried out unheard. -/
lemma before (h : Persisted r (t.after r) (unheard + r.writes.toNat) more result) :
    Persisted r t unheard (more + 1) result := by
  cases h with
  | answered h made =>
    rw [unheard_succ]
    exact .answered (Nat.succ_le_succ h) made
  | unreachable lost more made reason =>
    rw [unheard_succ]
    exact .unreachable (lost + 1) (more + 1) made reason

end Persisted

namespace Wire

variable {fates : Nat → Fate} {patience : Patience} {r : Request}

/-- However often a request is repeated, it was carried out some times unheard and then once more,
or not. -/
lemma persisted_persist (k more : Nat) (w : Wire) : Persisted r w.table w.unheard more
    (persist r.operation ((transport fates).attempt r)
      (fun k => (transport fates).pause (patience.pause k)) k more w) := by
  induction more generalizing k w with
  | zero =>
    rw [persist]
    simp only [transport]
    cases fates w.made with
    | unsent reason => exact .givenUp reason
    | unheard reason =>
      have h : Persisted r w.table w.unheard 0 _ := .unreachable 1 0 (w.made + 1) reason
      rwa [Nat.one_mul] at h
    | heard => exact .heard
  | succ more ih =>
    rw [persist]
    simp only [transport]
    cases fates w.made with
    | unsent reason => exact (ih (k + 1) { w with made := w.made + 1 }).unsent
    | unheard reason =>
      exact .before (ih (k + 1) ⟨w.table.after r, w.made + 1, w.unheard + r.writes.toNat⟩)
    | heard => exact .heard

lemma persisted_query (fates : Nat → Fate) (patience : Patience) (purpose : String)
    (clauses : List Clause) (w : Wire) :
    Persisted (.ofSearches purpose clauses) w.table w.unheard (patience.attempts - 1)
      ((query purpose searchTable (.plain clauses)).run
        ((transport fates).handle patience) w) := by
  rw [query, Plan.run_request]
  exact persisted_persist 0 _ w

end Wire
end ListingSearch.Remote
