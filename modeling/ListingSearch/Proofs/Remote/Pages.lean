import ListingSearch.Proofs.Query.Clause
import ListingSearch.Proofs.Recipients.Estimate
import ListingSearch.Proofs.Remote.Table
import ListingSearch.Proofs.Value.Members
import Mathlib.Tactic.Ring

/-! Reading the coverage areas in pages. The service holds rows in an order that does not change and
shows the rows from one position to another. The pages that are read follow one another without a
gap, the last one is the first that is not full, and together they are the rows. So the owners that
are read in a column of their own are those of the areas. -/
namespace ListingSearch.Remote

open Query (Clause)

/-- The rows that a query of a table finds, in its order and with all columns. -/
abbrev Holdings := String → List Clause → List Record

/-- The clause does not concern which rows are found, but what is shown of them. -/
def shows : Clause → Bool
  | .select _ | .slice .. => true
  | _ => false

def columnNames (columns : String) : List String := (Text.split ',' columns).map Text.trim

def narrow (columns : String) (r : Record) : Record :=
  (columnNames columns).map fun column => (column, r.get column)

/-- What clauses show of the rows that are found. Both ends of a slice are shown. -/
def shown : List Clause → List Record → List Record
  | [], rows => rows
  | .select columns :: clauses, rows => shown clauses (rows.map (narrow columns))
  | .slice first last :: clauses, rows =>
    shown clauses ((rows.take (last + 1).toNat).drop first.toNat)
  | _ :: clauses, rows => shown clauses rows

namespace Holdings

def answer (holdings : Holdings) : Request → Response
  | .query _ table draft => Table.answer
      (shown draft.clauses (holdings table (draft.clauses.filter fun clause => !shows clause)))
  | _ => {}

/-- The way to the rows. The requests that were sent are kept. -/
def transport (holdings : Holdings) : Transport (List Request) where
  prepare _ sent := sent
  attempt r sent := (.answered (holdings.answer r), sent ++ [r])
  pause _ sent := sent

/-- The coverage areas of which a condition holds, in the order of their identifiers. -/
def areas (holdings : Holdings) (p : Predicate) : List Record :=
  holdings coverageTable ((Query.filters p).clauses ++ [.order "id" none none])

end Holdings

/-- The request for a page, counted from zero: it begins behind the page before. -/
def pageRequest (pageSize : Nat) (p : Predicate) (columns : String) (page : Nat) : Request :=
  .query "coverage.fetch" coverageTable ((Query.filters p).between [.select columns]
    [.order "id" none none, .slice (page * pageSize) ((page + 1) * pageSize - 1)])

example : pageRequest 2 .always "agent_id" 2 = .query "coverage.fetch" coverageTable
    (.plain [.select "agent_id", .order "id" none none, .slice 4 5]) := by rfl

def ownersOfAreas : List Value → Outcome TextSet
  | [] => .ok .empty
  | .object r :: rest => do
    let named ← CoverageArea.owners [r]
    return named.union (← ownersOfAreas rest)
  | _ :: _ => .error .rowNotObject

/-- The owners as any store of areas finds them: those of the areas that it reads. -/
def ownersByArea (access : Access) (p : Predicate) : Plan Remote TextSet := do
  .ofOutcome (ownersOfAreas (← coverage access p coverageColumns))

section Shown

variable {p : Predicate} {clause : Clause} {clauses rest : List Clause} {rows : List Record}

lemma shows_of_testsColumn (h : clause.testsColumn = true) : shows clause = false := by
  cases clause <;> first | rfl | cases h

/-- A condition concerns only which rows are found. -/
lemma shows_of_mem_filters (h : clause ∈ (Query.filters p).clauses) : shows clause = false := by
  unfold Query.filters at h
  split at h
  · cases h
  · split at h
    · unfold Query.conjunctClauses at h
      dsimp only at h
      split at h
      · rcases List.mem_append.1 h with h | h
        · exact shows_of_testsColumn (Query.testsColumn_of_mem_simple h)
        · simp only [Option.mem_toList, Option.map_eq_some_iff] at h
          obtain ⟨tree, -, rfl⟩ := h
          rfl
      · exact shows_of_testsColumn (Query.testsColumn_of_mem_simple h)
    · cases h

lemma shown_append (h : ∀ clause ∈ clauses, shows clause = false) :
    shown (clauses ++ rest) rows = shown rest rows := by
  induction clauses with
  | nil => rfl
  | cons clause clauses ih =>
    rw [List.forall_mem_cons] at h
    rw [List.cons_append, ← ih h.2]
    cases clause <;> first | rfl | cases h.1

lemma get?_map_get (r : Record) {columns : List String} {column : String} (h : column ∈ columns) :
    Record.get? column (columns.map fun c => (c, r.get c)) = some (r.get column) := by
  induction columns with
  | nil => cases h
  | cons c columns ih =>
    rw [List.map_cons, Record.get?]
    split
    · rename_i heq
      rw [heq]
    · rename_i hne
      exact ih ((List.mem_cons.1 h).resolve_left (Ne.symm hne))

/-- The columns that are shown are those of the row. -/
lemma get_narrow (r : Record) {columns column : String} (h : column ∈ columnNames columns) :
    (narrow columns r).get column = r.get column := by
  rw [Record.get, narrow, get?_map_get r h, Option.getD_some]

end Shown

section Reading

variable {holdings : Holdings} {patience : Patience} {access : Access} {p : Predicate}
  {columns : String} {page : Nat} {sent : List Request}

def pageRows (pageSize page : Nat) (rows : List Record) : List Record :=
  (rows.take ((page + 1) * pageSize)).drop (page * pageSize)

lemma pageRows_append_drop (pageSize page : Nat) (rows : List Record) :
    pageRows pageSize page rows ++ rows.drop ((page + 1) * pageSize) =
      rows.drop (page * pageSize) := by
  have hle : page * pageSize ≤ (page + 1) * pageSize := Nat.mul_le_mul_right _ (Nat.le_succ page)
  rw [pageRows, List.drop_take, ← Nat.add_sub_cancel' hle, ← List.drop_drop,
    Nat.add_sub_cancel_left, List.take_append_drop]

lemma length_pageRows (pageSize page : Nat) (rows : List Record) :
    (pageRows pageSize page rows).length = min pageSize (rows.length - page * pageSize) := by
  rw [pageRows, List.length_drop, List.length_take, Nat.succ_mul]
  omega

lemma obstacle?_pageRequest (hp : (Query.filters p).failure = none) (pageSize page : Nat) :
    (pageRequest pageSize p columns page).obstacle? = none := hp

/-- Of the areas of which a condition holds, the service shows the columns and the slice that are
asked for. -/
lemma answer_slice (hp : (Query.filters p).failure = none) (purpose : String) (first last : Int) :
    holdings.answer (.query purpose coverageTable ((Query.filters p).between [.select columns]
        [.order "id" none none, .slice first last])) =
      Table.answer ((((holdings.areas p).map (narrow columns)).take (last + 1).toNat).drop
        first.toNat) := by
  have hclauses : ((Query.filters p).between [.select columns]
      [.order "id" none none, .slice first last]).clauses =
        .select columns :: ((Query.filters p).clauses ++
          [.order "id" none none, .slice first last]) := by
    rw [Query.Draft.between, hp]
    rfl
  have hfilters : (Query.filters p).clauses.filter (fun clause => !shows clause) =
      (Query.filters p).clauses :=
    List.filter_eq_self.2 fun clause h => by rw [shows_of_mem_filters h, Bool.not_false]
  rw [Holdings.answer, hclauses, List.filter_cons_of_neg (by simp [shows]), List.filter_append,
    hfilters, shown, shown_append fun _ => shows_of_mem_filters]
  rfl

/-- The service shows the rows of the page. -/
lemma answer_pageRequest (hp : (Query.filters p).failure = none) (pageSize page : Nat) :
    holdings.answer (pageRequest pageSize p columns page) =
      Table.answer (pageRows pageSize page ((holdings.areas p).map (narrow columns))) := by
  rw [pageRequest, answer_slice hp, Int.sub_add_cancel]
  rfl

lemma handle_pageRequest (hp : (Query.filters p).failure = none) (pageSize page : Nat)
    (sent : List Request) :
    holdings.transport.handle patience (pageRequest pageSize p columns page) sent =
      (.ok (Table.answer (pageRows pageSize page ((holdings.areas p).map (narrow columns)))),
        sent ++ [pageRequest pageSize p columns page]) := by
  rw [Transport.handle, obstacle?_pageRequest hp, ← answer_pageRequest hp]
  dsimp only
  rw [persist]
  rfl

/-- Reading from a page on begins with a request for it. -/
lemma pagesFrom_succ (limit page : Nat) :
    pagesFrom access p columns (limit + 1) (page * access.pageSize) = do
      let response ← Plan.request (I := Remote) (pageRequest access.pageSize p columns page)
      let rows ← .ofOutcome response.rows
      if rows.length < access.pageSize then return rows
      else return rows ++ (← pagesFrom access p columns limit ((page + 1) * access.pageSize)) := by
  have hlast : ((page : Int) + 1) * access.pageSize - 1 =
      ((page * access.pageSize : Nat) : Int) + access.pageSize - 1 := by
    push_cast
    ring
  rw [pagesFrom, query, pageRequest, hlast, Nat.succ_mul]
  rfl

/-- One page is read, and it is the last one if it is not full. -/
lemma run_pagesFrom_succ (hp : (Query.filters p).failure = none) (limit page : Nat)
    (sent : List Request) {rows : List Record}
    (hrows : pageRows access.pageSize page ((holdings.areas p).map (narrow columns)) = rows) :
    (pagesFrom access p columns (limit + 1) (page * access.pageSize)).run
        (holdings.transport.handle patience) sent =
      if rows.length < access.pageSize then
        (.ok (rows.map .object), sent ++ [pageRequest access.pageSize p columns page])
      else
        ((rows.map .object ++ ·) <$> pagesFrom access p columns limit
          ((page + 1) * access.pageSize)).run (holdings.transport.handle patience)
            (sent ++ [pageRequest access.pageSize p columns page]) := by
  have hrequest : (Plan.request (I := Remote) (pageRequest access.pageSize p columns page)).run
      (holdings.transport.handle patience) sent =
        (.ok (Table.answer rows), sent ++ [pageRequest access.pageSize p columns page]) := by
    rw [Plan.run_request, handle_pageRequest hp, hrows]
  rw [pagesFrom_succ, Plan.run_bind_of_ok hrequest, Table.rows_answer]
  change (if (rows.map Value.object).length < access.pageSize then
    (pure (rows.map Value.object) : Plan Remote _) else _).run _ _ = _
  rw [List.length_map]
  split <;> rfl

/-- All pages but the last one are full. -/
lemma length_pageRows_lt_iff {pageSize : Nat} (hsize : 1 ≤ pageSize) (rows : List Record)
    (hpage : page ≤ rows.length / pageSize) :
    (pageRows pageSize page rows).length < pageSize ↔ page = rows.length / pageSize := by
  have hfull : rows.length / pageSize < page + 1 ↔ rows.length < (page + 1) * pageSize :=
    Nat.div_lt_iff_lt_mul hsize
  have hstart : page * pageSize ≤ rows.length := (Nat.le_div_iff_mul_le hsize).1 hpage
  rw [length_pageRows]
  rw [Nat.succ_mul] at hfull
  omega

/-- Behind the full pages there is one with the rows that are left. -/
lemma pageRows_last {pageSize : Nat} (hsize : 1 ≤ pageSize) (rows : List Record) :
    pageRows pageSize (rows.length / pageSize) rows =
      rows.drop (rows.length / pageSize * pageSize) := by
  rw [pageRows, List.take_of_length_le]
  apply Nat.le_of_lt
  exact (Nat.div_lt_iff_lt_mul hsize).1 (Nat.lt_succ_self _)

/-- Reading from a page on, the pages up to the last one are read, if that many are allowed. -/
lemma run_pagesFrom (patience : Patience) (hp : (Query.filters p).failure = none)
    (hsize : 1 ≤ access.pageSize) {rows : List Record}
    (hrows : (holdings.areas p).map (narrow columns) = rows) (limit page : Nat)
    (sent : List Request) (hpage : page ≤ rows.length / access.pageSize) :
    (pagesFrom access p columns limit (page * access.pageSize)).run
        (holdings.transport.handle patience) sent =
      if page + limit ≤ rows.length / access.pageSize then
        (.error .tooManyPages,
          sent ++ (List.range' page limit).map (pageRequest access.pageSize p columns))
      else
        (.ok ((rows.drop (page * access.pageSize)).map .object),
          sent ++ (List.range' page (rows.length / access.pageSize + 1 - page)).map
            (pageRequest access.pageSize p columns)) := by
  induction limit generalizing page sent with
  | zero =>
    rw [Nat.add_zero, if_pos hpage, pagesFrom]
    simp
  | succ limit ih =>
    rw [run_pagesFrom_succ hp limit page sent (by rw [hrows])]
    -- The first page that is not full is the last one; behind a full one the reading goes on.
    by_cases hlast : page = rows.length / access.pageSize
    · have hshort := (length_pageRows_lt_iff hsize rows hpage).2 hlast
      rw [if_pos hshort, if_neg (by omega), hlast, pageRows_last hsize, Nat.add_sub_cancel_left]
      rfl
    · have hfull := mt (length_pageRows_lt_iff hsize rows hpage).1 hlast
      rw [if_neg hfull]
      have hnext := ih (page + 1) (sent ++ [pageRequest access.pageSize p columns page]) (by omega)
      have hsum : page + 1 + limit = page + (limit + 1) := by omega
      have hcount : rows.length / access.pageSize + 1 - page =
        rows.length / access.pageSize + 1 - (page + 1) + 1 := by omega
      rw [hsum, List.append_assoc, List.append_assoc, List.singleton_append,
        List.singleton_append] at hnext
      rw [hcount, List.range'_succ, List.range'_succ, List.map_cons, List.map_cons,
        ← pageRows_append_drop, List.map_append]
      split
      · rename_i hmore
        rw [if_pos hmore] at hnext
        exact Plan.run_bind_of_error hnext
      · rename_i henough
        rw [if_neg henough] at hnext
        exact Plan.run_bind_of_ok hnext

end Reading

section Owners

variable {r : Record} {rows : List Record} {s : String}

def name? (r : Record) : Option String := (r.get "agent_id").text?.filter (· ≠ "")

lemma name?_eq_some_iff : name? r = some s ↔ s ≠ "" ∧ r.get "agent_id" = .text s := by
  have htext : (r.get "agent_id").text? = some s ↔ r.get "agent_id" = .text s := by
    cases r.get "agent_id" <;> simp [Value.text?]
  rw [name?, Option.filter_eq_some_iff, htext, decide_eq_true_eq, and_comm]

/-- The owner's column of the row is a text or not filled in. -/
abbrev NamesOwner (r : Record) : Prop :=
  r.get "agent_id" = .null ∨ ∃ s, r.get "agent_id" = .text s

lemma owner?_object (h : NamesOwner r) : owner? (.object r) = .ok ((name? r).map .text) := by
  rcases h with hnull | ⟨s, hs⟩
  · simp [owner?, name?, hnull, Value.truthy, Value.text?]
  · by_cases hempty : s = "" <;>
      simp [owner?, name?, hs, hempty, Value.truthy, Value.text?, Value.isSimple]

/-- The owners that are read are those who are named, each of them once. -/
lemma exists_ownersOf (h : ∀ r ∈ rows, NamesOwner r) : ∃ names : List String,
    ownersOf (rows.map .object) = .ok (names.map .text) ∧ names.Nodup ∧
      ∀ s, s ∈ names ↔ s ≠ "" ∧ ∃ r ∈ rows, r.get "agent_id" = .text s := by
  have hread : (rows.map Value.object).mapM owner? =
      .ok (rows.map fun r => (name? r).map Value.text) := by
    rw [Outcome.mapM_eq_ok_iff, List.forall₂_map_left_iff, List.forall₂_map_right_iff,
      List.forall₂_same]
    exact fun r hr => owner?_object (h r hr)
  have hnames : (rows.map fun r => (name? r).map Value.text).filterMap id =
      (rows.filterMap name?).map .text := by
    rw [List.filterMap_map, List.map_filterMap]
    rfl
  obtain ⟨names, hdistinct, hnodup, hmem⟩ :=
    Value.exists_distinctValues_texts (rows.filterMap name?)
  refine ⟨names, ?_, hnodup, fun s => ?_⟩
  · rw [ownersOf, hread, ← hdistinct, ← hnames]
    rfl
  · simp only [hmem, List.mem_filterMap, name?_eq_some_iff]
    tauto

/-- Rows that are objects are read as areas. -/
lemma ownersOfAreas_objects (rows : List Record) :
    ownersOfAreas (rows.map .object) = CoverageArea.owners rows := by
  induction rows with
  | nil => rfl
  | cons r rest ih =>
    rw [List.map_cons, ownersOfAreas, ih]
    simp only [CoverageArea.owners]
    split
    · cases (CoverageArea.ofRecord r).outcome with
      | error failure => rfl
      | ok area => cases CoverageArea.owners rest <;> rfl
    · cases CoverageArea.owners rest <;> rfl

lemma columnNames_coverageColumns : columnNames coverageColumns = CoverageArea.columns := by
  decide +kernel

lemma get_narrow_coverageColumns (r : Record) {column : String}
    (h : column ∈ CoverageArea.columns) :
    (narrow coverageColumns r).get column = r.get column :=
  get_narrow r (by rwa [columnNames_coverageColumns])

lemma get_narrow_owner (r : Record) : (narrow "agent_id" r).get "agent_id" = r.get "agent_id" :=
  get_narrow r (by decide +kernel)

lemma textual_narrow (h : CoverageArea.Textual r) :
    CoverageArea.Textual (narrow coverageColumns r) := by
  intro column hcolumn
  rw [get_narrow_coverageColumns r hcolumn]
  exact h column hcolumn

end Owners

section Coverage

variable {holdings : Holdings} {patience : Patience} {access : Access} {p : Predicate}

/-- The requests for the first pages. -/
def pageRequests (pageSize : Nat) (p : Predicate) (columns : String) (pages : Nat) : List Request :=
  (List.range pages).map (pageRequest pageSize p columns)

/-- Without a query that can be sent nothing is read. -/
lemma run_coverage_of_failure {failure : Failure} (hp : (Query.filters p).failure = some failure)
    (hlimit : access.pageLimit ≠ 0) (columns : String) (sent : List Request) :
    (coverage access p columns).run (holdings.transport.handle patience) sent =
      (.error failure, sent) := by
  obtain ⟨limit, hlimit⟩ := Nat.exists_eq_succ_of_ne_zero hlimit
  rw [coverage, hlimit, pagesFrom]
  refine Plan.run_bind_of_error ((Plan.run_request _ sent).trans ?_)
  rw [Transport.handle, Request.obstacle?, Query.Draft.between, hp]
  rfl

lemma run_coverage (holdings : Holdings) (patience : Patience)
    (hp : (Query.filters p).failure = none) (hsize : 1 ≤ access.pageSize) (columns : String)
    (sent : List Request) :
    (coverage access p columns).run (holdings.transport.handle patience) sent =
      if access.pageLimit ≤ (holdings.areas p).length / access.pageSize then
        (.error .tooManyPages,
          sent ++ pageRequests access.pageSize p columns access.pageLimit)
      else
        (.ok ((holdings.areas p).map fun r => .object (narrow columns r)),
          sent ++ pageRequests access.pageSize p columns
            ((holdings.areas p).length / access.pageSize + 1)) := by
  have hrun := run_pagesFrom patience hp hsize rfl access.pageLimit 0 sent
    (Nat.zero_le (((holdings.areas p).map (narrow columns)).length / access.pageSize))
  simp only [Nat.zero_mul, Nat.zero_add, List.length_map, List.drop_zero, Nat.sub_zero,
    List.map_map] at hrun
  rw [coverage, hrun, pageRequests, pageRequests, List.range_eq_range', List.range_eq_range']
  rfl

/-- The owners that are read in a column of their own are those of the areas that are read. -/
lemma exists_run_owners (hp : (Query.filters p).failure = none) (hsize : 1 ≤ access.pageSize)
    (hlimit : (holdings.areas p).length / access.pageSize < access.pageLimit)
    (htextual : ∀ r ∈ holdings.areas p, CoverageArea.Textual r) (sent : List Request) :
    ∃ (names : List String) (set : TextSet),
      (owners access p).run (holdings.transport.handle patience) sent =
        (.ok (names.map .text), sent ++ pageRequests access.pageSize p "agent_id"
          ((holdings.areas p).length / access.pageSize + 1)) ∧
      (ownersByArea access p).run (holdings.transport.handle patience) sent =
        (.ok set, sent ++ pageRequests access.pageSize p coverageColumns
          ((holdings.areas p).length / access.pageSize + 1)) ∧
      names.Perm set.toList ∧
      ∀ s, s ∈ set ↔ s ≠ "" ∧ ∃ r ∈ holdings.areas p, r.get "agent_id" = .text s := by
  have hread (columns : String) := run_coverage holdings patience hp hsize columns sent
  simp only [if_neg (Nat.not_le.2 hlimit)] at hread
  have howner (r : Record) : (narrow coverageColumns r).get "agent_id" = r.get "agent_id" :=
    get_narrow_coverageColumns r (by simp [CoverageArea.columns])
  have hnamed : ∀ r ∈ (holdings.areas p).map (narrow "agent_id"), NamesOwner r := by
    refine List.forall_mem_map.2 fun r hr => ?_
    rw [NamesOwner, get_narrow_owner]
    exact htextual r hr "agent_id" (by simp [CoverageArea.columns])
  have harea : ∀ r ∈ (holdings.areas p).map (narrow coverageColumns),
      (r.get "agent_id").truthy = true → ∃ area, CoverageArea.ofRecord r = .valid area :=
    List.forall_mem_map.2 fun r hr => (textual_narrow (htextual r hr)).exists_ofRecord
  obtain ⟨names, hnames, hnodup, hmem⟩ := exists_ownersOf hnamed
  obtain ⟨set, hset, hareas⟩ := CoverageArea.exists_owners_iff harea
  simp only [List.mem_map, exists_exists_and_eq_and, get_narrow_owner, howner] at hmem hareas
  have hsame : names.Perm set.toList := by
    have hascending : set.toList.Nodup := set.ascending.imp fun hlt => ne_of_lt hlt
    refine (List.perm_ext_iff_of_nodup hnodup hascending).2 fun s => ?_
    rw [hmem, TextSet.mem_toList, hareas]
  refine ⟨names, set, ?_, ?_, hsame, hareas⟩
  · rw [owners, Plan.run_bind_of_ok (hread "agent_id"), Plan.run_ofOutcome, ← hnames,
      List.map_map]
    rfl
  · rw [ownersByArea, Plan.run_bind_of_ok (hread coverageColumns), Plan.run_ofOutcome, ← hset,
      ← ownersOfAreas_objects, List.map_map]
    rfl

/-- The areas are read in as many requests as there are full pages, and one more. The pages follow
one another, and together they hold every area once, in order. Both ways to the owners come to the
names in the areas that are not empty. -/
theorem reads_each_area_once (holdings : Holdings) (patience : Patience) (access : Access)
    (p : Predicate) (sent : List Request) (hsize : 1 ≤ access.pageSize) :
    let areas := holdings.areas p
    let full := areas.length / access.pageSize
    let handle := holdings.transport.handle patience
    (∀ failure, (Query.filters p).failure = some failure → access.pageLimit ≠ 0 →
      ∀ columns, (coverage access p columns).run handle sent = (.error failure, sent)) ∧
    ((Query.filters p).failure = none →
      (∀ columns, (coverage access p columns).run handle sent =
        if access.pageLimit ≤ full then
          (.error .tooManyPages,
            sent ++ pageRequests access.pageSize p columns access.pageLimit)
        else
          (.ok (areas.map fun r => .object (narrow columns r)),
            sent ++ pageRequests access.pageSize p columns (full + 1))) ∧
      (full < access.pageLimit → (∀ r ∈ areas, CoverageArea.Textual r) →
        ∃ (names : List String) (set : TextSet),
          (owners access p).run handle sent =
            (.ok (names.map .text),
              sent ++ pageRequests access.pageSize p "agent_id" (full + 1)) ∧
          (ownersByArea access p).run handle sent =
            (.ok set, sent ++ pageRequests access.pageSize p coverageColumns (full + 1)) ∧
          names.Perm set.toList ∧
          ∀ s, s ∈ set ↔ s ≠ "" ∧ ∃ r ∈ areas, r.get "agent_id" = .text s)) := by
  refine ⟨fun failure hp hlimit columns => ?_, fun hp => ⟨fun columns => ?_, ?_⟩⟩
  · exact run_coverage_of_failure hp hlimit columns sent
  · exact run_coverage holdings patience hp hsize columns sent
  · intro hlimit htextual
    exact exists_run_owners hp hsize hlimit htextual sent

/-- Two full pages and an empty one. One agent has two areas, and the others name nobody. -/
theorem reads_each_area_once_twoFullPages :
    let area (agent : Value) : Record := [("agent_id", agent), ("city", .text "Boston")]
    let holdings : Holdings := fun _ _ =>
      [area (.text "ana"), area .null, area (.text ""), area (.text "ana")]
    let access : Access := { sender := "", pageSize := 2, pageLimit := 3 }
    let p : Predicate := .eq "state" (.text "MA")
    let handle := holdings.transport.handle { attempts := 1, maxPause := .zero false }
    let agent (v : Value) : Value := .object [("agent_id", v)]
    let pages (columns : String) := List.map (pageRequest 2 p columns) [0, 1, 2]
    1 ≤ access.pageSize ∧ (Query.filters p).failure = none ∧
      (coverage access p "agent_id").run handle [] =
        (.ok [agent (.text "ana"), agent .null, agent (.text ""), agent (.text "ana")],
          pages "agent_id") ∧
      (∀ r ∈ holdings.areas p, CoverageArea.Textual r) ∧
      (owners access p).run handle [] = (.ok [.text "ana"], pages "agent_id") ∧
      (ownersByArea access p).run handle [] = (.ok (.ofList ["ana"]), pages coverageColumns) := by
  intro area holdings access p handle agent pages
  have htextual : ∀ r ∈ holdings.areas p, CoverageArea.Textual r := by
    simp [Holdings.areas, holdings, area, CoverageArea.Textual, CoverageArea.columns, Record.get,
      Record.get?]
  have hfull : (holdings.areas p).length / access.pageSize = 2 := by
    change 4 / 2 = 2
    rfl
  obtain ⟨-, hreads⟩ := reads_each_area_once holdings { attempts := 1, maxPause := .zero false }
    access p [] (by decide)
  rw [hfull] at hreads
  obtain ⟨hcoverage, howners⟩ := hreads rfl
  obtain ⟨names, set, hnames, hset, hsame, hmem⟩ := howners (by decide) htextual
  have hana : set = .ofList ["ana"] := by
    refine TextSet.ext fun s => ?_
    rw [hmem, TextSet.mem_ofList, List.mem_singleton]
    constructor
    · rintro ⟨hne, hs⟩
      have hs : s = "" ∨ "ana" = s := by
        simpa [Holdings.areas, holdings, area, Record.get, Record.get?, or_left_comm] using hs
      exact (hs.resolve_left hne).symm
    · rintro rfl
      exact ⟨by decide, area (.text "ana"), List.mem_cons_self, rfl⟩
  refine ⟨by decide, rfl, hcoverage "agent_id", htextual, ?_, ?_⟩
  · rw [hana] at hsame
    rw [hnames, List.perm_singleton.1 hsame]
    rfl
  · rw [hset, hana]
    rfl

end Coverage

end ListingSearch.Remote
