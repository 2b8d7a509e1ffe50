import ListingSearch.Proofs.Predicate.StoreForm
import ListingSearch.Query.Clause

/-! The clauses that are sent for a condition. Every conjunct of its store form is sent once: a test
and the negated test for a missing value as clauses of their own, in order, and the choices after
them, all in one clause. -/
namespace ListingSearch

open Predicate (Operands StoreForm)

/-- The test is not a range without bounds. -/
def Test.Bounded : Test → Prop
  | .range _ none none => False
  | _ => True

namespace Query

/-- What is sent for a test. -/
inductive SentFor : Test → List Clause → Prop
  | missing (field : String) : SentFor (.eq field .null) [.isNull field]
  | eq (field : String) {value : Value} (h : value.isNull = false) :
    SentFor (.eq field value) [.eq field value]
  | oneOf (field : String) (values : List Value) :
    SentFor (.oneOf field values) [.isIn field (literalList values)]
  | atLeast (field : String) (min : Bound) :
    SentFor (.range field (some min) none) [.atLeast field (plainBound min)]
  | atMost (field : String) (max : Bound) :
    SentFor (.range field none (some max)) [.atMost field (plainBound max)]
  | between (field : String) (min max : Bound) :
    SentFor (.range field (some min) (some max))
      [.atLeast field (plainBound min), .atMost field (plainBound max)]
  | like (field text : String) (mode : MatchMode) :
    SentFor (.like field text mode) [.like field (likePattern text mode)]

/-- The clause is a test of a single column. -/
def Clause.testsColumn : Clause → Bool
  | .eq .. | .isNull _ | .isNotNull _ | .isIn .. | .atLeast .. | .atMost .. | .like .. => true
  | _ => false

/-- What is sent for the conjuncts of a condition one by one, and which choices are left. -/
inductive SentEach : List Predicate → List Clause → List (List Predicate) → Prop
  | nil : SentEach [] [] []
  | test {t : Test} {ps : List Predicate} {here clauses : List Clause}
    {choices : List (List Predicate)} (ht : SentFor t here) (h : SentEach ps clauses choices) :
    SentEach (.test t :: ps) (here ++ clauses) choices
  | present (field : String) {ps : List Predicate} {clauses : List Clause}
    {choices : List (List Predicate)} (h : SentEach ps clauses choices) :
    SentEach (.not (.eq field .null) :: ps) (.isNotNull field :: clauses) choices
  | choice {qs ps : List Predicate} {clauses : List Clause} {choices : List (List Predicate)}
    (hlength : 2 ≤ qs.length) (h : SentEach ps clauses choices) :
    SentEach (.or qs :: ps) clauses (qs :: choices)

/-- What is sent for the choices that are left: a single one as the list of its alternatives, and
several as one conjunction. -/
inductive SentLast : List (List Predicate) → List Clause → Prop
  | none : SentLast [] []
  | one {qs : List Predicate} {parts : List String} (h : renderEach qs = .ok parts) :
    SentLast [qs] [.either (",".intercalate parts)]
  | several {choices : List (List Predicate)} {parts : List String}
    (hlength : 2 ≤ choices.length) (h : renderEach (choices.map .or) = .ok parts) :
    SentLast choices [.either ("and(" ++ ",".intercalate parts ++ ")")]

variable {p q : Predicate} {ps qs : List Predicate} {t : Test} {j : Predicate.Joint}

lemma exists_testText (h : t.Bounded) : ∃ s, testText t = .ok s := by
  cases t with
  | eq field value => cases value <;> exact ⟨_, rfl⟩
  | oneOf field values => exact ⟨_, rfl⟩
  | like field text mode => exact ⟨_, rfl⟩
  | range field min max =>
    match min, max, h with
    | some min, none, _ => exact ⟨_, rfl⟩
    | none, some max, _ => exact ⟨_, rfl⟩
    | some min, some max, _ => exact ⟨_, rfl⟩

lemma renderEach_cons {s : String} {parts : List String} (hp : render p = .ok s)
    (hps : renderEach ps = .ok parts) : renderEach (p :: ps) = .ok (s :: parts) := by
  rw [renderEach, hp, hps]
  rfl

lemma render_and_of_renderEach {parts : List String} (hne : ps ≠ [])
    (h : renderEach ps = .ok parts) :
    render (.and ps) = .ok ("and(" ++ ",".intercalate parts ++ ")") := by
  rw [render, if_neg (by simpa using hne), h]
  rfl

lemma render_or_of_renderEach {parts : List String} (hne : ps ≠ [])
    (h : renderEach ps = .ok parts) :
    render (.or ps) = .ok ("or(" ++ ",".intercalate parts ++ ")") := by
  rw [render, if_neg (by simpa using hne), h]
  rfl

lemma ne_nil_of_two_le {α : Type} {xs : List α} (h : 2 ≤ xs.length) : xs ≠ [] := by
  rintro rfl
  simp at h

/-- Operands in store form can be written as texts. -/
lemma exists_renderEach (h : Operands j ps) (hbounded : ∀ t ∈ Predicate.testsOfEach ps, t.Bounded) :
    ∃ parts, renderEach ps = .ok parts := by
  induction h with
  | nil => exact ⟨[], rfl⟩
  | test t h ih =>
    simp only [Predicate.testsOfEach, List.forall_mem_append] at hbounded
    obtain ⟨s, hs⟩ := exists_testText (hbounded.1 t (by simp [Predicate.tests]))
    obtain ⟨parts, hparts⟩ := ih hbounded.2
    exact ⟨_, renderEach_cons hs hparts⟩
  | present field h ih =>
    simp only [Predicate.testsOfEach, List.forall_mem_append] at hbounded
    obtain ⟨parts, hparts⟩ := ih hbounded.2
    exact ⟨_, renderEach_cons (p := .not (.eq field .null)) rfl hparts⟩
  | choice hqs hlength h ihqs ih =>
    simp only [Predicate.testsOfEach, List.forall_mem_append] at hbounded
    obtain ⟨inner, hinner⟩ := ihqs hbounded.1
    obtain ⟨parts, hparts⟩ := ih hbounded.2
    exact ⟨_, renderEach_cons (render_or_of_renderEach (ne_nil_of_two_le hlength) hinner) hparts⟩
  | conjunction hqs hlength h ihqs ih =>
    simp only [Predicate.testsOfEach, List.forall_mem_append] at hbounded
    obtain ⟨inner, hinner⟩ := ihqs hbounded.1
    obtain ⟨parts, hparts⟩ := ih hbounded.2
    exact ⟨_, renderEach_cons (render_and_of_renderEach (ne_nil_of_two_le hlength) hinner) hparts⟩
  | guarded t hmissing h ih =>
    simp only [Predicate.testsOfEach, List.forall_mem_append] at hbounded
    obtain ⟨s, hs⟩ := exists_testText (hbounded.2.1 t (by simp [Predicate.tests]))
    obtain ⟨parts, hparts⟩ := ih hbounded.2.2
    have hnot : render (.not (.test t)) = .ok (negatedText s) := by
      rw [render, render, hs]
      rfl
    exact ⟨_, renderEach_cons (p := .eq t.field .null) rfl (renderEach_cons hnot hparts)⟩

lemma sentFor_testClauses (h : t.Bounded) : SentFor t (testClauses t) := by
  cases t with
  | eq field value =>
    cases value with
    | null => exact .missing field
    | _ => exact .eq field rfl
  | oneOf field values => exact .oneOf field values
  | like field text mode => exact .like field text mode
  | range field min max =>
    match min, max, h with
    | some min, none, _ => exact .atLeast field min
    | none, some max, _ => exact .atMost field max
    | some min, some max, _ => exact .between field min max

lemma testsColumn_of_mem_testClauses {clause : Clause} (h : clause ∈ testClauses t) :
    clause.testsColumn = true := by
  cases t with
  | eq field value => cases value <;> (cases List.mem_singleton.1 h; rfl)
  | oneOf field values => cases List.mem_singleton.1 h; rfl
  | like field text mode => cases List.mem_singleton.1 h; rfl
  | range field min max =>
    simp only [testClauses, List.mem_append, Option.mem_toList, Option.map_eq_some_iff] at h
    rcases h with ⟨b, -, rfl⟩ | ⟨b, -, rfl⟩ <;> rfl

/-- The clauses of the simple conjuncts are tests of columns. -/
lemma testsColumn_of_mem_simple {clause : Clause}
    (h : clause ∈ (ps.filterMap simpleClauses?).flatten) : clause.testsColumn = true := by
  obtain ⟨clauses, hclauses, hmem⟩ := List.mem_flatten.1 h
  obtain ⟨p, _, hp⟩ := List.mem_filterMap.1 hclauses
  unfold simpleClauses? at hp
  split at hp
  · cases hp
    exact testsColumn_of_mem_testClauses hmem
  · cases hp
    cases List.mem_singleton.1 hmem
    rfl
  · cases hp

/-- The clauses of the simple conjuncts are sent in order, and the choices are left. -/
lemma exists_sentEach (h : Operands .all ps)
    (hbounded : ∀ t ∈ Predicate.testsOfEach ps, t.Bounded) :
    ∃ choices : List (List Predicate),
      SentEach ps (ps.filterMap simpleClauses?).flatten choices ∧
        ps.filter (fun q => (simpleClauses? q).isNone) = choices.map .or := by
  generalize hj : Predicate.Joint.all = j at h
  induction h with
  | nil => exact ⟨[], .nil, rfl⟩
  | test t h ih =>
    simp only [Predicate.testsOfEach, List.forall_mem_append] at hbounded
    obtain ⟨choices, hsent, hleft⟩ := ih hbounded.2 hj
    exact ⟨choices, .test (sentFor_testClauses (hbounded.1 t (by simp [Predicate.tests]))) hsent,
      hleft⟩
  | present field h ih =>
    simp only [Predicate.testsOfEach, List.forall_mem_append] at hbounded
    obtain ⟨choices, hsent, hleft⟩ := ih hbounded.2 hj
    exact ⟨choices, .present field hsent, hleft⟩
  | @choice ps qs hqs hlength h ihqs ih =>
    simp only [Predicate.testsOfEach, List.forall_mem_append] at hbounded
    obtain ⟨choices, hsent, hleft⟩ := ih hbounded.2 hj
    refine ⟨qs :: choices, .choice hlength hsent, ?_⟩
    rw [List.map_cons, ← hleft]
    rfl
  | conjunction => cases hj
  | guarded => cases hj

/-- A conjunction of choices is not flattened. -/
lemma allOf_map_or {choices : List (List Predicate)} (h : 2 ≤ choices.length) :
    Predicate.allOf (choices.map .or) = .and (choices.map .or) := by
  have hflat : (choices.map Predicate.or).flatMap Predicate.conjuncts = choices.map .or := by
    rw [List.flatMap_map]
    exact List.map_eq_flatMap.symm
  rw [Predicate.allOf, hflat]
  split
  · rename_i q hq
    have hlength := congrArg List.length hq
    simp at hlength
    omega
  · rfl

/-- The choices that are left travel in one clause. -/
lemma exists_sentLast {choices : List (List Predicate)} {parts : List String}
    (hparts : renderEach (choices.map .or) = .ok parts) :
    ∃ tree, treeText? (choices.map .or) = .ok tree ∧
      SentLast choices (tree.map Clause.either).toList := by
  match choices with
  | [] => exact ⟨none, rfl, .none⟩
  | [qs] =>
    obtain ⟨s, hs, -⟩ := Outcome.bind_eq_ok hparts
    rw [render] at hs
    split at hs
    · cases hs
    · obtain ⟨inner, hinner, -⟩ := Outcome.map_eq_ok hs
      refine ⟨some (",".intercalate inner), ?_, .one hinner⟩
      change (fun parts => some (",".intercalate parts)) <$> renderEach qs = _
      rw [hinner]
      rfl
  | qs :: rs :: choices =>
    have hlength : 2 ≤ (qs :: rs :: choices).length := by simp
    refine ⟨some ("and(" ++ ",".intercalate parts ++ ")"), ?_, .several hlength hparts⟩
    change some <$> render (Predicate.allOf ((qs :: rs :: choices).map .or)) = _
    rw [allOf_map_or hlength, render_and_of_renderEach (by simp) hparts]
    rfl

/-- The clauses for a condition: it fails with its store form, or every conjunct is sent once. -/
structure Sends (p : Predicate) : Prop where
  fails : ∀ failure, p.nullSafe = .error failure → (filters p).outcome = .error failure
  sent : ∀ q, p.nullSafe = .ok q → ∃ clauses choices last,
    SentEach q.conjuncts clauses choices ∧ SentLast choices last ∧
      (filters p).outcome = .ok (clauses ++ last)

lemma filters_of_nullSafe (hp : p.isAlways = false) (h : p.nullSafe = .ok q) :
    filters p = conjunctClauses q.conjuncts := by
  rw [filters, if_neg (by simp [hp]), h]

lemma renderEach_filter {parts : List String} (f : Predicate → Bool)
    (h : renderEach ps = .ok parts) : ∃ kept, renderEach (ps.filter f) = .ok kept := by
  induction ps generalizing parts with
  | nil => exact ⟨[], rfl⟩
  | cons p ps ih =>
    obtain ⟨s, hs, h⟩ := Outcome.bind_eq_ok h
    obtain ⟨rest, hrest, -⟩ := Outcome.bind_eq_ok h
    obtain ⟨kept, hkept⟩ := ih hrest
    cases hf : f p with
    | true => exact ⟨s :: kept, by rw [List.filter_cons_of_pos hf]; exact renderEach_cons hs hkept⟩
    | false => exact ⟨kept, by rw [List.filter_cons_of_neg (by simp [hf])]; exact hkept⟩

/-- Every conjunct of a condition is sent once, if its ranges have bounds. Integers of more than
`Text.digitLimit` digits are left aside: they are taken to have a literal as all others. -/
theorem sends_of_bounded (hp : p.isAlways = false) (hbounded : ∀ t ∈ p.tests, t.Bounded) :
    Sends p := by
  refine ⟨fun failure h => ?_, fun q h => ?_⟩
  · rw [filters, if_neg (by simp [hp]), h]
    rfl
  · have hform := Predicate.storeForm_of_nullSafe h
    have htests : ∀ t ∈ Predicate.testsOfEach q.conjuncts, t.Bounded := by
      intro t ht
      obtain ⟨c, hc, htc⟩ := Predicate.mem_testsOfEach.1 ht
      refine Predicate.forall_tests_nullSafe (fun _ => trivial) hbounded h t ?_
      cases q with
      | and cs => exact Predicate.mem_testsOfEach.2 ⟨c, hc, htc⟩
      | _ => exact List.mem_singleton.1 hc ▸ htc
    obtain ⟨choices, hsent, hleft⟩ := exists_sentEach hform.conjuncts htests
    obtain ⟨parts, hparts⟩ := exists_renderEach hform.conjuncts htests
    obtain ⟨kept, hkept⟩ := renderEach_filter (fun q => (simpleClauses? q).isNone) hparts
    rw [hleft] at hkept
    obtain ⟨tree, htree, hlast⟩ := exists_sentLast hkept
    refine ⟨_, choices, _, hsent, hlast, ?_⟩
    simp only [filters_of_nullSafe hp h, conjunctClauses, hleft, htree, Draft.outcome]

/-- Two choices, both of them from negations, between and behind simple conjuncts. -/
def twoChoices : Predicate :=
  .and [.not (.eq "state" (.text "MA")), .range "price" (some (.int 5)) none,
    .not (.or [.eq "city" .null, .and [.eq "beds" .null, .eq "baths" .null]])]

theorem sends_twoChoices :
    twoChoices.isAlways = false ∧ (∀ t ∈ twoChoices.tests, t.Bounded) ∧ Sends twoChoices ∧
      (filters twoChoices).outcome = .ok [.atLeast "price" "5", .isNotNull "city",
        .either ("and(or(state.is.null,state.not.eq.\"MA\")," ++
          "or(beds.not.is.null,baths.not.is.null))")] := by
  have hbounded : ∀ t ∈ twoChoices.tests, t.Bounded := by
    simp [twoChoices, Predicate.tests, Predicate.testsOfEach, Test.Bounded]
  exact ⟨rfl, hbounded, sends_of_bounded rfl hbounded, rfl⟩

end Query
end ListingSearch
