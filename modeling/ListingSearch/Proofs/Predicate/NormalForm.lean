import ListingSearch.Proofs.Predicate.StoreForm
import Mathlib.Logic.Relation
import Mathlib.Order.WellFounded

/-! The way to the store form. The rewriting goes on with operands, and with the opposite of a
negated combination, which is no part of it and may have more negations than it. It comes to an end
all the same, it fails only where it comes to a choice between nothing, and what it gives is in
normal form, part by part. -/
namespace ListingSearch.Predicate

/-- What the rewriting of a condition goes on with. -/
inductive GoesOn : Predicate → Predicate → Prop
  | conjunct {p : Predicate} {ps : List Predicate} (h : p ∈ ps) : GoesOn (.and ps) p
  | alternative {p : Predicate} {ps : List Predicate} (h : p ∈ ps) : GoesOn (.or ps) p
  | opposite {p : Predicate} (h : ∀ t, p ≠ .test t) : GoesOn (.not p) p.negate

/-- One round of the rewriting, which leaves what it goes on with to a function. -/
def round (f : Predicate → Outcome Predicate) : Predicate → Outcome Predicate
  | .test t => .ok (.test t)
  | .not (.test t) => .ok t.nullSafeNot
  | .not p => f p.negate
  | .and ps => allOf <$> ps.mapM f
  | .or ps => if ps.isEmpty then .error .emptyChoice else anyOf <$> ps.mapM f

section Ending

variable {p q : Predicate} {ps : List Predicate} {f g : Predicate → Outcome Predicate}

@[simp] lemma goesOn_and_iff : GoesOn (.and ps) q ↔ q ∈ ps := by
  refine ⟨fun h => ?_, .conjunct⟩
  cases h with
  | conjunct h => exact h

@[simp] lemma goesOn_or_iff : GoesOn (.or ps) q ↔ q ∈ ps := by
  refine ⟨fun h => ?_, .alternative⟩
  cases h with
  | alternative h => exact h

@[simp] lemma not_goesOn_test (t : Test) : ¬ GoesOn (.test t) q := nofun

@[simp] lemma not_goesOn_not_test (t : Test) : ¬ GoesOn (.not (.test t)) q := by
  intro h
  cases h with
  | opposite h => exact h t rfl

lemma goesOn_not_iff (h : ∀ t, p ≠ .test t) : GoesOn (.not p) q ↔ q = p.negate := by
  constructor
  · rintro ⟨⟩
    rfl
  · rintro rfl
    exact .opposite h

lemma round_not (h : ∀ t, p ≠ .test t) : round f (.not p) = f p.negate := by
  cases p with
  | test t => exact absurd rfl (h t)
  | _ => rfl

/-- Of a negation either nothing is left to do, or there is a single condition to go on with. -/
lemma test_or_not_test (p : Predicate) : (∃ t, p = .test t) ∨ ∀ t, p ≠ .test t := by
  by_cases h : ∃ t, p = .test t
  · exact .inl h
  · exact .inr (not_exists.1 h)

lemma acc_of_forall (h : ∀ q, GoesOn p q → Acc (flip GoesOn) q) : Acc (flip GoesOn) p :=
  .intro p h

/-- The opposite of a condition is no part of it, so the induction carries both. -/
lemma acc_and_acc_negate (p : Predicate) :
    Acc (flip GoesOn) p ∧ Acc (flip GoesOn) p.negate := by
  induction p using inductionOn with
  | test t =>
    constructor <;> apply acc_of_forall <;> simp [negate]
  | not p ih =>
    refine ⟨acc_of_forall fun q h => ?_, ih.1⟩
    cases h with
    | opposite => exact ih.2
  | and ps ih =>
    constructor <;> apply acc_of_forall
    · intro q hq
      exact (ih q (goesOn_and_iff.1 hq)).1
    · rw [negate, negateAll_eq_map]
      simp only [goesOn_or_iff, List.forall_mem_map]
      exact fun p hp => (ih p hp).2
  | or ps ih =>
    constructor <;> apply acc_of_forall
    · intro q hq
      exact (ih q (goesOn_or_iff.1 hq)).1
    · rw [negate, negateAll_eq_map]
      simp only [goesOn_and_iff, List.forall_mem_map]
      exact fun p hp => (ih p hp).2

/-- No condition is rewritten forever. -/
lemma goesOn_wellFounded : WellFounded (flip GoesOn) := ⟨fun p => (acc_and_acc_negate p).1⟩

lemma nullSafeEach_eq_mapM (ps : List Predicate) : nullSafeEach ps = ps.mapM nullSafe := by
  induction ps with
  | nil => rfl
  | cons p ps ih => rw [nullSafeEach, List.mapM_cons, ih]

/-- The store form goes from round to round. -/
lemma nullSafe_eq_round (p : Predicate) : p.nullSafe = round nullSafe p := by
  cases p with
  | test t => rfl
  | not p =>
    rw [nullSafe, ← nullSafe_negate]
    cases p <;> rfl
  | and ps => rw [nullSafe, round, nullSafeEach_eq_mapM]
  | or ps => rw [nullSafe, round, nullSafeEach_eq_mapM]

lemma mapM_congr (h : ∀ p ∈ ps, f p = g p) : ps.mapM f = ps.mapM g := by
  induction ps with
  | nil => rfl
  | cons p ps ih =>
    rw [List.forall_mem_cons] at h
    rw [List.mapM_cons, List.mapM_cons, h.1, ih h.2]

/-- A round needs to know only of what it goes on with. -/
lemma round_congr (h : ∀ q, GoesOn p q → f q = g q) : round f p = round g p := by
  cases p with
  | test t => rfl
  | not p =>
    rcases test_or_not_test p with ⟨t, rfl⟩ | hp
    · rfl
    · rw [round_not hp, round_not hp, h _ (.opposite hp)]
  | and ps => rw [round, round, mapM_congr fun q hq => h q (.conjunct hq)]
  | or ps => rw [round, round, mapM_congr fun q hq => h q (.alternative hq)]

/-- Nothing but the store form goes from round to round. -/
lemma eq_nullSafe_of_forall_round (h : ∀ p, f p = round f p) (p : Predicate) :
    f p = p.nullSafe := by
  induction p using goesOn_wellFounded.induction with
  | h p ih => rw [h, nullSafe_eq_round, round_congr ih]

end Ending

section Failing

variable {ps : List Predicate} {f : Predicate → Outcome Predicate} {failure : Failure}

lemma map_eq_error_iff {α β : Type} {x : Outcome α} (f : α → β) :
    f <$> x = .error failure ↔ x = .error failure := by
  cases x <;> simp [Functor.map, Except.map]

lemma mapM_eq_error_iff {P : Predicate → Prop}
    (h : ∀ p ∈ ps, ∀ failure, f p = .error failure ↔ failure = .emptyChoice ∧ P p) :
    ps.mapM f = .error failure ↔ failure = .emptyChoice ∧ ∃ p ∈ ps, P p := by
  induction ps with
  | nil => simp [pure, Except.pure]
  | cons p ps ih =>
    rw [List.forall_mem_cons] at h
    rw [List.mapM_cons]
    cases hp : f p with
    | error first =>
      obtain ⟨rfl, hP⟩ := (h.1 first).1 hp
      simp [bind, Except.bind, hP, eq_comm]
    | ok q =>
      have hP : ¬ P p := fun hP => by simpa [hp] using (h.1 .emptyChoice).2 ⟨rfl, hP⟩
      simp only [List.mem_cons, exists_eq_or_imp, hP, false_or, ← ih h.2]
      exact map_eq_error_iff (q :: ·)

/-- The rewriting fails just if it comes to a choice between nothing, and that is the failure. -/
lemma nullSafe_eq_error_iff (p : Predicate) (failure : Failure) :
    p.nullSafe = .error failure ↔
      failure = .emptyChoice ∧ Relation.ReflTransGen GoesOn p (.or []) := by
  induction p using goesOn_wellFounded.induction generalizing failure with
  | h p ih =>
    rw [nullSafe_eq_round, Relation.ReflTransGen.cases_head_iff]
    cases p with
    | test t => simp [round]
    | not p =>
      rcases test_or_not_test p with ⟨t, rfl⟩ | hp
      · simp [round]
      · rw [round_not hp, ih _ (.opposite hp)]
        simp [goesOn_not_iff hp]
    | and ps =>
      rw [round, map_eq_error_iff,
        mapM_eq_error_iff fun q hq failure => ih q (.conjunct hq) failure]
      simp
    | or ps =>
      rw [round]
      split
      · rename_i hempty
        simp [List.isEmpty_iff.1 hempty, eq_comm]
      · rename_i hsome
        rw [map_eq_error_iff,
          mapM_eq_error_iff fun q hq failure => ih q (.alternative hq) failure]
        simp [mt List.isEmpty_iff.2 hsome]

end Failing

/-- A condition stands somewhere in another one. -/
inductive PartOf (p : Predicate) : Predicate → Prop
  | whole : PartOf p p
  | negated {q : Predicate} (h : PartOf p q) : PartOf p (.not q)
  | conjunct {q : Predicate} {qs : List Predicate} (hq : q ∈ qs) (h : PartOf p q) :
    PartOf p (.and qs)
  | alternative {q : Predicate} {qs : List Predicate} (hq : q ∈ qs) (h : PartOf p q) :
    PartOf p (.or qs)

/-- The negation of a test is guarded behind other alternatives: the last of them is the test for a
missing value of its field, unless it asks for one itself. -/
def GuardedBehind (t : Test) (front : List Predicate) : Prop :=
  t.isMissing = true ∨ ∃ before, front = before ++ [.eq t.field .null]

/-- The condition is in normal form, wherever one looks in it. -/
structure NormalForm (p : Predicate) : Prop where
  /-- No conjunction is an operand of a conjunction. -/
  and_flat : ∀ qs, PartOf (.and qs) p → ∀ q ∈ qs, ∀ rs, q ≠ .and rs
  /-- No choice is an operand of a choice. -/
  or_flat : ∀ qs, PartOf (.or qs) p → ∀ q ∈ qs, ∀ rs, q ≠ .or rs
  /-- Only the whole can be the conjunction of nothing; others have at least two operands. -/
  and_full : ∀ qs, PartOf (.and qs) p → 2 ≤ qs.length ∨ qs = [] ∧ p = .and []
  /-- A choice has at least two operands. -/
  or_full : ∀ qs, PartOf (.or qs) p → 2 ≤ qs.length
  /-- Only tests are negated. -/
  not_test : ∀ q, PartOf (.not q) p → ∃ t, q = .test t
  /-- The negation of a test that a missing value does not pass is not the whole. -/
  not_whole : ∀ t, p = .not (.test t) → t.isMissing = true
  /-- Nor is it a conjunct. -/
  not_conjunct : ∀ qs, PartOf (.and qs) p → ∀ t, .not (.test t) ∈ qs → t.isMissing = true
  /-- As an alternative it stands right behind the test for a missing value of its field. -/
  not_alternative : ∀ qs, PartOf (.or qs) p → ∀ t front back,
    qs = front ++ .not (.test t) :: back → GuardedBehind t front

/-- What can stand in a condition in store form. -/
inductive Standing : Predicate → Prop
  | test (t : Test) : Standing (.test t)
  | not (t : Test) : Standing (.not (.test t))
  | and {qs : List Predicate} (h : Operands .all qs) (hlength : 2 ≤ qs.length) :
    Standing (.and qs)
  | or {qs : List Predicate} (h : Operands .any qs) (hlength : 2 ≤ qs.length) : Standing (.or qs)

section Normal

variable {p q : Predicate} {qs : List Predicate} {t : Test} {j : Joint}

lemma Operands.standing (h : Operands j qs) : ∀ q ∈ qs, Standing q := by
  induction h with
  | nil => simp
  | test t h ih => exact List.forall_mem_cons.2 ⟨.test t, ih⟩
  | present field h ih => exact List.forall_mem_cons.2 ⟨.not _, ih⟩
  | choice hqs hlength h _ ih => exact List.forall_mem_cons.2 ⟨.or hqs hlength, ih⟩
  | conjunction hqs hlength h _ ih => exact List.forall_mem_cons.2 ⟨.and hqs hlength, ih⟩
  | guarded t hmissing h ih =>
    exact List.forall_mem_cons.2 ⟨.test _, List.forall_mem_cons.2 ⟨.not t, ih⟩⟩

lemma Standing.part (hp : Standing p) (h : PartOf q p) : Standing q := by
  induction h with
  | whole => exact hp
  | negated h ih =>
    cases hp with
    | not t => exact ih (.test t)
  | conjunct hq h ih =>
    cases hp with
    | and hops hlength => exact ih (hops.standing _ hq)
  | alternative hq h ih =>
    cases hp with
    | or hops hlength => exact ih (hops.standing _ hq)

/-- A condition in store form is the one that always holds, or it can stand in others. -/
lemma StoreForm.standing (h : StoreForm p) : p = .and [] ∨ Standing p := by
  obtain ⟨hops, hone⟩ := h
  cases p with
  | and qs =>
    rcases Nat.lt_or_ge qs.length 2 with hshort | hlength
    · have hzero : qs.length = 0 := by
        have := hone qs rfl
        omega
      exact .inl (by rw [List.length_eq_zero_iff.1 hzero])
    · exact .inr (.and hops hlength)
  | _ => exact .inr (hops.standing _ (List.mem_singleton_self _))

/-- Whatever stands in a condition in store form can stand in others, unless it is the whole. -/
lemma StoreForm.part (h : StoreForm p) (hq : PartOf q p) :
    Standing q ∨ q = .and [] ∧ p = .and [] := by
  rcases h.standing with rfl | hstanding
  · cases hq with
    | whole => exact .inr ⟨rfl, rfl⟩
    | conjunct hq h => cases hq
  · exact .inl (hstanding.part hq)

lemma Operands.ne_and (h : Operands .all qs) : ∀ q ∈ qs, ∀ rs, q ≠ .and rs := by
  generalize hj : Joint.all = j at h
  induction h with
  | nil => simp
  | test t h ih => exact List.forall_mem_cons.2 ⟨nofun, ih hj⟩
  | present field h ih => exact List.forall_mem_cons.2 ⟨nofun, ih hj⟩
  | choice hqs hlength h _ ih => exact List.forall_mem_cons.2 ⟨nofun, ih hj⟩
  | conjunction => cases hj
  | guarded => cases hj

lemma Operands.ne_or (h : Operands .any qs) : ∀ q ∈ qs, ∀ rs, q ≠ .or rs := by
  generalize hj : Joint.any = j at h
  induction h with
  | nil => simp
  | test t h ih => exact List.forall_mem_cons.2 ⟨nofun, ih hj⟩
  | present field h ih => exact List.forall_mem_cons.2 ⟨nofun, ih hj⟩
  | choice => cases hj
  | conjunction hqs hlength h _ ih => exact List.forall_mem_cons.2 ⟨nofun, ih hj⟩
  | guarded t hmissing h ih =>
    exact List.forall_mem_cons.2 ⟨nofun, List.forall_mem_cons.2 ⟨nofun, ih hj⟩⟩

lemma Operands.isMissing (h : Operands .all qs) :
    ∀ q ∈ qs, ∀ t, q = .not (.test t) → t.isMissing = true := by
  generalize hj : Joint.all = j at h
  induction h with
  | nil => simp
  | test t h ih => exact List.forall_mem_cons.2 ⟨by rintro _ ⟨⟩, ih hj⟩
  | present field h ih =>
    refine List.forall_mem_cons.2 ⟨?_, ih hj⟩
    rintro _ ⟨⟩
    rfl
  | choice hqs hlength h _ ih => exact List.forall_mem_cons.2 ⟨by rintro _ ⟨⟩, ih hj⟩
  | conjunction => cases hj
  | guarded => cases hj

lemma GuardedBehind.cons {front : List Predicate} (h : GuardedBehind t front) (p : Predicate) :
    GuardedBehind t (p :: front) := by
  refine h.imp_right ?_
  rintro ⟨before, rfl⟩
  exact ⟨p :: before, rfl⟩

/-- Wherever alternatives are cut before a negated test, it is guarded. -/
lemma Operands.guardedBehind (h : Operands .any qs) {front back : List Predicate}
    (hqs : qs = front ++ .not (.test t) :: back) : GuardedBehind t front := by
  generalize hj : Joint.any = j at h
  induction h generalizing front with
  | nil => simp at hqs
  | test u h ih =>
    rcases List.cons_eq_append_iff.1 hqs with ⟨-, heq⟩ | ⟨front, rfl, hrest⟩
    · cases heq
    · exact (ih hrest hj).cons _
  | present field h ih =>
    rcases List.cons_eq_append_iff.1 hqs with ⟨-, heq⟩ | ⟨front, rfl, hrest⟩
    · cases heq
      exact .inl rfl
    · exact (ih hrest hj).cons _
  | choice => cases hj
  | conjunction hops hlength h _ ih =>
    rcases List.cons_eq_append_iff.1 hqs with ⟨-, heq⟩ | ⟨front, rfl, hrest⟩
    · cases heq
    · exact (ih hrest hj).cons _
  | guarded u hmissing h ih =>
    rcases List.cons_eq_append_iff.1 hqs with ⟨-, heq⟩ | ⟨front, rfl, hrest⟩
    · cases heq
    · rcases List.cons_eq_append_iff.1 hrest with ⟨rfl, heq⟩ | ⟨front, rfl, hback⟩
      · cases heq
        exact .inr ⟨[], rfl⟩
      · exact ((ih hback hj).cons _).cons _

/-- What is in store form is in normal form. -/
lemma StoreForm.normalForm (h : StoreForm p) : NormalForm p := by
  have hand (qs : List Predicate) (hqs : PartOf (.and qs) p) :
      Operands .all qs ∧ (2 ≤ qs.length ∨ qs = [] ∧ p = .and []) := by
    rcases h.part hqs with hs | ⟨heq, rfl⟩
    · cases hs with
      | and hops hlength => exact ⟨hops, .inl hlength⟩
    · cases heq
      exact ⟨.nil, .inr ⟨rfl, rfl⟩⟩
  have hor (qs : List Predicate) (hqs : PartOf (.or qs) p) :
      Operands .any qs ∧ 2 ≤ qs.length := by
    rcases h.part hqs with hs | ⟨heq, -⟩
    · cases hs with
      | or hops hlength => exact ⟨hops, hlength⟩
    · cases heq
  constructor
  · exact fun qs hqs => (hand qs hqs).1.ne_and
  · exact fun qs hqs => (hor qs hqs).1.ne_or
  · exact fun qs hqs => (hand qs hqs).2
  · exact fun qs hqs => (hor qs hqs).2
  · intro q hq
    rcases h.part hq with hs | ⟨heq, -⟩
    · cases hs with
      | not t => exact ⟨t, rfl⟩
    · cases heq
  · rintro t rfl
    exact h.conjuncts.isMissing _ (List.mem_singleton_self _) t rfl
  · exact fun qs hqs t ht => (hand qs hqs).1.isMissing _ ht t rfl
  · exact fun qs hqs t front back => (hor qs hqs).1.guardedBehind

end Normal

/-- The store form is the only rewriting that goes on in this way, and no condition is rewritten
forever. It fails just if it comes to a choice between nothing; otherwise it gives a condition in
normal form. -/
theorem nullSafe_ends (p : Predicate) :
    WellFounded (flip GoesOn) ∧ (∀ f, (∀ p, f p = round f p) ↔ f = nullSafe) ∧
      (∀ failure, p.nullSafe = .error failure ↔
        failure = .emptyChoice ∧ Relation.ReflTransGen GoesOn p (.or [])) ∧
      ∀ q, p.nullSafe = .ok q → NormalForm q := by
  refine ⟨goesOn_wellFounded, fun f => ⟨?_, ?_⟩, nullSafe_eq_error_iff p, ?_⟩
  · intro hf
    ext p
    rw [eq_nullSafe_of_forall_round hf]
  · rintro rfl
    exact nullSafe_eq_round
  · intro q hq
    exact (storeForm_of_nullSafe hq).normalForm

/-- A negated choice becomes a conjunction, in which a nested conjunction is dissolved, a doubly
negated test is bare again, and the negated conjunction is a choice with its guards. A choice
between nothing is found behind negations. -/
theorem nullSafe_ends_nested :
    let pool : Test := .like "description" "pool" .anywhere
    let sold : Test := .eq "status" (.text "sold")
    let p : Predicate := .not (.or [.not (.test pool), .and [.test sold, .test pool],
      .not (.and [.test sold, .not (.eq "price" .null)])])
    let q : Predicate := .and [.test pool,
      .or [.eq "status" .null, .not (.test sold), .eq "description" .null, .not (.test pool)],
      .test sold, .not (.eq "price" .null)]
    let r : Predicate := .or [.test sold, .not (.not (.not (.and [])))]
    p.nullSafe = .ok q ∧ NormalForm q ∧ Relation.ReflTransGen GoesOn r (.or []) ∧
      r.nullSafe = .error .emptyChoice := by
  intro pool sold p q r
  have hq : p.nullSafe = .ok q := rfl
  have hr : r.nullSafe = .error .emptyChoice := rfl
  exact ⟨hq, (nullSafe_ends p).2.2.2 q hq, (((nullSafe_ends r).2.2.1 _).1 hr).2, hr⟩

end ListingSearch.Predicate
