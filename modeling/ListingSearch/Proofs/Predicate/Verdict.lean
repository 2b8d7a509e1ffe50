import ListingSearch.Predicate.NullSafe
import ListingSearch.Proofs.Outcome
import ListingSearch.Proofs.Predicate.Combination

/-! What a store with three truth values makes of a condition. A test of a missing value is unknown
there, unless it asks for a missing value, and a row is kept only if the condition is true. On the
store form of a condition this agrees with the condition itself, row by row. -/
namespace ListingSearch

/-- The answer of a store: true, false, or neither. -/
inductive Verdict where
  | yes
  | no
  | unknown
  deriving DecidableEq

namespace Verdict

def ofBool (b : Bool) : Verdict := if b then yes else no

protected def not : Verdict → Verdict
  | yes => no
  | no => yes
  | unknown => unknown

protected def and : Verdict → Verdict → Verdict
  | no, _ | _, no => no
  | yes, yes => yes
  | _, _ => unknown

protected def or : Verdict → Verdict → Verdict
  | yes, _ | _, yes => yes
  | no, no => no
  | _, _ => unknown

@[simp] lemma ofBool_eq_yes_iff (b : Bool) : ofBool b = yes ↔ b = true := by cases b <;> decide

@[simp] lemma ofBool_eq_no_iff (b : Bool) : ofBool b = no ↔ b = false := by cases b <;> decide

@[simp] lemma not_eq_yes_iff (v : Verdict) : v.not = yes ↔ v = no := by cases v <;> decide

@[simp] lemma and_eq_yes_iff (v w : Verdict) : v.and w = yes ↔ v = yes ∧ w = yes := by
  cases v <;> cases w <;> decide

@[simp] lemma or_eq_yes_iff (v w : Verdict) : v.or w = yes ↔ v = yes ∨ w = yes := by
  cases v <;> cases w <;> decide

end Verdict

def Test.verdict (t : Test) (r : Record) : Verdict :=
  if t.isMissing then .ofBool (r.get t.field).isNull
  else if (r.get t.field).isNull then .unknown
  else
    match t.holds r with
    | .ok b => .ofBool b
    | .error _ => .unknown

namespace Predicate

mutual

def verdict (r : Record) : Predicate → Verdict
  | .test t => t.verdict r
  | .not p => (verdict r p).not
  | .and ps => allVerdict r ps
  | .or ps => someVerdict r ps

def allVerdict (r : Record) : List Predicate → Verdict
  | [] => .yes
  | p :: ps => (verdict r p).and (allVerdict r ps)

def someVerdict (r : Record) : List Predicate → Verdict
  | [] => .no
  | p :: ps => (verdict r p).or (someVerdict r ps)

end

mutual

def tests : Predicate → List Test
  | .test t => [t]
  | .not p => tests p
  | .and ps | .or ps => testsOfEach ps

def testsOfEach : List Predicate → List Test
  | [] => []
  | p :: ps => tests p ++ testsOfEach ps

end

variable {r : Record} {p q : Predicate} {ps qs : List Predicate}

lemma mem_testsOfEach {t : Test} : t ∈ testsOfEach ps ↔ ∃ p ∈ ps, t ∈ p.tests := by
  induction ps with
  | nil => simp [testsOfEach]
  | cons p ps ih => simp [testsOfEach, ih]

lemma forall_tests_of_mem {P : Test → Prop} (h : ∀ t ∈ testsOfEach ps, P t) :
    ∀ p ∈ ps, ∀ t ∈ p.tests, P t :=
  fun p hp t ht => h t (mem_testsOfEach.2 ⟨p, hp, ht⟩)

lemma decidedOn_of_tests (h : ∀ t ∈ p.tests, ∃ b, t.holds r = .ok b) : DecidedOn r p := by
  induction p using inductionOn with
  | test t => exact h t (by simp [tests])
  | not p ih => exact decidedOn_not (ih h)
  | and ps ih =>
    have parts := forall_tests_of_mem h
    exact decidedOn_and fun p hp => ih p hp (parts p hp)
  | or ps ih =>
    have parts := forall_tests_of_mem h
    exact decidedOn_or fun p hp => ih p hp (parts p hp)

@[simp] lemma allVerdict_eq_yes_iff : allVerdict r ps = .yes ↔ ∀ p ∈ ps, p.verdict r = .yes := by
  induction ps with
  | nil => simp [allVerdict]
  | cons p ps ih => simp [allVerdict, ih]

@[simp] lemma someVerdict_eq_yes_iff : someVerdict r ps = .yes ↔ ∃ p ∈ ps, p.verdict r = .yes := by
  induction ps with
  | nil => simp [someVerdict]
  | cons p ps ih => simp [someVerdict, ih]

lemma verdict_conjuncts (p : Predicate) :
    (∀ q ∈ p.conjuncts, q.verdict r = .yes) ↔ p.verdict r = .yes := by
  cases p <;> simp [conjuncts, verdict]

lemma verdict_alternatives (p : Predicate) :
    (∃ q ∈ p.alternatives, q.verdict r = .yes) ↔ p.verdict r = .yes := by
  cases p <;> simp [alternatives, verdict]

lemma verdict_flatMap_conjuncts (ps : List Predicate) :
    (∀ q ∈ ps.flatMap conjuncts, q.verdict r = .yes) ↔ ∀ p ∈ ps, p.verdict r = .yes := by
  simp only [List.forall_mem_flatMap, verdict_conjuncts]

lemma verdict_flatMap_alternatives (ps : List Predicate) :
    (∃ q ∈ ps.flatMap alternatives, q.verdict r = .yes) ↔ ∃ p ∈ ps, p.verdict r = .yes := by
  constructor
  · rintro ⟨q, hq, hv⟩
    obtain ⟨p, hp, hqp⟩ := List.mem_flatMap.1 hq
    exact ⟨p, hp, (verdict_alternatives p).1 ⟨q, hqp, hv⟩⟩
  · rintro ⟨p, hp, hv⟩
    obtain ⟨q, hqp, hq⟩ := (verdict_alternatives p).2 hv
    exact ⟨q, List.mem_flatMap.2 ⟨p, hp, hqp⟩, hq⟩

lemma verdict_allOf_eq_yes_iff (ps : List Predicate) :
    (allOf ps).verdict r = .yes ↔ ∀ p ∈ ps, p.verdict r = .yes := by
  rw [← verdict_flatMap_conjuncts ps, allOf]
  split
  · rename_i h
    simp [h]
  · simp [verdict]

lemma verdict_anyOf_eq_yes_iff (ps : List Predicate) :
    (anyOf ps).verdict r = .yes ↔ ∃ p ∈ ps, p.verdict r = .yes := by
  unfold anyOf
  split
  · rename_i ha
    obtain ⟨p, hp, halways⟩ := List.any_eq_true.1 ha
    have hv : p.verdict r = .yes := by simp [isAlways_iff.1 halways, verdict]
    exact iff_of_true (by simp [always, verdict]) ⟨p, hp, hv⟩
  · rw [← verdict_flatMap_alternatives ps]
    split
    · rename_i h
      simp [h]
    · simp [verdict]

end Predicate

namespace Test

variable {t : Test} {r : Record}

lemma exists_eq_of_isMissing (h : t.isMissing = true) : ∃ field, t = .eq field .null := by
  cases t with
  | eq field value =>
    cases value with
    | null => exact ⟨field, rfl⟩
    | _ => simp [isMissing] at h
  | _ => simp [isMissing] at h

@[simp] lemma holds_eq_null (field : String) :
    (Test.eq field .null).holds r = .ok (r.get field).isNull := rfl

@[simp] lemma verdict_eq_null (field : String) :
    (Test.eq field .null).verdict r = .ofBool (r.get field).isNull := rfl

/-- A missing value passes no test but the one for a missing value. -/
lemma holds_of_isNull (hm : t.isMissing = false) (hv : (r.get t.field).isNull = true) :
    t.holds r = .ok false := by
  have hnull : r.get t.field = .null := by
    cases h : r.get t.field <;> simp_all [Value.isNull]
  cases t with
  | eq field value =>
    rw [Test.field] at hnull
    cases value <;> simp_all [isMissing, holds, Test.field, Value.same, Value.number?]
  | _ => simp only [holds, hnull]

lemma verdict_of_isNull (hm : t.isMissing = false) (hv : (r.get t.field).isNull = true) :
    t.verdict r = .unknown := by
  simp [verdict, hm, hv]

lemma verdict_of_holds {b : Bool} (hm : t.isMissing = false)
    (hv : (r.get t.field).isNull = false) (h : t.holds r = .ok b) : t.verdict r = .ofBool b := by
  simp [verdict, hm, hv, h]

end Test

namespace Predicate

variable {r : Record} {p q : Predicate} {ps qs : List Predicate}

/-- A condition is decided with the given outcome, and a store keeps the row just if it is true. -/
def Keeps (r : Record) (q : Predicate) (outcome : Outcome Bool) : Prop :=
  q.holds r = outcome ∧ (q.verdict r = .yes ↔ outcome = .ok true)

/-- The store form of a condition, where there is one, is decided like the condition. -/
def SafeOn (r : Record) (p : Predicate) : Prop :=
  ∀ q, p.nullSafe = .ok q → Keeps r q (p.holds r)

lemma keeps_test (t : Test) (h : ∃ b, t.holds r = .ok b) : Keeps r (.test t) (t.holds r) := by
  refine ⟨rfl, ?_⟩
  rw [verdict]
  cases hm : t.isMissing with
  | true =>
    obtain ⟨field, rfl⟩ := Test.exists_eq_of_isMissing hm
    simp
  | false =>
    cases hv : (r.get t.field).isNull with
    | true => simp [Test.verdict_of_isNull hm hv, Test.holds_of_isNull hm hv]
    | false =>
      obtain ⟨b, hb⟩ := h
      simp [Test.verdict_of_holds hm hv hb, hb]

lemma keeps_nullSafeNot (t : Test) (h : ∃ b, t.holds r = .ok b) :
    Keeps r t.nullSafeNot ((t.holds r).map (!·)) := by
  unfold Test.nullSafeNot
  cases hm : t.isMissing with
  | true =>
    obtain ⟨field, rfl⟩ := Test.exists_eq_of_isMissing hm
    refine ⟨rfl, ?_⟩
    simp [verdict, Except.map]
  | false =>
    rw [if_neg (by decide)]
    cases hv : (r.get t.field).isNull with
    | true =>
      have hf := Test.holds_of_isNull hm hv
      constructor
      · simp [someHolds_cons, hv, hf, Except.map]
      · simp [verdict, someVerdict, hv, hf, Except.map]
    | false =>
      obtain ⟨b, hb⟩ := h
      constructor
      · cases b <;> simp [someHolds_cons, hv, hb, Except.map]
      · simp [verdict, hv, Test.verdict_of_holds hm hv hb, hb, Except.map]

/-- Two lists of conditions correspond if the second keeps, one by one, what the first decides. -/
def KeepsEach (r : Record) : List Predicate → List Predicate → Prop :=
  List.Forall₂ fun p q => Keeps r q (p.holds r)

lemma keepsEach_of_nullSafeEach (hs : ∀ p ∈ ps, SafeOn r p) (h : nullSafeEach ps = .ok qs) :
    KeepsEach r ps qs := by
  induction ps generalizing qs with
  | nil =>
    cases h
    exact .nil
  | cons p ps ih =>
    rw [List.forall_mem_cons] at hs
    obtain ⟨q, hq, h⟩ := Outcome.bind_eq_ok h
    obtain ⟨rest, hrest, h⟩ := Outcome.bind_eq_ok h
    cases h
    exact .cons (hs.1 q hq) (ih hs.2 hrest)

lemma KeepsEach.allHold_eq (h : KeepsEach r ps qs) : allHold r qs = allHold r ps := by
  induction h with
  | nil => rfl
  | cons hq _ ih => rw [allHold_cons, allHold_cons, hq.1, ih]

lemma KeepsEach.someHolds_eq (h : KeepsEach r ps qs) : someHolds r qs = someHolds r ps := by
  induction h with
  | nil => rfl
  | cons hq _ ih => rw [someHolds_cons, someHolds_cons, hq.1, ih]

lemma KeepsEach.decidedOn (h : KeepsEach r ps qs) (hd : ∀ p ∈ ps, DecidedOn r p) :
    ∀ q ∈ qs, DecidedOn r q := by
  induction h with
  | nil => simp
  | cons hq _ ih =>
    rw [List.forall_mem_cons] at hd ⊢
    refine ⟨?_, ih hd.2⟩
    rw [DecidedOn, hq.1]
    exact hd.1

lemma KeepsEach.forall_verdict (h : KeepsEach r ps qs) :
    (∀ q ∈ qs, q.verdict r = .yes) ↔ ∀ p ∈ ps, p.holds r = .ok true := by
  induction h with
  | nil => simp
  | cons hq _ ih => rw [List.forall_mem_cons, List.forall_mem_cons, hq.2, ih]

lemma KeepsEach.exists_verdict (h : KeepsEach r ps qs) :
    (∃ q ∈ qs, q.verdict r = .yes) ↔ ∃ p ∈ ps, p.holds r = .ok true := by
  induction h with
  | nil => simp
  | cons hq _ ih => simp only [List.mem_cons, exists_eq_or_imp, hq.2, ih]

lemma KeepsEach.allOf (h : KeepsEach r ps qs) : Keeps r (allOf qs) (allHold r ps) := by
  constructor
  · rw [holds_allOf, h.allHold_eq]
  · rw [verdict_allOf_eq_yes_iff, h.forall_verdict, allHold_eq_true_iff]

lemma KeepsEach.anyOf (h : KeepsEach r ps qs) (hd : ∀ p ∈ ps, DecidedOn r p) :
    Keeps r (anyOf qs) (someHolds r ps) := by
  constructor
  · rw [holds_anyOf (h.decidedOn hd), h.someHolds_eq]
  · rw [verdict_anyOf_eq_yes_iff, h.exists_verdict, someHolds_eq_true_iff hd]

lemma safeOn_and (h : ∀ p ∈ ps, SafeOn r p) : SafeOn r (.and ps) := by
  intro q hq
  obtain ⟨qs, hqs, rfl⟩ := Outcome.map_eq_ok hq
  exact (keepsEach_of_nullSafeEach h hqs).allOf

lemma safeOn_or (h : ∀ p ∈ ps, SafeOn r p) (hd : ∀ p ∈ ps, DecidedOn r p) :
    SafeOn r (.or ps) := by
  intro q hq
  rw [nullSafe] at hq
  split at hq
  · cases hq
  · obtain ⟨qs, hqs, rfl⟩ := Outcome.map_eq_ok hq
    exact (keepsEach_of_nullSafeEach h hqs).anyOf hd

lemma safeOn_and_safeOn_negate (h : ∀ t ∈ p.tests, ∃ b, t.holds r = .ok b) :
    SafeOn r p ∧ SafeOn r p.negate := by
  -- The store form of a negation is that of the opposite, so the induction carries both.
  induction p using inductionOn with
  | test t =>
    have ht := h t (by simp [tests])
    constructor
    · intro q hq
      cases hq
      exact keeps_test t ht
    · intro q hq
      cases hq
      exact keeps_nullSafeNot t ht
  | not p ih =>
    obtain ⟨hp, hn⟩ := ih h
    refine ⟨fun q hq => ?_, hp⟩
    rw [nullSafe, ← nullSafe_negate] at hq
    rw [holds_not, ← holds_negate]
    exact hn q hq
  | and ps ih =>
    have parts := forall_tests_of_mem h
    refine ⟨safeOn_and fun p hp => (ih p hp (parts p hp)).1, ?_⟩
    rw [negate, negateAll_eq_map]
    refine safeOn_or ?_ ?_ <;> simp only [List.forall_mem_map]
    · exact fun p hp => (ih p hp (parts p hp)).2
    · exact fun p hp => decidedOn_negate (decidedOn_of_tests (parts p hp))
  | or ps ih =>
    have parts := forall_tests_of_mem h
    have decided : ∀ p ∈ ps, DecidedOn r p := fun p hp => decidedOn_of_tests (parts p hp)
    refine ⟨safeOn_or (fun p hp => (ih p hp (parts p hp)).1) decided, ?_⟩
    rw [negate, negateAll_eq_map]
    refine safeOn_and ?_
    simp only [List.forall_mem_map]
    exact fun p hp => (ih p hp (parts p hp)).2

/-- A store keeps a row by the store form of a condition just if the condition holds of it, and the
store form itself is decided like the condition. -/
theorem verdict_nullSafe_eq_yes_iff (hq : p.nullSafe = .ok q)
    (ht : ∀ t ∈ p.tests, ∃ b, t.holds r = .ok b) :
    (q.verdict r = .yes ↔ p.holds r = .ok true) ∧ q.holds r = p.holds r := by
  obtain ⟨same, kept⟩ := (safeOn_and_safeOn_negate ht).1 q hq
  exact ⟨kept, same⟩

/-- A listing without a description is kept by an unwanted word. -/
theorem verdict_nullSafe_missing_description :
    let p : Predicate :=
      .not (.and [.like "description" "pool" .anywhere, .eq "status" (.text "sold")])
    let q : Predicate :=
      .or [.eq "description" .null, .not (.like "description" "pool" .anywhere),
        .eq "status" .null, .not (.eq "status" (.text "sold"))]
    let r : Record := [("status", .text "sold")]
    p.nullSafe = .ok q ∧ (∀ t ∈ p.tests, ∃ b, t.holds r = .ok b) ∧ p.holds r = .ok true ∧
      q.verdict r = .yes ∧ q.holds r = p.holds r := by
  intro p q r
  have hq : p.nullSafe = .ok q := rfl
  have ht : ∀ t ∈ p.tests, ∃ b, t.holds r = .ok b := by
    intro t ht
    simp only [p, tests, testsOfEach, List.append_nil, List.singleton_append, List.mem_cons,
      List.not_mem_nil, or_false] at ht
    obtain rfl | rfl := ht
    · exact ⟨false, rfl⟩
    · exact ⟨true, rfl⟩
  have hp : p.holds r = .ok true := rfl
  obtain ⟨kept, same⟩ := verdict_nullSafe_eq_yes_iff hq ht
  exact ⟨hq, ht, hp, kept.2 hp, same⟩

end Predicate
end ListingSearch
