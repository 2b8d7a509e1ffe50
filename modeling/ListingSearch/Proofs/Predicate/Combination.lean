import ListingSearch.Predicate.Holds
import Mathlib.Tactic.Common

/-! What the combining functions mean. The conjunction of conditions is decided like the conditions
looked at one after the other, failures included; the opposite of a condition is decided the other
way round; a choice is decided like its alternatives where none of them fails. -/
namespace ListingSearch.Predicate

variable {r : Record} {p : Predicate} {ps qs : List Predicate}

/-- Induction over conditions, with the hypothesis for every operand of a combination. -/
@[elab_as_elim]
theorem inductionOn {motive : Predicate → Prop} (test : ∀ t, motive (.test t))
    (not : ∀ p, motive p → motive (.not p))
    (and : ∀ ps, (∀ p ∈ ps, motive p) → motive (.and ps))
    (or : ∀ ps, (∀ p ∈ ps, motive p) → motive (.or ps)) : ∀ p, motive p
  | .test t => test t
  | .not p => not p (inductionOn test not and or p)
  | .and ps => and ps fun p _ => inductionOn test not and or p
  | .or ps => or ps fun p _ => inductionOn test not and or p

/-- No test that is looked at fails. -/
def DecidedOn (r : Record) (p : Predicate) : Prop := ∃ b, p.holds r = .ok b

@[simp] lemma holds_test (t : Test) : (Predicate.test t).holds r = t.holds r := rfl

@[simp] lemma holds_not : (Predicate.not p).holds r = (p.holds r).map (!·) := rfl

@[simp] lemma holds_and : (Predicate.and ps).holds r = allHold r ps := rfl

@[simp] lemma holds_or : (Predicate.or ps).holds r = someHolds r ps := rfl

@[simp] lemma allHold_nil : allHold r [] = .ok true := rfl

@[simp] lemma someHolds_nil : someHolds r [] = .ok false := rfl

lemma allHold_cons : allHold r (p :: ps) =
    match p.holds r with
    | .ok true => allHold r ps
    | early => early := by
  rw [allHold]
  cases p.holds r with
  | error failure => rfl
  | ok b => cases b <;> rfl

lemma someHolds_cons : someHolds r (p :: ps) =
    match p.holds r with
    | .ok false => someHolds r ps
    | early => early := by
  rw [someHolds]
  cases p.holds r with
  | error failure => rfl
  | ok b => cases b <;> rfl

lemma allHold_append : allHold r (ps ++ qs) =
    match allHold r ps with
    | .ok true => allHold r qs
    | early => early := by
  induction ps with
  | nil => rfl
  | cons p ps ih =>
    rw [List.cons_append, allHold_cons, allHold_cons, ih]
    cases p.holds r with
    | error failure => rfl
    | ok b => cases b <;> rfl

lemma someHolds_append : someHolds r (ps ++ qs) =
    match someHolds r ps with
    | .ok false => someHolds r qs
    | early => early := by
  induction ps with
  | nil => rfl
  | cons p ps ih =>
    rw [List.cons_append, someHolds_cons, someHolds_cons, ih]
    cases p.holds r with
    | error failure => rfl
    | ok b => cases b <;> rfl

@[simp] lemma allHold_singleton : allHold r [p] = p.holds r := by
  rw [allHold_cons]
  split
  · rename_i h
    rw [h, allHold_nil]
  · rfl

@[simp] lemma someHolds_singleton : someHolds r [p] = p.holds r := by
  rw [someHolds_cons]
  split
  · rename_i h
    rw [h, someHolds_nil]
  · rfl

lemma allHold_conjuncts (p : Predicate) : allHold r p.conjuncts = p.holds r := by
  cases p <;> simp [conjuncts]

lemma someHolds_alternatives (p : Predicate) : someHolds r p.alternatives = p.holds r := by
  cases p <;> simp [alternatives]

lemma allHold_flatMap_conjuncts (ps : List Predicate) :
    allHold r (ps.flatMap conjuncts) = allHold r ps := by
  induction ps with
  | nil => rfl
  | cons p ps ih => rw [List.flatMap_cons, allHold_append, allHold_conjuncts, ih, allHold_cons]

lemma someHolds_flatMap_alternatives (ps : List Predicate) :
    someHolds r (ps.flatMap alternatives) = someHolds r ps := by
  induction ps with
  | nil => rfl
  | cons p ps ih =>
    rw [List.flatMap_cons, someHolds_append, someHolds_alternatives, ih, someHolds_cons]

/-- A conjunction is decided like its operands from left to right. -/
lemma holds_allOf (ps : List Predicate) : (allOf ps).holds r = allHold r ps := by
  rw [← allHold_flatMap_conjuncts ps, allOf]
  split
  · rename_i q h
    rw [h, allHold_singleton]
  · rfl

lemma someHolds_map_negate (h : ∀ p ∈ ps, p.negate.holds r = (p.holds r).map (!·)) :
    someHolds r (ps.map negate) = (allHold r ps).map (!·) := by
  induction ps with
  | nil => rfl
  | cons p ps ih =>
    rw [List.forall_mem_cons] at h
    rw [List.map_cons, someHolds_cons, allHold_cons, h.1, ih h.2]
    cases p.holds r with
    | error failure => rfl
    | ok b => cases b <;> rfl

lemma allHold_map_negate (h : ∀ p ∈ ps, p.negate.holds r = (p.holds r).map (!·)) :
    allHold r (ps.map negate) = (someHolds r ps).map (!·) := by
  induction ps with
  | nil => rfl
  | cons p ps ih =>
    rw [List.forall_mem_cons] at h
    rw [List.map_cons, someHolds_cons, allHold_cons, h.1, ih h.2]
    cases p.holds r with
    | error failure => rfl
    | ok b => cases b <;> rfl

/-- The opposite is decided the other way round, and fails where the condition fails. -/
lemma holds_negate (p : Predicate) : p.negate.holds r = (p.holds r).map (!·) := by
  induction p using inductionOn with
  | test t => rfl
  | not p ih =>
    rw [negate, holds_not]
    cases p.holds r with
    | error failure => rfl
    | ok b => simp [Except.map]
  | and ps ih =>
    rw [negate, holds_or, holds_and, negateAll_eq_map]
    exact someHolds_map_negate ih
  | or ps ih =>
    rw [negate, holds_or, holds_and, negateAll_eq_map]
    exact allHold_map_negate ih

lemma allHold_eq_true_iff : allHold r ps = .ok true ↔ ∀ p ∈ ps, p.holds r = .ok true := by
  induction ps with
  | nil => simp
  | cons p ps ih =>
    rw [allHold_cons, List.forall_mem_cons, ← ih]
    cases p.holds r with
    | error failure => simp
    | ok b => cases b <;> simp

lemma someHolds_eq_false_iff : someHolds r ps = .ok false ↔ ∀ p ∈ ps, p.holds r = .ok false := by
  induction ps with
  | nil => simp
  | cons p ps ih =>
    rw [someHolds_cons, List.forall_mem_cons, ← ih]
    cases p.holds r with
    | error failure => simp
    | ok b => cases b <;> simp

lemma exists_of_someHolds_eq_true (h : someHolds r ps = .ok true) :
    ∃ p ∈ ps, p.holds r = .ok true := by
  induction ps with
  | nil => simp at h
  | cons p ps ih =>
    rw [someHolds_cons] at h
    cases hp : p.holds r with
    | error failure => simp [hp] at h
    | ok b =>
      cases b with
      | true => exact ⟨p, by simp, hp⟩
      | false =>
        rw [hp] at h
        obtain ⟨q, hq, ht⟩ := ih h
        exact ⟨q, by simp [hq], ht⟩

lemma decidedOn_and (h : ∀ p ∈ ps, DecidedOn r p) : DecidedOn r (.and ps) := by
  induction ps with
  | nil => exact ⟨true, rfl⟩
  | cons p ps ih =>
    obtain ⟨b, hb⟩ := h p (by simp)
    obtain ⟨c, hc⟩ := ih fun q hq => h q (by simp [hq])
    rw [DecidedOn, holds_and, allHold_cons, hb]
    cases b with
    | false => exact ⟨false, rfl⟩
    | true => exact ⟨c, hc⟩

lemma decidedOn_or (h : ∀ p ∈ ps, DecidedOn r p) : DecidedOn r (.or ps) := by
  induction ps with
  | nil => exact ⟨false, rfl⟩
  | cons p ps ih =>
    obtain ⟨b, hb⟩ := h p (by simp)
    obtain ⟨c, hc⟩ := ih fun q hq => h q (by simp [hq])
    rw [DecidedOn, holds_or, someHolds_cons, hb]
    cases b with
    | true => exact ⟨true, rfl⟩
    | false => exact ⟨c, hc⟩

lemma decidedOn_not (h : DecidedOn r p) : DecidedOn r (.not p) := by
  obtain ⟨b, hb⟩ := h
  exact ⟨!b, by rw [holds_not, hb]; rfl⟩

lemma decidedOn_negate (h : DecidedOn r p) : DecidedOn r p.negate := by
  obtain ⟨b, hb⟩ := h
  exact ⟨!b, by rw [holds_negate, hb]; rfl⟩

lemma someHolds_eq_true_iff (h : ∀ p ∈ ps, DecidedOn r p) :
    someHolds r ps = .ok true ↔ ∃ p ∈ ps, p.holds r = .ok true := by
  refine ⟨exists_of_someHolds_eq_true, fun ⟨p, hp, ht⟩ => ?_⟩
  obtain ⟨b, hb⟩ := decidedOn_or h
  cases b with
  | true => exact hb
  | false =>
    have hf := someHolds_eq_false_iff.1 hb p hp
    simp [hf] at ht

lemma isAlways_iff : p.isAlways = true ↔ p = .and [] := by
  cases p with
  | and ps => cases ps <;> simp [isAlways]
  | _ => simp [isAlways]

/-- A choice of which no alternative always holds is decided like its alternatives from left to
right. -/
lemma holds_anyOf_of_not_always (h : ps.any isAlways = false) :
    (anyOf ps).holds r = someHolds r ps := by
  rw [← someHolds_flatMap_alternatives ps, anyOf, h, if_neg Bool.false_ne_true]
  split
  · rename_i q hq
    rw [hq, someHolds_singleton]
  · rfl

/-- A choice is decided like its alternatives, if none of them fails. -/
lemma holds_anyOf (h : ∀ p ∈ ps, DecidedOn r p) : (anyOf ps).holds r = someHolds r ps := by
  cases ha : ps.any isAlways with
  | true =>
    -- Here the choice does not look at any alternative, so none of them may fail.
    obtain ⟨p, hp, halways⟩ := List.any_eq_true.1 ha
    have ht : p.holds r = .ok true := by rw [isAlways_iff.1 halways]; rfl
    rw [(someHolds_eq_true_iff h).2 ⟨p, hp, ht⟩, anyOf, if_pos ha]
    rfl
  | false => exact holds_anyOf_of_not_always ha

end ListingSearch.Predicate
