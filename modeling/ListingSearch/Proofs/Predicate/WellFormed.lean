import ListingSearch.Proofs.Chronology
import ListingSearch.Proofs.Predicate.StoreForm

/-! Well-formed conditions. Their tests all ask for something, conjunctions and choices have at
least two operands each, and negations stand before tests only. Combining, negating and the store
form keep conditions well formed, so a condition that is built by these from well-formed tests has
a store form and never becomes a choice between nothing. -/
namespace ListingSearch

def Bound.IsFinite (b : Bound) : Prop := ∃ x : Binary64, b = .float x ∧ x.isFinite = true

def Bound.IsInstant (b : Bound) : Prop := ∃ t : Instant, t.IsValid ∧ b = .text t.text

/-- The text or the values looked for are there, or the range has a bound, and its bounds are all
finite numbers or all instants. -/
def Test.WellFormed : Test → Prop
  | .eq _ _ => True
  | .oneOf _ values => values ≠ []
  | .range _ min max =>
    (min.isSome ∨ max.isSome) ∧
      ((∀ b, b ∈ min ∨ b ∈ max → b.IsFinite) ∨ ∀ b, b ∈ min ∨ b ∈ max → b.IsInstant)
  | .like _ text _ => text ≠ ""

namespace Predicate

/-- Well-formed conditions, as they can stand anywhere. -/
inductive WellFormed : Predicate → Prop
  | test {t : Test} (h : t.WellFormed) : WellFormed (.test t)
  | not {t : Test} (h : t.WellFormed) : WellFormed (.not (.test t))
  | and {ps : List Predicate} (hlength : 2 ≤ ps.length) (h : ∀ p ∈ ps, WellFormed p) :
    WellFormed (.and ps)
  | or {ps : List Predicate} (hlength : 2 ≤ ps.length) (h : ∀ p ∈ ps, WellFormed p) :
    WellFormed (.or ps)

variable {p q : Predicate} {ps : List Predicate} {t : Test}

lemma WellFormed.isAlways (h : p.WellFormed) : p.isAlways = false := by
  cases h with
  | and hlength h =>
    rename_i ps
    match ps, hlength with
    | _ :: _ :: _, _ => rfl
  | _ => rfl

/-- The operands of a well-formed condition, or the condition alone, are some and well formed. -/
lemma WellFormed.operands (h : p.WellFormed) (hps : ps = [p] ∨ p = .and ps ∨ p = .or ps) :
    ps ≠ [] ∧ ∀ q ∈ ps, q.WellFormed := by
  rcases hps with rfl | rfl | rfl
  · exact ⟨List.cons_ne_nil _ _, List.forall_mem_singleton.2 h⟩
  · cases h with
    | and hlength h => exact ⟨List.ne_nil_of_length_pos (Nat.zero_lt_of_lt hlength), h⟩
  · cases h with
    | or hlength h => exact ⟨List.ne_nil_of_length_pos (Nat.zero_lt_of_lt hlength), h⟩

lemma WellFormed.conjuncts (h : p.WellFormed) :
    p.conjuncts ≠ [] ∧ ∀ q ∈ p.conjuncts, q.WellFormed :=
  h.operands (by cases p <;> simp [Predicate.conjuncts])

lemma WellFormed.alternatives (h : p.WellFormed) :
    p.alternatives ≠ [] ∧ ∀ q ∈ p.alternatives, q.WellFormed :=
  h.operands (by cases p <;> simp [Predicate.alternatives])

/-- Operands of operands, which a combination has instead of them. -/
lemma wellFormed_flatMap {f : Predicate → List Predicate}
    (hf : ∀ {p : Predicate}, p.WellFormed → f p ≠ [] ∧ ∀ q ∈ f p, q.WellFormed) (hne : ps ≠ [])
    (h : ∀ p ∈ ps, p.WellFormed) : ps.flatMap f ≠ [] ∧ ∀ q ∈ ps.flatMap f, q.WellFormed := by
  constructor
  · obtain ⟨p, hp⟩ := List.exists_mem_of_ne_nil ps hne
    exact fun hnil => (hf (h p hp)).1 (List.flatMap_eq_nil_iff.1 hnil p hp)
  · intro q hq
    obtain ⟨p, hp, hqp⟩ := List.mem_flatMap.1 hq
    exact (hf (h p hp)).2 q hqp

lemma two_le_length {qs : List Predicate} (hne : qs ≠ []) (hone : ∀ q, qs = [q] → False) :
    2 ≤ qs.length := by
  match qs with
  | [] => exact absurd rfl hne
  | [q] => exact (hone q rfl).elim
  | _ :: _ :: _ => simp

lemma wellFormed_allOf (hne : ps ≠ []) (h : ∀ p ∈ ps, p.WellFormed) : (allOf ps).WellFormed := by
  obtain ⟨hflat, hall⟩ := wellFormed_flatMap WellFormed.conjuncts hne h
  unfold allOf
  split
  · rename_i q hq
    exact hall q (hq ▸ List.mem_singleton_self q)
  · rename_i hother
    exact .and (two_le_length hflat hother) hall

lemma wellFormed_anyOf (hne : ps ≠ []) (h : ∀ p ∈ ps, p.WellFormed) : (anyOf ps).WellFormed := by
  obtain ⟨hflat, hall⟩ := wellFormed_flatMap WellFormed.alternatives hne h
  have hnone : ¬ ps.any isAlways = true := by
    simpa using fun p hp => (h p hp).isAlways
  rw [anyOf, if_neg hnone]
  split
  · rename_i q hq
    exact hall q (hq ▸ List.mem_singleton_self q)
  · rename_i hother
    exact .or (two_le_length hflat hother) hall

lemma WellFormed.negate (h : p.WellFormed) : p.negate.WellFormed := by
  induction h with
  | test h => exact .not h
  | not h => exact .test h
  | and hlength h ih =>
    rw [Predicate.negate, negateAll_eq_map]
    exact .or (by simpa using hlength) (List.forall_mem_map.2 ih)
  | or hlength h ih =>
    rw [Predicate.negate, negateAll_eq_map]
    exact .and (by simpa using hlength) (List.forall_mem_map.2 ih)

lemma wellFormed_nullSafeNot (h : t.WellFormed) : t.nullSafeNot.WellFormed := by
  unfold Test.nullSafeNot
  split
  · exact .not h
  · refine .or (Nat.le_refl 2) ?_
    simp only [List.forall_mem_cons, List.not_mem_nil, false_implies, implies_true, and_true]
    exact ⟨.test trivial, .not h⟩

lemma exists_nullSafeEach (h : ∀ p ∈ ps, ∃ q, p.nullSafe = .ok q) :
    ∃ qs, nullSafeEach ps = .ok qs := by
  induction ps with
  | nil => exact ⟨[], rfl⟩
  | cons p ps ih =>
    rw [List.forall_mem_cons] at h
    obtain ⟨⟨q, hq⟩, hps⟩ := h
    obtain ⟨qs, hqs⟩ := ih hps
    exact ⟨q :: qs, by rw [nullSafeEach, hq, hqs]; rfl⟩

/-- A well-formed condition has a store form, which is well formed. -/
lemma WellFormed.exists_nullSafe (h : p.WellFormed) : ∃ q, p.nullSafe = .ok q ∧ q.WellFormed := by
  -- Operands are as many in store form, so conjunctions and choices stay full.
  have each {ps : List Predicate} (hlength : 2 ≤ ps.length)
      (ih : ∀ p ∈ ps, ∃ q, p.nullSafe = .ok q ∧ q.WellFormed) :
      ∃ qs, nullSafeEach ps = .ok qs ∧ qs ≠ [] ∧ ∀ q ∈ qs, q.WellFormed := by
    obtain ⟨qs, hqs⟩ := exists_nullSafeEach fun p hp => (ih p hp).imp fun _ => And.left
    have hwell : ∀ p ∈ ps, ∀ q, p.nullSafe = .ok q → q.WellFormed := by
      intro p hp q hq
      obtain ⟨q', hq', hwell⟩ := ih p hp
      rw [hq] at hq'
      cases hq'
      exact hwell
    obtain ⟨hall, heq⟩ := forall_of_nullSafeEach hwell hqs
    exact ⟨qs, hqs, List.ne_nil_of_length_pos (by omega), hall⟩
  induction h with
  | test h => exact ⟨_, rfl, .test h⟩
  | not h => exact ⟨_, rfl, wellFormed_nullSafeNot h⟩
  | and hlength h ih =>
    obtain ⟨qs, hqs, hne, hall⟩ := each hlength ih
    exact ⟨_, by rw [nullSafe, hqs]; rfl, wellFormed_allOf hne hall⟩
  | or hlength h ih =>
    obtain ⟨qs, hqs, hne, hall⟩ := each hlength ih
    refine ⟨_, ?_, wellFormed_anyOf hne hall⟩
    have hsome : ¬ List.isEmpty _ = true :=
      mt List.isEmpty_iff.1 (List.ne_nil_of_length_pos (Nat.zero_lt_of_lt hlength))
    rw [nullSafe, if_neg hsome, hqs]
    rfl

end Predicate
end ListingSearch
