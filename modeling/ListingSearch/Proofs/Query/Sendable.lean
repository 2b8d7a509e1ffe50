import ListingSearch.Proofs.Predicate.WellFormed
import ListingSearch.Proofs.Query.Clause

/-! Well-formed conditions can be sent. None of the things that have no text is in one or in its
store form, and what needs a tree travels in one clause, so a query has at most one choice. -/
namespace ListingSearch

open Predicate (WellFormed)

namespace Query

def Clause.isEither : Clause → Bool
  | .either _ => true
  | _ => false

/-- The condition is well formed, or it always holds, and it can be sent with at most one choice. -/
structure Sendable (p : Predicate) : Prop where
  form : p = .always ∨ p.WellFormed
  sent : ∃ clauses, (filters p).outcome = .ok clauses ∧ clauses.countP Clause.isEither ≤ 1

variable {p : Predicate} {ps : List Predicate} {t : Test}

lemma bounded_of_wellFormed (h : t.WellFormed) : t.Bounded := by
  cases t with
  | range field min max =>
    cases min with
    | some min => trivial
    | none =>
      cases max with
      | some max => trivial
      | none => simp [Test.WellFormed] at h
  | _ => trivial

lemma exists_renderEach_of_forall (h : ∀ p ∈ ps, ∃ s, render p = .ok s) :
    ∃ parts, renderEach ps = .ok parts := by
  induction ps with
  | nil => exact ⟨[], rfl⟩
  | cons p ps ih =>
    rw [List.forall_mem_cons] at h
    obtain ⟨⟨s, hs⟩, hps⟩ := h
    obtain ⟨parts, hparts⟩ := ih hps
    exact ⟨_, renderEach_cons hs hparts⟩

/-- A well-formed condition can be written as a tree. -/
lemma exists_render (h : p.WellFormed) : ∃ s, render p = .ok s := by
  induction h with
  | test h => exact exists_testText (bounded_of_wellFormed h)
  | not h =>
    obtain ⟨s, hs⟩ := exists_testText (bounded_of_wellFormed h)
    exact ⟨negatedText s, by rw [render, render, hs]; rfl⟩
  | and hlength h ih =>
    obtain ⟨parts, hparts⟩ := exists_renderEach_of_forall ih
    exact ⟨_, render_and_of_renderEach (ne_nil_of_two_le hlength) hparts⟩
  | or hlength h ih =>
    obtain ⟨parts, hparts⟩ := exists_renderEach_of_forall ih
    exact ⟨_, render_or_of_renderEach (ne_nil_of_two_le hlength) hparts⟩

lemma exists_treeText (h : ∀ p ∈ ps, p.WellFormed) : ∃ tree, treeText? ps = .ok tree := by
  unfold treeText?
  split
  · exact ⟨none, rfl⟩
  · rename_i qs
    cases List.forall_mem_singleton.1 h with
    | or hlength hqs =>
      obtain ⟨parts, hparts⟩ := exists_renderEach_of_forall fun q hq => exists_render (hqs q hq)
      exact ⟨_, by rw [hparts]; rfl⟩
  · rename_i hne _
    obtain ⟨s, hs⟩ := exists_render (Predicate.wellFormed_allOf hne h)
    exact ⟨some s, by rw [hs]; rfl⟩

/-- Only what needs a tree is sent as a choice. -/
lemma countP_isEither_simple (ps : List Predicate) :
    (ps.filterMap simpleClauses?).flatten.countP Clause.isEither = 0 := by
  rw [List.countP_eq_zero]
  intro clause hclause heither
  have hcolumn := testsColumn_of_mem_simple hclause
  cases clause with
  | either tree => cases hcolumn
  | _ => cases heither

lemma sendable_of_wellFormed (h : p.WellFormed) : Sendable p where
  form := .inr h
  sent := by
    obtain ⟨q, hq, hwell⟩ := h.exists_nullSafe
    have hleft : ∀ c ∈ q.conjuncts.filter fun c => (simpleClauses? c).isNone, c.WellFormed :=
      fun c hc => hwell.conjuncts.2 c (List.mem_of_mem_filter hc)
    obtain ⟨tree, htree⟩ := exists_treeText hleft
    refine ⟨_, by rw [filters_of_nullSafe h.isAlways hq, conjunctClauses, htree]; rfl, ?_⟩
    rw [List.countP_append, countP_isEither_simple]
    cases tree <;> simp [Clause.isEither]

lemma sendable_always : Sendable .always := ⟨.inl rfl, [], rfl, Nat.zero_le _⟩

end Query
end ListingSearch
