import ListingSearch.Proofs.Outcome
import ListingSearch.Proofs.Predicate.Combination

/-! What conditions decide, as propositions about a record. A condition of tests that never fail is
decided by a proposition; a list of conditions restricts records to those with a property if their
conjunction, wherever it is decided, is decided by that property. -/
namespace ListingSearch.Predicate

variable {r : Record} {p : Predicate} {ps qs : List Predicate} {P Q : Prop}

/-- The condition is decided, and it holds just if the proposition does. -/
def DecidedBy (r : Record) (p : Predicate) (P : Prop) : Prop :=
  ∃ b, p.holds r = .ok b ∧ (b = true ↔ P)

/-- Where the conjunction of the conditions is decided, it holds just if the proposition does. -/
def RestrictsTo (r : Record) (ps : List Predicate) (P : Prop) : Prop :=
  ∀ b, allHold r ps = .ok b → (b = true ↔ P)

lemma DecidedBy.decidedOn (h : DecidedBy r p P) : DecidedOn r p := ⟨_, h.choose_spec.1⟩

lemma DecidedBy.holds_eq_true_iff (h : DecidedBy r p P) : p.holds r = .ok true ↔ P := by
  obtain ⟨b, hb, hP⟩ := h
  rw [hb, ← hP, Except.ok.injEq]

lemma DecidedBy.negate (h : DecidedBy r p P) : DecidedBy r p.negate (¬ P) := by
  obtain ⟨b, hb, hP⟩ := h
  refine ⟨!b, by rw [holds_negate, hb]; rfl, ?_⟩
  rw [← hP]
  simp

lemma DecidedBy.congr (h : DecidedBy r p P) (hPQ : P ↔ Q) : DecidedBy r p Q := by
  obtain ⟨b, hb, hP⟩ := h
  exact ⟨b, hb, hP.trans hPQ⟩

lemma decidedBy_allOf (h : ∀ p ∈ ps, DecidedOn r p) :
    DecidedBy r (allOf ps) (∀ p ∈ ps, p.holds r = .ok true) := by
  obtain ⟨b, hb⟩ := decidedOn_and h
  rw [holds_and] at hb
  refine ⟨b, by rw [holds_allOf, hb], ?_⟩
  rw [← allHold_eq_true_iff, hb, Except.ok.injEq]

lemma decidedBy_anyOf (h : ∀ p ∈ ps, DecidedOn r p) :
    DecidedBy r (anyOf ps) (∃ p ∈ ps, p.holds r = .ok true) := by
  obtain ⟨b, hb⟩ := decidedOn_or h
  rw [holds_or] at hb
  refine ⟨b, by rw [holds_anyOf h, hb], ?_⟩
  rw [← someHolds_eq_true_iff h, hb, Except.ok.injEq]

lemma DecidedBy.restrictsTo (h : DecidedBy r p P) : RestrictsTo r [p] P := by
  intro b hb
  obtain ⟨c, hc, hP⟩ := h
  rw [allHold_singleton, hc] at hb
  cases hb
  exact hP

lemma restrictsTo_nil (h : P) : RestrictsTo r [] P := by
  intro b hb
  cases hb
  exact iff_of_true rfl h

lemma RestrictsTo.append (hp : RestrictsTo r ps P) (hq : RestrictsTo r qs Q) :
    RestrictsTo r (ps ++ qs) (P ∧ Q) := by
  intro b hb
  rw [allHold_append] at hb
  cases hps : allHold r ps with
  | error failure => simp [hps] at hb
  | ok c =>
    have hP := hp c hps
    rw [hps] at hb
    cases c with
    | false =>
      cases hb
      simp [← hP]
    | true => rw [hq b hb, ← hP, eq_self, true_and]

lemma RestrictsTo.of_forall_holds (h : RestrictsTo r ps P)
    (hall : ∀ p ∈ ps, p.holds r = .ok true) : P :=
  (h true (allHold_eq_true_iff.2 hall)).1 rfl

lemma RestrictsTo.decidedBy_allOf (h : RestrictsTo r ps P) (hps : ∀ p ∈ ps, DecidedOn r p) :
    DecidedBy r (Predicate.allOf ps) P := by
  obtain ⟨b, hb⟩ := decidedOn_and hps
  exact ⟨b, by rw [holds_allOf, ← holds_and, hb], h b (by rw [← holds_and, hb])⟩

lemma RestrictsTo.negate (h : RestrictsTo r [p] P) : RestrictsTo r [p.negate] (¬ P) := by
  intro b hb
  rw [allHold_singleton, holds_negate] at hb
  obtain ⟨c, hc, rfl⟩ := Outcome.map_eq_ok hb
  rw [← h c (by rw [allHold_singleton, hc]), Bool.not_eq_true', Bool.not_eq_true]

/-- A conjunction, which is left out where there is nothing to conjoin, restricts like its
operands. -/
lemma RestrictsTo.allOf (h : RestrictsTo r ps P) :
    RestrictsTo r (if ps = [] then [] else [allOf ps]) P := by
  split
  · rename_i hnil
    rwa [hnil] at h
  · intro b hb
    rw [allHold_singleton, holds_allOf] at hb
    exact h b hb

lemma RestrictsTo.congr (h : RestrictsTo r ps P) (hPQ : P ↔ Q) : RestrictsTo r ps Q :=
  fun b hb => (h b hb).trans hPQ

lemma RestrictsTo.onlyIf {C : Prop} [Decidable C] (h : RestrictsTo r ps P) :
    RestrictsTo r (if C then ps else []) (C → P) := by
  split
  · rename_i hC
    exact h.congr (by simp [hC])
  · rename_i hC
    exact restrictsTo_nil fun hC' => absurd hC' hC

lemma RestrictsTo.unless {C : Prop} [Decidable C] (h : RestrictsTo r ps P) :
    RestrictsTo r (if C then [] else ps) (¬ C → P) := by
  rw [← ite_not]
  exact h.onlyIf

end ListingSearch.Predicate
