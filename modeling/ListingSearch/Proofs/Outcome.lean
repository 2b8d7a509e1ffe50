import ListingSearch.Failure
import Mathlib.Tactic.Common

/-! Operations that can fail, taken apart: a composed operation that gives a result has parts that
gave theirs, and one that fails, fails as one of its parts does. -/
namespace ListingSearch.Outcome

variable {α β : Type}

lemma not_succeeds_error (failure : Failure) :
    ¬ ∃ a, (.error failure : Outcome α) = .ok a := by
  rintro ⟨a, h⟩
  cases h

lemma bind_eq_ok {x : Outcome α} {f : α → Outcome β} {b : β} (h : x >>= f = .ok b) :
    ∃ a, x = .ok a ∧ f a = .ok b := by
  cases x with
  | error failure => cases h
  | ok a => exact ⟨a, rfl, h⟩

lemma map_eq_ok {x : Outcome α} {f : α → β} {b : β} (h : f <$> x = .ok b) :
    ∃ a, x = .ok a ∧ f a = b := by
  cases x with
  | error failure => cases h
  | ok a =>
    cases h
    exact ⟨a, rfl, rfl⟩

/-- Two operations of which the second succeeds independently of what the first one gave. -/
lemma bind_succeeds_iff {x : Outcome α} {f : α → Outcome β} {P : Prop}
    (hf : ∀ a, (∃ b, f a = .ok b) ↔ P) :
    (∃ b, x >>= f = .ok b) ↔ (∃ a, x = .ok a) ∧ P := by
  constructor
  · rintro ⟨b, h⟩
    obtain ⟨a, hx, ha⟩ := bind_eq_ok h
    exact ⟨⟨a, hx⟩, (hf a).1 ⟨b, ha⟩⟩
  · rintro ⟨⟨a, rfl⟩, hP⟩
    exact (hf a).2 hP

lemma mapM_eq_ok_iff {f : α → Outcome β} {xs : List α} {ys : List β} :
    xs.mapM f = .ok ys ↔ List.Forall₂ (fun x y => f x = .ok y) xs ys := by
  induction xs generalizing ys with
  | nil =>
    rw [List.mapM_nil]
    constructor
    · intro h
      cases h
      exact .nil
    · rintro ⟨⟩
      rfl
  | cons x xs ih =>
    rw [List.mapM_cons]
    constructor
    · intro h
      obtain ⟨y, hy, h⟩ := bind_eq_ok h
      obtain ⟨rest, hrest, h⟩ := bind_eq_ok h
      cases h
      exact .cons hy (ih.1 hrest)
    · rintro (_ | ⟨hy, hrest⟩)
      rw [hy, ih.2 hrest]
      rfl

lemma mapM_succeeds_iff {f : α → Outcome β} {xs : List α} :
    (∃ ys, xs.mapM f = .ok ys) ↔ ∀ x ∈ xs, ∃ y, f x = .ok y := by
  induction xs with
  | nil => exact iff_of_true ⟨[], rfl⟩ (by simp)
  | cons x xs ih =>
    rw [List.mapM_cons, List.forall_mem_cons, ← ih]
    refine bind_succeeds_iff fun y => ?_
    exact (bind_succeeds_iff fun ys => iff_of_true ⟨y :: ys, rfl⟩ trivial).trans
      (iff_of_eq (and_true _))

lemma exists_of_mem_mapM {f : α → Outcome β} {xs : List α} {ys : List β}
    (h : xs.mapM f = .ok ys) {y : β} (hy : y ∈ ys) : ∃ x ∈ xs, f x = .ok y := by
  replace h := mapM_eq_ok_iff.1 h
  induction h with
  | nil => cases hy
  | cons hx _ ih =>
    rcases List.mem_cons.1 hy with rfl | hy
    · exact ⟨_, List.mem_cons_self, hx⟩
    · obtain ⟨x, hmem, hx⟩ := ih hy
      exact ⟨x, List.mem_cons_of_mem _ hmem, hx⟩

/-- Every failure is of a kind. -/
def FailsAs (kind : Failure → Prop) (x : Outcome α) : Prop :=
  ∀ failure, x = .error failure → kind failure

variable {kind : Failure → Prop}

@[simp] lemma failsAs_ok (a : α) : FailsAs kind (.ok a : Outcome α) := fun _ h => by cases h

lemma failsAs_error {failure : Failure} (h : kind failure) :
    FailsAs kind (.error failure : Outcome α) := by
  intro other hother
  cases hother
  exact h

lemma failsAs_of_succeeds {x : Outcome α} (h : ∃ a, x = .ok a) : FailsAs kind x := by
  obtain ⟨a, rfl⟩ := h
  exact failsAs_ok a

lemma FailsAs.mono {kind' : Failure → Prop} {x : Outcome α} (h : FailsAs kind x)
    (hkind : ∀ failure, kind failure → kind' failure) : FailsAs kind' x :=
  fun failure hx => hkind failure (h failure hx)

lemma FailsAs.bind {x : Outcome α} {f : α → Outcome β} (hx : FailsAs kind x)
    (hf : ∀ a, FailsAs kind (f a)) : FailsAs kind (x >>= f) := by
  cases x with
  | ok a => exact hf a
  | error failure => exact failsAs_error (hx failure rfl)

lemma FailsAs.mapM {f : α → Outcome β} (h : ∀ x, FailsAs kind (f x)) (xs : List α) :
    FailsAs kind (xs.mapM f) := by
  induction xs with
  | nil => exact failsAs_ok []
  | cons x xs ih =>
    rw [List.mapM_cons]
    exact (h x).bind fun y => ih.bind fun ys => failsAs_ok _

end ListingSearch.Outcome
