import ListingSearch.Proofs.Predicate.Combination

/-! The combining functions as connectives. What a record makes of a combination is told by what it
makes of the parts alone, however these are flattened, dropped or turned round: of a conjunction the
first part counts that is not true, of a choice the first that is not false, and a failure is as
good as an answer there. -/
namespace ListingSearch

namespace Outcome

/-- The conjunction of answers from left to right: the first that is not true decides. -/
def conjunction (answers : List (Outcome Bool)) : Outcome Bool :=
  (answers.find? (· ≠ .ok true)).getD (.ok true)

/-- The disjunction of answers from left to right: the first that is not false decides. -/
def disjunction (answers : List (Outcome Bool)) : Outcome Bool :=
  (answers.find? (· ≠ .ok false)).getD (.ok false)

variable {answer : Outcome Bool} {answers : List (Outcome Bool)}

@[simp] lemma conjunction_nil : conjunction [] = .ok true := rfl

@[simp] lemma disjunction_nil : disjunction [] = .ok false := rfl

lemma conjunction_cons : conjunction (answer :: answers) =
    if answer = .ok true then conjunction answers else answer := by
  by_cases h : answer = .ok true <;> simp [conjunction, h]

lemma disjunction_cons : disjunction (answer :: answers) =
    if answer = .ok false then disjunction answers else answer := by
  by_cases h : answer = .ok false <;> simp [disjunction, h]

/-- Where all answers are given, their disjunction is that of truth values. -/
lemma disjunction_map_ok (bs : List Bool) : disjunction (bs.map .ok) = .ok (bs.any id) := by
  induction bs with
  | nil => rfl
  | cons b bs ih => cases b <;> simp [disjunction_cons, ih]

end Outcome

namespace Predicate

variable {r : Record} {ps : List Predicate}

lemma allHold_eq_conjunction (ps : List Predicate) :
    allHold r ps = Outcome.conjunction (ps.map (holds r)) := by
  induction ps with
  | nil => rfl
  | cons p ps ih =>
    rw [allHold_cons, List.map_cons, Outcome.conjunction_cons, ← ih]
    cases p.holds r with
    | error failure => simp
    | ok b => cases b <;> simp

lemma someHolds_eq_disjunction (ps : List Predicate) :
    someHolds r ps = Outcome.disjunction (ps.map (holds r)) := by
  induction ps with
  | nil => rfl
  | cons p ps ih =>
    rw [someHolds_cons, List.map_cons, Outcome.disjunction_cons, ← ih]
    cases p.holds r with
    | error failure => simp
    | ok b => cases b <;> simp

/-- No condition fails of which the answers are given. -/
lemma decidedOn_of_map_eq {bs : List Bool} (h : ps.map (holds r) = bs.map .ok) :
    ∀ p ∈ ps, DecidedOn r p := by
  intro p hp
  have hmem : p.holds r ∈ bs.map .ok := h ▸ List.mem_map_of_mem hp
  obtain ⟨b, -, hb⟩ := List.mem_map.1 hmem
  exact ⟨b, hb.symm⟩

/-- Combining conditions is combining their answers. A conjunction and an opposite fail where their
parts do; a choice with an alternative that always holds looks at none of them, so it is told by
their answers alone only if they are all given. -/
theorem holds_combined (r : Record) (p : Predicate) (ps : List Predicate) :
    (allOf ps).holds r = Outcome.conjunction (ps.map (holds r)) ∧
      p.negate.holds r = (p.holds r).map (!·) ∧
      (anyOf ps).holds r =
        (if ps.any isAlways then .ok true else Outcome.disjunction (ps.map (holds r))) ∧
      ∀ bs : List Bool, ps.map (holds r) = bs.map .ok → (anyOf ps).holds r = .ok (bs.any id) := by
  refine ⟨?_, holds_negate p, ?_, ?_⟩
  · rw [holds_allOf, allHold_eq_conjunction]
  · split
    · rename_i halways
      rw [anyOf, if_pos halways]
      rfl
    · rename_i hnone
      rw [holds_anyOf_of_not_always (Bool.eq_false_iff.2 hnone), someHolds_eq_disjunction]
  · intro bs h
    rw [holds_anyOf (decidedOn_of_map_eq h), someHolds_eq_disjunction, h,
      Outcome.disjunction_map_ok]

/-- A nested choice is flattened and answered like the flat one. A price between a date and a number
cannot be told: this fails behind a true conjunct, not behind a false one, and it is not noticed in
a choice that always holds. -/
theorem holds_combined_mixedBounds :
    let r : Record := [("city", .text "Boston"), ("price", .int 5)]
    let salem : Predicate := .eq "city" (.text "Salem")
    let boston : Predicate := .or [.eq "city" .null, .eq "city" (.text "Boston")]
    let mixed : Predicate := .range "price" (some (.text "2026-01-01")) (some (.int 9))
    [salem, boston].map (holds r) = [.ok false, .ok true] ∧
      (anyOf [salem, boston]).holds r = .ok true ∧
      (allOf [boston, mixed, salem]).holds r = .error .incomparable ∧
      (allOf [boston, salem, mixed]).holds r = .ok false ∧
      (negate (.and [boston, mixed])).holds r = .error .incomparable ∧
      (anyOf [mixed, boston]).holds r = .error .incomparable ∧
      (anyOf [mixed, always]).holds r = .ok true := by
  intro r salem boston mixed
  have hsalem : salem.holds r = .ok false := by decide +kernel
  have hboston : boston.holds r = .ok true := by decide +kernel
  have hmixed : mixed.holds r = .error .incomparable := by decide +kernel
  have hanswers : [salem, boston].map (holds r) = [false, true].map .ok := by
    simp [hsalem, hboston]
  refine ⟨hanswers, ?_, ?_, ?_, ?_, ?_, ?_⟩
  · exact (holds_combined r salem [salem, boston]).2.2.2 [false, true] hanswers
  · rw [(holds_combined r salem _).1]
    simp [Outcome.conjunction_cons, hboston, hmixed]
  · rw [(holds_combined r salem _).1]
    simp [Outcome.conjunction_cons, hboston, hsalem]
  · rw [(holds_combined r (.and [boston, mixed]) []).2.1, holds_and, allHold_eq_conjunction]
    simp [Outcome.conjunction_cons, hboston, hmixed, Except.map]
  · rw [(holds_combined r salem _).2.2.1]
    simp [Outcome.disjunction_cons, hmixed, mixed, boston, isAlways]
  · rw [(holds_combined r salem _).2.2.1]
    rfl

end Predicate
end ListingSearch
