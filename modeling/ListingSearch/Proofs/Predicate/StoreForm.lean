import ListingSearch.Proofs.Predicate.Verdict

/-! What conditions look like in store form. Conjunctions and choices alternate and have at least
two operands each; only a whole condition can be the conjunction of nothing. A negation stands only
before a test, and in a choice behind the test for a missing value of the same field, unless it is
itself the negation of such a test. -/
namespace ListingSearch.Predicate

/-- How the conditions of a list are joined. -/
inductive Joint where
  | all
  | any

/-- The operands of a conjunction or of a choice in store form. -/
inductive Operands : Joint → List Predicate → Prop
  | nil {j : Joint} : Operands j []
  | test {j : Joint} {ps : List Predicate} (t : Test) (h : Operands j ps) :
    Operands j (.test t :: ps)
  | present {j : Joint} {ps : List Predicate} (field : String) (h : Operands j ps) :
    Operands j (.not (.eq field .null) :: ps)
  | choice {ps qs : List Predicate} (hqs : Operands .any qs) (hlength : 2 ≤ qs.length)
    (h : Operands .all ps) : Operands .all (.or qs :: ps)
  | conjunction {ps qs : List Predicate} (hqs : Operands .all qs) (hlength : 2 ≤ qs.length)
    (h : Operands .any ps) : Operands .any (.and qs :: ps)
  | guarded {ps : List Predicate} (t : Test) (hmissing : t.isMissing = false)
    (h : Operands .any ps) : Operands .any (.eq t.field .null :: .not (.test t) :: ps)

/-- The condition is in store form. -/
structure StoreForm (p : Predicate) : Prop where
  conjuncts : Operands .all p.conjuncts
  length : ∀ ps, p = .and ps → ps.length ≠ 1

variable {j : Joint} {p q : Predicate} {ps qs : List Predicate} {t : Test}

lemma Operands.append (hps : Operands j ps) (hqs : Operands j qs) : Operands j (ps ++ qs) := by
  induction hps with
  | nil => exact hqs
  | test t h ih => exact .test t (ih hqs)
  | present field h ih => exact .present field (ih hqs)
  | choice hops hlength h _ ih => exact .choice hops hlength (ih hqs)
  | conjunction hops hlength h _ ih => exact .conjunction hops hlength (ih hqs)
  | guarded t hmissing h ih => exact .guarded t hmissing (ih hqs)

lemma Operands.flatMap {f : Predicate → List Predicate} (h : ∀ p ∈ ps, Operands j (f p)) :
    Operands j (ps.flatMap f) := by
  induction ps with
  | nil => exact .nil
  | cons p ps ih =>
    rw [List.forall_mem_cons] at h
    exact h.1.append (ih h.2)

/-- No conjunct is a conjunction. -/
lemma Operands.conjuncts_eq_singleton (h : Operands .all [p]) : p.conjuncts = [p] := by
  cases h <;> rfl

lemma storeForm_test (t : Test) : StoreForm (.test t) := ⟨.test t .nil, by simp⟩

lemma storeForm_nullSafeNot (t : Test) : StoreForm t.nullSafeNot := by
  unfold Test.nullSafeNot
  cases hmissing : t.isMissing with
  | true =>
    obtain ⟨field, rfl⟩ := Test.exists_eq_of_isMissing hmissing
    exact ⟨.present field .nil, by simp⟩
  | false => exact ⟨.choice (.guarded t hmissing .nil) (Nat.le_refl 2) .nil, by simp⟩

lemma StoreForm.allOf (h : ∀ p ∈ ps, StoreForm p) : StoreForm (allOf ps) := by
  have hops : Operands .all (ps.flatMap Predicate.conjuncts) :=
    .flatMap (f := Predicate.conjuncts) fun p hp => (h p hp).conjuncts
  unfold Predicate.allOf
  split
  · rename_i q hq
    rw [hq] at hops
    have hself := hops.conjuncts_eq_singleton
    refine ⟨by rwa [hself], ?_⟩
    rintro qs rfl
    cases hops
  · rename_i qs hother
    refine ⟨hops, ?_⟩
    rintro _ ⟨⟩ hlength
    obtain ⟨q, hq⟩ := List.length_eq_one_iff.1 hlength
    exact hother q hq

/-- A condition in store form can stand in a choice, unless it always holds. -/
lemma StoreForm.alternatives (h : StoreForm p) (hnot : p.isAlways = false) :
    Operands .any p.alternatives ∧ p.alternatives ≠ [] := by
  obtain ⟨hops, hone⟩ := h
  cases p with
  | test t => exact ⟨.test t .nil, by simp [Predicate.alternatives]⟩
  | not p =>
    cases hops with
    | present field h => exact ⟨.present field .nil, by simp [Predicate.alternatives]⟩
  | and ps =>
    have hlength : 2 ≤ ps.length := by
      have hzero : ps.length ≠ 0 := by
        intro hzero
        obtain rfl := List.length_eq_zero_iff.1 hzero
        cases hnot
      have := hone ps rfl
      omega
    exact ⟨.conjunction hops hlength .nil, by simp [Predicate.alternatives]⟩
  | or ps =>
    cases hops with
    | choice hops hlength h =>
      refine ⟨hops, ?_⟩
      rintro (rfl : ps = [])
      simp at hlength

lemma storeForm_of_operands_any (h : Operands .any [p]) : StoreForm p := by
  cases h with
  | test t h => exact storeForm_test t
  | present field h => exact ⟨.present field .nil, by simp⟩
  | conjunction hqs hlength h =>
    refine ⟨hqs, ?_⟩
    rintro _ ⟨⟩
    omega

lemma StoreForm.anyOf (h : ∀ p ∈ ps, StoreForm p) (hne : ps ≠ []) : StoreForm (anyOf ps) := by
  unfold Predicate.anyOf
  split
  · exact ⟨.nil, by rintro _ ⟨⟩; simp⟩
  · rename_i hnone
    have hnot : ∀ p ∈ ps, p.isAlways = false := by simpa using hnone
    have hops : Operands .any (ps.flatMap Predicate.alternatives) :=
      Operands.flatMap fun p hp => ((h p hp).alternatives (hnot p hp)).1
    have hfull : ps.flatMap Predicate.alternatives ≠ [] := by
      obtain ⟨p, hp⟩ := List.exists_mem_of_ne_nil ps hne
      intro hempty
      exact ((h p hp).alternatives (hnot p hp)).2 (List.flatMap_eq_nil_iff.1 hempty p hp)
    split
    · rename_i q hq
      rw [hq] at hops
      exact storeForm_of_operands_any hops
    · rename_i qs hother
      have hlength : 2 ≤ (ps.flatMap Predicate.alternatives).length := by
        have hzero := List.length_pos_iff.2 hfull
        have hone : (ps.flatMap Predicate.alternatives).length ≠ 1 := by
          intro hone
          obtain ⟨q, hq⟩ := List.length_eq_one_iff.1 hone
          exact hother q hq
        omega
      exact ⟨.choice hops hlength .nil, by simp⟩

lemma forall_of_nullSafeEach {P : Predicate → Prop}
    (hps : ∀ p ∈ ps, ∀ q, p.nullSafe = .ok q → P q) (h : nullSafeEach ps = .ok qs) :
    (∀ q ∈ qs, P q) ∧ qs.length = ps.length := by
  induction ps generalizing qs with
  | nil =>
    cases h
    simp
  | cons p ps ih =>
    rw [List.forall_mem_cons] at hps
    obtain ⟨q, hq, h⟩ := Outcome.bind_eq_ok h
    obtain ⟨rest, hrest, h⟩ := Outcome.bind_eq_ok h
    cases h
    obtain ⟨hall, hlength⟩ := ih hps.2 hrest
    exact ⟨List.forall_mem_cons.2 ⟨hps.1 q hq, hall⟩, by simp [hlength]⟩

/-- What holds of tests and guarded negations, and of conjunctions and choices of conditions of
which it holds, holds of every store form. -/
lemma nullSafe_induction {P : Predicate → Prop} (htest : ∀ t ∈ p.tests, P (.test t))
    (hnot : ∀ t ∈ p.tests, P t.nullSafeNot) (hall : ∀ ps, (∀ p ∈ ps, P p) → P (allOf ps))
    (hany : ∀ ps, (∀ p ∈ ps, P p) → ps ≠ [] → P (anyOf ps)) :
    (∀ q, p.nullSafe = .ok q → P q) ∧ ∀ q, p.negate.nullSafe = .ok q → P q := by
  -- The store form of a negation is that of the opposite, so the induction carries both.
  have hand (ps : List Predicate) (h : ∀ p ∈ ps, ∀ q, p.nullSafe = .ok q → P q) (q : Predicate)
      (hq : (Predicate.and ps).nullSafe = .ok q) : P q := by
    obtain ⟨qs, hqs, rfl⟩ := Outcome.map_eq_ok hq
    exact hall qs (forall_of_nullSafeEach h hqs).1
  have hor (ps : List Predicate) (h : ∀ p ∈ ps, ∀ q, p.nullSafe = .ok q → P q) (q : Predicate)
      (hq : (Predicate.or ps).nullSafe = .ok q) : P q := by
    rw [nullSafe] at hq
    split at hq
    · cases hq
    · rename_i hne
      obtain ⟨qs, hqs, rfl⟩ := Outcome.map_eq_ok hq
      obtain ⟨hpqs, hlength⟩ := forall_of_nullSafeEach h hqs
      refine hany qs hpqs ?_
      rintro rfl
      exact hne (List.isEmpty_iff.2 (List.length_eq_zero_iff.1 hlength.symm))
  induction p using inductionOn with
  | test t =>
    refine ⟨?_, ?_⟩ <;> rintro q ⟨⟩
    · exact htest t (by simp [tests])
    · exact hnot t (by simp [tests])
  | not p ih =>
    obtain ⟨hp, hn⟩ := ih htest hnot
    refine ⟨fun q hq => ?_, hp⟩
    rw [nullSafe, ← nullSafe_negate] at hq
    exact hn q hq
  | and ps ih =>
    have hparts := fun p hp => ih p hp (forall_tests_of_mem htest p hp)
      (forall_tests_of_mem hnot p hp)
    refine ⟨hand ps fun p hp => (hparts p hp).1, ?_⟩
    rw [negate, negateAll_eq_map]
    exact hor _ (List.forall_mem_map.2 fun p hp => (hparts p hp).2)
  | or ps ih =>
    have hparts := fun p hp => ih p hp (forall_tests_of_mem htest p hp)
      (forall_tests_of_mem hnot p hp)
    refine ⟨hor ps fun p hp => (hparts p hp).1, ?_⟩
    rw [negate, negateAll_eq_map]
    exact hand _ (List.forall_mem_map.2 fun p hp => (hparts p hp).2)

/-- The condition for a store is in store form. -/
lemma storeForm_of_nullSafe (h : p.nullSafe = .ok q) : StoreForm q :=
  (nullSafe_induction (fun t _ => storeForm_test t) (fun t _ => storeForm_nullSafeNot t)
    (fun _ => .allOf) fun _ => .anyOf).1 q h

lemma tests_allOf (h : t ∈ (allOf ps).tests) : ∃ p ∈ ps, t ∈ p.tests := by
  have hflat : t ∈ testsOfEach (ps.flatMap conjuncts) := by
    unfold allOf at h
    split at h
    · rename_i q hq
      simpa [hq, testsOfEach] using h
    · exact h
  obtain ⟨q, hq, ht⟩ := mem_testsOfEach.1 hflat
  obtain ⟨p, hp, hqp⟩ := List.mem_flatMap.1 hq
  refine ⟨p, hp, ?_⟩
  cases p with
  | and cs => exact mem_testsOfEach.2 ⟨q, hqp, ht⟩
  | _ => exact List.mem_singleton.1 hqp ▸ ht

lemma tests_anyOf (h : t ∈ (anyOf ps).tests) : ∃ p ∈ ps, t ∈ p.tests := by
  have hflat : t ∈ testsOfEach (ps.flatMap alternatives) := by
    unfold anyOf at h
    split at h
    · cases h
    · split at h
      · rename_i q hq
        simpa [hq, testsOfEach] using h
      · exact h
  obtain ⟨q, hq, ht⟩ := mem_testsOfEach.1 hflat
  obtain ⟨p, hp, hqp⟩ := List.mem_flatMap.1 hq
  refine ⟨p, hp, ?_⟩
  cases p with
  | or cs => exact mem_testsOfEach.2 ⟨q, hqp, ht⟩
  | _ => exact List.mem_singleton.1 hqp ▸ ht

/-- The tests of a store form are those of the condition and tests for missing values. -/
lemma forall_tests_nullSafe {P : Test → Prop} (hnull : ∀ field, P (.eq field .null))
    (hp : ∀ t ∈ p.tests, P t) (h : p.nullSafe = .ok q) : ∀ t ∈ q.tests, P t := by
  refine (nullSafe_induction (P := fun q => ∀ t ∈ q.tests, P t) ?_ ?_ ?_ ?_).1 q h
  · intro t ht u hu
    rw [List.mem_singleton.1 hu]
    exact hp t ht
  · intro t ht u hu
    unfold Test.nullSafeNot at hu
    split at hu
    · rw [List.mem_singleton.1 hu]
      exact hp t ht
    · simp only [tests, testsOfEach, List.append_nil, List.singleton_append, List.mem_cons,
        List.not_mem_nil, or_false] at hu
      rcases hu with rfl | rfl
      · exact hnull _
      · exact hp _ ht
  · intro ps hps t ht
    obtain ⟨p, hp, htp⟩ := tests_allOf ht
    exact hps p hp t htp
  · intro ps hps _ t ht
    obtain ⟨p, hp, htp⟩ := tests_anyOf ht
    exact hps p hp t htp

end ListingSearch.Predicate
