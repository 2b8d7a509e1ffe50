import ListingSearch.Proofs.Criteria.Admission
import ListingSearch.Query.Literal

/-! What the patterns in filters find. A store looks for a pattern by wildcards, one for any
characters and one for a single character, and takes a character behind a backslash as it is. The
pattern for a text finds the text itself and nothing else, whatever wildcards and backslashes stand
in it, so the store finds what the test of a record finds. -/
namespace ListingSearch.Query

/-- The characters that do not stand for themselves in a pattern. -/
def IsSpecial (c : Char) : Prop := c = '\\' ∨ c = '%' ∨ c = '_'

/-- The pattern, given first, finds the text as a whole. A backslash at the end finds nothing. -/
inductive Finds : List Char → List Char → Prop
  | nil : Finds [] []
  | any (skipped : List Char) {pattern text : List Char} (h : Finds pattern text) :
    Finds ('%' :: pattern) (skipped ++ text)
  | one (c : Char) {pattern text : List Char} (h : Finds pattern text) :
    Finds ('_' :: pattern) (c :: text)
  | escaped (c : Char) {pattern text : List Char} (h : Finds pattern text) :
    Finds ('\\' :: c :: pattern) (c :: text)
  | plain {c : Char} (hc : ¬ IsSpecial c) {pattern text : List Char} (h : Finds pattern text) :
    Finds (c :: pattern) (c :: text)

variable {pattern text : List Char} {c : Char}

lemma finds_any_iff :
    Finds ('%' :: pattern) text ↔ ∃ skipped rest, text = skipped ++ rest ∧ Finds pattern rest := by
  constructor
  · intro h
    cases h with
    | any skipped h => exact ⟨skipped, _, rfl, h⟩
    | plain hc => exact absurd (.inr (.inl rfl)) hc
  · rintro ⟨skipped, rest, rfl, h⟩
    exact .any skipped h

lemma finds_escaped_iff :
    Finds ('\\' :: c :: pattern) text ↔ ∃ rest, text = c :: rest ∧ Finds pattern rest := by
  constructor
  · intro h
    cases h with
    | escaped _ h => exact ⟨_, rfl, h⟩
    | plain hc => exact absurd (.inl rfl) hc
  · rintro ⟨rest, rfl, h⟩
    exact .escaped c h

lemma finds_plain_iff (hc : ¬ IsSpecial c) :
    Finds (c :: pattern) text ↔ ∃ rest, text = c :: rest ∧ Finds pattern rest := by
  constructor
  · intro h
    cases h with
    | any => exact absurd (.inr (.inl rfl)) hc
    | one => exact absurd (.inr (.inr rfl)) hc
    | escaped => exact absurd (.inl rfl) hc
    | plain _ h => exact ⟨_, rfl, h⟩
  · rintro ⟨rest, rfl, h⟩
    exact .plain hc h

/-- A text with its wildcards escaped finds itself. -/
lemma finds_escapeWildcards_append (cs : List Char) :
    Finds (escapeWildcards cs ++ pattern) text ↔
      ∃ rest, text = cs ++ rest ∧ Finds pattern rest := by
  induction cs generalizing text with
  | nil => simp [escapeWildcards]
  | cons c cs ih =>
    have hstep : Finds (escapeWildcards (c :: cs) ++ pattern) text ↔
        ∃ rest, text = c :: rest ∧ Finds (escapeWildcards cs ++ pattern) rest := by
      by_cases hc : c = '\\' ∨ c = '%' ∨ c = '_'
      · rw [escapeWildcards, if_pos hc]
        exact finds_escaped_iff
      · rw [escapeWildcards, if_neg hc]
        exact finds_plain_iff hc
    simp only [hstep, ih]
    constructor
    · rintro ⟨_, rfl, rest, rfl, h⟩
      exact ⟨rest, rfl, h⟩
    · rintro ⟨rest, rfl, h⟩
      exact ⟨_, rfl, rest, rfl, h⟩

/-- A wildcard for any characters at the end finds all that is left. -/
lemma finds_any_end (text : List Char) : Finds ['%'] text := by
  simpa using Finds.any text .nil

lemma finds_atStart_iff (s : String) (text : List Char) :
    Finds (likePattern s .atStart).toList text ↔ s.toList <+: text := by
  rw [likePattern, String.toList_ofList, finds_escapeWildcards_append]
  simp only [finds_any_end, and_true]
  exact exists_congr fun rest => eq_comm

lemma finds_anywhere_iff (s : String) (text : List Char) :
    Finds (likePattern s .anywhere).toList text ↔ s.toList <:+: text := by
  rw [likePattern, String.toList_ofList, List.cons_append, finds_any_iff]
  simp only [finds_escapeWildcards_append, finds_any_end, and_true]
  constructor
  · rintro ⟨skipped, _, rfl, rest, rfl⟩
    exact ⟨skipped, rest, List.append_assoc _ _ _⟩
  · rintro ⟨skipped, rest, rfl⟩
    exact ⟨skipped, _, List.append_assoc _ _ _, rest, rfl⟩

/-- The pattern for a text finds just the texts that contain it or begin with it. A test for the
text holds of a record just if the column has a value in which the pattern is found, capitals and
small letters being alike. -/
theorem finds_likePattern_iff (s : String) :
    (∀ t : String, Finds (likePattern s .anywhere).toList t.toList ↔ s.toList <:+: t.toList) ∧
      (∀ t : String, Finds (likePattern s .atStart).toList t.toList ↔ s.toList <+: t.toList) ∧
      ∀ (column : String) (mode : MatchMode) (r : Record),
        Predicate.DecidedBy r (.like column s mode) (r.get column ≠ .null ∧
          Finds (likePattern (Text.lower s) mode).toList
            (Text.lower (r.get column).display).toList) := by
  refine ⟨fun t => finds_anywhere_iff s _, fun t => finds_atStart_iff s _, ?_⟩
  intro column mode r
  cases mode with
  | anywhere =>
    rw [finds_anywhere_iff]
    exact decidedBy_mention column s
  | atStart =>
    rw [finds_atStart_iff]
    exact decidedBy_beginning column s

end ListingSearch.Query
