import ListingSearch.Text.Blank
import Mathlib.Data.List.DropRight

/-! Trimmed texts: those that are not empty and have no blank character at either end. Trimming
gives the empty text or a trimmed one, and leaves a trimmed one as it is. -/
namespace ListingSearch.Text

variable {s : String} {cs : List Char} {inClass : Char → Bool}

/-- Not empty, and without blank characters at the ends. -/
def Trimmed (s : String) : Prop := s ≠ "" ∧ trim s = s

lemma trimWhile_eq_rdropWhile (cs : List Char) :
    trimWhile inClass cs = (cs.dropWhile inClass).rdropWhile inClass := rfl

lemma dropWhile_trimWhile (cs : List Char) :
    (trimWhile inClass cs).dropWhile inClass = trimWhile inClass cs := by
  rw [List.dropWhile_eq_self_iff]
  intro hl
  have front : trimWhile inClass cs <+: cs.dropWhile inClass := List.rdropWhile_prefix _ _
  rw [front.getElem hl]
  exact List.dropWhile_eq_self_iff.1 (List.dropWhile_idempotent inClass cs) _

lemma trimWhile_trimWhile (cs : List Char) :
    trimWhile inClass (trimWhile inClass cs) = trimWhile inClass cs := by
  rw [trimWhile_eq_rdropWhile, dropWhile_trimWhile, trimWhile_eq_rdropWhile,
    List.rdropWhile_idempotent]

lemma trimWhile_of_forall (h : ∀ c ∈ cs, inClass c = false) : trimWhile inClass cs = cs := by
  rw [trimWhile_eq_rdropWhile, List.dropWhile_eq_self_iff.2, List.rdropWhile_eq_self_iff.2]
  · intro hne
    simp [h _ (List.getLast_mem hne)]
  · intro hl
    simp [h _ (List.getElem_mem hl)]

lemma trim_trim (s : String) : trim (trim s) = trim s := by
  rw [trim, trim, String.toList_ofList, trimWhile_trimWhile]

lemma trimmed_trim (h : trim s ≠ "") : Trimmed (trim s) := ⟨h, trim_trim s⟩

lemma trimmed_of_forall (hne : s ≠ "") (h : ∀ c ∈ s.toList, isBlankChar c = false) :
    Trimmed s := by
  refine ⟨hne, ?_⟩
  rw [trim, trimWhile_of_forall h, String.ofList_toList]

lemma Trimmed.isBlank_eq_false (h : Trimmed s) : isBlank s = false := by
  rw [← Bool.not_eq_true]
  intro hblank
  have hall : ∀ c ∈ s.toList, isBlankChar c = true := by simpa [isBlank] using hblank
  have hnil : trimWhile isBlankChar s.toList = [] := by
    rw [trimWhile_eq_rdropWhile, List.dropWhile_eq_nil_iff.2 hall]
    rfl
  refine h.1 ?_
  rw [← h.2, trim, hnil]

end ListingSearch.Text
