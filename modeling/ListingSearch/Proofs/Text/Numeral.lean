import ListingSearch.Binary64.Numeral
import ListingSearch.Proofs.Text.Trimmed
import ListingSearch.Text.Lowercase
import Mathlib.Algebra.Group.Nat.Defs

/-! The texts of numbers. They have no blank characters, the decimal digits of a natural number are
read back as that number, and a text that begins with a digit is none of the words that stand for
something else. -/
namespace ListingSearch

namespace Text

variable {s t : String} {c : Char}

/-- Only visible ASCII characters. -/
def Visible (s : String) : Prop := ∀ c ∈ s.toList, 0x21 ≤ c.toNat ∧ c.toNat < 0x7F

instance (s : String) : Decidable (Visible s) :=
  List.decidableBAll (fun c : Char => 0x21 ≤ c.toNat ∧ c.toNat < 0x7F) s.toList

/-- Only characters of numerals: digits, signs, a point, and the letters of an exponent, of an
infinity and of `nan`. -/
def Numeric (s : String) : Prop :=
  ∀ c ∈ s.toList, c.isDigit = true ∨ c ∈ ['.', '+', '-', 'e', 'i', 'n', 'f', 'a']

instance (s : String) : Decidable (Numeric s) :=
  List.decidableBAll
    (fun c : Char => c.isDigit = true ∨ c ∈ ['.', '+', '-', 'e', 'i', 'n', 'f', 'a']) s.toList

lemma isBlankChar_eq_false (h : 0x21 ≤ c.toNat) (h' : c.toNat < 0x7F) :
    isBlankChar c = false := by
  simp only [isBlankChar, Bool.or_eq_false_iff, Bool.and_eq_false_iff, decide_eq_false_iff_not,
    beq_eq_false_iff_ne]
  omega

lemma Numeric.append (hs : Numeric s) (ht : Numeric t) : Numeric (s ++ t) := by
  intro c hc
  rw [String.toList_append, List.mem_append] at hc
  exact hc.elim (hs c) (ht c)

lemma toNat_of_isDigit (h : c.isDigit = true) : 48 ≤ c.toNat ∧ c.toNat ≤ 57 := by
  simp only [Char.isDigit, Bool.and_eq_true, decide_eq_true_eq] at h
  exact ⟨UInt32.le_iff_toNat_le.1 h.1, UInt32.le_iff_toNat_le.1 h.2⟩

lemma Visible.trimmed (hs : Visible s) (hne : s ≠ "") : Trimmed s :=
  trimmed_of_forall hne fun c hc => isBlankChar_eq_false (hs c hc).1 (hs c hc).2

lemma Numeric.visible (hs : Numeric s) : Visible s := by
  intro c hc
  rcases hs c hc with hdigit | hother
  · have := toNat_of_isDigit hdigit
    omega
  · simp only [List.mem_cons, List.not_mem_nil, or_false] at hother
    rcases hother with rfl | rfl | rfl | rfl | rfl | rfl | rfl | rfl <;> decide

/-- Only decimal digits. -/
def Digits (cs : List Char) : Prop := ∀ c ∈ cs, c.isDigit = true

lemma Digits.append {cs ds : List Char} (hcs : Digits cs) (hds : Digits ds) : Digits (cs ++ ds) :=
  List.forall_mem_append.2 ⟨hcs, hds⟩

lemma Digits.take {cs : List Char} (h : Digits cs) (n : Nat) : Digits (cs.take n) :=
  fun c hc => h c (List.mem_of_mem_take hc)

lemma Digits.drop {cs : List Char} (h : Digits cs) (n : Nat) : Digits (cs.drop n) :=
  fun c hc => h c (List.mem_of_mem_drop hc)

lemma Digits.numeric {cs : List Char} (h : Digits cs) : Numeric (String.ofList cs) := by
  intro c hc
  rw [String.toList_ofList] at hc
  exact .inl (h c hc)

lemma digits_toDigits (n : Nat) : Digits (Nat.toDigits 10 n) :=
  fun _ hc => Nat.isDigit_of_mem_toDigits (by decide) (by decide) hc

lemma toString_nat_ne_empty (n : Nat) : toString n ≠ "" := by
  rw [Nat.toString_eq_ofList_toDigits]
  intro h
  have hnil : Nat.toDigits 10 n = [] := by simpa using congrArg String.toList h
  exact Nat.toDigits_ne_nil hnil

lemma toString_nat_injective : Function.Injective fun n : Nat => toString n := by
  intro m n h
  simp only [Nat.toString_eq_ofList_toDigits] at h
  have hdigits : Nat.toDigits 10 m = Nat.toDigits 10 n := by
    simpa using congrArg String.toList h
  simpa using congrArg (Nat.ofDigitChars 10 · 0) hdigits

lemma isDigit_of_mem_toString {n : Nat} (hc : c ∈ (toString n).toList) : c.isDigit = true := by
  rw [Nat.toString_eq_ofList_toDigits, String.toList_ofList] at hc
  exact digits_toDigits n c hc

lemma toString_natCast (n : Nat) : toString (n : Int) = toString n := by
  rw [Int.toString_eq_repr, Int.repr_eq_if, if_pos (Int.natCast_nonneg n), Int.toNat_natCast]
  rfl

lemma numeric_toString_nat (n : Nat) : Numeric (toString n) :=
  fun _ hc => .inl (isDigit_of_mem_toString hc)

lemma toString_of_neg {n : Int} (hn : n < 0) : toString n = "-" ++ toString (-n).toNat := by
  rw [Int.toString_eq_repr, Int.repr_eq_if, if_neg (Int.not_le.2 hn)]
  rfl

lemma toString_toNat {n : Int} (hn : 0 ≤ n) : toString n.toNat = toString n := by
  rw [← toString_natCast, Int.toNat_of_nonneg hn]

lemma toString_ne_of_neg {m n : Int} (hm : m < 0) (hn : 0 ≤ n) : toString m ≠ toString n := by
  intro h
  have hmem : '-' ∈ (toString n.toNat).toList := by
    rw [toString_toNat hn, ← h, toString_of_neg hm]
    simp
  exact absurd (isDigit_of_mem_toString hmem) (by decide)

lemma toString_int_injective : Function.Injective fun n : Int => toString n := by
  intro m n h
  change toString m = toString n at h
  rcases Int.lt_or_le m 0 with hm | hm <;> rcases Int.lt_or_le n 0 with hn | hn
  · rw [toString_of_neg hm, toString_of_neg hn] at h
    have := toString_nat_injective ((String.append_right_inj "-").1 h)
    omega
  · exact absurd h (toString_ne_of_neg hm hn)
  · exact absurd h.symm (toString_ne_of_neg hn hm)
  · rw [← toString_toNat hm, ← toString_toNat hn] at h
    have := toString_nat_injective h
    omega

lemma eq_or_isDigit_of_mem_toString {n : Int} (hc : c ∈ (toString n).toList) :
    c = '-' ∨ c.isDigit = true := by
  rcases Int.lt_or_le n 0 with hn | hn
  · rw [toString_of_neg hn, String.toList_append, List.mem_append] at hc
    exact hc.imp List.mem_singleton.1 isDigit_of_mem_toString
  · rw [← toString_toNat hn] at hc
    exact .inr (isDigit_of_mem_toString hc)

lemma numeric_toString_int (n : Int) : Numeric (toString n) := by
  intro c hc
  rcases eq_or_isDigit_of_mem_toString hc with rfl | hdigit
  · exact .inr (by decide)
  · exact .inl hdigit

lemma toString_int_ne_empty (n : Int) : toString n ≠ "" := by
  rcases Int.lt_or_le n 0 with hn | hn
  · simp [toString_of_neg hn]
  · rw [← toString_toNat hn]
    exact toString_nat_ne_empty _

lemma trimmed_toString_int (n : Int) : Trimmed (toString n) :=
  (numeric_toString_int n).visible.trimmed (toString_int_ne_empty n)

lemma digitValue?_of_isDigit (h : c.isDigit = true) :
    digitValue? c = some (c.toNat - '0'.toNat) := by
  obtain ⟨hlow, hhigh⟩ := toNat_of_isDigit h
  have hfirst : (decide (0x30 ≤ c.toNat) && decide (c.toNat < 0x30 + 10)) = true := by
    simp only [Bool.and_eq_true, decide_eq_true_eq]
    omega
  simp only [digitValue?, zeroDigits, List.find?_cons, hfirst]
  rfl

lemma isDigit_of_isDigit (h : c.isDigit = true) : isDigit c = true := by
  rw [isDigit, digitValue?_of_isDigit h]
  rfl

lemma digitsValue_of_digits {cs : List Char} (h : Digits cs) :
    digitsValue cs = Nat.ofDigitChars 10 cs 0 := by
  induction cs using List.reverseRecOn with
  | nil => rfl
  | append_singleton cs c ih =>
    rw [digitsValue_append_singleton, ih fun c hc => h c (List.mem_append_left _ hc),
      digitValue?_of_isDigit (h c (by simp)), Nat.ofDigitChars_append, Nat.ofDigitChars_cons,
      Nat.ofDigitChars_nil]
    rfl

lemma digitsValue_toDigits (n : Nat) : digitsValue (Nat.toDigits 10 n) = n := by
  rw [digitsValue_of_digits (digits_toDigits n), Nat.ofDigitChars_ten_toDigits]

/-- The digits that a natural number begins with are all of it. -/
lemma takeWhile_toString (n : Nat) :
    (toString n).toList.takeWhile isDigit = Nat.toDigits 10 n := by
  rw [Nat.toString_eq_ofList_toDigits, String.toList_ofList,
    List.takeWhile_eq_self_iff.2 fun c hc => isDigit_of_isDigit (digits_toDigits n c hc)]

lemma length_takeWhile_toString_le (n : Int) :
    ((toString n).toList.takeWhile isDigit).length ≤ (Nat.toDigits 10 n.natAbs).length := by
  rcases Int.lt_or_le n 0 with hn | hn
  · rw [toString_of_neg hn, String.toList_append]
    exact Nat.zero_le _
  · obtain ⟨m, rfl⟩ := Int.eq_ofNat_of_zero_le hn
    rw [toString_natCast, takeWhile_toString, Int.natAbs_natCast]

/-- Ranges that hold every letter that is lowered. -/
def loweredRanges : List (Nat × Nat) :=
  ('A'.toNat, 'Z'.toNat) :: ('Σ'.toNat, 'Σ'.toNat) :: ('İ'.toNat, 'İ'.toNat) ::
    capitalRuns.map fun run => (run.1, run.2.1)

lemma zeroDigits_avoid :
    ∀ z ∈ zeroDigits, ∀ range ∈ loweredRanges, z + 10 ≤ range.1 ∨ range.2 < z := by
  decide +kernel

lemma exists_zero_of_isDigit (h : isDigit c = true) :
    ∃ z ∈ zeroDigits, z ≤ c.toNat ∧ c.toNat < z + 10 := by
  rw [isDigit, digitValue?, Option.isSome_map, List.find?_isSome] at h
  simpa using h

lemma digitValue?_getD_le (c : Char) : (digitValue? c).getD 0 ≤ 9 := by
  rw [digitValue?]
  cases hfind : zeroDigits.find? fun z => z ≤ c.toNat && c.toNat < z + 10 with
  | none => simp
  | some z =>
    have hz := List.find?_some hfind
    simp only [Bool.and_eq_true, decide_eq_true_eq] at hz
    simp only [Option.map_some, Option.getD_some]
    omega

lemma digitsValue_lt (cs : List Char) : digitsValue cs < 10 ^ cs.length := by
  induction cs using List.reverseRecOn with
  | nil => simp [digitsValue]
  | append_singleton cs c ih =>
    have := digitValue?_getD_le c
    rw [digitsValue_append_singleton, List.length_append, List.length_singleton, Nat.pow_succ]
    omega

lemma not_mem_range_of_isDigit (h : isDigit c = true) {low high : Nat}
    (hrange : (low, high) ∈ loweredRanges) : ¬ (low ≤ c.toNat ∧ c.toNat ≤ high) := by
  obtain ⟨z, hz, hlow, hhigh⟩ := exists_zero_of_isDigit h
  have := zeroDigits_avoid z hz (low, high) hrange
  omega

lemma lowerChar_of_isDigit (h : isDigit c = true) : lowerChar c = c := by
  have hsmall : ¬ (0x41 ≤ c.toNat ∧ c.toNat ≤ 0x5a) :=
    not_mem_range_of_isDigit h List.mem_cons_self
  have hnone : (capitalRuns.find? fun r =>
      r.1 ≤ c.toNat && c.toNat ≤ r.2.1 && (c.toNat - r.1) % r.2.2.1 == 0) = none := by
    refine List.find?_eq_none.2 fun run hrun hin => ?_
    have hrange : (run.1, run.2.1) ∈ loweredRanges := by
      simp only [loweredRanges, List.mem_cons, List.mem_map]
      exact .inr (.inr (.inr ⟨run, hrun, rfl⟩))
    simp only [Bool.and_eq_true, decide_eq_true_eq] at hin
    exact not_mem_range_of_isDigit h hrange hin.1
  simp only [lowerChar, Bool.and_eq_true, decide_eq_true_eq, hsmall, if_false, hnone, ite_self]

/-- A text that begins with a digit still does so in small letters. -/
lemma head?_lower (h : isDigit c = true) {cs : List Char} (hs : s.toList = c :: cs) :
    (lower s).toList.head? = some c := by
  have hne {letter : Char} (hletter : (letter.toNat, letter.toNat) ∈ loweredRanges) :
      c ≠ letter := by
    rintro rfl
    exact not_mem_range_of_isDigit h hletter ⟨le_rfl, le_rfl⟩
  have hsigma : c ≠ 'Σ' := hne (by simp [loweredRanges])
  have hdotted : c ≠ 'İ' := hne (by simp [loweredRanges])
  rw [lower, String.toList_ofList, hs, lowerFrom, if_neg hsigma, if_neg hdotted]
  simp [lowerChar_of_isDigit h]

/-- A text that is lowered to a word does not begin with a digit. -/
lemma takeWhile_isDigit_of_lower {word : String} (hword : word.toList.head?.any isDigit = false)
    (h : lower s = word) : s.toList.takeWhile isDigit = [] := by
  cases hs : s.toList with
  | nil => rfl
  | cons c cs =>
    rw [List.takeWhile_cons, if_neg]
    intro hc
    have hhead := head?_lower hc hs
    rw [h] at hhead
    rw [hhead, Option.any_some, hc] at hword
    cases hword

/-- No natural number is a word. -/
lemma lower_toString_ne {n : Nat} {word : String}
    (hword : word.toList.head?.any isDigit = false) : lower (toString n) ≠ word := by
  intro heq
  have hnil := takeWhile_isDigit_of_lower hword heq
  rw [takeWhile_toString] at hnil
  exact Nat.toDigits_ne_nil hnil

end Text

namespace Binary64

open Text (Digits Numeric)

lemma numeric_zeros (n : Nat) : Numeric (zeros n) := by
  intro c hc
  obtain ⟨-, rfl⟩ := by simpa [zeros] using hc
  decide

lemma numeric_exponentText (e : Int) : Numeric (exponentText e) := by
  refine (Numeric.append ?_ (numeric_zeros _)).append (Text.numeric_toString_nat _)
  split <;> decide

lemma numeric_signText (negative : Bool) : Numeric (signText negative) := by
  cases negative <;> decide

lemma numeric_point {cs : List Char} (h : Digits cs) : Numeric ("." ++ String.ofList cs) :=
  Numeric.append (by decide) h.numeric

variable {style : NumeralStyle} {digits : List Char}

lemma numeric_layout (h : Digits digits) (top : Int) : Numeric (style.layout digits top) := by
  unfold NumeralStyle.layout
  split
  · split
    · exact (Numeric.append (by decide) (numeric_zeros _)).append h.numeric
    · refine ((h.take _).numeric.append (numeric_zeros _)).append ?_
      split
      · exact numeric_point (h.drop _)
      · split <;> decide
  · refine ((h.take 1).numeric.append ?_).append (numeric_exponentText top)
    split
    · decide
    · exact numeric_point (h.drop 1)

lemma layout_ne_empty (h : digits ≠ []) (top : Int) : style.layout digits top ≠ "" := by
  obtain ⟨d, ds, rfl⟩ := List.exists_cons_of_ne_nil h
  intro hempty
  have hnil := congrArg String.toList hempty
  unfold NumeralStyle.layout at hnil
  split at hnil
  · split at hnil <;> simp at hnil
  · simp at hnil

lemma numeric_write (n : Nat) (exponent : Int) : Numeric (style.write n exponent) := by
  simp only [NumeralStyle.write]
  split
  · split <;> decide
  · refine numeric_layout (fun c hc => ?_) _
    exact Text.digits_toDigits n c
      (List.mem_reverse.1 ((List.dropWhile_sublist _).mem (List.mem_reverse.1 hc)))

lemma write_ne_empty (n : Nat) (exponent : Int) : style.write n exponent ≠ "" := by
  simp only [NumeralStyle.write]
  split
  · split <;> decide
  · rename_i h
    exact layout_ne_empty h _

lemma append_ne_empty {s t : String} (h : t ≠ "") : s ++ t ≠ "" := by
  simp [h]

lemma numeric_text (x : Binary64) : Numeric x.text := by
  cases x with
  | finite s m q h =>
    rw [text]
    split
    · exact (numeric_signText s).append (numeric_write 0 0)
    · exact (numeric_signText s).append (numeric_write _ _)
  | infinite s => exact (numeric_signText s).append (by decide)
  | nan => exact (by decide : Numeric "nan")

lemma text_ne_empty (x : Binary64) : x.text ≠ "" := by
  cases x with
  | finite s m q h =>
    rw [text]
    split
    · exact append_ne_empty (write_ne_empty 0 0)
    · exact append_ne_empty (write_ne_empty _ _)
  | infinite s => exact append_ne_empty (by decide)
  | nan => exact (by decide : "nan" ≠ "")

lemma trimmed_text (x : Binary64) : Text.Trimmed x.text :=
  (numeric_text x).visible.trimmed (text_ne_empty x)

end Binary64
end ListingSearch
