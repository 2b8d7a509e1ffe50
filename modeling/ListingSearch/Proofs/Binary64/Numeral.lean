import ListingSearch.Proofs.Binary64.Decimal
import ListingSearch.Proofs.Text.Numeral

/-! Numerals are read back. The text of a number, whether written out in full or with an exponent,
is read as that number, so different numbers have different texts. -/
namespace ListingSearch

namespace Text

lemma digitsValue_append (cs ds : List Char) :
    digitsValue (cs ++ ds) = digitsValue cs * 10 ^ ds.length + digitsValue ds := by
  induction ds using List.reverseRecOn with
  | nil => simp [digitsValue]
  | append_singleton ds d ih =>
    rw [← List.append_assoc, digitsValue_append_singleton, digitsValue_append_singleton, ih,
      List.length_append, List.length_singleton]
    ring

lemma digitsValue_zeros (n : Nat) : digitsValue (List.replicate n '0') = 0 := by
  induction n with
  | zero => rfl
  | succ n ih =>
    rw [List.replicate_succ', digitsValue_append_singleton, ih]
    rfl

lemma ne_of_isDigit {c d : Char} (hc : c.isDigit = true) (hd : d.isDigit = false) : c ≠ d := by
  rintro rfl
  rw [hc] at hd
  cases hd

lemma toLower_of_isDigit {c : Char} (h : c.isDigit = true) : c.toLower = c := by
  obtain ⟨hlow, hhigh⟩ := toNat_of_isDigit h
  unfold Char.toLower
  split
  · rename_i hupper
    have : 65 ≤ c.toNat := UInt32.le_iff_toNat_le.1 hupper.1
    omega
  · rfl

lemma digits_replicate (n : Nat) : Digits (List.replicate n '0') := by
  intro c hc
  rw [List.eq_of_mem_replicate hc]
  decide

end Text

namespace Binary64

open Text (Digits digitsValue digits_replicate)

variable {whole fraction point tail digits : List Char} {E : Int}

lemma takeWhile_of_digits {f : Char → Bool} (h : Digits digits)
    (hf : ∀ c : Char, c.isDigit = true → f c = true) (rest : List Char) :
    (digits ++ rest).takeWhile f = digits ++ rest.takeWhile f :=
  List.takeWhile_append_of_pos fun c hc => hf c (h c hc)

/-- Digits, perhaps a point and more digits, and perhaps an exponent are read as the decimal that
has all the digits. -/
lemma readMagnitude?_eq (negative : Bool) (hwhole : Digits whole) (hfraction : Digits fraction)
    (hne : whole ≠ []) (hpoint : point = '.' :: fraction ∨ point = [] ∧ fraction = [])
    (htail : tail = [] ∧ E = 0 ∨ ∃ rest, tail = 'e' :: rest ∧ readExponent? rest = some E) :
    readMagnitude? negative (whole ++ point ++ tail) =
      some (ofDecimal negative (digitsValue (whole ++ fraction)) (E - fraction.length)) := by
  have hexponent (c : Char) (hc : c.isDigit = true) : (c != 'e' && c != 'E') = true := by
    simp [Text.ne_of_isDigit hc]
  have hmantissa : (whole ++ point ++ tail).takeWhile (fun c => c != 'e' && c != 'E') =
      whole ++ point := by
    have htail' : tail.takeWhile (fun c => c != 'e' && c != 'E') = [] := by
      rcases htail with ⟨rfl, -⟩ | ⟨rest, rfl, -⟩ <;> rfl
    rw [List.append_assoc, takeWhile_of_digits hwhole hexponent]
    rcases hpoint with rfl | ⟨rfl, -⟩
    · rw [List.cons_append, List.takeWhile_cons_of_pos (by decide),
        takeWhile_of_digits hfraction hexponent, htail', List.append_nil]
    · rw [List.nil_append, htail']
  have hleft : (whole ++ point).takeWhile (· != '.') = whole := by
    rw [takeWhile_of_digits hwhole fun c hc => by simp [Text.ne_of_isDigit hc]]
    rcases hpoint with rfl | ⟨rfl, -⟩ <;> simp
  have hright : (whole ++ point).drop (whole.length + 1) = fraction := by
    rcases hpoint with rfl | ⟨rfl, rfl⟩ <;> simp
  have hall : whole ++ fraction ≠ [] ∧ (whole ++ fraction).all Char.isDigit = true :=
    ⟨by simp [hne], List.all_eq_true.2 (hwhole.append hfraction)⟩
  simp only [readMagnitude?, hmantissa, hleft, hright, List.drop_left, if_pos hall]
  rcases htail with ⟨rfl, rfl⟩ | ⟨rest, rfl, hrest⟩
  · rfl
  · simp [hrest]

lemma readExponent?_signed (negative : Bool) (h : Digits digits) (hne : digits ≠ []) :
    readExponent? ((if negative then '-' else '+') :: digits) =
      some (signed negative (digitsValue digits)) := by
  have hall : digits ≠ [] ∧ digits.all Char.isDigit = true := ⟨hne, List.all_eq_true.2 h⟩
  cases negative <;> simp [readExponent?, takeSign, hall]

/-- A written exponent is read back. -/
lemma readExponent?_exponentText (e : Int) :
    ∃ rest, (exponentText e).toList = 'e' :: rest ∧ readExponent? rest = some e := by
  obtain ⟨ds, hds⟩ : ∃ ds, ds = List.replicate (2 - (toString e.natAbs).length) '0' ++
      Nat.toDigits 10 e.natAbs := ⟨_, rfl⟩
  have hdigits : Digits ds := hds ▸ (digits_replicate _).append (Text.digits_toDigits _)
  have hne : ds ≠ [] := by simp [hds, Nat.toDigits_ne_nil]
  have hvalue : digitsValue ds = e.natAbs := by
    rw [hds, Text.digitsValue_append, Text.digitsValue_zeros, Text.digitsValue_toDigits]
    ring
  have htext : (exponentText e).toList = 'e' :: (if decide (e < 0) then '-' else '+') :: ds := by
    rw [exponentText, String.toList_append, String.toList_append, zeros, String.toList_ofList,
      Nat.toString_eq_ofList_toDigits, String.toList_ofList, List.append_assoc,
      ← Nat.toString_eq_ofList_toDigits, ← hds]
    by_cases he : e < 0 <;> simp [he]
  have hsign : signed (decide (e < 0)) e.natAbs = e := by
    by_cases he : e < 0
    · simp only [signed, he, decide_true, if_true]
      omega
    · simp only [signed, he, decide_false, Bool.false_eq_true, if_false]
      omega
  refine ⟨_, htext, ?_⟩
  rw [readExponent?_signed _ hdigits hne, hvalue, hsign]

/-- Zeros, a point, and digits behind it. -/
lemma readMagnitude?_small (negative : Bool) (h : Digits digits) (n : Nat) :
    readMagnitude? negative ("0." ++ zeros n ++ String.ofList digits).toList =
      some (ofDecimal negative (digitsValue digits) (-n - digits.length)) := by
  have hvalue : digitsValue (['0'] ++ (List.replicate n '0' ++ digits)) = digitsValue digits := by
    rw [← List.append_assoc, ← List.replicate_one, ← List.replicate_add, Text.digitsValue_append,
      Text.digitsValue_zeros]
    ring
  have hread := readMagnitude?_eq negative (E := 0) (List.forall_mem_singleton.2 rfl)
    ((digits_replicate n).append h) (List.cons_ne_nil '0' []) (.inl rfl) (.inl ⟨rfl, rfl⟩)
  rw [hvalue] at hread
  convert hread using 3
  · simp [zeros]
  · rw [List.length_append, List.length_replicate]
    push_cast
    ring

/-- Digits with a point among them. -/
lemma readMagnitude?_split (negative : Bool) (h : Digits digits) {n : Nat} (hn : 0 < n)
    (hmore : digits.drop n ≠ []) :
    readMagnitude? negative
        (String.ofList (digits.take n) ++ ("." ++ String.ofList (digits.drop n))).toList =
      some (ofDecimal negative (digitsValue digits) (n - digits.length)) := by
  have hlt : n < digits.length := by simpa using hmore
  have hne : digits.take n ≠ [] := by
    rw [ne_eq, List.take_eq_nil_iff]
    rintro (rfl | rfl)
    · exact absurd hn (lt_irrefl 0)
    · simp at hmore
  have hread := readMagnitude?_eq negative (E := 0) (h.take n) (h.drop n) hne (.inl rfl)
    (.inl ⟨rfl, rfl⟩)
  rw [List.take_append_drop] at hread
  convert hread using 3
  · simp
  · rw [List.length_drop]
    omega

/-- An integer with zeros behind its digits. -/
lemma readMagnitude?_integral (negative : Bool) (h : Digits digits) (hne : digits ≠ []) (n : Nat) :
    readMagnitude? negative (String.ofList digits ++ zeros n ++ ".0").toList =
      some (ofDecimal negative (digitsValue digits) n) := by
  have hread := readMagnitude?_eq negative (E := 0) (h.append (digits_replicate n))
    (List.forall_mem_singleton.2 (rfl : '0'.isDigit = true)) (by simp [hne]) (.inl rfl)
    (.inl ⟨rfl, rfl⟩)
  have hvalue : (digitsValue (digits ++ List.replicate n '0' ++ ['0']) : ℚ) * 10 ^ (-1 : Int) =
      digitsValue digits * 10 ^ (n : Int) := by
    rw [Text.digitsValue_append, Text.digitsValue_append, Text.digitsValue_zeros, zpow_natCast]
    simp [digitsValue, Text.digitValue?_of_isDigit]
  rw [show (0 : Int) - (['0'].length : Int) = -1 by rfl, ofDecimal_congr negative hvalue] at hread
  convert hread using 2
  simp [zeros]

/-- One digit before the point and an exponent. -/
lemma readMagnitude?_scientific (negative : Bool) (h : Digits digits) (hne : digits ≠ [])
    (top : Int) :
    readMagnitude? negative (String.ofList (digits.take 1) ++
        (if digits.drop 1 = [] then "" else "." ++ String.ofList (digits.drop 1)) ++
        exponentText top).toList =
      some (ofDecimal negative (digitsValue digits) (top + 1 - digits.length)) := by
  obtain ⟨rest, htext, hrest⟩ := readExponent?_exponentText top
  have hone : digits.take 1 ≠ [] := by simp [List.take_eq_nil_iff, hne]
  have hpoint : (if digits.drop 1 = [] then "" else "." ++ String.ofList (digits.drop 1)).toList =
      '.' :: digits.drop 1 ∨
      (if digits.drop 1 = [] then "" else "." ++ String.ofList (digits.drop 1)).toList = [] ∧
        digits.drop 1 = [] := by
    by_cases hdrop : digits.drop 1 = []
    · right
      rw [if_pos hdrop]
      exact ⟨rfl, hdrop⟩
    · left
      rw [if_neg hdrop]
      simp
  have hread := readMagnitude?_eq negative (h.take 1) (h.drop 1) hone hpoint
    (.inr ⟨rest, htext, hrest⟩)
  rw [List.take_append_drop] at hread
  have hpos : 0 < digits.length := List.length_pos_iff.2 hne
  convert hread using 3
  · simp
  · rw [List.length_drop]
    omega

/-- What is written in either form is read as the decimal that was laid out. -/
lemma readMagnitude?_layout (negative : Bool) (h : Digits digits) (hne : digits ≠ []) (top : Int) :
    readMagnitude? negative (fullStyle.layout digits top).toList =
      some (ofDecimal negative (digitsValue digits) (top + 1 - digits.length)) := by
  unfold NumeralStyle.layout
  -- All digits stand behind the point, or the point stands among or after them, or there is an
  -- exponent.
  split
  · split
    · rw [readMagnitude?_small negative h]
      congr 2
      omega
    · by_cases hdrop : digits.drop (top.toNat + 1) = []
      · have hle : digits.length ≤ top.toNat + 1 := by simpa using hdrop
        simp only [hdrop, ne_eq, not_true_eq_false, if_false, List.take_of_length_le hle]
        rw [if_pos (by rfl), readMagnitude?_integral negative h hne]
        congr 2
        omega
      · have hlt : top.toNat + 1 < digits.length := by simpa using hdrop
        have hzero : top.toNat + 1 - digits.length = 0 := by omega
        simp only [ne_eq, hdrop, not_false_eq_true, if_true, hzero]
        have hread := readMagnitude?_split negative h (Nat.succ_pos _) hdrop
        convert hread using 3
        · simp [zeros]
        · omega
  · exact readMagnitude?_scientific negative h hne top

/-- A list ends in the zeros that are not kept. -/
lemma exists_kept (cs : List Char) :
    ∃ n, (cs.reverse.dropWhile (· == '0')).reverse ++ List.replicate n '0' = cs := by
  refine ⟨(cs.reverse.takeWhile (· == '0')).length, ?_⟩
  have hzeros : cs.reverse.takeWhile (· == '0') =
      List.replicate (cs.reverse.takeWhile (· == '0')).length '0' := by
    rw [List.eq_replicate_iff]
    exact ⟨rfl, fun c hc => by simpa using List.mem_takeWhile_imp hc⟩
  have hcut := congrArg List.reverse
    (List.takeWhile_append_dropWhile (l := cs.reverse) (p := (· == '0')))
  rw [List.reverse_append, List.reverse_reverse] at hcut
  rwa [hzeros, List.reverse_replicate] at hcut

/-- The kept digits of a number, and what they stand for. -/
lemma exists_kept_digits (d : Nat) :
    ∃ kept n, ((Nat.toDigits 10 d).reverse.dropWhile (· == '0')).reverse = kept ∧ Digits kept ∧
      digitsValue kept * 10 ^ n = d ∧ (Nat.toDigits 10 d).length = kept.length + n := by
  obtain ⟨n, hn⟩ := exists_kept (Nat.toDigits 10 d)
  refine ⟨_, n, rfl, fun c hc => ?_, ?_, ?_⟩
  · exact Text.digits_toDigits d c (hn ▸ List.mem_append_left _ hc)
  · have hvalue := Text.digitsValue_toDigits d
    rwa [← hn, Text.digitsValue_append, Text.digitsValue_zeros, List.length_replicate,
      add_zero] at hvalue
  · have hlength := congrArg List.length hn
    rwa [List.length_append, List.length_replicate, eq_comm] at hlength

/-- A numeral is read as the decimal that was written. -/
lemma readMagnitude?_write (negative : Bool) (d : Nat) (e : Int) :
    readMagnitude? negative (fullStyle.write d e).toList = some (ofDecimal negative d e) := by
  obtain ⟨kept, n, hkept, hdigits, hvalue, hlength⟩ := exists_kept_digits d
  simp only [NumeralStyle.write, hkept]
  by_cases hempty : kept = []
  · have hd : d = 0 := by
      rw [← hvalue, hempty]
      simp [digitsValue]
    rw [if_pos hempty, hd, ofDecimal, if_pos rfl]
    rfl
  · rw [if_neg hempty, readMagnitude?_layout negative hdigits hempty, hlength]
    congr 1
    refine ofDecimal_congr negative ?_
    rw [← hvalue]
    push_cast
    rw [mul_assoc, ← zpow_natCast, ← zpow_add₀ (by norm_num)]
    congr 2
    ring

lemma head?_layout (h : Digits digits) (hne : digits ≠ []) (top : Int) :
    ∃ c, (fullStyle.layout digits top).toList.head? = some c ∧ c.isDigit = true := by
  obtain ⟨c, ds, rfl⟩ := List.exists_cons_of_ne_nil hne
  have hc : c.isDigit = true := h c (by simp)
  unfold NumeralStyle.layout
  split
  · split
    · exact ⟨'0', by simp, rfl⟩
    · exact ⟨c, by simp, hc⟩
  · exact ⟨c, by simp, hc⟩

/-- A numeral without a sign begins with a digit. -/
lemma head?_write (d : Nat) (e : Int) :
    ∃ c, (fullStyle.write d e).toList.head? = some c ∧ c.isDigit = true := by
  obtain ⟨kept, n, hkept, hdigits, -, -⟩ := exists_kept_digits d
  simp only [NumeralStyle.write, hkept]
  by_cases hempty : kept = []
  · rw [if_pos hempty]
    exact ⟨'0', rfl, rfl⟩
  · rw [if_neg hempty]
    exact head?_layout hdigits hempty _

lemma takeSign_signText (negative : Bool) {c : Char} {s : String} (hhead : s.toList.head? = some c)
    (hc : c.isDigit = true) : takeSign (signText negative ++ s).toList = (negative, s.toList) := by
  obtain ⟨cs, hs⟩ : ∃ cs, s.toList = c :: cs := by simpa [List.head?_eq_some_iff] using hhead
  have hplus : c ≠ '+' := Text.ne_of_isDigit hc rfl
  have hminus : c ≠ '-' := Text.ne_of_isDigit hc rfl
  rw [String.toList_append, hs]
  cases negative
  · simp [signText, takeSign, hplus, hminus]
  · rfl

/-- A signed numeral is read as the decimal that was written. -/
lemma readPlain?_write (negative : Bool) (d : Nat) (e : Int) :
    readPlain? (signText negative ++ fullStyle.write d e).toList =
      some (ofDecimal negative d e) := by
  obtain ⟨c, hhead, hc⟩ := head?_write d e
  have hname {word : List Char} (hword : word.head?.any Char.isDigit = false) :
      (fullStyle.write d e).toList.map Char.toLower ≠ word := by
    rintro rfl
    rw [List.head?_map, hhead] at hword
    simp [Text.toLower_of_isDigit hc, hc] at hword
  simp only [readPlain?, takeSign_signText negative hhead hc]
  rw [if_neg (not_or.2 ⟨hname rfl, hname rfl⟩), if_neg (hname rfl), readMagnitude?_write]

/-- The text of a number is read as that number. -/
lemma readPlain?_text (x : Binary64) : readPlain? x.text.toList = some x := by
  cases x with
  | finite s m q h =>
    by_cases hm : m = 0
    · subst hm
      have hq : q = -1074 := h.2.2.2.resolve_left (by decide)
      subst hq
      rw [text, if_pos rfl, readPlain?_write]
      rfl
    · rw [text, if_neg hm, readPlain?_write, ofDecimal_shortest s h hm]
  | infinite s => cases s <;> rfl
  | nan => rfl

/-- Different numbers have different texts. -/
lemma text_injective : Function.Injective text := by
  intro x y h
  have hread := readPlain?_text x
  rw [h, readPlain?_text y] at hread
  exact (Option.some.inj hread).symm

/-- A point, an exponent or a word stands behind at most `k` characters. -/
def MarkedWithin (k : Nat) (cs : List Char) : Prop :=
  ∃ before mark after, cs = before ++ mark :: after ∧ (mark = '.' ∨ mark = 'e' ∨ mark = 'n') ∧
    before.length ≤ k

lemma MarkedWithin.append {k : Nat} {cs : List Char} (h : MarkedWithin k cs) (front : List Char) :
    MarkedWithin (front.length + k) (front ++ cs) := by
  obtain ⟨before, mark, after, rfl, hmark, hlength⟩ := h
  refine ⟨front ++ before, mark, after, (List.append_assoc ..).symm, hmark, ?_⟩
  rw [List.length_append]
  omega

lemma markedWithin_layout (digits : List Char) (top : Int) :
    MarkedWithin 16 (fullStyle.layout digits top).toList := by
  unfold NumeralStyle.layout
  split
  · rename_i hplain
    have htop : top < 16 := hplain.2
    split
    · exact ⟨['0'], '.', _, by rw [String.append_assoc, String.toList_append]; rfl, .inl rfl,
        by decide⟩
    · have hpoint : ∃ after, (if digits.drop (top.toNat + 1) ≠ [] then
          "." ++ String.ofList (digits.drop (top.toNat + 1))
          else if fullStyle.pointZero then ".0" else "").toList = '.' :: after := by
        split
        · exact ⟨_, by rw [String.toList_append]; rfl⟩
        · exact ⟨['0'], rfl⟩
      obtain ⟨after, hafter⟩ := hpoint
      refine ⟨digits.take (top.toNat + 1) ++ List.replicate (top.toNat + 1 - digits.length) '0',
        '.', after, ?_, .inl rfl, ?_⟩
      · rw [String.toList_append, hafter]
        simp [zeros]
      · rw [List.length_append, List.length_take, List.length_replicate]
        omega
  · obtain ⟨rest, htext, -⟩ := readExponent?_exponentText top
    have hone : (digits.take 1).length ≤ 16 := by
      rw [List.length_take]
      omega
    rw [String.toList_append, String.toList_append, htext, String.toList_ofList]
    split
    · exact ⟨digits.take 1, 'e', rest, by simp, .inr (.inl rfl), hone⟩
    · exact ⟨digits.take 1, '.', digits.drop 1 ++ 'e' :: rest, by simp, .inl rfl, hone⟩

lemma markedWithin_write (d : Nat) (e : Int) :
    MarkedWithin 16 (fullStyle.write d e).toList := by
  simp only [NumeralStyle.write]
  split
  · exact ⟨['0'], '.', ['0'], rfl, .inl rfl, by decide⟩
  · exact markedWithin_layout _ _

/-- The text of a number has a point or an exponent behind few digits, or it is a word. -/
lemma markedWithin_text (x : Binary64) : MarkedWithin 17 x.text.toList := by
  have hsigned (s : Bool) (d : Nat) (e : Int) :
      MarkedWithin 17 (signText s ++ fullStyle.write d e).toList := by
    rw [String.toList_append]
    obtain ⟨before, mark, after, heq, hmark, hlength⟩ :=
      (markedWithin_write d e).append (signText s).toList
    have hsign : (signText s).toList.length ≤ 1 := by cases s <;> decide
    exact ⟨before, mark, after, heq, hmark, by omega⟩
  cases x with
  | finite s m q h =>
    rw [text]
    split
    · exact hsigned s 0 0
    · exact hsigned s _ _
  | infinite s =>
    cases s
    · exact ⟨['i'], 'n', ['f'], rfl, .inr (.inr rfl), by decide⟩
    · exact ⟨['-', 'i'], 'n', ['f'], rfl, .inr (.inr rfl), by decide⟩
  | nan => exact ⟨[], 'n', ['a', 'n'], rfl, .inr (.inr rfl), by decide⟩

/-- The text of a number begins with few digits. -/
lemma length_takeWhile_text_le (x : Binary64) :
    (x.text.toList.takeWhile Text.isDigit).length ≤ 17 := by
  obtain ⟨before, mark, after, heq, hmark, hlength⟩ := markedWithin_text x
  have hstop : Text.isDigit mark = false := by rcases hmark with rfl | rfl | rfl <;> decide
  rw [heq, List.takeWhile_append, List.takeWhile_cons_of_neg (by simp [hstop])]
  split
  · simpa using hlength
  · exact (List.takeWhile_sublist _).length_le.trans hlength

/-- The text of an integer is that of no binary64 number. -/
lemma text_ne_toString (x : Binary64) (n : Int) : x.text ≠ toString n := by
  intro heq
  obtain ⟨before, c, after, htext, hmark, -⟩ := markedWithin_text x
  have hmem : c ∈ (toString n).toList := by
    rw [← heq, htext]
    simp
  have hother : c ≠ '-' ∧ c.isDigit = false := by rcases hmark with rfl | rfl | rfl <;> decide
  rcases Text.eq_or_isDigit_of_mem_toString hmem with hsign | hdigit
  · exact hother.1 hsign
  · rw [hother.2] at hdigit
    cases hdigit

end Binary64
end ListingSearch
