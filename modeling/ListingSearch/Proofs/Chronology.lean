import ListingSearch.Proofs.Binary64.Numeral
import ListingSearch.Proofs.Calendar
import Mathlib.Data.Nat.Digits.Defs
import Mathlib.Data.String.Basic

/-! The texts of instants stand in the order of time. A text is made of numbers of fixed width, the
more significant ones first, so it is compared like these numbers; a fraction of a second is written
only if there is one, and what begins with its point stands behind what goes on with the sign of the
offset. -/
namespace ListingSearch

namespace Text

variable {c d : Char} {cs ds us vs : List Char} {width m n : Nat}

lemma lt_iff_toNat_lt : c < d ↔ c.toNat < d.toNat := by
  rw [Char.lt_def, UInt32.lt_iff_toNat_lt]
  rfl

lemma digitsValue_cons (h : c.isDigit = true) (cs : List Char) :
    digitsValue (c :: cs) = (c.toNat - 48) * 10 ^ cs.length + digitsValue cs := by
  have hone : digitsValue [c] = c.toNat - 48 := by
    simp [digitsValue, digitValue?_of_isDigit h]
  rw [← List.singleton_append, digitsValue_append, hone]

/-- Numbers are compared by their leading digits first. -/
lemma mul_add_lt_iff {a b x y unit : Nat} (hx : x < unit) (hy : y < unit) :
    (a * unit + x < b * unit + y ↔ a < b ∨ a = b ∧ x < y) ∧
      (a * unit + x = b * unit + y ↔ a = b ∧ x = y) := by
  rcases lt_trichotomy a b with h | rfl | h
  · have := Nat.mul_le_mul_right unit (Nat.succ_le_of_lt h)
    rw [Nat.succ_mul] at this
    omega
  · simp
  · have := Nat.mul_le_mul_right unit (Nat.succ_le_of_lt h)
    rw [Nat.succ_mul] at this
    omega

/-- Texts that begin with as many digits are compared by the numbers that these write first. -/
lemma digits_append_lt_iff (hcs : Digits cs) (hds : Digits ds) (hlength : cs.length = ds.length) :
    cs ++ us < ds ++ vs ↔
      digitsValue cs < digitsValue ds ∨ digitsValue cs = digitsValue ds ∧ us < vs := by
  induction cs generalizing ds with
  | nil =>
    obtain rfl := List.length_eq_zero_iff.1 hlength.symm
    simp
  | cons c cs ih =>
    obtain ⟨d, ds, rfl⟩ := List.exists_cons_of_length_eq_add_one hlength.symm
    have hlength' : cs.length = ds.length := Nat.succ.inj hlength
    obtain ⟨hc, hcs⟩ := List.forall_mem_cons.1 hcs
    obtain ⟨hd, hds⟩ := List.forall_mem_cons.1 hds
    obtain ⟨hlt, heq⟩ := mul_add_lt_iff (a := c.toNat - 48) (b := d.toNat - 48)
      (digitsValue_lt cs) (hlength' ▸ digitsValue_lt ds)
    have hchar : c < d ↔ c.toNat - 48 < d.toNat - 48 := by
      have := toNat_of_isDigit hc
      have := toNat_of_isDigit hd
      rw [lt_iff_toNat_lt]
      omega
    have hsame : c = d ↔ c.toNat - 48 = d.toNat - 48 := by
      have := toNat_of_isDigit hc
      have := toNat_of_isDigit hd
      rw [← Char.toNat_inj]
      omega
    rw [List.cons_append, List.cons_append, List.cons_lt_cons_iff, ih hcs hds hlength',
      digitsValue_cons hc, digitsValue_cons hd, ← hlength', hlt, heq, hchar, hsame, and_or_left,
      or_assoc, and_assoc]

end Text

namespace Date

open Finset

variable {d e : Date}

lemma monthLength_le (year month : Nat) : monthLength year month ≤ 31 := by
  unfold monthLength
  split_ifs <;> omega

/-- Places in consecutive stretches of time are compared by their stretches first. -/
lemma sum_add_lt_iff (length : Nat → Nat) {a b x y : Nat} (ha : 1 ≤ a) (hb : 1 ≤ b)
    (hx : x < length a) (hy : y < length b) :
    (∑ i ∈ Ico 1 a, length i + x < ∑ i ∈ Ico 1 b, length i + y ↔ a < b ∨ a = b ∧ x < y) ∧
      (∑ i ∈ Ico 1 a, length i + x = ∑ i ∈ Ico 1 b, length i + y ↔ a = b ∧ x = y) := by
  have hlater {a b : Nat} (ha : 1 ≤ a) (h : a < b) :
      ∑ i ∈ Ico 1 a, length i + length a ≤ ∑ i ∈ Ico 1 b, length i := by
    rw [← sum_Ico_succ_top ha]
    exact sum_le_sum_of_subset (Ico_subset_Ico_right h)
  rcases lt_trichotomy a b with h | rfl | h
  · have := hlater ha h
    omega
  · simp
  · have := hlater hb h
    omega

/-- The days of the year before this one. -/
def dayOfYear (d : Date) : Nat := ∑ month ∈ Ico 1 d.month, monthLength d.year month + (d.day - 1)

lemma IsValid.dayOfYear_lt (h : d.IsValid) : d.dayOfYear < yearLength d.year := by
  have hday : d.dayOfYear < ∑ month ∈ Ico 1 (d.month + 1), monthLength d.year month := by
    rw [sum_Ico_succ_top h.month.1, dayOfYear]
    have := h.day
    omega
  refine hday.trans_le ?_
  rw [← sum_monthLength]
  exact sum_le_sum_of_subset (Ico_subset_Ico_right (Nat.succ_le_succ h.month.2))

/-- Days are compared by year, month and day. -/
lemma elapsed_lt_iff (hd : d.IsValid) (he : e.IsValid) :
    (d.elapsed < e.elapsed ↔ d.year < e.year ∨ d.year = e.year ∧ (d.month < e.month ∨
      d.month = e.month ∧ d.day < e.day)) ∧
      (d.elapsed = e.elapsed ↔ d.year = e.year ∧ d.month = e.month ∧ d.day = e.day) := by
  have hyear := sum_add_lt_iff yearLength hd.year.1 he.year.1 hd.dayOfYear_lt he.dayOfYear_lt
  have helapsed (d : Date) :
      d.elapsed = ∑ year ∈ Ico 1 d.year, yearLength year + d.dayOfYear := Nat.add_assoc _ _ _
  rw [helapsed, helapsed, hyear.1, hyear.2]
  have hdays (h : d.year = e.year) := sum_add_lt_iff (monthLength d.year) hd.month.1
    he.month.1 (x := d.day - 1) (y := e.day - 1) (by have := hd.day; omega)
    (by have := he.day; rw [h]; omega)
  have hfirst := hd.day.1
  have hfirst' := he.day.1
  constructor
  · refine or_congr_right (and_congr_right fun h => ?_)
    rw [dayOfYear, dayOfYear, ← h, (hdays h).1]
    omega
  · refine and_congr_right fun h => ?_
    rw [dayOfYear, dayOfYear, ← h, (hdays h).2]
    omega

end Date

namespace Instant

open Text (Digits digitsValue)

variable {width m n : Nat} {us vs : List Char}

lemma toList_padded (width n : Nat) : (padded width n).toList =
    List.replicate (width - (Nat.toDigits 10 n).length) '0' ++ Nat.toDigits 10 n := by
  rw [padded, String.toList_append, Binary64.zeros, String.toList_ofList,
    Nat.toString_eq_ofList_toDigits, String.toList_ofList, String.length_ofList]

/-- A number that fits is written with just so many digits. -/
lemma padded_spec (hwidth : 0 < width) (h : n < 10 ^ width) :
    Digits (padded width n).toList ∧ (padded width n).toList.length = width ∧
      digitsValue (padded width n).toList = n := by
  have hle := Nat.toDigits_length 10 n width hwidth h
  rw [toList_padded]
  refine ⟨(Text.digits_replicate _).append (Text.digits_toDigits n), ?_, ?_⟩
  · rw [List.length_append, List.length_replicate]
    omega
  · rw [Text.digitsValue_append, Text.digitsValue_zeros, Text.digitsValue_toDigits]
    omega

/-- Texts that begin with numbers of one width are compared by these first. -/
lemma padded_append_lt_iff (hwidth : 0 < width) (hm : m < 10 ^ width) (hn : n < 10 ^ width) :
    (padded width m).toList ++ us < (padded width n).toList ++ vs ↔ m < n ∨ m = n ∧ us < vs := by
  obtain ⟨hdigits, hlength, hvalue⟩ := padded_spec hwidth hm
  obtain ⟨hdigits', hlength', hvalue'⟩ := padded_spec hwidth hn
  rw [Text.digits_append_lt_iff hdigits hdigits' (hlength.trans hlength'.symm), hvalue, hvalue']

/-- A point of time that clocks can show. An offset is less than a day. -/
structure IsValid (t : Instant) : Prop where
  date : t.date.IsValid
  hour : t.hour < 24
  minute : t.minute < 60
  second : t.second < 60
  microsecond : t.microsecond < 1000000
  offset : ∀ minutes ∈ t.offset, minutes.natAbs < 24 * 60

/-- A point of time in universal time. -/
structure IsUtc (t : Instant) : Prop extends t.IsValid where
  utc : t.offset = some 0

def dayLength : Nat := 24 * 60 * 60 * 1000000

def timeOfDay (t : Instant) : Nat :=
  ((t.hour * 60 + t.minute) * 60 + t.second) * 1000000 + t.microsecond

/-- The microseconds since the calendar began, by the clock of the instant. -/
def elapsed (t : Instant) : Nat := t.date.elapsed * dayLength + t.timeOfDay

variable {t u : Instant}

lemma IsValid.timeOfDay_lt (h : t.IsValid) : t.timeOfDay < dayLength := by
  obtain ⟨-, hhour, hminute, hsecond, hmicrosecond, -⟩ := h
  simp only [timeOfDay, dayLength]
  omega

/-- The characters behind the seconds: a fraction, if there is one, and the offset. -/
def tail (microsecond : Nat) : List Char :=
  (if microsecond = 0 then [] else '.' :: (padded 6 microsecond).toList) ++
    ['+', '0', '0', ':', '0', '0']

/-- No fraction stands before every fraction, since a plus sign stands before a point. -/
lemma tail_lt_iff (hm : m < 1000000) (hn : n < 1000000) : tail m < tail n ↔ m < n := by
  unfold tail
  by_cases hmzero : m = 0 <;> by_cases hnzero : n = 0
  · subst hmzero hnzero
    simp
  · subst hmzero
    rw [if_pos rfl, if_neg hnzero, List.cons_append]
    exact iff_of_true (List.cons_lt_cons_iff.2 (.inl (by decide))) (by omega)
  · subst hnzero
    rw [if_pos rfl, if_neg hmzero, List.cons_append]
    refine iff_of_false (fun h => ?_) (by omega)
    rcases List.cons_lt_cons_iff.1 h with hlt | ⟨heq, -⟩
    · exact absurd hlt (by decide)
    · exact absurd heq (by decide)
  · rw [if_neg hmzero, if_neg hnzero, List.cons_append, List.cons_append, List.cons_lt_cons_self,
      padded_append_lt_iff (by decide) hm hn]
    simp

lemma IsUtc.toList_text (h : t.IsUtc) : t.text.toList =
    (padded 4 t.date.year).toList ++ '-' :: ((padded 2 t.date.month).toList ++
      '-' :: ((padded 2 t.date.day).toList ++ 'T' :: ((padded 2 t.hour).toList ++
        ':' :: ((padded 2 t.minute).toList ++ ':' :: ((padded 2 t.second).toList ++
          tail t.microsecond))))) := by
  have hoffset : (offsetText 0).toList = ['+', '0', '0', ':', '0', '0'] := by decide
  rw [text, h.utc, Option.elim_some, tail]
  split <;> simp [String.toList_append, hoffset]

/-- The numbers of an instant have as many digits as its text gives them. -/
lemma IsValid.fits (h : t.IsValid) : t.date.year < 10 ^ 4 ∧ t.date.month < 10 ^ 2 ∧
    t.date.day < 10 ^ 2 ∧ t.hour < 10 ^ 2 ∧ t.minute < 10 ^ 2 ∧ t.second < 10 ^ 2 := by
  obtain ⟨⟨hyear, hmonth, hday⟩, hhour, hminute, hsecond, -, -⟩ := h
  have hlength := Date.monthLength_le t.date.year t.date.month
  omega

/-- The texts of instants in universal time are ordered like the instants. -/
lemma text_lt_iff (ht : t.IsUtc) (hu : u.IsUtc) : t.text < u.text ↔ t.elapsed < u.elapsed := by
  have hdate := Date.elapsed_lt_iff ht.date hu.date
  have hday := Text.mul_add_lt_iff (a := t.date.elapsed) (b := u.date.elapsed)
    ht.timeOfDay_lt hu.timeOfDay_lt
  have hmicrosecond := Text.mul_add_lt_iff (a := (t.hour * 60 + t.minute) * 60 + t.second)
    (b := (u.hour * 60 + u.minute) * 60 + u.second) ht.microsecond hu.microsecond
  have hsecond := Text.mul_add_lt_iff (a := t.hour * 60 + t.minute) (b := u.hour * 60 + u.minute)
    ht.second hu.second
  have hminute := Text.mul_add_lt_iff (a := t.hour) (b := u.hour) ht.minute hu.minute
  obtain ⟨hy, hmo, hd, hh, hmi, hs⟩ := ht.fits
  obtain ⟨hy', hmo', hd', hh', hmi', hs'⟩ := hu.fits
  rw [String.lt_iff_toList_lt, ht.toList_text, hu.toList_text]
  rw [padded_append_lt_iff (by decide) hy hy', List.cons_lt_cons_self,
    padded_append_lt_iff (by decide) hmo hmo', List.cons_lt_cons_self,
    padded_append_lt_iff (by decide) hd hd', List.cons_lt_cons_self,
    padded_append_lt_iff (by decide) hh hh', List.cons_lt_cons_self,
    padded_append_lt_iff (by decide) hmi hmi', List.cons_lt_cons_self,
    padded_append_lt_iff (by decide) hs hs', tail_lt_iff ht.microsecond hu.microsecond]
  rw [elapsed, elapsed, hday.1, hdate.1, hdate.2, timeOfDay, timeOfDay, hmicrosecond.1, hsecond.1,
    hsecond.2, hminute.1, hminute.2]
  simp only [and_or_left, or_assoc, and_assoc]

lemma text_le_iff (ht : t.IsUtc) (hu : u.IsUtc) : t.text ≤ u.text ↔ t.elapsed ≤ u.elapsed := by
  rw [← String.not_lt, text_lt_iff hu ht, not_lt]

lemma elapsed_midnight (t : Instant) : t.midnight.elapsed = t.date.elapsed * dayLength := by
  simp [elapsed, timeOfDay, midnight]

lemma IsValid.midnight (h : t.IsValid) : t.midnight.IsValid where
  date := h.date
  hour := Nat.succ_pos _
  minute := Nat.succ_pos _
  second := Nat.succ_pos _
  microsecond := Nat.succ_pos _
  offset := h.offset

lemma IsUtc.midnight (h : t.IsUtc) : t.midnight.IsUtc := ⟨h.toIsValid.midnight, h.utc⟩

/-- The same time of day some days before is just so much earlier. -/
lemma IsValid.of_daysBefore (h : t.IsValid) {days : Nat} (hu : t.daysBefore days = .ok u) :
    u.IsValid ∧ u.offset = t.offset ∧ t.elapsed = u.elapsed + days * dayLength := by
  rw [daysBefore] at hu
  split at hu
  · rename_i date hback
    obtain ⟨hvalid, helapsed⟩ := Date.elapsed_of_back? h.date hback
    cases hu
    refine ⟨{ h with date := hvalid }, rfl, ?_⟩
    simp only [elapsed, helapsed, Nat.add_mul, timeOfDay]
    omega
  · cases hu

end Instant
end ListingSearch
