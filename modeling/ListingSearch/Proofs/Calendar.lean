import ListingSearch.Instant
import Mathlib.Algebra.BigOperators.Intervals

/-! Days counted from the beginning of the calendar. A day is given by its place in the year and in
the month, and the days before it are counted year by year and month by month; going back some days
subtracts them from that count, so it fails just where the calendar begins later. -/
namespace ListingSearch

open Finset

namespace Date

def yearLength (year : Nat) : Nat := if isLeapYear year then 366 else 365

/-- A day of the calendar, which has the years 1 to 9999. -/
structure IsValid (d : Date) : Prop where
  year : 1 ≤ d.year ∧ d.year ≤ 9999
  month : 1 ≤ d.month ∧ d.month ≤ 12
  day : 1 ≤ d.day ∧ d.day ≤ monthLength d.year d.month

/-- The number of days from the first one of the calendar to this one. -/
def elapsed (d : Date) : Nat :=
  ∑ year ∈ Ico 1 d.year, yearLength year +
    ∑ month ∈ Ico 1 d.month, monthLength d.year month + (d.day - 1)

variable {d e : Date} {year month day : Nat}

lemma one_le_monthLength (year month : Nat) : 1 ≤ monthLength year month := by
  unfold monthLength
  split_ifs <;> omega

/-- A year has the days of its months. -/
lemma sum_monthLength (year : Nat) :
    ∑ month ∈ Ico 1 13, monthLength year month = yearLength year := by
  simp only [sum_Ico_eq_sum_range, sum_range_succ, sum_range_zero, monthLength, yearLength]
  cases isLeapYear year <;> rfl

lemma elapsed_nextDay (h : 1 ≤ day) :
    elapsed ⟨year, month, day + 1⟩ = elapsed ⟨year, month, day⟩ + 1 := by
  simp only [elapsed]
  omega

lemma elapsed_nextMonth (h : 1 ≤ month) :
    elapsed ⟨year, month + 1, 1⟩ = elapsed ⟨year, month, monthLength year month⟩ + 1 := by
  have hlength := one_le_monthLength year month
  simp only [elapsed, sum_Ico_succ_top h]
  omega

lemma elapsed_nextYear (h : 1 ≤ year) :
    elapsed ⟨year + 1, 1, 1⟩ = elapsed ⟨year, 12, 31⟩ + 1 := by
  have hmonths := sum_monthLength year
  rw [sum_Ico_succ_top (show 1 ≤ 12 by decide), show monthLength year 12 = 31 from rfl] at hmonths
  simp only [elapsed, sum_Ico_succ_top h, Ico_self, sum_empty]
  omega

lemma eq_one_or_next {n : Nat} (h : 1 ≤ n) : n = 1 ∨ ∃ m, 1 ≤ m ∧ n = m + 1 := by
  rcases h.eq_or_lt with rfl | hlt
  · exact .inl rfl
  · exact .inr ⟨n - 1, by omega, by omega⟩

/-- The day before a day has one day fewer before it, and only the first day has none. -/
lemma previous?_spec (h : d.IsValid) :
    (d.previous? = none ∧ d.elapsed = 0) ∨
      ∃ e, d.previous? = some e ∧ e.IsValid ∧ d.elapsed = e.elapsed + 1 := by
  obtain ⟨year, month, day⟩ := d
  obtain ⟨hyear, hmonth, hday⟩ := h
  simp only [previous?] at hyear hmonth hday ⊢
  obtain rfl | ⟨day, hd, rfl⟩ := eq_one_or_next hday.1
  case inr =>
    have hvalid : IsValid ⟨year, month, day⟩ := ⟨hyear, hmonth, hd, by dsimp only at hday ⊢; omega⟩
    exact .inr ⟨_, if_pos (by omega), hvalid, elapsed_nextDay hd⟩
  obtain rfl | ⟨month, hm, rfl⟩ := eq_one_or_next hmonth.1
  case inr =>
    have hvalid : IsValid ⟨year, month, monthLength year month⟩ :=
      ⟨hyear, ⟨hm, by dsimp only; omega⟩, one_le_monthLength _ _, le_rfl⟩
    exact .inr ⟨_, by simp [show 1 < month + 1 by omega], hvalid, elapsed_nextMonth hm⟩
  obtain rfl | ⟨year, hy, rfl⟩ := eq_one_or_next hyear.1
  case inr =>
    have hvalid : IsValid ⟨year, 12, 31⟩ :=
      ⟨⟨hy, by dsimp only; omega⟩, ⟨by simp, le_rfl⟩, by simp, by simp [monthLength]⟩
    exact .inr ⟨_, by simp [show 1 < year + 1 by omega], hvalid, elapsed_nextYear hy⟩
  exact .inl ⟨rfl, rfl⟩

/-- The day some days before has just so many days fewer before it. -/
lemma elapsed_of_back? (h : d.IsValid) {n : Nat} (he : d.back? n = some e) :
    e.IsValid ∧ d.elapsed = e.elapsed + n := by
  induction n generalizing d with
  | zero =>
    cases he
    exact ⟨h, rfl⟩
  | succ n ih =>
    obtain ⟨hnone, _⟩ | ⟨p, hp, hvalid, helapsed⟩ := previous?_spec h
    · simp [back?, hnone] at he
    · simp only [back?, hp] at he
      obtain ⟨hevalid, heelapsed⟩ := ih hvalid he
      exact ⟨hevalid, by omega⟩

/-- One can go back just as many days as the calendar has before the day. -/
lemma back?_eq_none_iff (h : d.IsValid) (n : Nat) : d.back? n = none ↔ d.elapsed < n := by
  induction n generalizing d with
  | zero => simp [back?]
  | succ n ih =>
    obtain ⟨hnone, hzero⟩ | ⟨p, hp, hvalid, helapsed⟩ := previous?_spec h
    · simp [back?, hnone, hzero]
    · simp only [back?, hp, ih hvalid]
      omega

example : (Date.mk 2024 3 1).elapsed = 738945 := by decide +kernel

end Date
end ListingSearch
