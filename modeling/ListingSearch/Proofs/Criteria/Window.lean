import ListingSearch.Criteria.Reading
import ListingSearch.Proofs.Calendar
import ListingSearch.Proofs.Criteria.Admission

/-! Which windows of days can be evaluated. A window is counted back from an instant, and nothing
bounds the days that a filter may ask for; the condition of a filter has a meaning just if its
windows begin within the calendar. -/
namespace ListingSearch

open Outcome (FailsAs)

variable {now t : Instant} {since : Nat → Outcome Instant}

/-- Going back some days from an instant leads to a day of the calendar that is just so much
earlier, as far as the calendar goes, and fails beyond. -/
def CountsBack (now : Instant) (since : Nat → Outcome Instant) : Prop :=
  ∀ days,
    (days ≤ now.date.elapsed ∧
      ∃ t, since days = .ok t ∧ t.date.IsValid ∧ now.date.elapsed = t.date.elapsed + days) ∨
    (now.date.elapsed < days ∧ since days = .error .dateOutOfRange)

lemma countsBack_daysBefore (h : now.date.IsValid) : CountsBack now now.daysBefore := by
  intro days
  simp only [Instant.daysBefore]
  cases hback : now.date.back? days with
  | none => exact .inr ⟨(Date.back?_eq_none_iff h days).1 hback, rfl⟩
  | some date =>
    obtain ⟨hvalid, helapsed⟩ := Date.elapsed_of_back? h hback
    exact .inl ⟨by omega, _, rfl, hvalid, helapsed⟩

lemma countsBack_listedSince (h : now.date.IsValid) :
    CountsBack now (Criteria.listedSince now) := by
  intro days
  unfold Criteria.listedSince
  split_ifs with hzero
  · subst hzero
    exact .inl ⟨Nat.zero_le _, now.midnight, rfl, h, rfl⟩
  · exact countsBack_daysBefore h days

lemma CountsBack.windowClause (h : CountsBack now since) (column : String) (days : Option Nat) :
    ((∀ n ∈ days, n ≤ now.date.elapsed) ∧ ∃ p, windowClause column since days = .ok p) ∨
      ((∃ n ∈ days, now.date.elapsed < n) ∧
        windowClause column since days = .error .dateOutOfRange) := by
  cases days with
  | none => exact .inl ⟨by simp, _, rfl⟩
  | some n =>
    obtain ⟨hle, t, ht, _⟩ | ⟨hlt, herror⟩ := h n
    · exact .inl ⟨by simpa using hle, _, by rw [ListingSearch.windowClause, ht]; rfl⟩
    · exact .inr ⟨⟨n, rfl, hlt⟩, by rw [ListingSearch.windowClause, herror]; rfl⟩

namespace Criteria

variable {c : Criteria}

def WithinCalendar (c : Criteria) (now : Instant) : Prop :=
  (∀ days ∈ c.listedDays, days ≤ now.date.elapsed) ∧
    ∀ days ∈ c.changedDays, days ≤ now.date.elapsed

lemma windowConditions_spec (h : now.date.IsValid) (c : Criteria) :
    (c.WithinCalendar now ∧ ∃ p, c.windowConditions now = .ok p) ∨
      (¬ c.WithinCalendar now ∧ c.windowConditions now = .error .dateOutOfRange) := by
  rw [windowConditions_eq]
  obtain ⟨hlisted, listed, heq⟩ | ⟨⟨n, hn, hlt⟩, heq⟩ :=
    (countsBack_listedSince h).windowClause "created_at" c.listedDays
  case inr =>
    exact .inr ⟨fun hwithin => (hwithin.1 n hn).not_gt hlt, by rw [heq]; rfl⟩
  obtain ⟨hchanged, changed, heq'⟩ | ⟨⟨n, hn, hlt⟩, heq'⟩ :=
    (countsBack_daysBefore h).windowClause "updated_at" c.changedDays
  · exact .inl ⟨⟨hlisted, hchanged⟩, listed ++ changed, by rw [heq, heq']; rfl⟩
  · exact .inr ⟨fun hwithin => (hwithin.2 n hn).not_gt hlt, by rw [heq, heq']; rfl⟩

lemma condition_spec (h : now.date.IsValid) (c : Criteria) (defaults : TextSet) :
    (c.WithinCalendar now ∧ ∃ p, c.condition defaults now = .ok p) ∨
      (¬ c.WithinCalendar now ∧ c.condition defaults now = .error .dateOutOfRange) := by
  rw [condition]
  obtain ⟨hwithin, windows, heq⟩ | ⟨hnot, heq⟩ := windowConditions_spec h c
  · exact .inl ⟨hwithin, _, by rw [heq]; rfl⟩
  · exact .inr ⟨hnot, by rw [heq]; rfl⟩

/-- Criteria have a condition at an instant just if no window goes back beyond the first day of the
calendar, whatever the default states are; that is the only failure. -/
theorem condition_of_windows (c : Criteria) (defaults : TextSet) (h : now.date.IsValid) :
    ((∃ p, c.condition defaults now = .ok p) ↔ c.WithinCalendar now) ∧
      FailsAs (· = .dateOutOfRange) (c.condition defaults now) := by
  obtain ⟨hwithin, p, heq⟩ | ⟨hnot, heq⟩ := condition_spec h c defaults
  · rw [heq]
    exact ⟨iff_of_true ⟨p, rfl⟩ hwithin, Outcome.failsAs_ok _⟩
  · rw [heq]
    exact ⟨iff_of_false (Outcome.not_succeeds_error _) hnot, Outcome.failsAs_error rfl⟩

def afternoon : Instant := ⟨⟨2026, 3, 15⟩, 12, 30, 0, 0, some 0⟩

lemma isValid_afternoon : afternoon.date.IsValid := ⟨by decide, by decide, by decide⟩

lemma elapsed_afternoon : afternoon.date.elapsed = 739689 := by decide +kernel

theorem condition_of_windows_lastYear :
    afternoon.date.IsValid ∧
      ∃ p, ({ listedDays := some 365 } : Criteria).condition .empty afternoon = .ok p := by
  refine ⟨isValid_afternoon, (condition_of_windows _ _ isValid_afternoon).1.2 ⟨?_, by simp⟩⟩
  simp [elapsed_afternoon]

/-- A filter that is accepted and has no condition: its window is longer than the calendar. -/
theorem condition_overlongWindow :
    ∃ c, read true (.object [("listDate", .int 10000000)]) = .ok c ∧
      c.condition .empty afternoon = .error .dateOutOfRange := by
  refine ⟨{ listedDays := some 10000000 }, by decide +kernel, ?_⟩
  obtain ⟨hwithin, _⟩ | ⟨_, heq⟩ :=
    condition_spec isValid_afternoon { listedDays := some 10000000 } .empty
  · simp [WithinCalendar, elapsed_afternoon] at hwithin
  · exact heq

end Criteria
end ListingSearch
