import ListingSearch.Proofs.Chronology
import ListingSearch.Proofs.Criteria.Window

/-! What a window of days contains. Texts are compared, but where all instants are in universal time
a window has just the instants from a point of time on, which moves back with the days asked for; so
a window of fewer days has no record that a window of more days lacks. -/
namespace ListingSearch

open Predicate (DecidedBy)

open Instant (dayLength)

variable {now : Instant} {since : Nat → Outcome Instant} {start : Nat → Int}

/-- The windows begin, in universal time, at points of time that are the earlier the more days are
asked for. -/
structure MovesBack (now : Instant) (since : Nat → Outcome Instant) (start : Nat → Int) : Prop where
  countsBack : CountsBack now since
  spec : ∀ {days t}, since days = .ok t → t.IsUtc ∧ (t.elapsed : Int) = start days
  earlier : ∀ {fewer days}, fewer ≤ days → start days ≤ start fewer

lemma movesBack_daysBefore (h : now.IsUtc) :
    MovesBack now now.daysBefore fun days => now.elapsed - days * dayLength where
  countsBack := countsBack_daysBefore h.date
  spec ht := by
    obtain ⟨hvalid, hoffset, helapsed⟩ := h.of_daysBefore ht
    exact ⟨⟨hvalid, hoffset.trans h.utc⟩, by rw [helapsed]; push_cast; ring⟩
  earlier hle := by
    have := Nat.mul_le_mul_right dayLength hle
    omega

/-- Where the window of listing dates begins: today at midnight, or some days ago. -/
def listedStart (now : Instant) (days : Nat) : Int :=
  if days = 0 then now.midnight.elapsed else now.elapsed - days * dayLength

lemma movesBack_listedSince (h : now.IsUtc) :
    MovesBack now (Criteria.listedSince now) (listedStart now) where
  countsBack := countsBack_listedSince h.date
  spec {days t} ht := by
    unfold Criteria.listedSince at ht
    unfold listedStart
    split_ifs at ht ⊢
    · cases ht
      exact ⟨h.midnight, rfl⟩
    · exact (movesBack_daysBefore h).spec ht
  earlier {fewer days} hle := by
    have htime := h.timeOfDay_lt
    unfold listedStart
    split_ifs with hn hm
    · rfl
    · omega
    · -- Going back a day passes midnight.
      have := Nat.mul_le_mul_right dayLength (Nat.one_le_iff_ne_zero.2 hn)
      rw [Instant.elapsed_midnight, Instant.elapsed]
      omega
    · exact (movesBack_daysBefore h).earlier hle

/-- Conditions for some days, on a column: of an instant there, each asks just that it is not
before the window; where there is one, there is one for fewer days, and it is as strict. -/
structure Chronological (window : Nat → Outcome Predicate) (column : String) (start : Nat → Int) :
    Prop where
  decides : ∀ (days : Nat) {p}, window days = .ok p → ∀ {r : Record} {t : Instant}, t.IsUtc →
    r.get column = .text t.text → DecidedBy r p (start days ≤ t.elapsed)
  nested : ∀ {fewer days p}, fewer ≤ days → window days = .ok p →
    ∃ q, window fewer = .ok q ∧ ∀ r, q.holds r = .ok true → p.holds r = .ok true

/-- What is not before an instant is not before an earlier one. -/
lemma Value.NotBefore.trans {v : Value} {t u : Instant} (h : v.NotBefore t)
    (hle : u.text ≤ t.text) : v.NotBefore u := ⟨h.1, hle.trans h.2⟩

lemma MovesBack.chronological (h : MovesBack now since start) (column : String) :
    Chronological (fun days => notBefore column <$> since days) column start where
  decides days p hp r t ht hr := by
    obtain ⟨u, hu, rfl⟩ := Outcome.map_eq_ok hp
    obtain ⟨hutc, helapsed⟩ := h.spec hu
    refine (decidedBy_notBefore u).congr ?_
    rw [hr, Value.NotBefore, ← helapsed, Int.ofNat_le, ← Instant.text_le_iff hutc ht]
    exact and_iff_right Value.noConfusion
  nested {fewer days p} hle hp := by
    obtain ⟨u, hu, rfl⟩ := Outcome.map_eq_ok hp
    obtain ⟨hutc, helapsed⟩ := h.spec hu
    obtain ⟨-, s, hs, -⟩ | ⟨hlt, -⟩ := h.countsBack fewer
    case inr =>
      obtain ⟨hreach, -⟩ | ⟨-, herror⟩ := h.countsBack days
      · omega
      · rw [hu] at herror
        cases herror
    obtain ⟨hutc', helapsed'⟩ := h.spec hs
    have hearlier : u.text ≤ s.text := by
      have := h.earlier hle
      rw [Instant.text_le_iff hutc hutc']
      omega
    refine ⟨_, by rw [hs]; rfl, fun r hq => ?_⟩
    have hin := (decidedBy_notBefore s).holds_eq_true_iff.1 hq
    exact (decidedBy_notBefore u).holds_eq_true_iff.2 (hin.trans hearlier)

namespace Criteria

lemma conditions_noKeywords : ({} : Keywords).conditions = [] := by
  have hterms : keywordTerms none = [] :=
    List.eq_nil_iff_forall_not_mem.2 fun term hterm => by
      simpa [IsTerm] using mem_keywordTerms_iff.1 hterm
  simp [Keywords.conditions, hterms]

lemma timelessConditions_windows (listed changed : Option Nat) :
    ({ listedDays := listed, changedDays := changed } : Criteria).timelessConditions .empty =
      [] := by
  rw [timelessConditions, conditions_noKeywords]
  rfl

lemma condition_listedDays (now : Instant) (days : Nat) :
    ({ listedDays := some days } : Criteria).condition .empty now =
      notBefore "created_at" <$> listedSince now days := by
  rw [condition, timelessConditions_windows, windowConditions_eq, windowClause]
  cases listedSince now days <;> rfl

lemma condition_changedDays (now : Instant) (days : Nat) :
    ({ changedDays := some days } : Criteria).condition .empty now =
      notBefore "updated_at" <$> now.daysBefore days := by
  rw [condition, timelessConditions_windows, windowConditions_eq, windowClause, windowClause]
  cases now.daysBefore days <;> rfl

/-- Windows of days are chronological and nested: in universal time, that of listing dates begins
today at midnight or some days ago, and that of changes some days ago. -/
theorem chronological_windows (h : now.IsUtc) :
    Chronological (fun days => ({ listedDays := some days } : Criteria).condition .empty now)
        "created_at" (listedStart now) ∧
      Chronological (fun days => ({ changedDays := some days } : Criteria).condition .empty now)
        "updated_at" fun days => now.elapsed - days * dayLength := by
  simp only [condition_listedDays, condition_changedDays]
  exact ⟨(movesBack_listedSince h).chronological _, (movesBack_daysBefore h).chronological _⟩

def leapDayEnd : Instant := ⟨⟨2024, 2, 29⟩, 23, 59, 59, 999999, some 0⟩

def leapNight : Instant := ⟨⟨2024, 3, 1⟩, 0, 30, 0, 500000, some 0⟩

/-- What was listed in the last moment of the leap day was not listed today, but within a day. -/
theorem chronological_windows_leapNight :
    let window (days : Nat) := ({ listedDays := some days } : Criteria).condition .empty leapNight
    let r : Record := [("created_at", .text leapDayEnd.text)]
    leapNight.IsUtc ∧ ∃ p q, window 0 = .ok p ∧ window 1 = .ok q ∧
      p.holds r = .ok false ∧ q.holds r = .ok true := by
  have hnow : leapNight.IsUtc := by
    refine ⟨⟨⟨by decide, by decide, by decide⟩, ?_, ?_, ?_, ?_, ?_⟩, rfl⟩ <;> decide
  have ht : leapDayEnd.IsUtc := by
    refine ⟨⟨⟨by decide, by decide, by decide⟩, ?_, ?_, ?_, ?_, ?_⟩, rfl⟩ <;> decide
  have listed := (chronological_windows hnow).1
  refine ⟨hnow, _, _, rfl, rfl, ?_, ?_⟩
  · obtain ⟨b, hb, hiff⟩ := listed.decides 0 rfl ht (r := [("created_at", _)]) rfl
    rw [hb, Bool.eq_false_iff.2 (mt hiff.1 (by decide +kernel))]
  · obtain ⟨b, hb, hiff⟩ := listed.decides 1 rfl ht (r := [("created_at", _)]) rfl
    rw [hb, hiff.2 (by decide +kernel)]

end Criteria
end ListingSearch
