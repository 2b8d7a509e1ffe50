import ListingSearch.Record.Check
import Mathlib.Tactic.Common

/-! What can be said of a value that was read from a record without faults: a property that one of
its parts brings along is left by the parts that are read after it. -/
namespace ListingSearch

namespace Checked

variable {α β : Type} {b : β}

/-- What is read, if anything, has a property. -/
def Gives (P : β → Prop) (x : Checked β) : Prop := ∀ b, x = .valid b → P b

lemma gives_map {P : β → Prop} {f : α → β} {x : Checked α} (h : x.Gives fun a => P (f a)) :
    (f <$> x).Gives P := by
  intro b hb
  cases x <;> cases hb
  exact h _ rfl

lemma gives_seq {P : β → Prop} {Q : α → Prop} {f : Checked (α → β)} {x : Checked α}
    (hx : x.Gives Q) (h : f.Gives fun g => ∀ a, Q a → P (g a)) : (f <*> x).Gives P := by
  intro b hb
  cases f <;> cases x <;> cases hb
  exact h _ rfl _ (hx _ rfl)

lemma gives_seq_any {P : β → Prop} {f : Checked (α → β)} {x : Checked α}
    (h : f.Gives fun g => ∀ a, P (g a)) : (f <*> x).Gives P :=
  gives_seq (Q := fun _ => True) (fun _ _ => trivial) fun g hg a _ => h g hg a

lemma within_eq_valid {step : Fault.Step} {x : Checked β} (h : x.within step = .valid b) :
    x = .valid b := by
  cases x <;> cases h
  rfl

lemma outcome_eq_ok {x : Checked β} (h : x.outcome = .ok b) : x = .valid b := by
  cases x <;> cases h
  rfl

end Checked

namespace Check

lemma text_eq_valid {v : Value} {s : String} (h : text v = .valid s) : v = .text s := by
  cases v <;> cases h
  rfl

lemma text_of_required {key s : String} {r : Record} (h : required key text r = .valid s) :
    r.get? key = some (.text s) := by
  unfold required at h
  split at h
  · rename_i v hv
    rw [hv, text_eq_valid (Checked.within_eq_valid h)]
  · cases Checked.within_eq_valid h

lemma each_text_eq_valid {start : Nat} {vs : List Value} {ss : List String}
    (h : each text start vs = .valid ss) : vs = ss.map .text := by
  induction vs generalizing start ss with
  | nil =>
    cases h
    rfl
  | cons v vs ih =>
    have hgives : (each text start (v :: vs)).Gives fun ss => v :: vs = ss.map .text := by
      unfold each
      refine Checked.gives_seq (Q := fun ss => vs = ss.map .text) (fun ss hss => ih hss) ?_
      refine Checked.gives_map fun s hs ss hss => ?_
      rw [List.map_cons, ← hss, text_eq_valid (Checked.within_eq_valid hs)]
    exact hgives ss h

end Check

end ListingSearch
