import ListingSearch.Predicate.Holds
import ListingSearch.Proofs.Binary64.Rational

/-! Data that no test tells apart. Two numbers of different form that are the same rational number
compare alike with every other number; as values and as bounds they give every test one outcome. -/
namespace ListingSearch

namespace Number

variable {a b c : Number}

/-- The two numbers compare alike with every number. -/
def Alike (a b : Number) : Prop := ∀ c, a.compare? c = b.compare? c ∧ c.compare? a = c.compare? b

lemma Alike.refl (a : Number) : Alike a a := fun _ => ⟨rfl, rfl⟩

lemma Point.compare_at_congr {m e n f : Int} (h : dyadic m e = dyadic n f) (x : Point) :
    (Point.at m e).compare x = (Point.at n f).compare x ∧
      x.compare (.at m e) = x.compare (.at n f) := by
  cases x with
  | below => exact ⟨rfl, rfl⟩
  | above => exact ⟨rfl, rfl⟩
  | «at» k g => simp only [compare_at, h, and_self]

/-- Two forms of one rational number are alike. -/
lemma alike_of_toRat (ha : a.isFinite = true) (hb : b.isFinite = true) (h : a.toRat = b.toRat) :
    Alike a b := by
  intro c
  obtain ⟨m, e, hm, hma⟩ := exists_point? ha
  obtain ⟨n, f, hn, hnb⟩ := exists_point? hb
  have hmn : dyadic m e = dyadic n f := by rw [← hma, ← hnb, h]
  cases hc : c.point? with
  | none => simp [compare?, hm, hn, hc]
  | some x =>
    obtain ⟨hleft, hright⟩ := Point.compare_at_congr hmn x
    simp [compare?, hm, hn, hc, hleft, hright]

lemma Alike.lt_left (h : Alike a b) (c : Number) : a.lt c = b.lt c := by
  rw [lt, lt, (h c).1]

lemma Alike.lt_right (h : Alike a b) (c : Number) : c.lt a = c.lt b := by
  rw [lt, lt, (h c).2]

lemma Alike.same_right (h : Alike a b) (c : Number) : c.same a = c.same b := by
  rw [same, same, (h c).2]

end Number

namespace Value

variable {v w x : Value} {a b : Number}

lemma same_of_number? (hv : v.number? = some a) (hw : w.number? = some b) :
    v.same w = a.same b := by
  cases v <;> cases hv <;> cases w <;> cases hw <;> rfl

/-- Only numbers are equal to a number. -/
lemma same_of_number?_none (hv : v.number? = none) (hw : w.number? = some b) :
    v.same w = false := by
  cases w <;> cases hw <;> cases v <;> simp_all [same, number?]

/-- One text, or numbers that are alike. -/
inductive Alike : Value → Value → Prop
  | text (s : String) : Alike (.text s) (.text s)
  | number {v w : Value} {a b : Number} (hv : v.number? = some a) (hw : w.number? = some b)
    (h : a.Alike b) : Alike v w

lemma Alike.same_right (h : Alike v w) (x : Value) : x.same v = x.same w := by
  cases h with
  | text => rfl
  | number hv hw h =>
    cases hx : x.number? with
    | some c => rw [same_of_number? hx hv, same_of_number? hx hw, h.same_right]
    | none => rw [same_of_number?_none hx hv, same_of_number?_none hx hw]

lemma any_same_congr {vs ws : List Value} (h : List.Forall₂ Alike vs ws) (x : Value) :
    vs.any x.same = ws.any x.same := by
  induction h with
  | nil => rfl
  | cons h _ ih => rw [List.any_cons, List.any_cons, h.same_right, ih]

end Value

namespace Bound

variable {b c : Bound}

lemma isText_of_number? {a : Number} (h : b.toValue.number? = some a) : b.isText = false := by
  cases b <;> first | rfl | cases h

lemma eq_or_number_of_alike (h : b.toValue.Alike c.toValue) :
    b = c ∨ ∃ x y, b.toValue.number? = some x ∧ c.toValue.number? = some y ∧ x.Alike y := by
  generalize hv : b.toValue = v at h
  generalize hw : c.toValue = w at h
  cases h with
  | text s =>
    left
    cases b <;> cases hv
    cases c <;> cases hw
    rfl
  | number hb hc h => exact .inr ⟨_, _, hb, hc, h⟩

lemma isText_congr (h : b.toValue.Alike c.toValue) : b.isText = c.isText := by
  obtain rfl | ⟨x, y, hx, hy, -⟩ := eq_or_number_of_alike h
  · rfl
  · rw [isText_of_number? hx, isText_of_number? hy]

lemma below_of_isText {s : String} (h : b.isText = false) :
    (Measure.text s).below b = .error .incomparable := by
  cases b <;> first | rfl | cases h

lemma above_of_isText {s : String} (h : b.isText = false) :
    (Measure.text s).above b = .error .incomparable := by
  cases b <;> first | rfl | cases h

lemma below_congr (h : b.toValue.Alike c.toValue) (m : Measure) : m.below b = m.below c := by
  obtain rfl | ⟨x, y, hx, hy, hxy⟩ := eq_or_number_of_alike h
  · rfl
  · cases m with
    | number z => simp only [Measure.below, hx, hy, hxy.lt_right]
    | text s =>
      rw [below_of_isText (isText_of_number? hx), below_of_isText (isText_of_number? hy)]

lemma above_congr (h : b.toValue.Alike c.toValue) (m : Measure) : m.above b = m.above c := by
  obtain rfl | ⟨x, y, hx, hy, hxy⟩ := eq_or_number_of_alike h
  · rfl
  · cases m with
    | number z => simp only [Measure.above, hx, hy, hxy.lt_left]
    | text s =>
      rw [above_of_isText (isText_of_number? hx), above_of_isText (isText_of_number? hy)]

end Bound
end ListingSearch
