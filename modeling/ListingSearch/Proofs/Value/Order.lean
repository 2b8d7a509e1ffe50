import ListingSearch.Proofs.Sorting
import ListingSearch.Proofs.Value.Alike
import ListingSearch.Value.Order
import Mathlib.Data.String.Basic
import Mathlib.Order.Compare
import Mathlib.Order.WithBot

/-! The order of data as an order. Not all data can be compared, and `nan` is neither before nor
behind anything; data without it that can be compared at all has one of three ranks to other data,
and ranks compose like those of a linear order. -/
namespace ListingSearch

namespace Number

/-- The place of a point on the line of the rational numbers with both infinities. -/
def Point.place : Point → WithBot (WithTop ℚ)
  | .below => ⊥
  | .at m e => ((dyadic m e : ℚ) : WithTop ℚ)
  | .above => ((⊤ : WithTop ℚ) : WithBot (WithTop ℚ))

lemma Point.compare_eq (p q : Point) : p.compare q = cmp p.place q.place := by
  have hbot (x : WithTop ℚ) : (⊥ : WithBot (WithTop ℚ)) < x := WithBot.bot_lt_coe x
  have htop (x : ℚ) : ((x : WithTop ℚ) : WithBot (WithTop ℚ)) < (⊤ : WithTop ℚ) :=
    WithBot.coe_lt_coe.2 (WithTop.coe_lt_top x)
  cases p with
  | below =>
    cases q with
    | below => exact ((cmp_eq_eq_iff _ _).2 rfl).symm
    | «at» n f => exact ((cmp_eq_lt_iff _ _).2 (hbot _)).symm
    | above => exact ((cmp_eq_lt_iff _ _).2 (hbot _)).symm
  | above =>
    cases q with
    | below => exact ((cmp_eq_gt_iff _ _).2 (hbot _)).symm
    | «at» n f => exact ((cmp_eq_gt_iff _ _).2 (htop _)).symm
    | above => exact ((cmp_eq_eq_iff _ _).2 rfl).symm
  | «at» m e =>
    cases q with
    | below => exact ((cmp_eq_gt_iff _ _).2 (hbot _)).symm
    | above => exact ((cmp_eq_lt_iff _ _).2 (htop _)).symm
    | «at» n f =>
      have hcoe {x y : ℚ} : ((x : WithTop ℚ) : WithBot (WithTop ℚ)) < (y : WithTop ℚ) ↔ x < y :=
        WithBot.coe_lt_coe.trans WithTop.coe_lt_coe
      rw [compare_at, place, place]
      rcases lt_trichotomy (dyadic m e) (dyadic n f) with h | h | h
      · rw [compare_lt_iff_lt.2 h, (cmp_eq_lt_iff _ _).2 (hcoe.2 h)]
      · rw [h, compare_eq_iff_eq.2 rfl, (cmp_eq_eq_iff _ _).2 rfl]
      · rw [compare_gt_iff_gt.2 h, (cmp_eq_gt_iff _ _).2 (hcoe.2 h)]

variable {a b : Number} {p q : Point}

lemma compare?_of_point? (ha : a.point? = some p) (hb : b.point? = some q) :
    a.compare? b = some (cmp p.place q.place) := by
  rw [compare?, ha, hb, ← Point.compare_eq]
  rfl

end Number

namespace Value

/-- No part of the data that could be compared is `nan`. -/
inductive NanFree : Value → Prop
  | null : NanFree .null
  | bool (b : Bool) : NanFree (.bool b)
  | int (n : Int) : NanFree (.int n)
  | float {x : Binary64} (h : x ≠ .nan) : NanFree (.float x)
  | text (s : String) : NanFree (.text s)
  | list {items : List Value} (h : ∀ v ∈ items, NanFree v) : NanFree (.list items)
  | object (entries : List (String × Value)) : NanFree (.object entries)

/-- Null and objects can be equal but never stand before each other. -/
def Unordered (v : Value) : Prop := v = .null ∨ ∃ entries, v = .object entries

/-- How data ranks to other data. Of lists the first members that differ decide. -/
inductive Ranks : Value → Value → Ordering → Prop
  | number {v w : Value} {a b : Number} {p q : Number.Point} (hv : v.number? = some a)
    (hw : w.number? = some b) (ha : a.point? = some p) (hb : b.point? = some q) :
    Ranks v w (cmp p.place q.place)
  | text (s t : String) : Ranks (.text s) (.text t) (cmp s t)
  | equal {v w : Value} (hv : v.Unordered) (hw : w.Unordered) (h : v.same w = true)
    (h' : w.same v = true) : Ranks v w .eq
  | nil : Ranks (.list []) (.list []) .eq
  | shorter (y : Value) (ys : List Value) : Ranks (.list []) (.list (y :: ys)) .lt
  | longer (x : Value) (xs : List Value) : Ranks (.list (x :: xs)) (.list []) .gt
  | head {x y : Value} {o : Ordering} (h : Ranks x y o) (ho : o ≠ .eq) (xs ys : List Value) :
    Ranks (.list (x :: xs)) (.list (y :: ys)) o
  | tail {x y : Value} {xs ys : List Value} {o : Ordering} (h : Ranks x y .eq)
    (hrest : Ranks (.list xs) (.list ys) o) : Ranks (.list (x :: xs)) (.list (y :: ys)) o

variable {v w x : Value} {a b : Number} {o o' : Ordering}

lemma less_of_number? (hv : v.number? = some a) (hw : w.number? = some b) :
    v.less w = .ok (a.lt b) := by
  cases v <;> cases hv <;> cases w <;> cases hw <;> rfl

lemma Unordered.less (hv : v.Unordered) (w : Value) : v.less w = .error .incomparable := by
  rcases hv with rfl | ⟨entries, rfl⟩ <;> cases w <;> rfl

lemma Ranks.swap (h : Ranks v w o) : Ranks w v o.swap := by
  induction h with
  | number hv hw ha hb =>
    rw [cmp_swap]
    exact .number hw hv hb ha
  | text s t =>
    rw [cmp_swap]
    exact .text t s
  | equal hv hw h h' => exact .equal hw hv h' h
  | nil => exact .nil
  | shorter y ys => exact .longer y ys
  | longer x xs => exact .shorter x xs
  | head _ ho xs ys ih => exact .head ih (by simpa using ho) ys xs
  | tail _ _ ih ihrest => exact .tail ih ihrest

/-- Data is equal just if it has the same rank. -/
lemma Ranks.same_iff (h : Ranks v w o) : v.same w = true ↔ o = .eq := by
  induction h with
  | number hv hw ha hb =>
    rw [same_of_number? hv hw, Number.same, Number.compare?_of_point? ha hb, beq_iff_eq,
      Option.some_inj]
  | text s t => rw [same, beq_iff_eq, cmp_eq_eq_iff]
  | equal hv hw h h' => exact iff_of_true h rfl
  | nil => exact iff_of_true rfl rfl
  | shorter y ys => exact iff_of_false (by simp [same, sameList]) (by simp)
  | longer x xs => exact iff_of_false (by simp [same, sameList]) (by simp)
  | head _ ho xs ys ih => exact iff_of_false (by simp [same, sameList, ih, ho]) ho
  | tail _ _ ih ihrest =>
    rw [← ihrest]
    simp [same, sameList, ih]

/-- The order of data follows their ranks, and data of different rank can be compared. -/
lemma Ranks.less (h : Ranks v w o) :
    (∀ b, v.less w = .ok b → b = (o == .lt)) ∧ (o ≠ .eq → ∃ b, v.less w = .ok b) := by
  induction h with
  | number hv hw ha hb =>
    rw [less_of_number? hv hw, Number.lt, Number.compare?_of_point? ha hb]
    exact ⟨fun b hb => (Except.ok.inj hb).symm, fun _ => ⟨_, rfl⟩⟩
  | text s t =>
    refine ⟨fun b hb => ?_, fun _ => ⟨_, rfl⟩⟩
    have hlt := Except.ok.inj hb
    rw [← hlt, Bool.eq_iff_iff, decide_eq_true_iff, beq_iff_eq, cmp_eq_lt_iff]
  | @equal v w hv _ _ _ =>
    rw [hv.less w]
    exact ⟨fun b hb => (by cases hb), fun ho => absurd rfl ho⟩
  | nil => exact ⟨fun b hb => (Except.ok.inj hb).symm, fun ho => absurd rfl ho⟩
  | shorter y ys => exact ⟨fun b hb => (Except.ok.inj hb).symm, fun _ => ⟨_, rfl⟩⟩
  | longer x xs => exact ⟨fun b hb => (Except.ok.inj hb).symm, fun _ => ⟨_, rfl⟩⟩
  | @head x y o h ho xs ys ih =>
    have hsame : ¬ x.same y = true := mt h.same_iff.1 ho
    have hless : (Value.list (x :: xs)).less (.list (y :: ys)) = x.less y := if_neg hsame
    rw [hless]
    exact ih
  | @tail x y xs ys o h _ _ ihrest =>
    have hless : (Value.list (x :: xs)).less (.list (y :: ys)) = (Value.list xs).less (.list ys) :=
      if_pos (h.same_iff.2 rfl)
    rw [hless]
    exact ihrest

lemma Ranks.unique (h : Ranks v w o) (h' : Ranks v w o') : o = o' := by
  by_cases ho : o = .eq
  · rw [ho, h'.same_iff.1 (h.same_iff.2 ho)]
  · have ho' : o' ≠ .eq := fun heq => ho (h.same_iff.1 (h'.same_iff.2 heq))
    obtain ⟨b, hb⟩ := h.less.2 ho
    have hlt : (o == .lt) = (o' == .lt) := (h.less.1 b hb).symm.trans (h'.less.1 b hb)
    cases o <;> cases o' <;> simp_all

/-- How the ranks of one to a second and of the second to a third determine that of the first to the
third. -/
def Composes (o₁ o₂ o₃ : Ordering) : Prop :=
  (o₁ = .eq → o₃ = o₂) ∧ (o₂ = .eq → o₃ = o₁) ∧ (o₁ = o₂ → o₃ = o₁)

lemma composes_cmp {α : Type} [LinearOrder α] (a b c : α) :
    Composes (cmp a b) (cmp b c) (cmp a c) := by
  refine ⟨fun h => ?_, fun h => ?_, fun h => ?_⟩
  · rw [(cmp_eq_eq_iff _ _).1 h]
  · rw [(cmp_eq_eq_iff _ _).1 h]
  · rcases hab : cmp a b with _ | _ | _ <;> rw [hab] at h
    · exact (cmp_eq_lt_iff _ _).2
        (((cmp_eq_lt_iff _ _).1 hab).trans ((cmp_eq_lt_iff _ _).1 h.symm))
    · exact (cmp_eq_eq_iff _ _).2
        (((cmp_eq_eq_iff _ _).1 hab).trans ((cmp_eq_eq_iff _ _).1 h.symm))
    · exact (cmp_eq_gt_iff _ _).2
        (lt_trans ((cmp_eq_gt_iff _ _).1 h.symm) ((cmp_eq_gt_iff _ _).1 hab))

lemma not_unordered_list (items : List Value) : ¬ (Value.list items).Unordered := by
  rintro (h | ⟨entries, h⟩) <;> cases h

lemma not_unordered_text (s : String) : ¬ (Value.text s).Unordered := by
  rintro (h | ⟨entries, h⟩) <;> cases h

lemma Unordered.number? (h : v.Unordered) : v.number? = none := by
  rcases h with rfl | ⟨entries, rfl⟩ <;> rfl

lemma Ranks.number_inv (h : Ranks v w o) (hv : v.number? = some a) :
    ∃ b p q, w.number? = some b ∧ a.point? = some p ∧ b.point? = some q ∧
      o = cmp p.place q.place := by
  cases h with
  | number hv' hw ha hb =>
    rw [hv] at hv'
    cases hv'
    exact ⟨_, _, _, hw, ha, hb, rfl⟩
  | equal hv' =>
    rw [hv'.number?] at hv
    cases hv
  | _ => cases hv

lemma Ranks.text_inv {s : String} (h : Ranks (.text s) w o) :
    ∃ t, w = .text t ∧ o = cmp s t := by
  cases h with
  | number hv => cases hv
  | text s t => exact ⟨t, rfl, rfl⟩
  | equal hv => exact absurd hv (not_unordered_text s)

lemma Ranks.unordered_inv (h : Ranks v w o) (hv : v.Unordered) : w.Unordered ∧ o = .eq := by
  cases h with
  | number hv' =>
    rw [hv.number?] at hv'
    cases hv'
  | text s => exact absurd hv (not_unordered_text s)
  | equal _ hw => exact ⟨hw, rfl⟩
  | _ => exact absurd hv (not_unordered_list _)

lemma Ranks.list_inv {xs : List Value} (h : Ranks (.list xs) w o) : ∃ ys, w = .list ys := by
  cases h with
  | number hv => cases hv
  | equal hv => exact absurd hv (not_unordered_list _)
  | _ => exact ⟨_, rfl⟩

lemma Ranks.cons_inv {y : Value} {xs ys : List Value}
    (h : Ranks (.list (x :: xs)) (.list (y :: ys)) o) :
    (Ranks x y o ∧ o ≠ .eq) ∨ (Ranks x y .eq ∧ Ranks (.list xs) (.list ys) o) := by
  cases h with
  | number hv => cases hv
  | equal hv => exact absurd hv (not_unordered_list _)
  | head h ho => exact .inl ⟨h, ho⟩
  | tail h hrest => exact .inr ⟨h, hrest⟩

/-- Ranks compose like those of a linear order. -/
lemma Ranks.composes {o₁ o₂ o₃ : Ordering} (h₁ : Ranks v w o₁) (h₂ : Ranks w x o₂)
    (h₃ : Ranks v x o₃) : Composes o₁ o₂ o₃ := by
  induction h₁ generalizing x o₂ o₃ with
  | number hv hw ha hb =>
    obtain ⟨c, q', r, hx, hb', hc, rfl⟩ := h₂.number_inv hw
    obtain ⟨c', p', r', hx', ha', hc', rfl⟩ := h₃.number_inv hv
    cases ha.symm.trans ha'
    cases hb.symm.trans hb'
    cases hx.symm.trans hx'
    cases hc.symm.trans hc'
    exact composes_cmp _ _ _
  | text s t =>
    obtain ⟨u, rfl, rfl⟩ := h₂.text_inv
    obtain ⟨u', hu, rfl⟩ := h₃.text_inv
    cases hu
    exact composes_cmp _ _ _
  | equal hv hw _ _ =>
    obtain ⟨-, rfl⟩ := h₂.unordered_inv hw
    obtain ⟨-, rfl⟩ := h₃.unordered_inv hv
    exact ⟨fun _ => rfl, fun _ => rfl, fun _ => rfl⟩
  | nil =>
    rw [h₂.unique h₃]
    exact ⟨fun _ => rfl, fun h => h, fun h => h.symm⟩
  | shorter y ys =>
    obtain ⟨zs, rfl⟩ := h₂.list_inv
    cases zs with
    | nil =>
      rw [h₂.unique (.longer y ys)]
      exact ⟨fun h => (by cases h), fun h => (by cases h), fun h => (by cases h)⟩
    | cons z zs =>
      rw [h₃.unique (.shorter z zs)]
      exact ⟨fun h => (by cases h), fun _ => rfl, fun _ => rfl⟩
  | longer y ys =>
    obtain ⟨zs, rfl⟩ := h₂.list_inv
    cases zs with
    | nil =>
      rw [h₂.unique .nil, h₃.unique (.longer y ys)]
      exact ⟨fun h => (by cases h), fun _ => rfl, fun _ => rfl⟩
    | cons z zs =>
      rw [h₂.unique (.shorter z zs)]
      exact ⟨fun h => (by cases h), fun h => (by cases h), fun h => (by cases h)⟩
  | @head v w o₁ hvw ho xs ys ih =>
    obtain ⟨zs, rfl⟩ := h₂.list_inv
    cases zs with
    | nil =>
      rw [h₂.unique (.longer w ys), h₃.unique (.longer v xs)]
      exact ⟨fun h => absurd h ho, fun h => (by cases h), fun h => h.symm⟩
    | cons z zs =>
      rcases h₂.cons_inv with ⟨hwz, ho₂⟩ | ⟨hwz, -⟩
      · rcases h₃.cons_inv with ⟨hvz, -⟩ | ⟨hvz, -⟩
        · exact ih hwz hvz
        · have hne : o₁ ≠ o₂ := fun heq => ho ((ih hwz hvz).2.2 heq).symm
          exact ⟨fun h => absurd h ho, fun h => absurd h ho₂, fun h => absurd h hne⟩
      · rcases h₃.cons_inv with ⟨hvz, -⟩ | ⟨hvz, -⟩
        · rw [(ih hwz hvz).2.1 rfl]
          exact ⟨fun h => absurd h ho, fun _ => rfl, fun _ => rfl⟩
        · exact absurd ((ih hwz hvz).2.1 rfl).symm ho
  | @tail v w xs ys o₁ hvw _ ih ihrest =>
    obtain ⟨zs, rfl⟩ := h₂.list_inv
    cases zs with
    | nil =>
      rw [h₂.unique (.longer w ys), h₃.unique (.longer v xs)]
      exact ⟨fun _ => rfl, fun h => (by cases h), fun h => h.symm⟩
    | cons z zs =>
      rcases h₂.cons_inv with ⟨hwz, ho₂⟩ | ⟨hwz, hrest₂⟩
      · rcases h₃.cons_inv with ⟨hvz, -⟩ | ⟨hvz, -⟩
        · rw [(ih hwz hvz).1 rfl]
          exact ⟨fun _ => rfl, fun h => absurd h ho₂, fun h => h.symm⟩
        · exact absurd ((ih hwz hvz).1 rfl).symm ho₂
      · rcases h₃.cons_inv with ⟨hvz, ho₃⟩ | ⟨-, hrest₃⟩
        · exact absurd ((ih hwz hvz).1 rfl) ho₃
        · exact ihrest hrest₂ hrest₃

/-- Two values are known to be equal, or can be compared. -/
def Settled (v w : Value) : Prop := v.same w = true ∨ ∃ b, v.less w = .ok b

lemma Settled.head {y : Value} {xs ys : List Value}
    (h : Settled (.list (x :: xs)) (.list (y :: ys))) : Settled x y := by
  rcases h with h | ⟨b, h⟩
  · exact .inl (Bool.and_eq_true_iff.1 h).1
  · by_cases hsame : x.same y = true
    · exact .inl hsame
    · have hless : (Value.list (x :: xs)).less (.list (y :: ys)) = x.less y := if_neg hsame
      exact .inr ⟨b, hless ▸ h⟩

lemma Settled.tail {y : Value} {xs ys : List Value} (hsame : x.same y = true)
    (h : Settled (.list (x :: xs)) (.list (y :: ys))) : Settled (.list xs) (.list ys) := by
  rcases h with h | ⟨b, h⟩
  · exact .inl (Bool.and_eq_true_iff.1 h).2
  · have hless : (Value.list (x :: xs)).less (.list (y :: ys)) = (Value.list xs).less (.list ys) :=
      if_pos hsame
    exact .inr ⟨b, hless ▸ h⟩

lemma NanFree.exists_point? (h : NanFree v) (hv : v.number? = some a) :
    ∃ p, a.point? = some p := by
  cases h with
  | bool b =>
    cases hv
    exact ⟨_, rfl⟩
  | int n =>
    cases hv
    exact ⟨_, rfl⟩
  | @float x hx =>
    cases hv
    cases x with
    | nan => exact absurd rfl hx
    | _ => exact ⟨_, rfl⟩
  | _ => cases hv

lemma less_number_of_none (hv : v.number? = none) (hw : w.number? = some b) :
    v.less w = .error .incomparable := by
  cases v <;> cases hv <;> cases w <;> cases hw <;> rfl

lemma not_settled_number (hv : v.number? = none) (hw : w.number? = some b) : ¬ Settled v w := by
  rintro (h | ⟨c, h⟩)
  · rw [same_of_number?_none hv hw] at h
    cases h
  · rw [less_number_of_none hv hw] at h
    cases h

lemma Settled.text {s : String} (h : Settled (.text s) w) : ∃ t, w = .text t := by
  cases w with
  | text t => exact ⟨t, rfl⟩
  | _ => rcases h with h | ⟨_, h⟩ <;> cases h

lemma Settled.list {items : List Value} (h : Settled (.list items) w) :
    ∃ others, w = .list others := by
  cases w with
  | list others => exact ⟨others, rfl⟩
  | _ => rcases h with h | ⟨_, h⟩ <;> cases h

lemma Settled.unordered (hv : v.Unordered) (h : Settled v w) :
    v.same w = true ∧ w.Unordered := by
  rcases h with h | ⟨_, h⟩
  · refine ⟨h, ?_⟩
    rcases hv with rfl | ⟨entries, rfl⟩
    · cases w with
      | null => exact .inl rfl
      | _ => cases h
    · cases w with
      | object others => exact .inr ⟨others, rfl⟩
      | _ => cases h
  · rw [hv.less] at h
    cases h

lemma Settled.exists_ranks_unordered (hv : v.Unordered) (hvw : Settled v w) (hwv : Settled w v) :
    ∃ o, Ranks v w o := by
  obtain ⟨h, hw⟩ := hvw.unordered hv
  exact ⟨_, .equal hv hw h (hwv.unordered hw).1⟩

lemma exists_ranks_number (h : NanFree v) (h' : NanFree w) (hv : v.number? = some a)
    (hsettled : Settled w v) : ∃ o, Ranks v w o := by
  cases hw : w.number? with
  | none => exact absurd hsettled (not_settled_number hw hv)
  | some b =>
    obtain ⟨p, hp⟩ := h.exists_point? hv
    obtain ⟨q, hq⟩ := h'.exists_point? hw
    exact ⟨_, .number hv hw hp hq⟩

/-- Data without `nan` that is equal or comparable both ways has a rank. -/
lemma NanFree.exists_ranks (h : NanFree v) (h' : NanFree w) (hvw : Settled v w)
    (hwv : Settled w v) : ∃ o, Ranks v w o := by
  induction h generalizing w with
  | bool b => exact exists_ranks_number (.bool b) h' rfl hwv
  | int n => exact exists_ranks_number (.int n) h' rfl hwv
  | float hx => exact exists_ranks_number (.float hx) h' rfl hwv
  | null => exact hvw.exists_ranks_unordered (.inl rfl) hwv
  | object entries => exact hvw.exists_ranks_unordered (.inr ⟨entries, rfl⟩) hwv
  | text s =>
    obtain ⟨t, rfl⟩ := hvw.text
    exact ⟨_, .text s t⟩
  | @list xs hxs ih =>
    obtain ⟨ys, rfl⟩ := hvw.list
    cases h' with
    | list hys =>
      induction xs generalizing ys with
      | nil =>
        cases ys with
        | nil => exact ⟨_, .nil⟩
        | cons y ys => exact ⟨_, .shorter y ys⟩
      | cons x xs ihxs =>
        cases ys with
        | nil => exact ⟨_, .longer x xs⟩
        | cons y ys =>
          obtain ⟨o, hxy⟩ := ih x (by simp) (hys y (by simp)) hvw.head hwv.head
          by_cases ho : o = .eq
          · subst ho
            obtain ⟨o, hrest⟩ := ihxs (fun v hv => hxs v (by simp [hv]))
              (fun v hv => ih v (by simp [hv])) ys (hvw.tail (hxy.same_iff.2 rfl))
              (hwv.tail (hxy.swap.same_iff.2 rfl)) (fun w hw => hys w (by simp [hw]))
            exact ⟨o, .tail hxy hrest⟩
          · exact ⟨o, .head hxy ho xs ys⟩

/-- Values without `nan` can be ranked if any two of them can be compared. -/
lemma ranking_less {member : Value → Prop} (hnan : ∀ v, member v → v.NanFree)
    (hless : ∀ v w, member v → member w → ∃ b, v.less w = .ok b) : Ranking less member := by
  have hranks {v w : Value} (hv : member v) (hw : member w) :
      ∃ o, Ranks v w o ∧ v.less w = .ok (o == .lt) := by
    obtain ⟨b, hb⟩ := hless v w hv hw
    obtain ⟨o, ho⟩ := (hnan v hv).exists_ranks (hnan w hw) (.inr ⟨b, hb⟩) (.inr (hless w v hw hv))
    exact ⟨o, ho, by rw [hb, ho.less.1 b hb]⟩
  refine ⟨fun hv hw => hless _ _ hv hw, fun hv hw hlt => ?_, fun hu hv hw hvu hwv => ?_⟩
  · obtain ⟨o, ho, hvw⟩ := hranks hv hw
    obtain ⟨b, hb⟩ := hless _ _ hw hv
    rw [hvw] at hlt
    have hswap := ho.swap.less.1 b hb
    cases o <;> simp_all
  · obtain ⟨o₁, ho₁, hwv'⟩ := hranks hw hv
    obtain ⟨o₂, ho₂, hvu'⟩ := hranks hv hu
    obtain ⟨o₃, ho₃, hwu⟩ := hranks hw hu
    obtain ⟨hleft, hright, hsame⟩ := ho₁.composes ho₂ ho₃
    rw [hwv'] at hwv
    rw [hvu'] at hvu
    rw [hwu]
    cases o₁ <;> cases o₂ <;> simp_all

end Value
end ListingSearch
