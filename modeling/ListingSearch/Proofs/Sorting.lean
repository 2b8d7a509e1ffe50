import ListingSearch.Proofs.Outcome
import ListingSearch.Sorting

/-! What putting a list in order gives where its members can be ranked: all of them, those of lower
rank in front, and those of equal rank as they stood. Each step is a search by halving in a list
that is in order already. -/
namespace ListingSearch

variable {α : Type} {before : α → α → Outcome Bool} {member : α → Prop} {R : α → α → Prop}
  {x y z : α} {xs ys : List α}

/-- Members can be ranked if any two can be compared, none stands before one that stands before it,
and not to stand before is transitive. -/
structure Ranking (before : α → α → Outcome Bool) (member : α → Prop) : Prop where
  decided : ∀ {x y}, member x → member y → ∃ b, before x y = .ok b
  asymm : ∀ {x y}, member x → member y → before x y = .ok true → before y x = .ok false
  trans : ∀ {x y z}, member x → member y → member z → before y x = .ok false →
    before z y = .ok false → before z x = .ok false

/-- The first one is of lower rank, or they are of equal rank and were in a relation already. -/
def InFront (before : α → α → Outcome Bool) (R : α → α → Prop) (x y : α) : Prop :=
  before x y = .ok true ∨ (before x y = .ok false ∧ before y x = .ok false ∧ R x y)

namespace Ranking

variable (h : Ranking before member)
include h

lemma mono {other : α → Prop} (hother : ∀ x, other x → member x) : Ranking before other where
  decided hx hy := h.decided (hother _ hx) (hother _ hy)
  asymm hx hy := h.asymm (hother _ hx) (hother _ hy)
  trans hx hy hz := h.trans (hother _ hx) (hother _ hy) (hother _ hz)

lemma before_of_before_of_not (hx : member x) (hy : member y) (hz : member z)
    (hxy : before x y = .ok true) (hzy : before z y = .ok false) : before x z = .ok true := by
  obtain ⟨b, hb⟩ := h.decided hx hz
  cases b with
  | true => exact hb
  | false =>
    rw [h.trans hy hz hx hzy hb] at hxy
    cases hxy

lemma before_of_not_of_before (hx : member x) (hy : member y) (hz : member z)
    (hyx : before y x = .ok false) (hyz : before y z = .ok true) : before x z = .ok true := by
  obtain ⟨b, hb⟩ := h.decided hx hz
  cases b with
  | true => exact hb
  | false =>
    rw [h.trans hz hx hy hb hyx] at hyz
    cases hyz

/-- Runs of both kinds go on as they began. -/
lemma run_trans (falling : Bool) (hx : member x) (hy : member y) (hz : member z)
    (hyx : before y x = .ok falling) (hzy : before z y = .ok falling) :
    before z x = .ok falling := by
  cases falling with
  | false => exact h.trans hx hy hz hyx hzy
  | true => exact h.before_of_not_of_before hz hy hx (h.asymm hz hy hzy) hyx

lemma inFront_of_not_before (hx : member x) (hy : member y) (hyx : before y x = .ok false)
    (hR : R x y) : InFront before R x y := by
  obtain ⟨b, hb⟩ := h.decided hx hy
  cases b with
  | true => exact .inl hb
  | false => exact .inr ⟨hb, hyx, hR⟩

lemma not_before_of_inFront (hx : member x) (hy : member y) (hxy : InFront before R x y) :
    before y x = .ok false := by
  rcases hxy with hxy | ⟨-, hyx, -⟩
  · exact h.asymm hx hy hxy
  · exact hyx

/-- A member is put behind those that were in front of it already. -/
lemma insertOrdered_spec (hx : member x) (hys : ∀ y ∈ ys, member y)
    (hsorted : ys.Pairwise (InFront before R)) (hR : ∀ y ∈ ys, R y x) :
    ∃ zs, insertOrdered before x ys = .ok zs ∧ zs.Pairwise (InFront before R) := by
  fun_induction insertOrdered before x ys with
  | case1 ys hd => exact ⟨[x], rfl, List.pairwise_singleton _ _⟩
  | case2 ys y back hd ihFront ihBack =>
    have hsplit : ys.take (ys.length / 2) ++ y :: back = ys := by
      rw [← hd, List.take_append_drop]
    generalize ys.take (ys.length / 2) = front at hsplit ihFront ⊢
    subst hsplit
    obtain ⟨hfront, hback, hcross⟩ := List.pairwise_append.1 hsorted
    obtain ⟨hyback, hback'⟩ := List.pairwise_cons.1 hback
    have hmy : member y := hys y (by simp)
    have hmfront : ∀ a ∈ front, member a := fun a ha => hys a (by simp [ha])
    have hmback : ∀ b ∈ back, member b := fun b hb => hys b (by simp [hb])
    obtain ⟨b, hb⟩ := h.decided hx hmy
    rw [hb]
    cases b with
    | true =>
      obtain ⟨zs, hzs, hsortedzs⟩ := ihFront hmfront hfront fun a ha => hR a (by simp [ha])
      refine ⟨zs ++ y :: back, by simp [hzs, bind, Except.bind, pure, Except.pure], ?_⟩
      refine List.pairwise_append.2 ⟨hsortedzs, hback, fun a ha c hc => ?_⟩
      rcases List.mem_cons.1 ((perm_of_insertOrdered hzs).subset ha) with rfl | ha
      · rcases List.mem_cons.1 hc with rfl | hc
        · exact .inl hb
        · exact .inl (h.before_of_before_of_not hx hmy (hmback c hc) hb
            (h.not_before_of_inFront hmy (hmback c hc) (hyback c hc)))
      · exact hcross a ha c hc
    | false =>
      obtain ⟨zs, hzs, hsortedzs⟩ := ihBack hmback hback' fun c hc => hR c (by simp [hc])
      have hyx : InFront before R y x := h.inFront_of_not_before hmy hx hb (hR y (by simp))
      refine ⟨front ++ y :: zs, by simp [hzs, bind, Except.bind, pure, Except.pure], ?_⟩
      refine List.pairwise_append.2 ⟨hfront, List.pairwise_cons.2 ⟨fun c hc => ?_, hsortedzs⟩,
        fun a ha c hc => ?_⟩
      · rcases List.mem_cons.1 ((perm_of_insertOrdered hzs).subset hc) with rfl | hc
        · exact hyx
        · exact hyback c hc
      · rcases List.mem_cons.1 hc with rfl | hc
        · exact hcross a ha c (by simp)
        · rcases List.mem_cons.1 ((perm_of_insertOrdered hzs).subset hc) with rfl | hc
          · refine h.inFront_of_not_before (hmfront a ha) hx ?_ (hR a (by simp [ha]))
            exact h.trans (hmfront a ha) hmy hx
              (h.not_before_of_inFront (hmfront a ha) hmy (hcross a ha y (by simp))) hb
          · exact hcross a ha c (by simp [hc])

lemma splitRun_spec (falling : Bool) (hx : member x) (hys : ∀ y ∈ ys, member y) :
    ∃ run rest, splitRun before falling x ys = .ok (run, rest) ∧
      run.Pairwise fun a b => before b a = .ok falling := by
  suffices hspec : ∃ tail rest, splitRun before falling x ys = .ok (x :: tail, rest) ∧
      (x :: tail).Pairwise fun a b => before b a = .ok falling by
    obtain ⟨tail, rest, hrun, hpairwise⟩ := hspec
    exact ⟨x :: tail, rest, hrun, hpairwise⟩
  induction ys generalizing x with
  | nil => exact ⟨[], [], rfl, List.pairwise_singleton _ _⟩
  | cons y ys ih =>
    have hy : member y := hys y (by simp)
    obtain ⟨b, hb⟩ := h.decided hy hx
    by_cases hfalling : b = falling
    · subst hfalling
      obtain ⟨tail, rest, hrun, hpairwise⟩ := ih hy fun z hz => hys z (by simp [hz])
      have htail : ∀ z ∈ tail, member z := by
        intro z hz
        have happend := append_of_splitRun hrun
        have hmem : z ∈ y :: ys := by
          rw [← happend]
          simp [hz]
        exact hys z hmem
      have hmore : splitRun before b x (y :: ys) = .ok (x :: y :: tail, rest) := by
        simp [splitRun, hb, hrun, bind, Except.bind, pure, Except.pure]
      refine ⟨y :: tail, rest, hmore, ?_⟩
      refine List.pairwise_cons.2 ⟨fun z hz => ?_, hpairwise⟩
      rcases List.mem_cons.1 hz with rfl | hz
      · exact hb
      · exact h.run_trans b hx hy (htail z hz) hb ((List.pairwise_cons.1 hpairwise).1 z hz)
    · exact ⟨[], y :: ys, by simp [splitRun, hb, hfalling, bind, Except.bind, pure, Except.pure],
        List.pairwise_singleton _ _⟩

lemma firstRun_spec (hxs : ∀ x ∈ xs, member x) (hR : xs.Pairwise R) :
    ∃ run rest, firstRun before xs = .ok (run, rest) ∧ run.Pairwise (InFront before R) ∧
      rest.Pairwise R ∧ ∀ a ∈ run, ∀ b ∈ rest, R a b := by
  match xs with
  | [] => exact ⟨[], [], rfl, .nil, .nil, by simp⟩
  | [x] => exact ⟨[x], [], rfl, List.pairwise_singleton _ _, .nil, by simp⟩
  | x :: y :: ys =>
    have hx : member x := hxs x (by simp)
    have hy : member y := hxs y (by simp)
    obtain ⟨falling, hb⟩ := h.decided hy hx
    have hys : ∀ z ∈ y :: ys, member z := fun z hz => hxs z (List.mem_cons_of_mem x hz)
    obtain ⟨run, rest, hrun, hpairwise⟩ := h.splitRun_spec falling hx hys
    have happend := append_of_splitRun hrun
    rw [← happend] at hR hxs
    obtain ⟨hRrun, hRrest, hcross⟩ := List.pairwise_append.1 hR
    have hmrun : ∀ a ∈ run, member a := fun a ha => hxs a (by simp [ha])
    refine ⟨if falling then run.reverse else run, rest,
      by simp [firstRun, hb, hrun, bind, Except.bind, pure, Except.pure], ?_, hRrest, ?_⟩
    · cases falling with
      | true => exact List.pairwise_reverse.2 (hpairwise.imp fun hab => .inl hab)
      | false =>
        refine (hpairwise.and hRrun).imp_of_mem fun ha hb' hab => ?_
        exact h.inFront_of_not_before (hmrun _ ha) (hmrun _ hb') hab.1 hab.2
    · intro a ha b hb'
      refine hcross a ?_ b hb'
      split at ha
      · exact List.mem_reverse.1 ha
      · exact ha

/-- Members that come one after the other are put in order among those before them. -/
lemma foldlM_insertOrdered_spec (hxs : ∀ x ∈ xs, member x) (hys : ∀ y ∈ ys, member y)
    (hsorted : ys.Pairwise (InFront before R)) (hR : xs.Pairwise R)
    (hcross : ∀ y ∈ ys, ∀ x ∈ xs, R y x) :
    ∃ zs, xs.foldlM (fun ys x => insertOrdered before x ys) ys = .ok zs ∧
      zs.Pairwise (InFront before R) := by
  induction xs generalizing ys with
  | nil => exact ⟨ys, rfl, hsorted⟩
  | cons x xs ih =>
    obtain ⟨hRx, hRxs⟩ := List.pairwise_cons.1 hR
    obtain ⟨zs, hzs, hsortedzs⟩ := h.insertOrdered_spec (hxs x (by simp)) hys hsorted
      fun y hy => hcross y hy x (by simp)
    have hmem : ∀ z ∈ zs, z = x ∨ z ∈ ys := fun z hz =>
      List.mem_cons.1 ((perm_of_insertOrdered hzs).subset hz)
    have hzmember : ∀ z ∈ zs, member z := by
      intro z hz
      rcases hmem z hz with rfl | hz
      · exact hxs z (by simp)
      · exact hys z hz
    have hzcross : ∀ z ∈ zs, ∀ w ∈ xs, R z w := by
      intro z hz w hw
      rcases hmem z hz with rfl | hz
      · exact hRx w hw
      · exact hcross z hz w (by simp [hw])
    obtain ⟨ws, hws, hsortedws⟩ :=
      ih (fun z hz => hxs z (by simp [hz])) hzmember hsortedzs hRxs hzcross
    exact ⟨ws, by simp [hzs, hws, bind, Except.bind], hsortedws⟩

/-- A list of members that can be ranked is put in order, and members of equal rank keep theirs. -/
theorem inOrder_spec (hxs : ∀ x ∈ xs, member x) (hR : xs.Pairwise R) :
    ∃ zs, inOrder before xs = .ok zs ∧ zs.Perm xs ∧ zs.Pairwise (InFront before R) := by
  obtain ⟨run, rest, hrun, hsorted, hRrest, hcross⟩ := h.firstRun_spec hxs hR
  have hperm := perm_of_firstRun hrun
  have hmem : ∀ z ∈ run ++ rest, member z := fun z hz => hxs z (hperm.subset hz)
  obtain ⟨zs, hzs, hsortedzs⟩ := h.foldlM_insertOrdered_spec
    (fun z hz => hmem z (by simp [hz])) (fun z hz => hmem z (by simp [hz])) hsorted hRrest hcross
  have hall : inOrder before xs = .ok zs := by
    simp [inOrder, hrun, hzs, bind, Except.bind]
  exact ⟨zs, hall, perm_of_inOrder hall, hsortedzs⟩

end Ranking
end ListingSearch
