import ListingSearch.Failure

/-!
Putting lists in order when members may turn out to have none. The run of members that stand in
order already is kept, and the others are put among them one by one, each found its place by
halving. Members of equal rank stay in the order in which they stand.
-/
namespace ListingSearch

variable {α : Type}

/-- The rest of a run that a member begins, and what follows it. In a rising run no member stands
before the one in front of it, in a falling one each of them does. -/
def splitRun (before : α → α → Outcome Bool) (falling : Bool) (x : α) :
    List α → Outcome (List α × List α)
  | [] => .ok ([x], [])
  | y :: ys => do
    if (← before y x) = falling then
      let (run, rest) ← splitRun before falling y ys
      return (x :: run, rest)
    else return ([x], y :: ys)

/-- The run at the beginning of a list, in rising order, and what follows it. -/
def firstRun (before : α → α → Outcome Bool) : List α → Outcome (List α × List α)
  | x :: y :: ys => do
    let falling ← before y x
    let (run, rest) ← splitRun before falling x (y :: ys)
    return (if falling then run.reverse else run, rest)
  | xs => .ok (xs, [])

/-- Puts a member among ordered ones, behind those of equal rank. -/
def insertOrdered (before : α → α → Outcome Bool) (x : α) (ys : List α) : Outcome (List α) :=
  match _h : ys.drop (ys.length / 2) with
  | [] => .ok [x]
  | y :: back => do
    if ← before x y then
      return (← insertOrdered before x (ys.take (ys.length / 2))) ++ y :: back
    else return ys.take (ys.length / 2) ++ y :: (← insertOrdered before x back)
termination_by ys.length
decreasing_by
  all_goals
    have := congrArg List.length _h
    simp only [List.length_drop, List.length_cons, List.length_take] at this ⊢
    omega

def inOrder (before : α → α → Outcome Bool) (xs : List α) : Outcome (List α) := do
  let (run, rest) ← firstRun before xs
  rest.foldlM (fun ys x => insertOrdered before x ys) run

theorem append_of_splitRun {before : α → α → Outcome Bool} {falling : Bool} {x : α}
    {ys run rest : List α} (h : splitRun before falling x ys = .ok (run, rest)) :
    run ++ rest = x :: ys := by
  induction ys generalizing x run rest with
  | nil =>
    cases h
    rfl
  | cons y ys ih =>
    simp only [splitRun, bind, Except.bind] at h
    cases hb : before y x with
    | error failure => simp [hb] at h
    | ok b =>
      simp only [hb] at h
      split at h
      · cases hr : splitRun before falling y ys with
        | error failure => simp [hr] at h
        | ok r =>
          obtain ⟨run', rest'⟩ := r
          simp only [hr, pure, Except.pure] at h
          cases h
          simp [ih hr]
      · simp only [pure, Except.pure] at h
        cases h
        rfl

theorem perm_of_firstRun {before : α → α → Outcome Bool} {xs run rest : List α}
    (h : firstRun before xs = .ok (run, rest)) : (run ++ rest).Perm xs := by
  match xs with
  | [] | [_] =>
    cases h
    simp
  | x :: y :: ys =>
    simp only [firstRun, bind, Except.bind] at h
    cases hb : before y x with
    | error failure => simp [hb] at h
    | ok falling =>
      cases hr : splitRun before falling x (y :: ys) with
      | error failure => simp [hb, hr] at h
      | ok r =>
        obtain ⟨run', rest'⟩ := r
        simp only [hb, hr, pure, Except.pure] at h
        cases h
        rw [← append_of_splitRun hr]
        split
        · exact (List.reverse_perm _).append_right _
        · exact .refl _

theorem perm_of_insertOrdered {before : α → α → Outcome Bool} {x : α} {ys zs : List α}
    (h : insertOrdered before x ys = .ok zs) : zs.Perm (x :: ys) := by
  fun_induction insertOrdered before x ys generalizing zs with
  | case1 ys hd =>
    cases h
    have hl : ys.length = 0 := by
      have := congrArg List.length hd
      simp only [List.length_drop, List.length_nil] at this
      omega
    rw [List.length_eq_zero_iff.1 hl]
  | case2 ys y back hd ihFront ihBack =>
    have hys : ys.take (ys.length / 2) ++ y :: back = ys := by
      rw [← hd, List.take_append_drop]
    simp only [bind, Except.bind] at h
    cases hb : before x y with
    | error failure => simp [hb] at h
    | ok b =>
      cases b with
      | true =>
        cases hr : insertOrdered before x (ys.take (ys.length / 2)) with
        | error failure => simp [hb, hr] at h
        | ok front =>
          simp only [hb, hr, pure, Except.pure, if_true] at h
          cases h
          have front_perm := (ihFront hr).append_right (y :: back)
          rwa [List.cons_append, hys] at front_perm
      | false =>
        cases hr : insertOrdered before x back with
        | error failure => simp [hb, hr] at h
        | ok rest =>
          simp only [hb, hr, pure, Except.pure, Bool.false_eq_true, if_false] at h
          cases h
          have swapped : ((y :: x :: back) : List α).Perm (x :: y :: back) := .swap x y back
          have moved := (((ihBack hr).cons y).trans swapped).append_left (ys.take (ys.length / 2))
          have whole := moved.trans List.perm_middle
          rwa [hys] at whole

/-- Putting a list in order loses and repeats nothing. -/
theorem perm_of_inOrder {before : α → α → Outcome Bool} {xs zs : List α}
    (h : inOrder before xs = .ok zs) : zs.Perm xs := by
  have insertAll : ∀ (rest run zs : List α),
      rest.foldlM (fun ys x => insertOrdered before x ys) run = .ok zs →
        zs.Perm (run ++ rest) := by
    intro rest
    induction rest with
    | nil =>
      intro run zs h
      cases h
      simp
    | cons x rest ih =>
      intro run zs h
      simp only [List.foldlM_cons, bind, Except.bind] at h
      cases hr : insertOrdered before x run with
      | error failure => simp [hr] at h
      | ok ys =>
        simp only [hr] at h
        exact (ih ys zs h).trans (((perm_of_insertOrdered hr).append_right rest).trans
          List.perm_middle.symm)
  simp only [inOrder, bind, Except.bind] at h
  cases hr : firstRun before xs with
  | error failure => simp [hr] at h
  | ok r =>
    simp only [hr] at h
    exact (insertAll _ _ _ h).trans (perm_of_firstRun hr)

end ListingSearch
