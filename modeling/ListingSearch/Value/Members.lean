import ListingSearch.Failure

/-!
Collections of loose data, and sets given as lists. Equal values are one member of a set, whatever
their form, and the first of them is kept. Lists and objects cannot be members.
-/
namespace ListingSearch.Value

def members (v : Value) : Outcome (List Value) :=
  match v.members? with
  | some members => .ok members
  | none => .error .notCollection

def isSimple : Value → Bool
  | .list _ | .object _ => false
  | _ => true

/-- The values of which no equal one stands before them. -/
def distinctValues (vs : List Value) : List Value :=
  vs.foldl (fun seen v => if seen.any v.same then seen else seen ++ [v]) []

def memberSet (vs : List Value) : Outcome (List Value) :=
  if vs.all isSimple then .ok (distinctValues vs) else .error .notMember

theorem memberSet_eq_error_iff (vs : List Value) (failure : Failure) :
    memberSet vs = .error failure ↔ failure = .notMember ∧ ∃ v ∈ vs, v.isSimple = false := by
  unfold memberSet
  split <;> rename_i h
  · simp only [reduceCtorEq, false_iff, not_and, not_exists]
    intro _ v hv
    simp [List.all_eq_true.1 h v hv]
  · obtain ⟨v, hv, hs⟩ := List.all_eq_false.1 (Bool.eq_false_iff.2 h)
    simp only [Except.error.injEq]
    exact ⟨fun e => ⟨e.symm, v, hv, by simpa using hs⟩, fun e => e.1.symm⟩

example : distinctValues [.int 1, .bool true, .text "1"] = [.int 1, .text "1"] := by rfl

end ListingSearch.Value
