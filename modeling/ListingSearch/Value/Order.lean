import ListingSearch.Sorting
import ListingSearch.TextSet
import ListingSearch.Value.Basic

/-!
The order of data, as far as there is one: numbers by size, whatever their form, texts by code
points, and lists member by member. Nothing else can be compared, and only numbers have a next one.
-/
namespace ListingSearch.Value

mutual

def less : Value → Value → Outcome Bool
  | .text s, .text t => .ok (s < t)
  | .list xs, .list ys => lessList xs ys
  | x, y =>
    match x.number?, y.number? with
    | some a, some b => .ok (Number.lt a b)
    | _, _ => .error .incomparable

/-- Whether a list stands before another one: the first members that differ decide. -/
def lessList : List Value → List Value → Outcome Bool
  | [], ys => .ok (!ys.isEmpty)
  | _ :: _, [] => .ok false
  | x :: xs, y :: ys => if x.same y then lessList xs ys else x.less y

end

def text? : Value → Option String
  | .text s => some s
  | _ => none

/-- The members of a set in ascending order; texts always have one. -/
def ascending (vs : List Value) : Outcome (List Value) :=
  match vs.mapM text? with
  | some texts => .ok ((TextSet.ofList texts).toList.map .text)
  | none => inOrder less vs

def next (v : Value) : Outcome Value :=
  match v.number? with
  | some (.int n) => .ok (.int (n + 1))
  | some (.float x) => .ok (.float x.next)
  | none => .error .notNumber

example : less (.int 1) (.float .nan) = .ok false := by cbv
example : less (.text "B") (.text "a") = .ok true := by cbv
example : ascending [.text "b", .text "a"] = .ok [.text "a", .text "b"] := by cbv

end ListingSearch.Value
