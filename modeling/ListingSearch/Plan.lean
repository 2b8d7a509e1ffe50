import ListingSearch.Failure

/-!
Plans: what an operation asks of the outside, and how it goes on with each reply. A request that
fails ends the plan, so nothing is asked after it. The same plan can be carried out by different
hands: against a state that answers at once, or by plans that ask something else in turn.
-/
namespace ListingSearch

/-- Requests, each with its type of reply. -/
structure Interface where
  Request : Type
  Reply : Request → Type

/-- An operation that asks something of the outside. -/
inductive Plan (I : Interface) (α : Type) where
  | done (a : α)
  | fail (failure : Failure)
  | ask (request : I.Request) (next : I.Reply request → Plan I α)

/-- How requests are answered in a state. -/
abbrev Handler (I : Interface) (σ : Type) := (r : I.Request) → σ → Outcome (I.Reply r) × σ

namespace Plan

variable {I J : Interface} {α β σ : Type}

protected def bind : Plan I α → (α → Plan I β) → Plan I β
  | .done a, f => f a
  | .fail failure, _ => .fail failure
  | .ask request next, f => .ask request fun reply => (next reply).bind f

instance : Monad (Plan I) where
  pure := .done
  bind := Plan.bind

def ofOutcome : Outcome α → Plan I α
  | .ok a => .done a
  | .error failure => .fail failure

def request (r : I.Request) : Plan I (I.Reply r) := .ask r .done

/-- Carries out a plan in a state; the state that failure leaves is kept. -/
def run (handle : Handler I σ) : Plan I α → σ → Outcome α × σ
  | .done a, s => (.ok a, s)
  | .fail failure, s => (.error failure, s)
  | .ask request next, s =>
    match handle request s with
    | (.ok reply, s) => (next reply).run handle s
    | (.error failure, s) => (.error failure, s)

/-- Answers every request by a plan that asks something else. -/
def through (answer : (r : I.Request) → Plan J (I.Reply r)) : Plan I α → Plan J α
  | .done a => .done a
  | .fail failure => .fail failure
  | .ask request next => (answer request).bind fun reply => (next reply).through answer

@[simp] theorem run_done (handle : Handler I σ) (a : α) (s : σ) :
    run handle (.done a) s = (.ok a, s) := rfl

@[simp] theorem run_fail (handle : Handler I σ) (failure : Failure) (s : σ) :
    run handle (.fail failure : Plan I α) s = (.error failure, s) := rfl

/-- Carrying out a plan and then the rest is carrying out both in a row. -/
theorem run_bind (handle : Handler I σ) (p : Plan I α) (f : α → Plan I β) (s : σ) :
    run handle (p.bind f) s =
      match run handle p s with
      | (.ok a, s) => run handle (f a) s
      | (.error failure, s) => (.error failure, s) := by
  induction p generalizing s with
  | done a => rfl
  | fail failure => rfl
  | ask request next ih =>
    simp only [Plan.bind, run]
    cases handle request s with
    | mk result s' =>
      cases result with
      | ok reply => exact ih reply s'
      | error failure => rfl

/-- Answering requests by plans and carrying these out is carrying out the plan in the state of the
other hands. -/
theorem run_through (answer : (r : I.Request) → Plan J (I.Reply r)) (handle : Handler J σ)
    (p : Plan I α) (s : σ) :
    run handle (p.through answer) s = run (fun r s => run handle (answer r) s) p s := by
  induction p generalizing s with
  | done a => rfl
  | fail failure => rfl
  | ask request next ih =>
    simp only [through, run, run_bind]
    cases run handle (answer request) s with
    | mk result s' =>
      cases result with
      | ok reply => exact ih reply s'
      | error failure => rfl

end Plan
end ListingSearch
