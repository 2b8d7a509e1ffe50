import ListingSearch.Remote.Request

/-!
Trying again. An attempt whose answer is lost is repeated after a pause, up to a number of attempts;
the pauses double up to a limit. An answer or a refusal ends the attempts at once.
-/
namespace ListingSearch.Remote

/-- What comes of one attempt. -/
inductive Attempt (α : Type) where
  | answered (a : α)
  /-- The service was not reached or its answer was lost. -/
  | lost (reason : String)
  | refused (failure : Failure)

structure Patience where
  /-- How many attempts are made in all; one is always made. -/
  attempts : Nat := 3
  /-- No pause is longer, in seconds. -/
  maxPause : Binary64

namespace Patience

/-- The pause after attempt number `k`, counted from zero: two to the power of `k` seconds, but no
longer than the limit and never negative. -/
def pause (p : Patience) (k : Nat) : Binary64 :=
  let full := (Binary64.ofInt? (Nat.pow 2 k)).getD (.infinite false)
  let kept := if p.maxPause.lt full then p.maxPause else full
  if (Binary64.zero false).lt kept then kept else .zero false

end Patience

variable {α σ : Type}

/-- Makes an attempt, and up to so many more as long as the answer is lost. -/
def persist (operation : String) (attempt : σ → Attempt α × σ) (rest : Nat → σ → σ) (k : Nat) :
    Nat → σ → Outcome α × σ
  | more, s =>
    match attempt s with
    | (.answered a, s) => (.ok a, s)
    | (.refused failure, s) => (.error failure, s)
    | (.lost reason, s) =>
      match more with
      | 0 => (.error (.unreachable operation reason), s)
      | more + 1 => persist operation attempt rest (k + 1) more (rest k s)

/-- A way to the service: preparing a request, attempting it, and pausing. -/
structure Transport (σ : Type) where
  prepare : Request → σ → σ
  attempt : Request → σ → Attempt Response × σ
  pause : Binary64 → σ → σ

/-- Carries out requests; one that cannot be sent is prepared and given up. -/
def Transport.handle (t : Transport σ) (patience : Patience) : Handler Remote σ := fun r s =>
  match r.obstacle? with
  | some failure => (.error failure, t.prepare r s)
  | none =>
    persist r.operation (t.attempt r) (fun k => t.pause (patience.pause k)) 0
      (patience.attempts - 1) (t.prepare r s)

/-- Gives up every request after it is prepared. What keeps it from being sent goes before the
reason to give it up. -/
def Transport.giveUp (t : Transport σ) (failure : Failure) : Handler Remote σ := fun r s =>
  (.error (r.obstacle?.getD failure), t.prepare r s)

end ListingSearch.Remote
