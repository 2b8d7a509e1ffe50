import ListingSearch.Proofs.Memory.Rows
import ListingSearch.Proofs.SavedSearch.Requests

/-! Operations of many clients at the same time. An operation is carried out request by request;
between two of its requests those of other operations may be answered, further operations may be
called, and the inventory and the sender may change. Every call keeps what it asked, with the
memory at that moment, and what is left of its plan. What the requests of all allowed operations
keep holds at each moment of a run, and held whenever a request was answered. -/
namespace ListingSearch

open Registry (Setup Operation Answer)

/-- A request to the stores or to the sender, and the memory in which it was answered. -/
abbrev Exchange := Plan.Exchange Service Memory

def Plan.Exchange.after (x : Plan.Exchange Service Memory) : Memory :=
  (Memory.handle x.request x.before).2

/-- An operation that was called: what it asked so far, and what is left to do. -/
structure Call where
  setup : Setup
  now : Instant
  operation : Operation
  past : List Exchange
  rest : Plan Service Answer

namespace Call

/-- A call that has asked nothing yet. -/
def start (setup : Setup) (now : Instant) (operation : Operation) : Call :=
  { setup, now, operation, past := [], rest := operation.plan setup now }

/-- What the call gave, if it is over. -/
def result? (c : Call) : Option (Outcome Answer) := c.rest.result?

/-- The call after its next request, if it has one. -/
def proceed (c : Call) (m : Memory) : Call × Memory :=
  match c.rest with
  | .ask request next =>
    let (answer, memory) := Memory.handle request m
    ({ c with past := c.past ++ [⟨request, m⟩], rest := Plan.resume next answer }, memory)
  | _ => (c, m)

end Call

/-- What happens next. -/
inductive Turn where
  /-- Somebody calls an operation. -/
  | call (setup : Setup) (now : Instant) (operation : Operation)
  /-- The next request of a call is answered; calls are counted from zero. -/
  | proceed (i : Nat)
  /-- The inventory has other rows, and it or the sender fails or recovers. -/
  | surround (listings : List Record) (inventoryFault senderFault : Option String)

/-- The stores and the sender, and all calls so far. -/
structure Traffic where
  memory : Memory
  calls : List Call := []

namespace Traffic

def step (t : Traffic) : Turn → Traffic
  | .call setup now operation => { t with calls := t.calls ++ [.start setup now operation] }
  | .proceed i =>
    match t.calls[i]? with
    | some call =>
      let (call, memory) := call.proceed t.memory
      { memory, calls := t.calls.set i call }
    | none => t
  | .surround listings inventoryFault senderFault =>
    { t with memory := { t.memory with listings, inventoryFault, senderFault } }

def run (t : Traffic) (turns : List Turn) : Traffic := turns.foldl step t

end Traffic

/-- What a step does to the traffic: a new call, an answered request of one of the calls, or
nothing that concerns the archive. -/
inductive Traffic.Steps (t : Traffic) : Turn → Traffic → Prop
  | called (setup : Setup) (now : Instant) (operation : Operation) :
    Steps t (.call setup now operation)
      { t with calls := t.calls ++ [.start setup now operation] }
  | answered {i : Nat} {front back : List Call} {call : Call} {request : Service.Request}
    {next : request.Reply → Plan Service Answer} (hcalls : t.calls = front ++ call :: back)
    (hrest : call.rest = .ask request next) :
    Steps t (.proceed i)
      { memory := (Memory.handle request t.memory).2
        calls := front ++ { call with
          past := call.past ++ [⟨request, t.memory⟩]
          rest := Plan.resume next (Memory.handle request t.memory).1 } :: back }
  | idle {i : Nat} : Steps t (.proceed i) t
  | surrounded (listings : List Record) (inventoryFault senderFault : Option String) :
    Steps t (.surround listings inventoryFault senderFault)
      { t with memory := { t.memory with listings, inventoryFault, senderFault } }

namespace Traffic

variable {t : Traffic}

lemma steps (t : Traffic) (turn : Turn) : t.Steps turn (t.step turn) := by
  cases turn with
  | call setup now operation => exact .called setup now operation
  | surround listings inventoryFault senderFault => exact .surrounded _ _ _
  | proceed i =>
    rw [step]
    cases hcall : t.calls[i]? with
    | none => exact .idle
    | some call =>
      obtain ⟨hi, rfl⟩ := List.getElem?_eq_some_iff.1 hcall
      simp only [Call.proceed]
      split
      · rename_i request next hrest
        obtain ⟨front, back, hcalls, -, hset⟩ := List.exists_of_set hi
        rw [hset]
        exact .answered hcalls hrest
      · rw [List.set_getElem_self]
        exact .idle

/-- All that was asked so far. -/
def exchanges (t : Traffic) : List Exchange := t.calls.flatMap (·.past)

/-- In a step nothing is asked and the archive stays, or a call asks its next request. -/
lemma step_cases (t : Traffic) (turn : Turn) :
    (t.step turn).memory.archive = t.memory.archive ∧
        (∀ x, x ∈ (t.step turn).exchanges ↔ x ∈ t.exchanges) ∨
      ∃ call ∈ t.calls, ∃ request next, call.rest = .ask request next ∧
        (t.step turn).memory = (Memory.handle request t.memory).2 ∧
        ∀ x, x ∈ (t.step turn).exchanges ↔ x ∈ t.exchanges ∨ x = ⟨request, t.memory⟩ := by
  have hsteps := t.steps turn
  generalize t.step turn = u at hsteps ⊢
  cases hsteps with
  | called setup now operation => exact .inl ⟨rfl, by simp [exchanges, Call.start]⟩
  | idle => exact .inl ⟨rfl, fun _ => .rfl⟩
  | surrounded listings inventoryFault senderFault => exact .inl ⟨rfl, fun _ => .rfl⟩
  | @answered i front back call request next hcalls hrest =>
    refine .inr ⟨call, by simp [hcalls], request, next, hrest, rfl, fun x => ?_⟩
    simp only [exchanges, hcalls, List.flatMap_append, List.flatMap_cons, List.mem_append,
      List.mem_singleton]
    tauto

lemma exchanges_subset_run (t : Traffic) (turns : List Turn) :
    ∀ x ∈ t.exchanges, x ∈ (t.run turns).exchanges := by
  induction turns generalizing t with
  | nil => exact fun x hx => hx
  | cons turn turns ih =>
    refine fun x hx => ih (t.step turn) x ?_
    rcases t.step_cases turn with ⟨-, hsame⟩ | ⟨_, _, _, _, _, _, hmore⟩
    · exact (hsame x).2 hx
    · exact (hmore x).2 (.inl hx)

lemma run_append (t : Traffic) (turns more : List Turn) :
    t.run (turns ++ more) = (t.run turns).run more := List.foldl_append

/-- What the requests of allowed operations and every change of the surroundings keep. -/
structure Kept (allowed : Operation → Prop) (P : Memory → Prop) : Prop where
  handle : ∀ now operation request m, allowed operation → operation.MayAsk now request → P m →
    P (Memory.handle request m).2
  surround : ∀ m listings inventoryFault senderFault, P m →
    P { m with listings, inventoryFault, senderFault }

end Traffic

/-- The call is on its way through the plan of an allowed operation, and what it asked was answered
in memories with a property. -/
structure Call.Regular (allowed : Operation → Prop) (P : Memory → Prop) (c : Call) : Prop where
  leaves : Plan.Leaves Memory.handle (c.operation.plan c.setup c.now) c.past c.rest
  allowed : allowed c.operation
  before : ∀ x ∈ c.past, P x.before

namespace Call

variable {allowed : Operation → Prop} {P : Memory → Prop}

lemma regular_start (setup : Setup) (now : Instant) {operation : Operation}
    (h : allowed operation) : (Call.start setup now operation).Regular allowed P :=
  ⟨.start _, h, by simp [Call.start]⟩

lemma Regular.answered {call : Call} {request : Service.Request}
    {next : request.Reply → Plan Service Answer} (h : call.Regular allowed P)
    (hrest : call.rest = .ask request next) {m : Memory} (hm : P m) :
    Call.Regular allowed P { call with
      past := call.past ++ [⟨request, m⟩]
      rest := Plan.resume next (Memory.handle request m).1 } where
  leaves := (hrest ▸ h.leaves).snoc m
  allowed := h.allowed
  before := by
    simp only [List.mem_append, List.mem_singleton]
    rintro x (hx | rfl)
    · exact h.before x hx
    · exact hm

lemma Regular.mayAsk_next {call : Call} {request : Service.Request}
    {next : request.Reply → Plan Service Answer} (h : call.Regular allowed P)
    (hrest : call.rest = .ask request next) : call.operation.MayAsk call.now request :=
  have hasks := (h.leaves.asks (call.operation.asks_mayAsk call.setup call.now)).1
  (hrest ▸ hasks).1

lemma Regular.mayAsk_past {call : Call} (h : call.Regular allowed P) :
    ∀ x ∈ call.past, call.operation.MayAsk call.now x.request :=
  (h.leaves.asks (call.operation.asks_mayAsk call.setup call.now)).2

end Call

/-- The operation that is called, if one is, is allowed. -/
def Turn.Allowed (allowed : Operation → Prop) : Turn → Prop
  | .call _ _ operation => allowed operation
  | _ => True

namespace Traffic

variable {t : Traffic} {turn : Turn} {turns : List Turn} {allowed : Operation → Prop}
  {P : Memory → Prop}

/-- All calls are regular, and the memory has the property. -/
structure Regular (allowed : Operation → Prop) (P : Memory → Prop) (t : Traffic) : Prop where
  memory : P t.memory
  calls : ∀ call ∈ t.calls, call.Regular allowed P

lemma Regular.step (hkept : Kept allowed P) (h : t.Regular allowed P)
    (hturn : turn.Allowed allowed) : (t.step turn).Regular allowed P := by
  have hsteps := t.steps turn
  generalize t.step turn = u at hsteps
  cases hsteps with
  | called setup now operation =>
    refine ⟨h.memory, fun call hcall => ?_⟩
    rcases List.mem_append.1 hcall with hcall | hcall
    · exact h.calls call hcall
    · rw [List.mem_singleton.1 hcall]
      exact Call.regular_start setup now hturn
  | answered hcalls hrest =>
    have hregular := hcalls ▸ h.calls
    simp only [List.mem_append, List.mem_cons] at hregular
    have hcall := hregular _ (.inr (.inl rfl))
    refine ⟨hkept.handle _ _ _ _ hcall.allowed (hcall.mayAsk_next hrest) h.memory,
      fun call hmem => ?_⟩
    simp only [List.mem_append, List.mem_cons] at hmem
    rcases hmem with hmem | rfl | hmem
    · exact hregular _ (.inl hmem)
    · exact hcall.answered hrest h.memory
    · exact hregular _ (.inr (.inr hmem))
  | idle => exact h
  | surrounded listings inventoryFault senderFault =>
    exact ⟨hkept.surround _ _ _ _ h.memory, h.calls⟩

/-- What holds at first and is kept by every step from regular traffic holds after every run. -/
lemma Regular.run_induction (hkept : Kept allowed P) {Q : Traffic → Prop}
    (hstep : ∀ t turn, t.Regular allowed P → turn.Allowed allowed → Q t → Q (t.step turn))
    (hturns : ∀ turn ∈ turns, turn.Allowed allowed) (h : t.Regular allowed P) (hq : Q t) :
    (t.run turns).Regular allowed P ∧ Q (t.run turns) := by
  induction turns generalizing t with
  | nil => exact ⟨h, hq⟩
  | cons turn turns ih =>
    rw [List.forall_mem_cons] at hturns
    exact ih hturns.2 (h.step hkept hturns.1) (hstep t turn h hturns.1 hq)

end Traffic
end ListingSearch
