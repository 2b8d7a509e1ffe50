import ListingSearch.Memory.Basic
import ListingSearch.Proofs.Plan
import ListingSearch.SavedSearch.Registry

/-! Runs of the registry against the stores in memory: its operations one after the other, and
between them the inventory may change, the clock may be set, and the inventory and the sender may
fail and recover. What every operation gave is kept in a history. -/
namespace ListingSearch

namespace Registry

/-- How a registry is set up: its limits, and whether it can send. -/
structure Setup where
  policy : Policy
  hasSender : Bool

/-- An operation of the registry with its arguments. A version or a choice that is null is not
given. -/
inductive Operation where
  | create (owner name filter : Value)
  | get (id : Value)
  | ofOwner (owner : Value)
  | edit (id filter version : Value)
  | setActive (id active : Value)
  | delete (id : Value)
  | currentMatches (id : Value)
  | newMatches (id : Value)
  | markDelivered (id listings : Value)
  | deliver (id chosen : Value)

inductive Answer where
  | search (s : SavedSearch)
  | searches (ss : List SavedSearch)
  | listings (ls : List Listing)
  | identifiers (ids : List Value)
  | nothing

/-- What an operation asks of the stores and the sender. -/
def Operation.plan (setup : Setup) (now : Instant) : Operation → Plan Service Answer
  | .create owner name filter => .search <$> Registry.create now owner name filter
  | .get id => .search <$> Registry.get now id
  | .ofOwner owner => .searches <$> Registry.ofOwner now owner
  | .edit id filter version => .search <$> Registry.edit now id filter version
  | .setActive id active => .search <$> Registry.setActive now id active
  | .delete id => (fun _ => .nothing) <$> Registry.delete id
  | .currentMatches id => .listings <$> Registry.currentMatches setup.policy now id
  | .newMatches id => .listings <$> Registry.newMatches setup.policy now id
  | .markDelivered id listings => .identifiers <$> Registry.markDelivered now id listings
  | .deliver id chosen =>
    .identifiers <$> Registry.deliver setup.policy now setup.hasSender id chosen

end Registry

open Registry (Setup Operation Answer)

/-- What can happen: an operation is called, or something changes outside of the registry. -/
inductive Event where
  | call (setup : Setup) (operation : Operation)
  | restock (listings : List Record)
  | clock (now : Instant)
  | inventoryFault (fault : Option String)
  | senderFault (fault : Option String)

/-- The stores and the sender, the time, and what the operations so far gave. -/
structure World where
  memory : Memory
  now : Instant
  history : List (Operation × Outcome Answer) := []

namespace World

def start (now : Instant) : World := { memory := {}, now }

def carryOut (w : World) (setup : Setup) (operation : Operation) : Outcome Answer × Memory :=
  (operation.plan setup w.now).run Memory.handle w.memory

def step (w : World) : Event → World
  | .call setup operation =>
    let (outcome, memory) := w.carryOut setup operation
    { w with memory, history := w.history ++ [(operation, outcome)] }
  | .restock listings => { w with memory := { w.memory with listings } }
  | .clock now => { w with now }
  | .inventoryFault fault => { w with memory := { w.memory with inventoryFault := fault } }
  | .senderFault fault => { w with memory := { w.memory with senderFault := fault } }

def run (w : World) (events : List Event) : World := events.foldl step w

/-- What holds at first and is kept by every event of a kind holds after all events of the kind. -/
lemma run_preserves {P : World → Prop} {kind : Event → Prop}
    (hstep : ∀ w event, kind event → P w → P (w.step event)) {events : List Event}
    (h : ∀ event ∈ events, kind event) {w : World} (hw : P w) :
    P (w.run events) := by
  induction events generalizing w with
  | nil => exact hw
  | cons event events ih =>
    exact ih (fun e he => h e (by simp [he])) (hstep w event (h event (by simp)) hw)

end World

/-- The request changes neither the archive nor what was sent. -/
def Service.Request.OnlyLooks : Service.Request → Prop
  | .listings .. | .countListings _ | .owners _ | .find _ | .ofOwner _ => True
  | _ => False

def Service.Request.SendsNothing : Service.Request → Prop
  | .send .. => False
  | _ => True

namespace Registry

variable {policy : Policy} {now : Instant} {id : Value}

lemma asks_get : (get now id).Asks Service.Request.OnlyLooks := by
  refine (Plan.asks_request trivial).bind fun row => ?_
  split <;> simp [missing]

lemma asks_ofOwner (owner : Value) : (ofOwner now owner).Asks Service.Request.OnlyLooks :=
  (Plan.asks_request trivial).bind fun _ => Plan.asks_ofOutcome _

lemma asks_resultsWithout (search : SavedSearch) (excluded : TextSet) :
    (resultsWithout policy now search excluded).Asks Service.Request.OnlyLooks := by
  refine (Plan.asks_ofOutcome _).bind fun s => ?_
  unfold Search.find
  dsimp only
  split
  · trivial
  · exact (Plan.asks_request trivial).bind fun _ => Plan.asks_ofOutcome _

lemma asks_currentMatches : (currentMatches policy now id).Asks Service.Request.OnlyLooks :=
  asks_get.bind fun _ => asks_resultsWithout _ _

lemma asks_newMatches : (newMatches policy now id).Asks Service.Request.OnlyLooks :=
  asks_get.bind fun _ => asks_resultsWithout _ _

lemma asks_deliverable (chosen : Value) :
    (deliverable policy now id chosen).Asks Service.Request.OnlyLooks := by
  unfold deliverable
  split
  · exact asks_newMatches.map _
  · exact (asks_get.map _).bind fun _ => Plan.asks_ofOutcome _

end Registry
end ListingSearch
