import ListingSearch.Proofs.SavedSearch.Delivery

/-! What the operations of the registry may ask of the stores and the sender, whatever these answer.
Most requests only look; every operation that changes something asks for the one change that it is
there for, with data that it has checked before. -/
namespace ListingSearch

namespace Plan

variable {I : Interface} {α β : Type} {kind : I.Request → Prop} {P : α → Prop}

/-- Every result that the plan can come to has a property. -/
def Yields (P : α → Prop) : Plan I α → Prop
  | .done a => P a
  | .fail _ => True
  | .ask _ next => ∀ reply, (next reply).Yields P

lemma Asks.bind_of_yields {p : Plan I α} {f : α → Plan I β} (hp : p.Asks kind) (hy : p.Yields P)
    (hf : ∀ a, P a → (f a).Asks kind) : (p >>= f).Asks kind := by
  induction p with
  | done a => exact hf a hy
  | fail failure => trivial
  | ask request next ih => exact ⟨hp.1, fun reply => ih reply (hp.2 reply) (hy reply)⟩

lemma yields_bind {p : Plan I α} {f : α → Plan I β} {Q : β → Prop} (h : ∀ a, (f a).Yields Q) :
    (p >>= f).Yields Q := by
  induction p with
  | done a => exact h a
  | fail failure => trivial
  | ask request next ih => exact ih

lemma yields_ofOutcome {x : Outcome α} (h : ∀ a, x = .ok a → P a) :
    (ofOutcome x : Plan I α).Yields P := by
  cases x with
  | ok a => exact h a rfl
  | error failure => trivial

end Plan

namespace Registry

/-- The requests to which an operation can come. -/
inductive Operation.MayAsk (now : Instant) : Operation → Service.Request → Prop
  | look {operation : Operation} {request : Service.Request} (h : request.OnlyLooks) :
    MayAsk now operation request
  | create {ownerData nameData filter : Value} {owner name : String} {criteria : Criteria}
    (hcriteria : Criteria.read true filter = .ok criteria)
    (hname : SavedSearch.checkName nameData = .ok name)
    (howner : SavedSearch.checkOwner ownerData = .ok owner) :
    MayAsk now (.create ownerData nameData filter)
      (.create (SavedSearch.create owner name criteria now))
  | replace {id filter given version : Value} {criteria : Criteria}
    (hcriteria : Criteria.read true filter = .ok criteria)
    (hversion : if given.isNull then ∃ n, version = .int n else version = given) :
    MayAsk now (.edit id filter given) (.replaceCriteria id (.object criteria.toDocument) version)
  | setActive {id active : Value} : MayAsk now (.setActive id active) (.setActive id active)
  | delete {id : Value} : MayAsk now (.delete id) (.delete id)
  | mark {id listings : Value} {ids : List Value} (h : identifiers listings = .ok ids) :
    MayAsk now (.markDelivered id listings) (.addDelivered id (.list ids))
  | send {id chosen : Value} {ids : List Value} : MayAsk now (.deliver id chosen) (.send id ids)
  /-- A delivery notes what it sent. -/
  | note {id chosen : Value} {sent ids : List Value}
    (hsent : (∃ ss : List String, sent = ss.map .text) ∨ identifiers chosen = .ok sent)
    (h : identifiers (.list sent) = .ok ids) :
    MayAsk now (.deliver id chosen) (.addDelivered id (.list ids))

variable {policy : Policy} {setup : Setup} {now : Instant} {id : Value}

lemma asks_get_mayAsk (now' : Instant) (operation : Operation) :
    (get now id).Asks (operation.MayAsk now') :=
  asks_get.mono fun _ => .look

lemma mayAsk_create (owner name filter : Value) :
    (create now owner name filter).Asks ((Operation.create owner name filter).MayAsk now) := by
  unfold create
  cases hcriteria : Criteria.read true filter with
  | error failure => trivial
  | ok criteria =>
    cases hname : SavedSearch.checkName name with
    | error failure => trivial
    | ok checkedName =>
      cases howner : SavedSearch.checkOwner owner with
      | error failure => trivial
      | ok checkedOwner =>
        change Plan.Asks _ (Plan.request (I := Service)
          (.create (SavedSearch.create checkedOwner checkedName criteria now)) >>= _)
        refine (Plan.asks_request (.create hcriteria hname howner)).bind fun row => ?_
        split <;> simp

lemma mayAsk_edit (filter given : Value) :
    (edit now id filter given).Asks ((Operation.edit id filter given).MayAsk now) := by
  unfold edit
  cases hcriteria : Criteria.read true filter with
  | error failure => trivial
  | ok criteria =>
    have hlook : Plan.Asks ((Operation.edit id filter given).MayAsk now)
        (Plan.request (I := Service) (.find id)) := Plan.asks_request (.look trivial)
    have hread : Plan.Yields (fun version => ∃ n, version = .int n)
        ((fun s => Value.int s.version) <$> get now id) :=
      Plan.yields_bind fun s => ⟨s.version, rfl⟩
    by_cases hgiven : given.isNull = true
    · simp only [if_pos hgiven]
      refine ((asks_get_mayAsk now _).map _).bind_of_yields hread fun version hversion => ?_
      have hnew : if given.isNull then ∃ n, version = .int n else version = given := by
        rwa [if_pos hgiven]
      refine (Plan.asks_request (.replace hcriteria hnew)).bind fun row => ?_
      split
      · simp
      · refine hlook.bind fun row => ?_
        split <;> simp [missing]
    · simp only [if_neg hgiven]
      have hsame : if given.isNull then ∃ n, given = .int n else given = given := by
        rw [if_neg hgiven]
      refine (Plan.asks_request (.replace hcriteria hsame)).bind fun row => ?_
      split
      · simp
      · refine hlook.bind fun row => ?_
        split <;> simp [missing]

lemma mayAsk_setActive (active : Value) :
    (setActive now id active).Asks ((Operation.setActive id active).MayAsk now) := by
  refine (Plan.asks_request .setActive).bind fun row => ?_
  split <;> simp [missing]

lemma mayAsk_delete : (delete id).Asks ((Operation.delete id).MayAsk now) := by
  refine (Plan.asks_request .delete).bind fun found => ?_
  split <;> simp [missing]

lemma asks_markDelivered_of_identifiers {kind : Service.Request → Prop} (listings : Value)
    (hlook : ∀ request, Service.Request.OnlyLooks request → kind request)
    (h : ∀ ids, identifiers listings = .ok ids → kind (.addDelivered id (.list ids))) :
    (markDelivered now id listings).Asks kind := by
  unfold markDelivered
  cases hids : identifiers listings with
  | error failure => trivial
  | ok ids =>
    cases ids with
    | nil => exact (asks_get.mono hlook).map _
    | cons v vs =>
      change Plan.Asks _
        (Plan.request (I := Service) (.addDelivered id (.list (v :: vs))) >>= _)
      refine (Plan.asks_request (h _ hids)).bind fun all => ?_
      split <;> simp [missing]

lemma yields_deliverable (chosen : Value) :
    (deliverable policy now id chosen).Yields fun sent =>
      (∃ ss : List String, sent = ss.map .text) ∨ identifiers chosen = .ok sent := by
  unfold deliverable
  split
  · exact Plan.yields_bind fun ls => .inl ⟨ls.map (·.id), by simp⟩
  · exact Plan.yields_bind fun _ => Plan.yields_ofOutcome fun _ => .inr

lemma mayAsk_deliver (hasSender : Bool) (chosen : Value) :
    (deliver policy now hasSender id chosen).Asks ((Operation.deliver id chosen).MayAsk now) := by
  unfold deliver
  split
  · refine Plan.Asks.bind_of_yields ((asks_deliverable chosen).mono fun _ => .look)
      (yields_deliverable chosen) fun sent hsent => ?_
    split
    · simp
    · refine (Plan.asks_request .send).bind fun _ => ?_
      refine Plan.Asks.bind (Plan.Asks.map ?_ _) fun _ => by simp
      exact asks_markDelivered_of_identifiers _ (fun _ => .look) fun _ hids => .note hsent hids
  · simp

/-- Operations ask for nothing else. -/
theorem Operation.asks_mayAsk (setup : Setup) (now : Instant) (operation : Operation) :
    (operation.plan setup now).Asks (operation.MayAsk now) := by
  cases operation with
  | create owner name filter => exact (mayAsk_create owner name filter).map _
  | get id => exact (asks_get_mayAsk now _).map _
  | ofOwner owner => exact ((asks_ofOwner owner).mono fun _ => .look).map _
  | edit id filter version => exact (mayAsk_edit filter version).map _
  | setActive id active => exact (mayAsk_setActive active).map _
  | delete id => exact mayAsk_delete.map _
  | currentMatches id => exact (asks_currentMatches.mono fun _ => .look).map _
  | newMatches id => exact (asks_newMatches.mono fun _ => .look).map _
  | markDelivered id listings =>
    exact (asks_markDelivered_of_identifiers listings (fun _ => .look) fun _ => .mark).map _
  | deliver id chosen => exact (mayAsk_deliver setup.hasSender chosen).map _

end Registry
end ListingSearch
