import ListingSearch.Plan
import ListingSearch.Proofs.Outcome

/-! What a plan can ask for, and what follows for the states in which it is carried out. A property
of states that no request of a kind destroys is kept by every plan that asks only for that kind. -/
namespace ListingSearch.Plan

variable {I : Interface} {α β σ : Type} {handle : Handler I σ}

/-- Every request that the plan can come to is of a kind. -/
def Asks (kind : I.Request → Prop) : Plan I α → Prop
  | .done _ => True
  | .fail _ => True
  | .ask request next => kind request ∧ ∀ reply, (next reply).Asks kind

variable {kind other : I.Request → Prop}

@[simp] lemma asks_pure (a : α) : Asks kind (pure a : Plan I α) := trivial

@[simp] lemma asks_fail (failure : Failure) : Asks kind (.fail failure : Plan I α) := trivial

@[simp] lemma asks_ofOutcome (x : Outcome α) : Asks kind (ofOutcome x : Plan I α) := by
  cases x <;> trivial

lemma asks_request {request : I.Request} (h : kind request) :
    Asks kind (Plan.request request : Plan I (I.Reply request)) := ⟨h, fun _ => trivial⟩

lemma Asks.bind {p : Plan I α} {f : α → Plan I β} (hp : p.Asks kind)
    (hf : ∀ a, (f a).Asks kind) : (p >>= f).Asks kind := by
  induction p with
  | done a => exact hf a
  | fail failure => trivial
  | ask request next ih => exact ⟨hp.1, fun reply => ih reply (hp.2 reply)⟩

lemma Asks.map {p : Plan I α} (hp : p.Asks kind) (f : α → β) : (f <$> p).Asks kind :=
  hp.bind fun _ => trivial

lemma Asks.mono {p : Plan I α} (hp : p.Asks kind) (h : ∀ request, kind request → other request) :
    p.Asks other := by
  induction p with
  | done a => trivial
  | fail failure => trivial
  | ask request next ih => exact ⟨h _ hp.1, fun reply => ih reply (hp.2 reply)⟩

lemma asks_any (p : Plan I α) : p.Asks fun _ => True := by
  induction p with
  | done a => trivial
  | fail failure => trivial
  | ask request next ih => exact ⟨trivial, ih⟩

/-- What no request of a kind destroys is there after a plan that asks only for that kind. -/
lemma Asks.preserves {P : σ → Prop} (handle : Handler I σ)
    (hstep : ∀ request s, kind request → P s → P (handle request s).2)
    {p : Plan I α} (hp : p.Asks kind) {s : σ} (hs : P s) :
    P (run handle p s).2 := by
  induction p generalizing s with
  | done a => exact hs
  | fail failure => exact hs
  | ask request next ih =>
    have hnext := hstep request s hp.1 hs
    rw [run]
    split
    · rename_i reply s' heq
      rw [heq] at hnext
      exact ih reply (hp.2 reply) hnext
    · rename_i failure s' heq
      rwa [heq] at hnext

lemma run_ofOutcome (x : Outcome α) (s : σ) : run handle (ofOutcome x : Plan I α) s = (x, s) := by
  cases x <;> rfl

lemma run_request (request : I.Request) (s : σ) :
    run handle (Plan.request request : Plan I (I.Reply request)) s = handle request s := by
  rw [Plan.request, run]
  split <;> simp_all

/-- A plan goes on only where its first part gave a result. -/
lemma run_bind_eq_ok {p : Plan I α} {f : α → Plan I β} {s t : σ} {b : β}
    (h : run handle (p >>= f) s = (.ok b, t)) :
    ∃ a u, run handle p s = (.ok a, u) ∧ run handle (f a) u = (.ok b, t) := by
  have hbind := run_bind handle p f s
  change run handle (p.bind f) s = _ at h
  rw [h] at hbind
  split at hbind
  · rename_i a u hp
    exact ⟨a, u, hp, hbind.symm⟩
  · cases hbind

/-- A plan comes to what its rest comes to after the result of its first part, or it fails with that
part. -/
lemma exists_of_run_bind {p : Plan I α} {f : α → Plan I β} {s t : σ} {y : Outcome β}
    (h : run handle (p >>= f) s = (y, t)) : ∃ x u, run handle p s = (x, u) ∧
      (∀ a, x = .ok a → run handle (f a) u = (y, t)) ∧
      ∀ failure, x = .error failure → y = .error failure ∧ t = u := by
  have hbind := run_bind handle p f s
  change run handle (p.bind f) s = _ at h
  rw [h] at hbind
  cases hp : run handle p s with
  | mk x u =>
    rw [hp] at hbind
    refine ⟨x, u, rfl, ?_, ?_⟩
    · rintro a rfl
      exact hbind.symm
    · rintro failure rfl
      exact Prod.mk.inj hbind

lemma run_bind_of_ok {p : Plan I α} {f : α → Plan I β} {s u : σ} {a : α}
    (h : run handle p s = (.ok a, u)) : run handle (p >>= f) s = run handle (f a) u := by
  change run handle (p.bind f) s = _
  rw [run_bind, h]

lemma run_bind_of_error {p : Plan I α} {f : α → Plan I β} {s u : σ} {failure : Failure}
    (h : run handle p s = (.error failure, u)) :
    run handle (p >>= f) s = (.error failure, u) := by
  change run handle (p.bind f) s = _
  rw [run_bind, h]

lemma run_ofOutcome_eq_ok {x : Outcome α} {s t : σ} {a : α}
    (h : run handle (ofOutcome x : Plan I α) s = (.ok a, t)) : x = .ok a ∧ s = t := by
  rw [run_ofOutcome] at h
  obtain ⟨hx, rfl⟩ := Prod.mk.inj h
  exact ⟨hx, rfl⟩

lemma exists_of_run_map {p : Plan I α} {f : α → β} {s t : σ} {y : Outcome β}
    (h : run handle (f <$> p) s = (y, t)) : ∃ x, run handle p s = (x, t) ∧ f <$> x = y := by
  cases hp : run handle p s with
  | mk x u =>
    cases x with
    | ok a =>
      have hrun : run handle (f <$> p) s = (.ok (f a), u) := run_bind_of_ok hp
      rw [hrun] at h
      obtain ⟨rfl, rfl⟩ := Prod.mk.inj h
      exact ⟨.ok a, rfl, rfl⟩
    | error failure =>
      have hrun : run handle (f <$> p) s = (.error failure, u) := run_bind_of_error hp
      rw [hrun] at h
      obtain ⟨rfl, rfl⟩ := Prod.mk.inj h
      exact ⟨.error failure, rfl, rfl⟩

lemma run_map_eq_ok {p : Plan I α} {f : α → β} {s t : σ} {b : β}
    (h : run handle (f <$> p) s = (.ok b, t)) : ∃ a, run handle p s = (.ok a, t) ∧ f a = b := by
  obtain ⟨x, hx, hmap⟩ := exists_of_run_map h
  obtain ⟨a, rfl, hb⟩ := Outcome.map_eq_ok hmap
  exact ⟨a, hx, hb⟩

def resume {request : I.Request} (next : I.Reply request → Plan I α) :
    Outcome (I.Reply request) → Plan I α
  | .ok reply => next reply
  | .error failure => .fail failure

def result? : Plan I α → Option (Outcome α)
  | .done a => some (.ok a)
  | .fail failure => some (.error failure)
  | .ask .. => none

/-- A request, and the state in which it was answered. -/
structure Exchange (I : Interface) (σ : Type) where
  request : I.Request
  before : σ

/-- What is left of a plan after some requests, each of which was answered in a state of its own. -/
inductive Leaves (handle : Handler I σ) : Plan I α → List (Exchange I σ) → Plan I α → Prop
  | start (p : Plan I α) : Leaves handle p [] p
  | ask {request : I.Request} {next : I.Reply request → Plan I α} {s : σ}
    {past : List (Exchange I σ)} {rest : Plan I α}
    (h : Leaves handle (resume next (handle request s).1) past rest) :
    Leaves handle (.ask request next) (⟨request, s⟩ :: past) rest

variable {p rest : Plan I α} {past : List (Exchange I σ)}

@[simp] lemma result?_ofOutcome (x : Outcome α) : (ofOutcome x : Plan I α).result? = some x := by
  cases x <;> rfl

lemma asks_resume {request : I.Request} {next : I.Reply request → Plan I α}
    (h : ∀ reply, (next reply).Asks kind) (answer : Outcome (I.Reply request)) :
    (resume next answer).Asks kind := by
  cases answer with
  | ok reply => exact h reply
  | error failure => trivial

lemma Leaves.snoc {request : I.Request} {next : I.Reply request → Plan I α}
    (h : Leaves handle p past (.ask request next)) (s : σ) :
    Leaves handle p (past ++ [⟨request, s⟩]) (resume next (handle request s).1) := by
  generalize hrest : Plan.ask request next = rest at h
  induction h with
  | start p =>
    subst hrest
    exact .ask (.start _)
  | ask h ih => exact .ask (ih hrest)

/-- A plan that asks only for a kind asked, and will ask, only for that kind. -/
lemma Leaves.asks (h : Leaves handle p past rest) (hp : p.Asks kind) :
    rest.Asks kind ∧ ∀ x ∈ past, kind x.request := by
  induction h with
  | start p => exact ⟨hp, by simp⟩
  | ask h ih =>
    obtain ⟨hrest, hpast⟩ := ih (asks_resume hp.2 _)
    exact ⟨hrest, List.forall_mem_cons.2 ⟨hp.1, hpast⟩⟩

/-- A plan that asks nothing more was left as it is. -/
lemma Leaves.eq_of_result? (h : Leaves handle p past rest) {x : Outcome α}
    (hp : p.result? = some x) : past = [] ∧ rest = p := by
  cases h with
  | start => exact ⟨rfl, rfl⟩
  | ask h => cases hp

/-- What is left of a composed plan is left of its first part, or that came to a result and it is
left of the rest. -/
lemma Leaves.bind_cases {p : Plan I α} {f : α → Plan I β} {rest : Plan I β}
    (h : Leaves handle (p >>= f) past rest) :
    (∃ q, Leaves handle p past q ∧ rest = q >>= f) ∨
      ∃ front back a, past = front ++ back ∧ Leaves handle p front (.done a) ∧
        Leaves handle (f a) back rest := by
  induction p generalizing past with
  | done a => exact .inr ⟨[], past, a, rfl, .start _, h⟩
  | fail failure =>
    cases h with
    | start => exact .inl ⟨_, .start _, rfl⟩
  | ask request next ih =>
    cases h with
    | start => exact .inl ⟨_, .start _, rfl⟩
    | @ask _ _ s past _ h =>
      have hask {front : List (Exchange I σ)} {q : Plan I α}
          (hq : Leaves handle (resume next (handle request s).1) front q) :
          Leaves handle (.ask request next) (⟨request, s⟩ :: front) q := .ask hq
      cases hanswer : (handle request s).1 with
      | error failure =>
        rw [hanswer] at h hask
        obtain ⟨rfl, rfl⟩ := h.eq_of_result? rfl
        exact .inl ⟨_, hask (.start _), rfl⟩
      | ok reply =>
        rw [hanswer] at h hask
        rcases ih reply h with ⟨q, hq, rfl⟩ | ⟨front, back, a, rfl, hfront, hback⟩
        · exact .inl ⟨q, hask hq, rfl⟩
        · exact .inr ⟨_ :: front, back, a, rfl, hask hfront, hback⟩

lemma Leaves.exists_of_map {p : Plan I α} {f : α → β} {rest : Plan I β}
    (h : Leaves handle (f <$> p) past rest) : ∃ q, Leaves handle p past q ∧ rest = f <$> q := by
  rcases h.bind_cases with hfirst | ⟨front, back, a, rfl, hfront, hback⟩
  · exact hfirst
  · obtain ⟨rfl, rfl⟩ := hback.eq_of_result? rfl
    rw [List.append_nil]
    exact ⟨.done a, hfront, rfl⟩

@[simp] lemma result?_map (p : Plan I α) (f : α → β) :
    (f <$> p).result? = p.result?.map (f <$> ·) := by
  cases p <;> rfl

end ListingSearch.Plan
