import ListingSearch.Proofs.Plan
import ListingSearch.Remote.Retry
import ListingSearch.Remote.Stores
import ListingSearch.SavedSearch.Registry
import Mathlib.Data.Nat.Find

/-! Which attempts a request takes. The attempts at all requests come out one after the other in a
given course. A request takes those that are lost up to the first one that is not, but no more than
its patience allows; the next request takes the ones behind them, unless there is none because this
one failed. -/
namespace ListingSearch

namespace Remote

variable {α : Type}

/-- What an attempt comes to, unless it was lost. -/
def Attempt.outcome? : Attempt α → Option (Outcome α)
  | .answered a => some (.ok a)
  | .lost _ => none
  | .refused failure => some (.error failure)

/-- What comes of the attempts at all requests, one after the other. -/
abbrev Course := Nat → Attempt Response

/-- The way to the service on which attempts take their course. The requests that were attempted are
kept. -/
def Course.transport (course : Course) : Transport (List Request) where
  prepare _ made := made
  attempt r made := (course made.length, made ++ [r])
  pause _ made := made

/-- What a request takes of the course, and what comes of it, whatever its response is read for. -/
structure Takes (course : Course) (patience : Patience) (made : List Request) (r : Request) :
    Prop where
  /-- It takes the attempts up to the first that is not lost, and comes to what that came to. -/
  settled (k : Nat) (hk : k < patience.attempts)
    (hlost : ∀ i < k, (course (made.length + i)).outcome? = none) (outcome : Outcome Response)
    (hsettled : (course (made.length + k)).outcome? = some outcome)
    {α : Type} (read : Response → α) :
    (read <$> Plan.request (I := Remote) r).run (course.transport.handle patience) made =
      (read <$> outcome, made ++ List.replicate (k + 1) r)
  /-- If all attempts are lost that patience allows, it takes these and tells why the last was. -/
  exhausted (hlost : ∀ i < patience.attempts, (course (made.length + i)).outcome? = none) :
    ∃ reason failure, course (made.length + (patience.attempts - 1)) = .lost reason ∧
      failure.isTransient = true ∧ failure.operation? = some r.operation ∧
      failure.message? = some ("Falla transitoria en " ++ r.operation ++ ": " ++ reason) ∧
      ∀ {α : Type} (read : Response → α),
        (read <$> Plan.request (I := Remote) r).run (course.transport.handle patience) made =
          (.error failure, made ++ List.replicate patience.attempts r)

variable {course : Course} {patience : Patience} {made : List Request} {r : Request}

lemma Attempt.exists_reason {attempt : Attempt α} (h : attempt.outcome? = none) :
    ∃ reason, attempt = .lost reason := by
  cases attempt with
  | lost reason => exact ⟨reason, rfl⟩
  | _ => cases h

/-- How the attempts at a request go on after some, and how many more there can be. -/
abbrev Course.goesOn (course : Course) (patience : Patience) (r : Request) :
    Nat → Nat → List Request → Outcome Response × List Request :=
  persist r.operation (course.transport.attempt r)
    fun k => course.transport.pause (patience.pause k)

/-- Attempts that are lost are passed over, as long as patience lasts. -/
lemma goesOn_of_lost (course : Course) (patience : Patience) (r : Request) (lost : Nat) :
    ∀ (k more : Nat) (made : List Request),
      (∀ i < lost, (course (made.length + i)).outcome? = none) →
      course.goesOn patience r k (more + lost) made =
        course.goesOn patience r (k + lost) more (made ++ List.replicate lost r) := by
  induction lost with
  | zero => simp
  | succ lost ih =>
    intro k more made hlost
    obtain ⟨reason, hfirst⟩ := Attempt.exists_reason (hlost 0 (Nat.zero_lt_succ lost))
    have hnext : ∀ i < lost, (course ((made ++ [r]).length + i)).outcome? = none := by
      intro i hi
      have h := hlost (i + 1) (Nat.succ_lt_succ hi)
      rwa [List.length_append, List.length_singleton, Nat.add_assoc, Nat.add_comm 1 i]
    rw [Nat.add_zero] at hfirst
    have hstep : course.goesOn patience r k (more + lost + 1) made =
        course.goesOn patience r (k + 1) (more + lost) (made ++ [r]) := by
      rw [Course.goesOn, persist]
      simp only [Course.transport, hfirst]
    rw [← Nat.add_assoc, hstep, ih (k + 1) more (made ++ [r]) hnext, Nat.add_right_comm,
      Nat.add_assoc, List.append_assoc, List.replicate_succ, List.singleton_append]

lemma handle_of_sendable (h : r.obstacle? = none) (made : List Request) :
    course.transport.handle patience r made =
      course.goesOn patience r 0 (patience.attempts - 1) made := by
  rw [Transport.handle, h]
  rfl

/-- The attempt behind those that are lost decides. -/
lemma handle_settled (h : r.obstacle? = none) {k : Nat} (hk : k < patience.attempts)
    (hlost : ∀ i < k, (course (made.length + i)).outcome? = none) {outcome : Outcome Response}
    (hsettled : (course (made.length + k)).outcome? = some outcome) :
    course.transport.handle patience r made = (outcome, made ++ List.replicate (k + 1) r) := by
  obtain ⟨more, hmore⟩ := Nat.exists_eq_add_of_le' (Nat.le_sub_one_of_lt hk)
  rw [handle_of_sendable h, hmore, goesOn_of_lost course patience r k 0 more made hlost,
    Course.goesOn, persist]
  simp only [Course.transport, List.length_append, List.length_replicate, List.append_assoc,
    ← List.replicate_succ']
  cases hcourse : course (made.length + k) with
  | lost reason => simp [hcourse, Attempt.outcome?] at hsettled
  | _ =>
    rw [hcourse] at hsettled
    cases hsettled
    rfl

/-- The last of the attempts that are all lost tells why. -/
lemma handle_exhausted (h : r.obstacle? = none) (hpatience : 1 ≤ patience.attempts)
    (hlost : ∀ i < patience.attempts, (course (made.length + i)).outcome? = none) :
    ∃ reason, course (made.length + (patience.attempts - 1)) = .lost reason ∧
      course.transport.handle patience r made =
        (.error (.unreachable r.operation reason),
          made ++ List.replicate patience.attempts r) := by
  obtain ⟨more, hmore⟩ := Nat.exists_eq_add_of_le' hpatience
  rw [hmore] at hlost ⊢
  obtain ⟨reason, hlast⟩ := Attempt.exists_reason (hlost more (Nat.lt_succ_self more))
  refine ⟨reason, hlast, ?_⟩
  have hrun := goesOn_of_lost course patience r more 0 0 made fun i hi => hlost i (by omega)
  rw [Nat.zero_add] at hrun
  rw [handle_of_sendable h, hmore, Nat.add_sub_cancel, hrun, Course.goesOn, persist]
  simp only [Course.transport, List.length_append, List.length_replicate, List.append_assoc,
    ← List.replicate_succ', hlast]

lemma run_map_of_handle {handle : Handler Remote (List Request)} {outcome : Outcome Response}
    {made' : List Request} (h : handle r made = (outcome, made')) (read : Response → α) :
    (read <$> Plan.request (I := Remote) r).run handle made = (read <$> outcome, made') := by
  have hrun : (Plan.request (I := Remote) r).run handle made = (outcome, made') := by
    rw [Plan.run_request, h]
  cases outcome with
  | ok response => exact Plan.run_bind_of_ok hrun
  | error failure => exact Plan.run_bind_of_error hrun

/-- A request that can be sent takes from the course what patience allows. -/
lemma takes_of_sendable (course : Course) (made : List Request) (hpatience : 1 ≤ patience.attempts)
    (h : r.obstacle? = none) : Takes course patience made r where
  settled k hk hlost outcome hsettled _ read :=
    run_map_of_handle (handle_settled h hk hlost hsettled) read
  exhausted hlost := by
    obtain ⟨reason, hlast, hrun⟩ := handle_exhausted h hpatience hlost
    exact ⟨reason, .unreachable r.operation reason, hlast, rfl, rfl, rfl, run_map_of_handle hrun⟩

structure Note where
  request : Request
  /-- How many attempts it took. -/
  attempts : Nat
  failure? : Option Failure

def Note.attempted (note : Note) : List Request := List.replicate note.attempts note.request

/-- Answers requests by another handler and notes them. -/
def noting (handle : Handler Remote (List Request)) : Handler Remote (List Request × List Note) :=
  fun r s =>
    match handle r s.1 with
    | (.ok response, made) => (.ok response, made, s.2 ++ [⟨r, made.length - s.1.length, none⟩])
    | (.error failure, made) =>
      (.error failure, made, s.2 ++ [⟨r, made.length - s.1.length, some failure⟩])

/-- All attempts were made for the requests that are noted, with patience, and a request that failed
is the last one and decides. -/
structure Stops (patience : Patience) (made made' : List Request) (outcome : Outcome α)
    (notes : List Note) : Prop where
  attempts : made' = made ++ notes.flatMap Note.attempted
  patient : ∀ note ∈ notes, note.attempts ≤ patience.attempts
  last : ∀ front note back failure, notes = front ++ note :: back → note.failure? = some failure →
    back = [] ∧ outcome = .error failure

lemma Stops.nil (outcome : Outcome α) : Stops patience made made outcome [] where
  attempts := by simp
  patient := by simp
  last := by simp

lemma Stops.failed {k : Nat} (hk : k ≤ patience.attempts) (failure : Failure) :
    Stops patience made (made ++ List.replicate k r) (.error failure : Outcome α)
      [⟨r, k, some failure⟩] where
  attempts := by simp [Note.attempted]
  patient := by simpa using hk
  last front note back failure heq hfailure := by
    rcases List.cons_eq_append_iff.1 heq with ⟨-, heq⟩ | ⟨front, rfl, hrest⟩
    · cases heq
      cases hfailure
      exact ⟨rfl, rfl⟩
    · simp at hrest

lemma Stops.answered {k : Nat} (hk : k ≤ patience.attempts) {made' : List Request}
    {outcome : Outcome α} {notes : List Note}
    (h : Stops patience (made ++ List.replicate k r) made' outcome notes) :
    Stops patience made made' outcome (⟨r, k, none⟩ :: notes) where
  attempts := by
    rw [h.attempts, List.flatMap_cons, List.append_assoc]
    rfl
  patient := List.forall_mem_cons.2 ⟨hk, h.patient⟩
  last front note back failure heq hfailure := by
    rcases List.cons_eq_append_iff.1 heq with ⟨-, heq⟩ | ⟨front, rfl, hrest⟩
    · cases heq
      cases hfailure
    · exact h.last front note back failure hrest hfailure

lemma exists_first {P : Nat → Prop} {n : Nat} (h : ¬ ∀ i < n, P i) :
    ∃ k, (k < n ∧ ¬ P k) ∧ ∀ i < k, P i := by
  classical
  have hex : ∃ k, k < n ∧ ¬ P k := by simpa using h
  refine ⟨Nat.find hex, Nat.find_spec hex, fun i hi => ?_⟩
  by_contra hP
  exact Nat.find_min hex hi ⟨Nat.lt_trans hi (Nat.find_spec hex).1, hP⟩

/-- However a request ends, it adds attempts of its own, and not more than patience allows. -/
lemma exists_attempts (course : Course) (hpatience : 1 ≤ patience.attempts) (r : Request)
    (made : List Request) : ∃ k ≤ patience.attempts, ∃ outcome,
      course.transport.handle patience r made = (outcome, made ++ List.replicate k r) := by
  cases h : r.obstacle? with
  | some failure =>
    refine ⟨0, Nat.zero_le _, .error failure, ?_⟩
    rw [Transport.handle, h, List.replicate_zero, List.append_nil]
    rfl
  | none =>
    by_cases hlost : ∀ i < patience.attempts, (course (made.length + i)).outcome? = none
    · obtain ⟨reason, -, hrun⟩ := handle_exhausted h hpatience hlost
      exact ⟨patience.attempts, Nat.le_refl _, _, hrun⟩
    · -- The first attempt that is not lost is the last one.
      obtain ⟨k, ⟨hk, hsome⟩, hfirst⟩ := exists_first hlost
      obtain ⟨outcome, hsettled⟩ := Option.ne_none_iff_exists'.1 hsome
      exact ⟨k + 1, hk, outcome, handle_settled h hk hfirst hsettled⟩

/-- Noting requests changes nothing, and none is noted behind one that failed. -/
lemma exists_run_noting (course : Course) (hpatience : 1 ≤ patience.attempts) (p : Plan Remote α)
    (made : List Request) (notes : List Note) :
    ∃ outcome made' more,
      p.run (course.transport.handle patience) made = (outcome, made') ∧
      p.run (noting (course.transport.handle patience)) (made, notes) =
        (outcome, made', notes ++ more) ∧
      Stops patience made made' outcome more := by
  induction p generalizing made notes with
  | done a => exact ⟨.ok a, made, [], rfl, by simp, .nil _⟩
  | fail failure => exact ⟨.error failure, made, [], rfl, by simp, .nil _⟩
  | ask r next ih =>
    obtain ⟨k, hk, outcome, hr⟩ := exists_attempts course hpatience r made
    cases outcome with
    | error failure =>
      refine ⟨.error failure, _, [⟨r, k, some failure⟩], ?_, ?_, .failed hk failure⟩
      · simp only [Plan.run, hr]
      · simp [Plan.run, noting, hr]
    | ok response =>
      obtain ⟨outcome, made', more, hrun, hnoted, hstops⟩ :=
        ih response (made ++ List.replicate k r) (notes ++ [⟨r, k, none⟩])
      refine ⟨outcome, made', ⟨r, k, none⟩ :: more, ?_, ?_, hstops.answered hk⟩
      · simp only [Plan.run, hr, hrun]
      · simp only [List.append_assoc, List.singleton_append] at hnoted
        simp [Plan.run, noting, hr, hnoted]

/-- A request takes just the attempts that are lost and the one that is not, if patience lasts so
long, and otherwise all that patience allows, of which the last tells why. Behind a request that
fails no plan sends another one; the operations of the stores are such plans. -/
theorem takes_and_stops (course : Course) (patience : Patience) (made : List Request)
    (hpatience : 1 ≤ patience.attempts) :
    (∀ r, r.obstacle? = none → Takes course patience made r) ∧
      (∀ {α : Type} (p : Plan Remote α), ∃ outcome made' notes,
        p.run (course.transport.handle patience) made = (outcome, made') ∧
        p.run (noting (course.transport.handle patience)) (made, []) = (outcome, made', notes) ∧
        Stops patience made made' outcome notes) ∧
      ∀ {α : Type} (p : Plan Service α) (access : Access) (now : Instant),
        p.run (service (course.transport.handle patience) access now) made =
          (p.through (answer access now)).run (course.transport.handle patience) made := by
  refine ⟨fun r => takes_of_sendable course made hpatience, ?_, ?_⟩
  · intro α p
    exact exists_run_noting course hpatience p made []
  · intro α p access now
    rw [Plan.run_through]
    rfl

/-- A course on which the second request gets no answer. -/
def silentSecond : Course
  | 0 => .lost "connection reset"
  | 1 => .answered { data := .list [.object [("id", .text "hs-1"), ("user_id", .text "ana"),
      ("name", .text "Centro"), ("version", .int 4)]] }
  | 2 => .lost "timed out"
  | 3 => .lost "connection refused"
  | _ => .answered { data := .int 7 }

/-- With two attempts a procedure gives its data after one lost answer; another one is given up
after two, and answered if it is called later. An edit reads the search in two attempts, is given up
while it replaces the criteria, and does not read the search again. -/
theorem takes_and_stops_silentSecond :
    let patience : Patience := { attempts := 2, maxPause := .zero false }
    let handle := silentSecond.transport.handle patience
    let sum : Request := .call "sum" []
    let data := (Response.data <$> Plan.request (I := Remote) sum : Plan Remote Value)
    let now : Instant := ⟨⟨2026, 3, 15⟩, 12, 30, 0, 0, some 0⟩
    let edit := (Registry.edit now (.text "hs-1") (.object []) .null).through
      (answer { sender := "", pageLimit := 1 } now)
    1 ≤ patience.attempts ∧ sum.obstacle? = none ∧
      discard (data.run handle []).1 = .ok () ∧ (data.run handle []).2 = [sum, sum] ∧
      (∃ failure, data.run handle [sum, sum] = (.error failure, [sum, sum, sum, sum]) ∧
        failure.message? = some "Falla transitoria en rpc:sum: connection refused") ∧
      data.run handle [sum, sum, sum, sum] = (.ok (.int 7), [sum, sum, sum, sum, sum]) ∧
      (∃ outcome made' notes, edit.run handle [] = (outcome, made') ∧
        edit.run (noting handle) ([], []) = (outcome, made', notes) ∧
        Stops patience [] made' outcome notes) ∧
      discard (edit.run handle []).1 =
        .error (.unreachable "hot_sheets.replace_criteria" "connection refused") ∧
      (edit.run handle []).2.length = 4 := by
  intro patience handle sum data now edit
  obtain ⟨htakes, hplans, -⟩ := takes_and_stops silentSecond patience [] (by decide)
  have hlater (made : List Request) : Takes silentSecond patience made sum :=
    (takes_and_stops silentSecond patience made (by decide)).1 sum rfl
  have hfirst := (htakes sum rfl).settled 1 (by decide) (by decide) _ rfl Response.data
  refine ⟨by decide, rfl, ?_, ?_, ?_, ?_, ?_, ?_, ?_⟩
  · exact congrArg (fun run => discard run.1) hfirst
  · exact congrArg Prod.snd hfirst
  · obtain ⟨reason, failure, hlast, -, -, hmessage, hrun⟩ :=
      (hlater [sum, sum]).exhausted (by decide)
    cases hlast
    exact ⟨failure, hrun Response.data, hmessage⟩
  · exact (hlater [sum, sum, sum, sum]).settled 0 (by decide) (by decide) _ rfl Response.data
  · exact hplans edit
  · decide +kernel
  · decide +kernel

end Remote
end ListingSearch
