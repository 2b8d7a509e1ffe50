import ListingSearch.Proofs.SavedSearch.Backlog
import ListingSearch.Proofs.SavedSearch.DeliveryRuns
import Mathlib.Algebra.Order.Floor.Div

/-! Deliveries in a row. Each hands out the next block of the backlog, so the backlog is handed out
once, in its order and without a gap, and after as many deliveries as there are blocks nothing is
left to be delivered. -/
namespace ListingSearch

open Registry (Setup Operation Answer)

namespace Inventory

variable {size k n : Nat} {rows : List Record}

def block (size k : Nat) (rows : List Record) : List Record := (rows.drop (k * size)).take size

lemma take_append_block (size k : Nat) (rows : List Record) :
    rows.take (k * size) ++ block size k rows = rows.take ((k + 1) * size) := by
  rw [block, Nat.succ_mul, List.take_add]

lemma flatMap_block (size n : Nat) (rows : List Record) :
    ((List.range n).flatMap fun k => block size k rows) = rows.take (n * size) := by
  induction n with
  | zero => simp
  | succ n ih =>
    rw [List.range_succ, List.flatMap_append, ih, List.flatMap_singleton, take_append_block]

lemma drop_eq_nil_iff (hsize : 1 ≤ size) :
    rows.drop (k * size) = [] ↔ rows.length ⌈/⌉ size ≤ k := by
  rw [List.drop_eq_nil_iff, ceilDiv_le_iff_le_mul hsize, mul_comm]

lemma block_eq_nil_iff (hsize : 1 ≤ size) :
    block size k rows = [] ↔ rows.length ⌈/⌉ size ≤ k := by
  rw [block, List.take_eq_nil_iff, drop_eq_nil_iff hsize]
  omega

lemma length_block (hsize : 1 ≤ size) (hk : k + 1 < rows.length ⌈/⌉ size) :
    (block size k rows).length = size := by
  have hlength : ¬ rows.length ≤ size * (k + 1) := by
    rw [← ceilDiv_le_iff_le_mul hsize]
    omega
  rw [block, List.length_take, List.length_drop]
  rw [Nat.mul_succ, mul_comm] at hlength
  omega

lemma flatMap_ids_block (hsize : 1 ≤ size) (hn : rows.length ⌈/⌉ size ≤ n) :
    ((List.range n).flatMap fun k => ids (block size k rows)) = ids rows := by
  have hlength : rows.length ≤ n * size := by
    rw [mul_comm]
    exact (ceilDiv_le_iff_le_mul hsize).1 hn
  calc ((List.range n).flatMap fun k => ids (block size k rows))
      = ids ((List.range n).flatMap fun k => block size k rows) := List.map_flatMap.symm
    _ = ids rows := by rw [flatMap_block, List.take_of_length_le hlength]

end Inventory

/-- Every row of the inventory of which the condition holds is noted as delivered for the search. -/
def Memory.AllDelivered (m : Memory) (now : Instant) (id : String) (p : Predicate) : Prop :=
  ∃ r search, m.archive.find (.text id) = .ok (some r) ∧
    SavedSearch.ofRow now (.object r) = .ok search ∧
    ∀ row ∈ m.listings, p.holds row = .ok true → ∃ s ∈ search.delivered, row.get "id" = .text s

lemma Memory.Ready.backlog_eq_nil_iff {m : Memory} {policy : Policy} {now : Instant} {id : String}
    {search : SavedSearch} {p : Predicate} {backlog : List Record}
    (h : m.Ready policy now id search p) (hb : m.IsBacklog search p backlog) :
    backlog = [] ↔ m.AllDelivered now id p := by
  obtain ⟨r, hr, hread⟩ := h.stored
  constructor
  · rintro rfl
    refine ⟨r, search, hr, hread, fun row hrow hholds => ?_⟩
    by_contra hnone
    push Not at hnone
    exact List.not_mem_nil ((hb.mem_iff row).2 ⟨hrow, hholds, hnone⟩)
  · rintro ⟨r', search', hr', hread', hall⟩
    rw [hr] at hr'
    cases hr'
    rw [hread] at hread'
    cases hread'
    refine List.eq_nil_iff_forall_not_mem.2 fun row hrow => ?_
    obtain ⟨hlisted, hholds, hfresh⟩ := (hb.mem_iff row).1 hrow
    obtain ⟨s, hs, hget⟩ := hall row hlisted hholds
    exact hfresh s hs hget

namespace World

/-- Some deliveries of a saved search in a row, each of which chooses for itself. -/
def deliveries (w : World) (setup : Setup) (id : String) (n : Nat) : World :=
  w.run (List.replicate n (.call setup (.deliver (.text id) .null)))

/-- Deliveries in a row hand out a backlog in blocks of a size. -/
structure Drains (w : World) (setup : Setup) (id : String) (p : Predicate) (size : Nat)
    (backlog : List Record) : Prop where
  /-- Each gives the identifiers of the next block. -/
  answers : ∀ n, (w.deliveries setup id n).history = w.history ++ (List.range n).map fun k =>
    (.deliver (.text id) .null, .ok (.identifiers (Inventory.ids (Inventory.block size k backlog))))
  /-- Only the last block may be smaller. -/
  full : ∀ k, k + 1 < backlog.length ⌈/⌉ size → (Inventory.block size k backlog).length = size
  /-- The blocks are the backlog, one after the other. -/
  complete : ∀ n, backlog.length ⌈/⌉ size ≤ n →
    ((List.range n).flatMap fun k => Inventory.ids (Inventory.block size k backlog)) =
      Inventory.ids backlog
  /-- After the last block nothing is given, and only then. -/
  finished : ∀ k, Inventory.block size k backlog = [] ↔ backlog.length ⌈/⌉ size ≤ k
  /-- What is given is sent, and nothing else. -/
  sent : ∀ n, (w.deliveries setup id n).memory.sent = w.memory.sent ++
    (List.range (min n (backlog.length ⌈/⌉ size))).map fun k =>
      (.text id, Inventory.ids (Inventory.block size k backlog))
  delivered : ∀ n, backlog.length ⌈/⌉ size ≤ n →
    (w.deliveries setup id n).memory.AllDelivered w.now id p
  /-- A delivery gives nothing just if there is nothing left. -/
  gives_nothing_iff : ∀ n,
    ((w.deliveries setup id n).carryOut setup (.deliver (.text id) .null)).1 =
      .ok (.identifiers []) ↔ (w.deliveries setup id n).memory.AllDelivered w.now id p

variable {w : World} {setup : Setup} {id : String} {search : SavedSearch} {p : Predicate}
  {backlog : List Record}

lemma deliveries_succ (w : World) (setup : Setup) (id : String) (n : Nat) :
    w.deliveries setup id (n + 1) =
      (w.deliveries setup id n).step (.call setup (.deliver (.text id) .null)) := by
  rw [deliveries, deliveries, run, run, List.replicate_succ', List.foldl_append]
  rfl

/-- The state after some deliveries. -/
structure DrainedBy (w : World) (setup : Setup) (id : String) (search : SavedSearch) (p : Predicate)
    (size : Nat) (backlog : List Record) (n : Nat) (after : World) (later : SavedSearch) :
    Prop where
  ready : after.memory.Ready setup.policy w.now id later p
  left : after.memory.IsBacklog later p (backlog.drop (n * size))
  criteria : later.criteria = search.criteria
  now : after.now = w.now
  answers : after.history = w.history ++ (List.range n).map fun k =>
    (.deliver (.text id) .null, .ok (.identifiers (Inventory.ids (Inventory.block size k backlog))))
  sent : after.memory.sent = w.memory.sent ++
    (List.range (min n (backlog.length ⌈/⌉ size))).map fun k =>
      (.text id, Inventory.ids (Inventory.block size k backlog))

lemma carryOut_deliver_new {m' : Memory} {ids : List Value} (hsender : setup.hasSender = true)
    (h : (Registry.deliver setup.policy w.now true (.text id) .null).run Memory.handle w.memory =
      (.ok ids, m')) :
    w.carryOut setup (.deliver (.text id) .null) = (.ok (.identifiers ids), m') := by
  rw [← hsender] at h
  exact Plan.run_bind_of_ok h

lemma DrainedBy.carryOut {size n : Nat} {after : World} {later : SavedSearch}
    (h : w.DrainedBy setup id search p size backlog n after later)
    (hsender : setup.hasSender = true) (hpositive : 1 ≤ search.blockSize setup.policy)
    (hsize : (search.blockSize setup.policy).toNat = size) :
    ∃ memory later', after.carryOut setup (.deliver (.text id) .null) =
        (.ok (.identifiers (Inventory.ids (Inventory.block size n backlog))), memory) ∧
      w.DrainedBy setup id search p size backlog (n + 1)
        { after with
          memory,
          history := after.history ++ [(.deliver (.text id) .null,
            .ok (.identifiers (Inventory.ids (Inventory.block size n backlog))))] } later' := by
  have hblock : later.blockSize setup.policy = search.blockSize setup.policy := by
    rw [SavedSearch.blockSize, h.criteria, SavedSearch.blockSize]
  obtain ⟨memory, later', hrun, hready, hbacklog, hcriteria, -, -, hsent⟩ :=
    h.ready.run_deliver h.left (hblock ▸ hpositive)
  rw [hblock, hsize] at hrun hbacklog hsent
  rw [← h.now] at hrun
  refine ⟨memory, later', carryOut_deliver_new hsender hrun, hready, ?_, hcriteria.trans h.criteria,
    h.now, ?_, ?_⟩
  · rwa [List.drop_drop, ← Nat.succ_mul] at hbacklog
  · rw [h.answers, List.range_succ, List.map_append, ← List.append_assoc]
    rfl
  · refine hsent.trans ?_
    rw [h.sent, List.append_assoc, List.append_cancel_left_eq]
    have hsize' : 1 ≤ size := by omega
    by_cases hn : backlog.length ⌈/⌉ size ≤ n
    · rw [if_pos ((Inventory.drop_eq_nil_iff hsize').2 hn), List.append_nil, min_eq_right hn,
        min_eq_right (by omega)]
    · rw [if_neg (mt (Inventory.drop_eq_nil_iff hsize').1 hn), min_eq_left (by omega),
        min_eq_left (by omega), List.range_succ, List.map_append]
      rfl

lemma drainedBy_deliveries (hsender : setup.hasSender = true)
    (h : w.memory.Ready setup.policy w.now id search p) (hb : w.memory.IsBacklog search p backlog)
    (hpositive : 1 ≤ search.blockSize setup.policy) (n : Nat) :
    ∃ later, w.DrainedBy setup id search p (search.blockSize setup.policy).toNat backlog n
      (w.deliveries setup id n) later := by
  induction n with
  | zero =>
    refine ⟨search, h, ?_, rfl, rfl, by simp [deliveries, run], by simp [deliveries, run]⟩
    rwa [Nat.zero_mul, List.drop_zero]
  | succ n ih =>
    obtain ⟨later, hn⟩ := ih
    obtain ⟨memory, later', hcall, hnext⟩ := hn.carryOut hsender hpositive rfl
    rw [deliveries_succ, step_call hcall]
    exact ⟨later', hnext⟩

/-- Deliveries in a row hand out the backlog of a saved search, from its front to its end. -/
theorem drains (hsender : setup.hasSender = true)
    (h : w.memory.Ready setup.policy w.now id search p)
    (hpositive : 1 ≤ search.blockSize setup.policy) :
    ∃ backlog, w.memory.IsBacklog search p backlog ∧
      w.Drains setup id p (search.blockSize setup.policy).toNat backlog := by
  obtain ⟨backlog, hb⟩ := h.exists_backlog
  set size := (search.blockSize setup.policy).toNat with hsize
  have hsize' : 1 ≤ size := by omega
  have hrun := drainedBy_deliveries hsender h hb hpositive
  have hleft (n : Nat) : backlog.length ⌈/⌉ size ≤ n ↔
      (w.deliveries setup id n).memory.AllDelivered w.now id p := by
    obtain ⟨later, hn⟩ := hrun n
    rw [← hn.ready.backlog_eq_nil_iff hn.left, Inventory.drop_eq_nil_iff hsize']
  refine ⟨backlog, hb, fun n => ?_, fun k => Inventory.length_block hsize',
    fun n => Inventory.flatMap_ids_block hsize', fun k => Inventory.block_eq_nil_iff hsize',
    fun n => ?_, fun n => (hleft n).1, fun n => ?_⟩
  · obtain ⟨later, hn⟩ := hrun n
    exact hn.answers
  · obtain ⟨later, hn⟩ := hrun n
    exact hn.sent
  · obtain ⟨later, hn⟩ := hrun n
    obtain ⟨memory, -, hcall, -⟩ := hn.carryOut hsender hpositive hsize.symm
    rw [hcall, ← hleft, ← Inventory.block_eq_nil_iff hsize', ← hsize]
    simp [Inventory.ids]

def datedRows (dates : List (String × Option String)) : List Record :=
  dates.map fun (id, date) => [("id", .text id), ("created_at", .ofText? date)]

lemma identified_datedRows {dates : List (String × Option String)}
    (hnodup : (dates.map (·.1)).Nodup) (hempty : "" ∉ dates.map (·.1)) :
    Inventory.Identified (datedRows dates) where
  text r hr := by
    obtain ⟨entry, hentry, rfl⟩ := List.mem_map.1 hr
    exact ⟨entry.1, fun heq => hempty (heq ▸ List.mem_map_of_mem hentry), rfl⟩
  nodup := by
    have hids : (datedRows dates).map (Record.get? "id") =
        (dates.map (·.1)).map fun s => some (.text s) := by
      rw [datedRows, List.map_map, List.map_map]
      rfl
    rw [hids]
    exact hnodup.map fun s t h => Value.text.inj (Option.some.inj h)

lemma valid_datedRows (dates : List (String × Option String)) :
    ∀ r ∈ datedRows dates, ∃ l, Listing.ofRecord r = .valid l := by
  intro r hr
  obtain ⟨⟨id, date⟩, -, rfl⟩ := List.mem_map.1 hr
  cases date <;> exact ⟨_, rfl⟩

lemma comparable_datedRows (dates : List (String × Option String)) :
    Inventory.Comparable "created_at" (datedRows dates) := by
  refine Inventory.comparable_of_texts fun r hr => ?_
  obtain ⟨⟨id, date⟩, -, rfl⟩ := List.mem_map.1 hr
  exact ⟨date, rfl⟩

/-- The newest listings are asked for, two at a time; one of them was delivered. -/
def newestTwo : SavedSearch :=
  { id := some "hs-1", owner := "ana", name := "Centro", criteria := { limit := some 2 },
    delivered := .ofList ["b"], active := true, version := 1, createdAt := "2024-05-01",
    updatedAt := "2024-05-01" }

/-- Four listings are to be delivered, one of them without a date. -/
def waiting : World where
  memory := {
    listings := datedRows [("d", none), ("c", some "2024-04-03"), ("b", some "2024-04-02"),
      ("a", some "2024-04-03"), ("e", some "2024-04-05")]
    archive := ⟨[(.text "hs-1", newestTwo.toRow.set "id" (.text "hs-1"))], 1⟩ }
  now := ⟨⟨2024, 5, 1⟩, 12, 0, 0, 0, some 0⟩

lemma ready_waiting :
    waiting.memory.Ready ⟨.empty, 10, 10⟩ waiting.now "hs-1" newestTwo (.and []) where
  stored := by
    have hread : Criteria.read false (.object newestTwo.criteria.toDocument) =
        .ok newestTwo.criteria := by
      decide +kernel
    exact ⟨_, rfl, SavedSearch.ofRow_eq_ok_iff.2
      ⟨rfl, rfl, rfl, hread, ⟨["b"], rfl, rfl⟩, rfl, rfl, rfl, rfl⟩⟩
  condition := rfl
  searchable := rfl
  sendable := rfl
  identified := identified_datedRows (by decide) (by decide)
  valid := valid_datedRows _
  comparable := comparable_datedRows _
  decided := fun r _ => ⟨true, rfl⟩

theorem drains_waiting :
    let setup : Setup := ⟨⟨.empty, 10, 10⟩, true⟩
    setup.hasSender = true ∧
    waiting.memory.Ready setup.policy waiting.now "hs-1" newestTwo (.and []) ∧
    1 ≤ newestTwo.blockSize setup.policy ∧
    (∃ backlog, waiting.memory.IsBacklog newestTwo (.and []) backlog ∧
      waiting.Drains setup "hs-1" (.and []) (newestTwo.blockSize setup.policy).toNat backlog) ∧
    ((waiting.deliveries setup "hs-1" 3).memory.sent.map fun entry => entry.2.map Value.text?) =
      [[some "e", some "a"], [some "c", some "d"]] := by
  intro setup
  have hpositive : 1 ≤ newestTwo.blockSize setup.policy := by decide
  exact ⟨rfl, ready_waiting, hpositive, drains rfl ready_waiting hpositive, by decide +kernel⟩

end World
end ListingSearch
