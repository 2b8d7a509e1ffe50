import ListingSearch.Proofs.Memory.Ordering
import ListingSearch.Proofs.SavedSearch.Versions
import ListingSearch.Proofs.Search

/-! The backlog of a saved search: the rows that it finds and that were not delivered, in its order.
What was delivered is left out before the limit applies, so a delivery that chooses for itself hands
out the front of the backlog, and what is behind it is the new backlog. -/
namespace ListingSearch

def SavedSearch.blockSize (policy : Policy) (search : SavedSearch) : Int :=
  policy.cap (some ((search.criteria.limit.map Int.ofNat).getD policy.reviewLimit))

def Inventory.ids (rows : List Record) : List Value := rows.map (·.get "id")

namespace Memory

/-- A saved search is stored that stands for a condition, the inventory can be searched for it, and
what is found can be sent: every row is a listing with an identifier of its own, the condition can
be decided on it, and the values of the column of the order can be compared. -/
structure Ready (m : Memory) (policy : Policy) (now : Instant) (id : String) (search : SavedSearch)
    (p : Predicate) : Prop where
  stored : ∃ r, m.archive.find (.text id) = .ok (some r) ∧
    SavedSearch.ofRow now (.object r) = .ok search
  condition : search.criteria.condition policy.defaultStatuses now = .ok p
  searchable : m.inventoryFault = none
  sendable : m.senderFault = none
  identified : Inventory.Identified m.listings
  valid : ∀ r ∈ m.listings, ∃ l, Listing.ofRecord r = .valid l
  comparable : Inventory.Comparable search.criteria.sortOrder.column m.listings
  decided : ∀ r ∈ m.listings, ∃ b, p.holds r = .ok b

/-- The rows of which the condition holds and that were not delivered, in the order of the
search. -/
structure IsBacklog (m : Memory) (search : SavedSearch) (p : Predicate) (rows : List Record) :
    Prop where
  mem_iff : ∀ r, r ∈ rows ↔ r ∈ m.listings ∧ p.holds r = .ok true ∧
    ∀ s ∈ search.delivered, r.get "id" ≠ .text s
  ordered : rows.Pairwise (Inventory.Precedes search.criteria.sortOrder)

end Memory

namespace Registry

variable {policy : Policy} {now : Instant} {id : String} {search : SavedSearch} {p : Predicate}
  {m : Memory} {backlog : List Record} {excluded : TextSet} {r : Record}

/-- The condition without some listings holds where the condition holds and the row is none of
them. -/
lemma decidedBy_without (excluded : TextSet) {b : Bool} (hp : p.holds r = .ok b) :
    Predicate.DecidedBy r (without excluded p)
      (p.holds r = .ok true ∧ ∀ s ∈ excluded, r.get "id" ≠ .text s) := by
  have hnone : Predicate.DecidedBy r (.not (oneOfTexts "id" excluded.toList))
      (∀ s ∈ excluded, r.get "id" ≠ .text s) := by
    obtain ⟨found, hfound, hiff⟩ := decidedBy_oneOfTexts (r := r) "id" excluded.toList
    refine ⟨!found, by rw [Predicate.holds_not, hfound]; rfl, ?_⟩
    rw [Bool.not_eq_true', ← Bool.not_eq_true, hiff, not_exists]
    exact forall_congr' fun s => not_and
  unfold without
  split
  · rename_i hempty
    have hnot : ∀ s, ¬ s ∈ excluded := fun s hs => by
      rw [TextSet.isEmpty_eq_false_iff.2 ⟨s, hs⟩] at hempty
      cases hempty
    exact ⟨b, hp, by simp [hp, hnot]⟩
  · obtain ⟨c, hc, hiff⟩ := hnone
    refine ⟨b && c, ?_, ?_⟩
    · rw [Predicate.holds_allOf, Predicate.allHold_cons, hp]
      cases b with
      | true => rw [Predicate.allHold_singleton, hc, Bool.true_and]
      | false => rfl
    · rw [Bool.and_eq_true, hiff, hp, Except.ok.injEq]

end Registry

namespace Memory

variable {policy : Policy} {now : Instant} {id : String} {search : SavedSearch} {p : Predicate}
  {m : Memory} {backlog : List Record} {excluded : TextSet} {r : Record}

lemma IsBacklog.subset (hb : m.IsBacklog search p backlog) : backlog ⊆ m.listings :=
  fun r hr => ((hb.mem_iff r).1 hr).1

lemma handle_send {id : Value} {listings : List Value} (h : m.senderFault = none) :
    handle (.send id listings) m = (.ok (), { m with sent := m.sent ++ [(id, listings)] }) := by
  rw [handle, send, h]

namespace Ready

variable (h : m.Ready policy now id search p)
include h

lemma fresh_iff (hr : r ∈ m.listings) :
    (Registry.without search.delivered p).holds r = .ok true ↔
      p.holds r = .ok true ∧ ∀ s ∈ search.delivered, r.get "id" ≠ .text s := by
  obtain ⟨b, hb⟩ := h.decided r hr
  obtain ⟨c, hc, hiff⟩ := Registry.decidedBy_without search.delivered hb
  rw [hc, Except.ok.injEq, hiff]

theorem exists_backlog : ∃ backlog, m.IsBacklog search p backlog := by
  set found := m.listings.filter fun r =>
    (Registry.without search.delivered p).holds r = .ok true with hfound
  have hsublist : found.Sublist m.listings := List.filter_sublist
  obtain ⟨zs, -, hperm, hsorted⟩ := Inventory.arrange_spec
    (h.identified.labelled.of_subperm hsublist.subperm) (h.comparable.of_subset hsublist.subset)
  refine ⟨zs, fun r => ?_, hsorted⟩
  rw [hperm.mem_iff, hfound, List.mem_filter, decide_eq_true_eq]
  exact and_congr_right h.fresh_iff

lemma backlog_nodup (hb : m.IsBacklog search p backlog) : backlog.Nodup := by
  refine hb.ordered.imp_of_mem fun {r s} hr _ hrs => ?_
  rintro rfl
  have hrow := hb.subset hr
  exact Inventory.not_precedes_both h.comparable hrow hrow hrs hrs

lemma backlog_perm (hb : m.IsBacklog search p backlog) : backlog.Perm (m.listings.filter fun r =>
    (Registry.without search.delivered p).holds r = .ok true) := by
  have hrows : m.listings.Nodup := h.identified.nodup.of_map _
  refine (List.perm_ext_iff_of_nodup (h.backlog_nodup hb) (hrows.filter _)).2 fun r => ?_
  rw [hb.mem_iff, List.mem_filter, decide_eq_true_eq]
  exact and_congr_right fun hr => (h.fresh_iff hr).symm

/-- The search for what was not delivered finds the front of the backlog. -/
lemma run_newMatches (hb : m.IsBacklog search p backlog) (hsize : 1 ≤ search.blockSize policy) :
    ∃ ls lastAsked, (Registry.newMatches policy now (.text id)).run handle m =
        (.ok ls, { m with lastAsked }) ∧
      ls.map (fun l => Value.text l.id) =
        Inventory.ids (backlog.take (search.blockSize policy).toNat) := by
  obtain ⟨r, hr, hread⟩ := h.stored
  have hvalid : ∀ r ∈ backlog.take (search.blockSize policy).toNat,
      ∃ l, Listing.ofRecord r = .valid l :=
    fun r hr => h.valid r (hb.subset (List.mem_of_mem_take hr))
  obtain ⟨ls, hls, hids⟩ := Listing.exists_mapM_ofRow hvalid
  have hdecided : ∀ r ∈ m.listings,
      ∃ b, (Registry.without search.delivered p).holds r = .ok b := by
    intro r hr
    obtain ⟨b, hb⟩ := h.decided r hr
    obtain ⟨c, hc, -⟩ := Registry.decidedBy_without search.delivered hb
    exact ⟨c, hc⟩
  have hfetch := Inventory.fetch_eq h.identified.labelled h.comparable hdecided hb.ordered
    (h.backlog_perm hb) (search.blockSize policy)
  have hsearch : m.search (Registry.without search.delivered p) search.criteria.sortOrder
      (search.blockSize policy) =
        .ok (.list ((backlog.take (search.blockSize policy).toNat).map .object)) := by
    rw [Memory.search, h.searchable]
    dsimp only
    rw [hfetch]
    rfl
  obtain ⟨lastAsked, hfind⟩ := Search.run_find policy (Registry.without search.delivered p)
    search.criteria.sortOrder
    (some ((search.criteria.limit.map Int.ofNat).getD policy.reviewLimit)) m
  change _ = (if search.blockSize policy ≤ 0 then Except.ok [] else
    m.search _ _ (search.blockSize policy) >>= Listing.ofRows, _) at hfind
  rw [if_neg (by omega), hsearch] at hfind
  refine ⟨ls, lastAsked, ?_, hids⟩
  rw [Registry.newMatches, Plan.run_bind_of_ok (Registry.run_get hr hread), Registry.resultsWithout,
    Search.ofCriteria, h.condition]
  exact hfind.trans (congrArg (Prod.mk · _) hls)

/-- Listings are noted in the row of a saved search. -/
lemma marks {ss : List String} (hne : ss ≠ []) (hempty : "" ∉ ss) :
    ∃ all archive later,
      (Registry.markDelivered now (.text id) (.list (ss.map .text))).run handle m =
        (.ok all, { m with archive }) ∧
      (∃ r, archive.find (.text id) = .ok (some r) ∧
        SavedSearch.ofRow now (.object r) = .ok later) ∧
      later.criteria = search.criteria ∧
      ∀ s, s ∈ later.delivered ↔ s ∈ search.delivered ∨ s ∈ ss := by
  obtain ⟨r, hr, hread⟩ := h.stored
  have hfrom := SavedSearch.ofRow_eq_ok_iff.1 hread
  obtain ⟨ts, hts, hdelivered⟩ := hfrom.delivered
  obtain ⟨us, hids, hus, hmem⟩ := Registry.identifiers_list hne hempty
  obtain ⟨ws, hnoted, hws⟩ :=
    Archive.withNoted_of_distinctMembers hts (Value.members_texts us)
  have hadd := Archive.addDelivered_of_find hr hnoted
  refine ⟨_, _, _, Registry.run_markDelivered_of_noted now hids hus hadd,
    ⟨r.set "delivered_listing_ids" (.ofTexts ws), ?_,
      SavedSearch.ofRow_eq_ok_iff.2 (hfrom.setDelivered ws)⟩, rfl, fun s => ?_⟩
  · exact Archive.find_of_row? ((Archive.row?_put ..).trans (if_pos rfl))
  · rw [TextSet.mem_ofList, hws, hmem, ← hdelivered, TextSet.mem_ofList]

/-- Once the front of the backlog was noted, the rest is the backlog. -/
lemma isBacklog_drop (hb : m.IsBacklog search p backlog) {later : SavedSearch} {m' : Memory}
    {n : Nat} (hlistings : m'.listings = m.listings) (hcriteria : later.criteria = search.criteria)
    (hlater : ∀ s, s ∈ later.delivered ↔
      s ∈ search.delivered ∨ Value.text s ∈ Inventory.ids (backlog.take n)) :
    m'.IsBacklog later p (backlog.drop n) := by
  have hnodup := h.backlog_nodup hb
  rw [← List.take_append_drop n backlog] at hnodup
  refine ⟨fun r => ?_, ?_⟩
  · rw [hlistings]
    constructor
    · intro hr
      obtain ⟨hrow, hholds, hfresh⟩ := (hb.mem_iff r).1 (List.mem_of_mem_drop hr)
      refine ⟨hrow, hholds, fun s hs heq => ?_⟩
      rcases (hlater s).1 hs with hs | hs
      · exact hfresh s hs heq
      · obtain ⟨t, ht, hts⟩ := List.mem_map.1 hs
        have hsame : t = r := h.identified.labelled.eq_of_get
          (hb.subset (List.mem_of_mem_take ht)) hrow (hts.trans heq.symm)
        exact (List.disjoint_of_nodup_append hnodup) ht (hsame ▸ hr)
    · rintro ⟨hrow, hholds, hfresh⟩
      have hr : r ∈ backlog :=
        (hb.mem_iff r).2 ⟨hrow, hholds, fun s hs => hfresh s ((hlater s).2 (.inl hs))⟩
      rw [← List.take_append_drop n backlog] at hr
      refine (List.mem_append.1 hr).resolve_left fun hfront => ?_
      obtain ⟨a, -, ha⟩ := h.identified.labelled.get hrow
      exact hfresh a ((hlater a).2 (.inr (ha ▸ List.mem_map_of_mem hfront))) ha
  · rw [hcriteria]
    exact hb.ordered.sublist (List.drop_sublist n backlog)

lemma exists_texts {rows : List Record} (hrows : rows ⊆ m.listings) :
    ∃ ss : List String, Inventory.ids rows = ss.map .text ∧ "" ∉ ss := by
  have htext : ∀ v ∈ Inventory.ids rows, ∃ s, v = .text s ∧ s ≠ "" := by
    intro v hv
    obtain ⟨r, hr, rfl⟩ := List.mem_map.1 hv
    obtain ⟨s, hs, hget⟩ := h.identified.text r (hrows hr)
    exact ⟨s, by rw [Record.get, hget, Option.getD_some], hs⟩
  obtain ⟨ss, hss⟩ := Value.exists_texts fun v hv => (htext v hv).imp fun _ hs => hs.1
  refine ⟨ss, hss, fun hempty => ?_⟩
  obtain ⟨s, hs, hne⟩ := htext (.text "") (hss ▸ List.mem_map_of_mem hempty)
  exact hne (Value.text.inj hs).symm

/-- One delivery sends the front of the backlog, if there is any, and notes it. -/
theorem run_deliver (hb : m.IsBacklog search p backlog) (hsize : 1 ≤ search.blockSize policy) :
    ∃ m' later, (Registry.deliver policy now true (.text id) .null).run handle m =
        (.ok (Inventory.ids (backlog.take (search.blockSize policy).toNat)), m') ∧
      m'.Ready policy now id later p ∧
      m'.IsBacklog later p (backlog.drop (search.blockSize policy).toNat) ∧
      later.criteria = search.criteria ∧ m'.listings = m.listings ∧
      (∀ s, s ∈ later.delivered ↔ s ∈ search.delivered ∨
        Value.text s ∈ Inventory.ids (backlog.take (search.blockSize policy).toNat)) ∧
      m'.sent = m.sent ++ if backlog = [] then [] else
        [(.text id, Inventory.ids (backlog.take (search.blockSize policy).toNat))] := by
  set size := (search.blockSize policy).toNat with hsizeEq
  have hpositive : 1 ≤ size := by omega
  obtain ⟨ls, lastAsked, hnew, hids⟩ := h.run_newMatches hb hsize
  have hready : (Registry.deliverable policy now (.text id) .null).run handle m =
      (.ok (Inventory.ids (backlog.take size)), { m with lastAsked }) := by
    rw [← hids]
    exact Plan.run_bind_of_ok hnew
  have hfront : backlog.take size ⊆ m.listings := fun r hr => hb.subset (List.mem_of_mem_take hr)
  obtain ⟨ss, hss, hempty⟩ := h.exists_texts hfront
  rw [Registry.deliver, if_pos rfl, Plan.run_bind_of_ok hready, hss]
  cases ss with
  | nil =>
    -- Only an empty backlog has an empty front, so there is nothing to do, now or later.
    have hnone : backlog = [] := by
      have hnil : backlog.take size = [] := List.map_eq_nil_iff.1 hss
      exact (List.take_eq_nil_iff.1 hnil).resolve_left (by omega)
    refine ⟨{ m with lastAsked }, search, rfl, { h with }, ?_, rfl, rfl, fun s => by simp, ?_⟩
    · rw [hnone, List.drop_nil, ← hnone]
      exact ⟨hb.mem_iff, hb.ordered⟩
    · rw [if_pos hnone, List.append_nil]
  | cons s ss =>
    have hsome : backlog ≠ [] := by
      rintro rfl
      rw [List.take_nil] at hss
      cases hss
    set m₁ : Memory := { m with lastAsked, sent := m.sent ++ [(.text id, (s :: ss).map .text)] }
      with hm₁
    have hsend : (Plan.request (I := Service) (.send (.text id) ((s :: ss).map .text))).run handle
        { m with lastAsked } = (.ok (), m₁) := by
      rw [Plan.run_request]
      exact handle_send (m := { m with lastAsked }) h.sendable
    have hready₁ : m₁.Ready policy now id search p := { h with }
    obtain ⟨all, archive, later, hmark, hstored, hcriteria, hdelivered⟩ :=
      hready₁.marks (List.cons_ne_nil s ss) hempty
    have hlater : ∀ t, t ∈ later.delivered ↔
        t ∈ search.delivered ∨ Value.text t ∈ Inventory.ids (backlog.take size) := by
      intro t
      rw [hdelivered, hss, List.mem_map_of_injective fun _ _ => Value.text.inj]
    refine ⟨{ m₁ with archive }, later, ?_, ?_, ?_, hcriteria, rfl, ?_, ?_⟩
    · change Plan.run handle (Plan.request (I := Service)
        (.send (.text id) ((s :: ss).map .text)) >>= _) _ = _
      rw [Plan.run_bind_of_ok hsend]
      refine (Plan.run_bind_of_ok (u := { m₁ with archive }) (a := ()) ?_).trans rfl
      exact Plan.run_bind_of_ok hmark
    · exact { h with
        stored := hstored
        condition := hcriteria ▸ h.condition
        comparable := hcriteria ▸ h.comparable }
    · exact h.isBacklog_drop hb rfl hcriteria hlater
    · rw [← hss]
      exact hlater
    · rw [if_neg hsome]

end Ready
end Memory
end ListingSearch
