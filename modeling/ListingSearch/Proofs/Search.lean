import ListingSearch.Memory.Basic
import ListingSearch.Proofs.Criteria.Reread
import ListingSearch.Proofs.Memory.Inventory
import ListingSearch.Proofs.Plan

/-! What searches give against the stores in memory. It depends on a condition only by what the
condition decides on rows, so criteria that were read back find what they found before; and a search
with a smaller limit finds the front of what one with a greater limit finds. -/
namespace ListingSearch

/-- What a search for criteria gives up to a limit: the listings read from the rows that are found,
or a failure of the criteria, of the inventory or of a row. -/
def Memory.found (m : Memory) (policy : Policy) (now : Instant) (c : Criteria)
    (limit : Option Int) : Outcome (List Listing) := do
  let p ← c.condition policy.defaultStatuses now
  if policy.cap limit ≤ 0 then return []
  Listing.ofRows (← m.search p c.sortOrder (policy.cap limit))

namespace Inventory

variable {p q : Predicate} {sort : SortOrder} {limit : Int} {rows : List Record}

lemma matching_congr (h : ∀ r, q.holds r = p.holds r) : matching q rows = matching p rows := by
  induction rows with
  | nil => rfl
  | cons r rows ih => rw [matching, matching, h, ih]

lemma fetch_congr (h : ∀ r, q.holds r = p.holds r) :
    fetch q sort limit rows = fetch p sort limit rows := by
  rw [fetch, fetch, matching_congr h]

/-- What a search finds up to a limit, given everything that it finds in order. -/
lemma fetch_eq_map_take (p : Predicate) (sort : SortOrder) (limit : Int) (rows : List Record) :
    fetch p sort limit rows = (·.take limit.toNat) <$> (matching p rows >>= arrange sort) := by
  rw [fetch]
  cases matching p rows with
  | error failure => rfl
  | ok kept => rfl

end Inventory

namespace Memory

variable {m : Memory} {policy : Policy} {now : Instant} {c : Criteria} {p q : Predicate}
  {sort : SortOrder} {limit : Option Int}

lemma search_congr (h : ∀ r, q.holds r = p.holds r) (limit : Int) :
    m.search q sort limit = m.search p sort limit := by
  rw [search, search, Inventory.fetch_congr h]

/-- Criteria that were read back find what they found before. -/
theorem found_reread (m : Memory) (policy : Policy) (now : Instant) (c : Criteria)
    (limit : Option Int) : m.found policy now c.reread limit = m.found policy now c limit := by
  rw [found, found]
  cases h : c.condition policy.defaultStatuses now with
  | error failure =>
    rw [Criteria.condition_reread_error h]
    rfl
  | ok p =>
    obtain ⟨q, hq, hholds⟩ := Criteria.condition_reread h
    rw [hq]
    change (if policy.cap limit ≤ 0 then pure [] else
      m.search q c.sortOrder (policy.cap limit) >>= Listing.ofRows) = _
    rw [search_congr hholds]
    rfl

end Memory

namespace Search

/-- A search changes nothing but what was last asked. -/
lemma run_find (policy : Policy) (p : Predicate) (sort : SortOrder) (limit : Option Int)
    (m : Memory) : ∃ lastAsked, (find policy p sort limit).run Memory.handle m =
      (if policy.cap limit ≤ 0 then .ok [] else
        m.search p sort (policy.cap limit) >>= Listing.ofRows, { m with lastAsked }) := by
  rw [find]
  split
  · exact ⟨m.lastAsked, rfl⟩
  · refine ⟨some ⟨p, sort, policy.cap limit⟩, ?_⟩
    have hrequest : (Plan.request (I := Service) (.listings p sort (policy.cap limit))).run
        Memory.handle m = (m.search p sort (policy.cap limit),
          { m with lastAsked := some ⟨p, sort, policy.cap limit⟩ }) := Plan.run_request _ m
    cases hsearch : m.search p sort (policy.cap limit) with
    | error failure =>
      rw [hsearch] at hrequest
      exact Plan.run_bind_of_error hrequest
    | ok rows =>
      rw [hsearch] at hrequest
      refine (Plan.run_bind_of_ok hrequest).trans ?_
      rw [Plan.run_ofOutcome]
      rfl

/-- What the search that criteria stand for gives, with a limit that may depend on theirs. -/
lemma run_ofCriteria (policy : Policy) (now : Instant) (limit : Option Nat → Option Int)
    (c : Criteria) (m : Memory) :
    (Plan.run Memory.handle (do
      let s ← .ofOutcome (ofCriteria policy now c)
      find policy s.condition s.sort (limit s.limit)) m).1 =
        m.found policy now c (limit c.limit) := by
  rw [ofCriteria, Memory.found]
  cases c.condition policy.defaultStatuses now with
  | error failure => rfl
  | ok p =>
    obtain ⟨lastAsked, hfind⟩ := run_find policy p c.sortOrder (limit c.limit) m
    exact congrArg Prod.fst hfind

/-- The same search where the criteria are read from a loose filter first. -/
lemma run_ofFilter (policy : Policy) (now : Instant) (limit : Option Nat → Option Int)
    (filter : Value) (m : Memory) :
    (Plan.run Memory.handle (do
      let s ← .ofOutcome (ofFilter policy now filter)
      find policy s.condition s.sort (limit s.limit)) m).1 =
        Criteria.read true filter >>= fun c => m.found policy now c (limit c.limit) := by
  rw [ofFilter]
  cases Criteria.read true filter with
  | error failure => rfl
  | ok c => exact run_ofCriteria policy now limit c m

end Search

namespace Listing

variable {rows : List Record}

/-- Valid rows are read as listings with the identifiers of the rows. -/
lemma exists_mapM_ofRow (h : ∀ r ∈ rows, ∃ l, ofRecord r = .valid l) :
    ∃ ls, (rows.map Value.object).mapM ofRow = .ok ls ∧
      ls.map (fun l => Value.text l.id) = rows.map (·.get "id") := by
  have hread : ∃ ls, (rows.map Value.object).mapM ofRow = .ok ls := by
    induction rows with
    | nil => exact ⟨[], rfl⟩
    | cons r rows ih =>
      obtain ⟨l, hl⟩ := h r (by simp)
      obtain ⟨ls, hls⟩ := ih fun s hs => h s (by simp [hs])
      refine ⟨l :: ls, ?_⟩
      rw [Outcome.mapM_eq_ok_iff] at hls ⊢
      exact .cons (by rw [ofRow, hl]; rfl) hls
  obtain ⟨ls, hls⟩ := hread
  refine ⟨ls, hls, ?_⟩
  have hids := congrArg (List.map fun id? : Option Value => id?.getD .null) (map_id_of_mapM hls)
  rw [List.map_map, List.map_map] at hids
  exact hids.symm

/-- The first rows are read as the first listings. -/
lemma mapM_ofRow_take {ls : List Listing} (h : (rows.map Value.object).mapM ofRow = .ok ls)
    (n : Nat) : ofRows (.list ((rows.take n).map .object)) = .ok (ls.take n) := by
  change ((rows.take n).map Value.object).mapM ofRow = .ok (ls.take n)
  rw [Outcome.mapM_eq_ok_iff] at h ⊢
  rw [List.map_take]
  exact List.forall₂_take n h

end Listing

namespace Memory

variable {m : Memory} {policy : Policy}

/-- With a smaller limit a search gives the front of what it gives otherwise, if every row of the
inventory is a listing. -/
theorem found_take (hvalid : ∀ r ∈ m.listings, ∃ l, Listing.ofRecord r = .valid l) {limit : Int}
    (hlimit : 1 ≤ limit) (hmax : 1 ≤ policy.maxResults) (now : Instant) (c : Criteria) :
    m.found policy now c (some limit) = (·.take limit.toNat) <$> m.found policy now c none := by
  have hcap : policy.cap (some limit) = min limit policy.maxResults := rfl
  rw [found, found]
  cases c.condition policy.defaultStatuses now with
  | error failure => rfl
  | ok p =>
    change (if policy.cap (some limit) ≤ 0 then pure [] else
        m.search p c.sortOrder (policy.cap (some limit)) >>= Listing.ofRows) =
      (·.take limit.toNat) <$> (if policy.maxResults ≤ 0 then pure [] else
        m.search p c.sortOrder policy.maxResults >>= Listing.ofRows)
    rw [if_neg (by omega), if_neg (by omega), search, search]
    cases m.inventoryFault with
    | some message => rfl
    | none =>
      rw [Inventory.fetch_eq_map_take, Inventory.fetch_eq_map_take]
      cases hall : Inventory.matching p m.listings >>= Inventory.arrange c.sortOrder with
      | error failure => rfl
      | ok rows =>
        obtain ⟨kept, hkept, harrange⟩ := Outcome.bind_eq_ok hall
        have hrows : ∀ r ∈ rows, ∃ l, Listing.ofRecord r = .valid l := fun r hr =>
          hvalid r ((Inventory.matching_spec hkept).1.subset
            ((Inventory.arrange_perm harrange).subset hr))
        obtain ⟨ls, hls, -⟩ := Listing.exists_mapM_ofRow hrows
        change Listing.ofRows (.list ((rows.take (policy.cap (some limit)).toNat).map .object)) =
          (·.take limit.toNat) <$>
            Listing.ofRows (.list ((rows.take policy.maxResults.toNat).map .object))
        have htake : (min limit policy.maxResults).toNat =
            min limit.toNat policy.maxResults.toNat := by omega
        rw [Listing.mapM_ofRow_take hls, Listing.mapM_ofRow_take hls, hcap, htake, ← List.take_take]
        rfl

end Memory
end ListingSearch
