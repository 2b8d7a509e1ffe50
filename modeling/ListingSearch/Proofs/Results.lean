import ListingSearch.Proofs.Memory.Ordering
import ListingSearch.Proofs.Search

/-! Which listings a search of the inventory in memory gives. The rows of which its condition holds
can be put in its order in one way only, and a search gives the front of that list, as long as its
limit and the policy allow. So the limit says how much is shown and not what, and how the rows stand
in the inventory does not matter. -/
namespace ListingSearch

namespace Inventory

/-- The rows of which a condition holds, in an order, and there is no other way to put them in it.
No row stands there twice. -/
structure IsArranged (p : Predicate) (sort : SortOrder) (rows arranged : List Record) : Prop where
  perm : arranged.Perm (rows.filter fun r => p.holds r = .ok true)
  ordered : arranged.Pairwise (Precedes sort)
  unique : ∀ other, other.Perm arranged → other.Pairwise (Precedes sort) → other = arranged
  nodup : arranged.Nodup

variable {p : Predicate} {sort : SortOrder} {rows other arranged : List Record}

lemma Labelled.of_valid (hvalid : ∀ r ∈ rows, ∃ l, Listing.ofRecord r = .valid l)
    (hids : (rows.map (Record.get? "id")).Nodup) : Labelled rows := by
  refine ⟨fun r hr => ?_, hids⟩
  obtain ⟨l, hl⟩ := hvalid r hr
  exact ⟨l.id, Listing.id_of_ofRecord hl⟩

lemma Labelled.of_perm (h : Labelled rows) (hperm : other.Perm rows) : Labelled other :=
  h.of_subperm hperm.subperm

lemma exists_isArranged (hid : Labelled rows) (h : Comparable sort.column rows)
    (p : Predicate) : ∃ arranged, IsArranged p sort rows arranged := by
  have hsublist : (rows.filter fun r => p.holds r = .ok true).Sublist rows := List.filter_sublist
  obtain ⟨arranged, -, hperm, hordered⟩ :=
    arrange_spec (hid.of_subperm hsublist.subperm) (h.of_subset hsublist.subset)
  refine ⟨arranged, hperm, hordered, fun other hother hsorted => ?_, ?_⟩
  · exact eq_of_precedes h (fun r hr => hsublist.subset (hperm.subset (hother.subset hr))) hother
      hsorted hordered
  · exact hperm.nodup_iff.2 ((hid.nodup.of_map _).filter _)

end Inventory

namespace Memory

open Inventory (IsArranged Labelled Comparable)

/-- What a search gives. -/
def results (m : Memory) (policy : Policy) (p : Predicate) (sort : SortOrder)
    (limit : Option Int) : Outcome (List Listing) :=
  ((Search.find policy p sort limit).run handle m).1

/-- All searches for a condition in an order give the front of a list, as far as their limits and
the policy allow, and its length is what is counted. -/
structure ShowsFront (m : Memory) (p : Predicate) (sort : SortOrder) (listings : List Listing) :
    Prop where
  unlimited : ∀ policy,
    m.results policy p sort none = .ok (listings.take policy.maxResults.toNat)
  limited : ∀ policy n,
    m.results policy p sort (some n) = .ok (listings.take (min n policy.maxResults).toNat)
  counted : ((Search.count p).run handle m).1 = .ok (.int listings.length)
  /-- The number of results is the smaller one of what is counted and what is allowed. -/
  length : ∀ policy limit found, m.results policy p sort limit = .ok found →
    (found.length : Int) = min (listings.length : Int) (max (policy.cap limit) 0)
  /-- Where less is allowed, less of the same is shown. -/
  front : ∀ policy policy' limit limit' found found', policy.cap limit ≤ policy'.cap limit' →
    m.results policy p sort limit = .ok found → m.results policy' p sort limit' = .ok found' →
    found <+: found'
  whole : ∀ policy limit, (listings.length : Int) ≤ policy.cap limit →
    m.results policy p sort limit = .ok listings

variable {m : Memory} {policy : Policy} {p : Predicate} {sort : SortOrder} {limit : Option Int}
  {rows arranged : List Record} {listings : List Listing}

/-- A search gives the front of the arranged rows as listings. -/
lemma results_eq (hid : Labelled m.listings) (hcomparable : Comparable sort.column m.listings)
    (hp : ∀ r ∈ m.listings, ∃ b, p.holds r = .ok b) (hfault : m.inventoryFault = none)
    (harranged : IsArranged p sort m.listings arranged)
    (hread : (arranged.map Value.object).mapM Listing.ofRow = .ok listings) :
    m.results policy p sort limit = .ok (listings.take (policy.cap limit).toNat) := by
  obtain ⟨lastAsked, hrun⟩ := Search.run_find policy p sort limit m
  rw [results, hrun]
  dsimp only
  split
  · rename_i hnone
    rw [Int.toNat_of_nonpos hnone, List.take_zero]
  · rw [search, hfault]
    dsimp only
    rw [Inventory.fetch_eq hid hcomparable hp harranged.ordered harranged.perm]
    exact Listing.mapM_ofRow_take hread _

lemma count_eq (hp : ∀ r ∈ m.listings, ∃ b, p.holds r = .ok b)
    (harranged : IsArranged p sort m.listings arranged) :
    ((Search.count p).run handle m).1 = .ok (.int arranged.length) := by
  rw [Search.count, Plan.run_request, harranged.perm.length_eq]
  simp only [handle, Inventory.count, Inventory.matching_eq hp]
  rfl

lemma showsFront_of_take
    (hresults : ∀ policy limit,
      m.results policy p sort limit = .ok (listings.take (policy.cap limit).toNat))
    (hcount : ((Search.count p).run handle m).1 = .ok (.int listings.length)) :
    m.ShowsFront p sort listings where
  unlimited policy := hresults policy none
  limited policy n := hresults policy (some n)
  counted := hcount
  length policy limit found hfound := by
    rw [hresults] at hfound
    cases hfound
    rw [List.length_take]
    omega
  front policy policy' limit limit' found found' hle hfound hfound' := by
    rw [hresults] at hfound hfound'
    cases hfound
    cases hfound'
    exact List.take_prefix_take_left (by omega)
  whole policy limit hle := by
    rw [hresults, List.take_of_length_le (by omega)]

/-- Rows that are listings with identifiers of their own, of which the condition can be decided and
which can be put in order, are shown from the front of that order, however they stand. -/
theorem showsFront_of_comparable (hvalid : ∀ r ∈ rows, ∃ l, Listing.ofRecord r = .valid l)
    (hids : (rows.map (Record.get? "id")).Nodup) (hcomparable : Comparable sort.column rows)
    (hp : ∀ r ∈ rows, ∃ b, p.holds r = .ok b) :
    ∃ arranged listings, IsArranged p sort rows arranged ∧
      List.Forall₂ (fun r l => Listing.ofRecord r = .valid l) arranged listings ∧
      ∀ m : Memory, m.listings.Perm rows → m.inventoryFault = none →
        m.ShowsFront p sort listings := by
  have hid : Labelled rows := .of_valid hvalid hids
  obtain ⟨arranged, harranged⟩ := Inventory.exists_isArranged hid hcomparable p
  have hsubset : ∀ r ∈ arranged, r ∈ rows := fun r hr =>
    List.mem_of_mem_filter (harranged.perm.subset hr)
  obtain ⟨listings, hread, -⟩ :=
    Listing.exists_mapM_ofRow fun r hr => hvalid r (hsubset r hr)
  have hforall : List.Forall₂ (fun r l => Listing.ofRecord r = .valid l) arranged listings := by
    rw [Outcome.mapM_eq_ok_iff, List.forall₂_map_left_iff] at hread
    exact hread.imp fun r l hl => Checked.outcome_eq_ok hl
  refine ⟨arranged, listings, harranged, hforall, fun m hperm hfault => ?_⟩
  -- Nothing that was said of the rows depends on how they stand.
  have hid' : Labelled m.listings := hid.of_perm hperm
  have hcomparable' := hcomparable.of_subset hperm.subset
  have hp' : ∀ r ∈ m.listings, ∃ b, p.holds r = .ok b := fun r hr => hp r (hperm.subset hr)
  have harranged' : IsArranged p sort m.listings arranged :=
    { harranged with perm := harranged.perm.trans (hperm.symm.filter _) }
  refine showsFront_of_take (fun policy limit => ?_) ?_
  · exact results_eq hid' hcomparable' hp' hfault harranged' hread
  · rw [← hforall.length_eq]
    exact count_eq hp' harranged'

/-- Five listings, of which one is sold, one has no date, and two have the same date. -/
def tiedRows : List Record :=
  [[("id", .text "c"), ("created_at", .null)],
    [("id", .text "b"), ("created_at", .text "2024-05-02")],
    [("id", .text "e"), ("created_at", .text "2024-05-09"), ("status", .text "sold")],
    [("id", .text ""), ("created_at", .text "2024-05-02")],
    [("id", .text "a"), ("created_at", .text "2024-05-03")]]

lemma forall_mem_tiedRows {P : Record → Prop} : (∀ r ∈ tiedRows, P r) ↔
    P [("id", .text "c"), ("created_at", .null)] ∧
      P [("id", .text "b"), ("created_at", .text "2024-05-02")] ∧
      P [("id", .text "e"), ("created_at", .text "2024-05-09"), ("status", .text "sold")] ∧
      P [("id", .text ""), ("created_at", .text "2024-05-02")] ∧
      P [("id", .text "a"), ("created_at", .text "2024-05-03")] := by
  simp [tiedRows]

theorem showsFront_of_comparable_tiedRows :
    let p : Predicate := .not (.eq "status" (.text "sold"))
    let sort : SortOrder := ⟨"created_at", true⟩
    let m : Memory := { listings := tiedRows.reverse }
    (∀ r ∈ tiedRows, ∃ l, Listing.ofRecord r = .valid l) ∧
      (tiedRows.map (Record.get? "id")).Nodup ∧ Comparable sort.column tiedRows ∧
      (∀ r ∈ tiedRows, ∃ b, p.holds r = .ok b) ∧
      (∃ arranged listings, IsArranged p sort tiedRows arranged ∧
        List.Forall₂ (fun r l => Listing.ofRecord r = .valid l) arranged listings ∧
        m.ShowsFront p sort listings) ∧
      (·.map (·.id)) <$> m.results ⟨.empty, 3, 10⟩ p sort none = .ok ["a", "", "b"] ∧
      (·.map (·.id)) <$> m.results ⟨.empty, 30, 10⟩ p sort (some 9) = .ok ["a", "", "b", "c"] := by
  intro p sort m
  have hvalid : ∀ r ∈ tiedRows, ∃ l, Listing.ofRecord r = .valid l :=
    forall_mem_tiedRows.2 ⟨⟨_, rfl⟩, ⟨_, rfl⟩, ⟨_, rfl⟩, ⟨_, rfl⟩, ⟨_, rfl⟩⟩
  have hids : (tiedRows.map (Record.get? "id")).Nodup := by simp [tiedRows, Record.get?]
  have hcomparable : Comparable sort.column tiedRows :=
    Inventory.comparable_of_texts (forall_mem_tiedRows.2
      ⟨⟨none, rfl⟩, ⟨some _, rfl⟩, ⟨some _, rfl⟩, ⟨some _, rfl⟩, ⟨some _, rfl⟩⟩)
  have hp : ∀ r ∈ tiedRows, ∃ b, p.holds r = .ok b := fun r _ => ⟨_, rfl⟩
  obtain ⟨arranged, listings, harranged, hread, hshows⟩ :=
    showsFront_of_comparable hvalid hids hcomparable hp
  exact ⟨hvalid, hids, hcomparable, hp,
    ⟨arranged, listings, harranged, hread, hshows m (List.reverse_perm _) rfl⟩,
    by decide +kernel, by decide +kernel⟩

end Memory
end ListingSearch
