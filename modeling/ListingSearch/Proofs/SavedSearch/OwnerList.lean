import ListingSearch.Memory.Basic
import ListingSearch.Proofs.Criteria.Readable
import ListingSearch.Proofs.Plan
import ListingSearch.Proofs.SavedSearch.Columns
import ListingSearch.SavedSearch.Registry

/-! The saved searches of an owner. They are read one after the other, and the whole list is refused
with the first row that cannot be read; if the other columns are in order, what counts is whether
the criteria of every row can be read. -/
namespace ListingSearch

open Failure (OfOddField OfPriceOrder)
open Outcome (FailsAs)

namespace SavedSearch

variable {now : Instant} {r : Record} {search : SavedSearch}

/-- Every column of a row can be read, leaving aside its criteria. -/
structure HasColumns (now : Instant) (r : Record) : Prop where
  id : ∃ id, Check.field? "id" Check.text r = .valid id
  owner : ∃ owner, Check.text (orElse (r.get "user_id") (r.get "owner_id")) = .valid owner
  name : ∃ name, Check.text (orElse (r.get "name") (.text "")) = .valid name
  delivered : ∃ ts : List String,
    distinctMembers (r.get "delivered_listing_ids") = .ok (ts.map .text)
  active : ∃ active, Check.truth ((r.get? "is_active").getD (.bool true)) = .valid active
  version : ∃ n, Check.integerFrom 1 (orElse (r.get "version") (.int 1)) = .valid n
  createdAt : ∃ t, Check.text (orElse (r.get "created_at") (.text now.text)) = .valid t
  updatedAt : ∃ t, Check.text (orElse (r.get "updated_at") (.text now.text)) = .valid t

/-- The criteria of a row are absent, or a filter that can be read. -/
def HasCriteria (r : Record) : Prop :=
  r.get "criteria" = .null ∨ ∃ filter : Record, r.get "criteria" = .object filter ∧ filter.Readable

lemma readFrom_succeeds_iff (h : HasColumns now r) :
    (∃ search, ReadFrom now r search) ↔ ∃ c, Criteria.read false (r.get "criteria") = .ok c := by
  obtain ⟨⟨id, hid⟩, ⟨owner, howner⟩, ⟨name, hname⟩, ⟨ts, hts⟩, ⟨active, hactive⟩,
    ⟨version, hversion⟩, ⟨createdAt, hcreated⟩, ⟨updatedAt, hupdated⟩⟩ := h
  constructor
  · rintro ⟨search, hsearch⟩
    exact ⟨_, hsearch.criteria⟩
  · rintro ⟨criteria, hcriteria⟩
    exact ⟨⟨id, owner, name, criteria, .ofList ts, active, version, createdAt, updatedAt⟩,
      ⟨hid, howner, hname, hcriteria, ⟨ts, hts, rfl⟩, hactive, hversion, hcreated, hupdated⟩⟩

lemma read_succeeds_iff_hasCriteria :
    (∃ c, Criteria.read false (r.get "criteria") = .ok c) ↔ HasCriteria r := by
  unfold HasCriteria
  cases hcriteria : r.get "criteria" with
  | null => exact iff_of_true ⟨_, rfl⟩ (.inl rfl)
  | object filter =>
    rw [Criteria.read_false_succeeds_iff]
    simp
  | _ => exact iff_of_false (Outcome.not_succeeds_error _) (by simp)

lemma ofRow_eq_error {failure : Failure}
    (h : Criteria.read false (r.get "criteria") = .error failure) :
    ofRow now (.object r) = .error failure := by
  unfold ofRow
  dsimp only
  rw [h]
  rfl

end SavedSearch

namespace Registry

open Plan SavedSearch

variable {now : Instant} {m : Memory} {owner : Value}

lemma run_ofOwner (now : Instant) (owner : Value) (m : Memory) :
    run Memory.handle (ofOwner now owner) m =
      ((m.archive.ofOwner owner).mapM fun r => ofRow now (.object r), m) := by
  have hreply : run Memory.handle (Plan.request (I := Service) (.ofOwner owner)) m =
      (.ok (.list ((m.archive.ofOwner owner).map .object)), m) := run_request _ _
  rw [ofOwner, run_bind_of_ok hreply, run_ofOutcome]
  congr 1
  exact List.mapM_map

/-- The list of an owner has a saved search for each row, in their order, just if the criteria of
every row can be read; a single row where they cannot leaves the owner without any. -/
lemma ofOwner_succeeds_iff (h : ∀ r ∈ m.archive.ofOwner owner, HasColumns now r) :
    ((∃ searches, (run Memory.handle (ofOwner now owner) m).1 = .ok searches) ↔
        ∀ r ∈ m.archive.ofOwner owner, HasCriteria r) ∧
      ∀ searches, (run Memory.handle (ofOwner now owner) m).1 = .ok searches →
        List.Forall₂ (ReadFrom now) (m.archive.ofOwner owner) searches := by
  rw [run_ofOwner]
  have hread : ∀ searches, ((m.archive.ofOwner owner).mapM fun r => ofRow now (.object r)) =
      .ok searches ↔ List.Forall₂ (ReadFrom now) (m.archive.ofOwner owner) searches := by
    intro searches
    simp only [Outcome.mapM_eq_ok_iff, ofRow_eq_ok_iff]
  refine ⟨?_, fun searches => (hread searches).1⟩
  simp only [hread]
  generalize m.archive.ofOwner owner = rows at h ⊢
  induction rows with
  | nil => exact iff_of_true ⟨[], .nil⟩ (by simp)
  | cons r rows ih =>
    rw [List.forall_mem_cons] at h ⊢
    rw [← ih h.2, ← read_succeeds_iff_hasCriteria, ← readFrom_succeeds_iff h.1]
    simp only [List.forall₂_cons_left_iff]
    constructor
    · rintro ⟨_, search, rest, hsearch, hrest, rfl⟩
      exact ⟨⟨search, hsearch⟩, rest, hrest⟩
    · rintro ⟨⟨search, hsearch⟩, rest, hrest⟩
      exact ⟨search :: rest, search, rest, hsearch, hrest, rfl⟩

/-- A filter is read leniently just if none of its fields holds something odd, and strictly if
moreover its prices are in order; reading fails in no other way. With their other columns in order,
the rows of an owner are listed as one saved search each just if every row has criteria that can be
read. -/
theorem reads_and_lists (r : Record) (now : Instant) (owner : Value) (m : Memory) :
    (((∃ c, Criteria.read false (.object r) = .ok c) ↔ r.Readable) ∧
      ((∃ c, Criteria.read true (.object r) = .ok c) ↔ r.Readable ∧ r.PricesInOrder) ∧
      FailsAs OfOddField (Criteria.read false (.object r)) ∧
      (r.Readable → FailsAs OfPriceOrder (Criteria.read true (.object r)))) ∧
    ((∀ r ∈ m.archive.ofOwner owner, HasColumns now r) →
      ((∃ searches, (run Memory.handle (ofOwner now owner) m).1 = .ok searches) ↔
        ∀ r ∈ m.archive.ofOwner owner, HasCriteria r) ∧
      ∀ searches, (run Memory.handle (ofOwner now owner) m).1 = .ok searches →
        List.Forall₂ (ReadFrom now) (m.archive.ofOwner owner) searches) :=
  ⟨Criteria.read_filter r, ofOwner_succeeds_iff⟩

def rowOfAna (id : String) (criteria : Value) : Value × Record :=
  (.text id, [("id", .text id), ("user_id", .text "ana"), ("criteria", criteria)])

def noon : Instant := ⟨⟨2026, 3, 15⟩, 12, 0, 0, 0, some 0⟩

lemma hasColumns_rowOfAna (id : String) (criteria : Value) :
    HasColumns noon (rowOfAna id criteria).2 :=
  ⟨⟨id, rfl⟩, ⟨"ana", rfl⟩, ⟨"", rfl⟩, ⟨[], rfl⟩, ⟨true, rfl⟩, ⟨1, rfl⟩, ⟨noon.text, rfl⟩,
    ⟨noon.text, rfl⟩⟩

/-- A filter with values that mean nothing in most of its fields is listed next to a row without
criteria. -/
theorem reads_and_lists_twoRows :
    let filter : Record := [("selectedTowns", .list [.int 5, .null]), ("priceMin", .list []),
      ("bedsMin", .text "many"), ("state", .int 7), ("listDate", .text "soon"),
      ("statuses", .bool true), ("limit", .float .nan)]
    (∃ c, Criteria.read false (.object filter) = .ok c) ∧
      ∃ searches, (run Memory.handle (ofOwner noon (.text "ana"))
        { archive := ⟨[rowOfAna "a" (.object filter), rowOfAna "b" .null], 0⟩ }).1 =
          .ok searches ∧ searches.length = 2 := by
  intro filter
  have hfilter : ∃ c, Criteria.read false (.object filter) = .ok c := by
    have hreads : (Criteria.read false (.object filter)).toBool = true := by decide +kernel
    cases hread : Criteria.read false (.object filter) with
    | ok c => exact ⟨c, rfl⟩
    | error failure => simp [hread, Except.toBool] at hreads
  let m : Memory := { archive := ⟨[rowOfAna "a" (.object filter), rowOfAna "b" .null], 0⟩ }
  have hrows : m.archive.ofOwner (.text "ana") =
      [(rowOfAna "a" (.object filter)).2, (rowOfAna "b" .null).2] := rfl
  have hlist := (reads_and_lists filter noon (.text "ana") m).2
  rw [hrows] at hlist
  obtain ⟨hsucceeds, hlisted⟩ := hlist (by simp [hasColumns_rowOfAna])
  have hcriteria : ∀ r ∈ [(rowOfAna "a" (.object filter)).2, (rowOfAna "b" .null).2],
      HasCriteria r := by
    simp only [List.forall_mem_cons, List.not_mem_nil, false_implies, implies_true, and_true]
    exact ⟨.inr ⟨filter, rfl, (reads_and_lists filter noon (.text "ana") m).1.1.1 hfilter⟩, .inl rfl⟩
  obtain ⟨searches, hsearches⟩ := hsucceeds.2 hcriteria
  exact ⟨hfilter, searches, hsearches, (hlisted searches hsearches).length_eq.symm⟩

/-- A row that cannot be read hides the other saved search of its owner. -/
lemma ofOwner_rowOfAna {criteria : Value} {failure : Failure}
    (h : Criteria.read false criteria = .error failure) :
    (run Memory.handle (ofOwner noon (.text "ana"))
      { archive := ⟨[rowOfAna "a" .null, rowOfAna "b" criteria], 0⟩ }).1 = .error failure := by
  have hrow : ofRow noon (.object (rowOfAna "b" criteria).2) = .error failure :=
    ofRow_eq_error h
  rw [run_ofOwner]
  change ([(rowOfAna "a" .null).2, (rowOfAna "b" criteria).2].mapM fun r =>
    ofRow noon (.object r)) = _
  rw [List.mapM_cons, List.mapM_cons, hrow]
  rfl

/-- A number for the towns, a price beyond all binary64 numbers, and integers of too many digits
for the state and among the statuses. -/
def oddFields : List (String × Value × Failure) :=
  [("selectedTowns", .int 5, .notCollection),
    ("priceMin", .int (Nat.pow 10 400), .numberTooLarge),
    ("state", .int (Nat.pow 10 5000), .tooManyDigits),
    ("statuses", .list [.int (Nat.pow 10 5000)], .tooManyDigits)]

/-- Filters that cannot be read, each of which leaves an owner without a list. -/
theorem unreadable_and_unlisted :
    oddFields.Forall fun odd =>
      Criteria.read false (.object [(odd.1, odd.2.1)]) = .error odd.2.2 ∧
        (run Memory.handle (ofOwner noon (.text "ana"))
          { archive := ⟨[rowOfAna "a" .null, rowOfAna "b" (.object [(odd.1, odd.2.1)])], 0⟩ }).1 =
            .error odd.2.2 := by
  have hread : ∀ odd ∈ oddFields,
      Criteria.read false (.object [(odd.1, odd.2.1)]) = .error odd.2.2 := by
    decide +kernel
  rw [List.forall_iff_forall_mem]
  exact fun odd hodd => ⟨hread odd hodd, ofOwner_rowOfAna (hread odd hodd)⟩

end Registry
end ListingSearch
