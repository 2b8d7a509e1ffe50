/-!
Finite sets of texts, kept as ascending lists. The list is determined by the members, so sets with
the same members are equal and are written in one way only.
-/
namespace ListingSearch

/-- A finite set of texts, held in ascending order of code points. -/
structure TextSet where
  toList : List String
  ascending : toList.Pairwise (· < ·)

namespace TextSet

instance : DecidableEq TextSet := fun s t =>
  decidable_of_iff (s.toList = t.toList) (by cases s; cases t; simp)

instance : Membership String TextSet := ⟨fun s x => x ∈ s.toList⟩

def empty : TextSet := ⟨[], .nil⟩

instance : Inhabited TextSet := ⟨empty⟩

def isEmpty (s : TextSet) : Bool := s.toList.isEmpty

def size (s : TextSet) : Nat := s.toList.length

/-- Puts a text in its place in an ascending list, unless it is there. -/
def place (x : String) : List String → List String
  | [] => [x]
  | y :: ys => if x < y then x :: y :: ys else if x = y then y :: ys else y :: place x ys

theorem mem_place {x y : String} {ys : List String} : y ∈ place x ys ↔ y = x ∨ y ∈ ys := by
  induction ys with
  | nil => simp [place]
  | cons z zs ih =>
    unfold place
    split
    · simp
    · split
      · rename_i h
        simp [h]
      · simp only [List.mem_cons, ih]
        exact ⟨fun h => h.elim (fun e => .inr (.inl e)) (·.imp_right .inr),
          fun h => h.elim (fun e => .inr (.inl e)) (·.imp_right .inr)⟩

theorem pairwise_place {x : String} {ys : List String} (h : ys.Pairwise (· < ·)) :
    (place x ys).Pairwise (· < ·) := by
  induction ys with
  | nil => simp [place]
  | cons z zs ih =>
    obtain ⟨hz, hzs⟩ := List.pairwise_cons.1 h
    unfold place
    split
    · rename_i hx
      refine List.pairwise_cons.2 ⟨fun w hw => ?_, h⟩
      rcases List.mem_cons.1 hw with rfl | hw
      · exact hx
      · exact String.lt_trans hx (hz w hw)
    · split
      · exact h
      · rename_i hx hne
        refine List.pairwise_cons.2 ⟨fun w hw => ?_, ih hzs⟩
        rcases mem_place.1 hw with rfl | hw
        · exact Decidable.byContradiction fun hzw =>
            hne (String.le_antisymm (String.not_lt.1 hzw) (String.not_lt.1 hx))
        · exact hz w hw

def insert (x : String) (s : TextSet) : TextSet := ⟨place x s.toList, pairwise_place s.ascending⟩

def ofList (xs : List String) : TextSet := xs.foldr insert empty

def union (s t : TextSet) : TextSet := s.toList.foldr insert t

@[simp] theorem mem_toList {x : String} {s : TextSet} : x ∈ s.toList ↔ x ∈ s := Iff.rfl

@[simp] theorem not_mem_empty (x : String) : ¬ x ∈ empty := List.not_mem_nil

@[simp] theorem mem_insert {x y : String} {s : TextSet} : y ∈ s.insert x ↔ y = x ∨ y ∈ s :=
  mem_place

@[simp] theorem mem_foldr_insert {y : String} {xs : List String} {s : TextSet} :
    y ∈ xs.foldr insert s ↔ y ∈ xs ∨ y ∈ s := by
  induction xs with
  | nil => simp
  | cons x xs ih => simp [ih, or_assoc]

@[simp] theorem mem_ofList {y : String} {xs : List String} : y ∈ ofList xs ↔ y ∈ xs := by
  simp [ofList]

@[simp] theorem mem_union {y : String} {s t : TextSet} : y ∈ s.union t ↔ y ∈ s ∨ y ∈ t := by
  simp [union]

/-- Two ascending lists with the same members are equal. -/
theorem eq_of_pairwise_of_mem_iff {xs ys : List String} (hx : xs.Pairwise (· < ·))
    (hy : ys.Pairwise (· < ·)) (h : ∀ z, z ∈ xs ↔ z ∈ ys) : xs = ys := by
  induction xs generalizing ys with
  | nil =>
    cases ys with
    | nil => rfl
    | cons y ys => exact absurd ((h y).2 (by simp)) (by simp)
  | cons x xs ih =>
    cases ys with
    | nil => exact absurd ((h x).1 (by simp)) (by simp)
    | cons y ys =>
      obtain ⟨hx1, hx2⟩ := List.pairwise_cons.1 hx
      obtain ⟨hy1, hy2⟩ := List.pairwise_cons.1 hy
      have hxy : x = y := by
        rcases List.mem_cons.1 ((h x).1 (by simp)) with e | e
        · exact e
        rcases List.mem_cons.1 ((h y).2 (by simp)) with e' | e'
        · exact e'.symm
        · exact absurd (String.lt_trans (hy1 x e) (hx1 y e')) (String.lt_irrefl y)
      subst hxy
      congr 1
      refine ih hx2 hy2 fun z => ⟨fun hz => ?_, fun hz => ?_⟩
      · rcases List.mem_cons.1 ((h z).1 (by simp [hz])) with rfl | e
        · exact absurd (hx1 z hz) (String.lt_irrefl z)
        · exact e
      · rcases List.mem_cons.1 ((h z).2 (by simp [hz])) with rfl | e
        · exact absurd (hy1 z hz) (String.lt_irrefl z)
        · exact e

/-- Sets with the same members are equal. -/
theorem ext {s t : TextSet} (h : ∀ x, x ∈ s ↔ x ∈ t) : s = t := by
  cases s with
  | mk xs hx =>
    cases t with
    | mk ys hy =>
      have : xs = ys := eq_of_pairwise_of_mem_iff hx hy h
      subst this
      rfl

theorem isEmpty_eq_false_iff {s : TextSet} : s.isEmpty = false ↔ ∃ x, x ∈ s := by
  cases s with
  | mk xs hx =>
    cases xs with
    | nil => exact iff_of_false (by simp [isEmpty]) fun ⟨x, h⟩ => List.not_mem_nil h
    | cons x xs => exact iff_of_true rfl ⟨x, List.mem_cons_self⟩

example : (ofList ["b", "a", "b"]).toList = ["a", "b"] := by decide

end TextSet
end ListingSearch
