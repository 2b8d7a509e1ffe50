import ListingSearch.Criteria.Reading
import Mathlib.Data.List.Nodup
import Mathlib.Data.List.Pairwise

/-! What a filter says about each field. No key belongs to two fields, and the first key of a field
that gives any information counts. Reading criteria looks at nothing else of a filter, so filters
that say the same about every field are read alike. -/
namespace ListingSearch

namespace Field

lemma mem_all (f : Field) : f ∈ all := by cases f <;> decide

lemma nodup_flatMap_keys : (all.flatMap keys).Nodup := by decide +kernel

lemma nodup_keys (f : Field) : f.keys.Nodup := (List.nodup_flatMap.1 nodup_flatMap_keys).1 f f.mem_all

lemma key_mem_keys (f : Field) : f.key ∈ f.keys := List.mem_cons_self

/-- A key belongs to one field only. -/
lemma eq_of_mem_keys {f g : Field} {k : String} (hf : k ∈ f.keys) (hg : k ∈ g.keys) : f = g := by
  by_contra hne
  have hsymm : Std.Symm (Function.onFun List.Disjoint keys) := ⟨fun _ _ h => List.disjoint_symm h⟩
  have hdisjoint := (List.nodup_flatMap.1 nodup_flatMap_keys).2
  exact hdisjoint.forall f.mem_all g.mem_all hne hf hg

lemma key_injective : Function.Injective key := fun f g h =>
  eq_of_mem_keys f.key_mem_keys (h ▸ g.key_mem_keys)

lemma key_ne_alias {f g : Field} : ∀ a ∈ f.aliases, g.key ≠ a := by
  rintro _ ha rfl
  obtain rfl := eq_of_mem_keys g.key_mem_keys (List.mem_cons_of_mem f.key ha)
  exact (List.nodup_cons.1 g.nodup_keys).1 ha

/-- Both are keys of the field, and the first one takes precedence. -/
def Outranks (f : Field) (j k : String) : Prop := k ∈ f.keys ∧ f.keys.idxOf j < f.keys.idxOf k

instance (f : Field) (j k : String) : Decidable (f.Outranks j k) :=
  inferInstanceAs (Decidable (_ ∧ _))

variable {f : Field} {i j k : String} {before after : List String}

lemma Outranks.trans (hij : f.Outranks i j) (hjk : f.Outranks j k) : f.Outranks i k :=
  ⟨hjk.1, Nat.lt_trans hij.2 hjk.2⟩

lemma Outranks.mem_keys (h : f.Outranks j k) : j ∈ f.keys :=
  List.idxOf_lt_length_iff.1 (Nat.lt_trans h.2 (List.idxOf_lt_length_iff.2 h.1))

lemma outranks_iff (hkeys : f.keys = before ++ k :: after) (hk : k ∉ before) :
    f.Outranks j k ↔ j ∈ before := by
  have hindex : f.keys.idxOf k = before.length := by
    rw [hkeys, List.idxOf_append_of_notMem hk, List.idxOf_cons_self, Nat.add_zero]
  rw [Outranks, hindex, hkeys]
  by_cases hj : j ∈ before
  · rw [List.idxOf_append_of_mem hj]
    exact iff_of_true ⟨by simp, List.idxOf_lt_length_iff.2 hj⟩ hj
  · rw [List.idxOf_append_of_notMem hj]
    exact iff_of_false (fun h => absurd h.2 (by omega)) hj

end Field

namespace Record

variable {r r' : Record} {f : Field} {k : String} {keys : List String} {fields : List Field}

lemma pickFrom_of_forall_blank (h : ∀ k ∈ keys, (r.get k).isBlank = true) :
    r.pickFrom keys = .null := by
  induction keys with
  | nil => rfl
  | cons k keys ih =>
    rw [pickFrom, if_pos (h k (by simp)), ih fun k hk => h k (by simp [hk])]

lemma pickFrom_append {before : List String} (h : ∀ j ∈ before, (r.get j).isBlank = true)
    (after : List String) : r.pickFrom (before ++ after) = r.pickFrom after := by
  induction before with
  | nil => rfl
  | cons j before ih =>
    rw [List.cons_append, pickFrom, if_pos (h j (by simp)), ih fun i hi => h i (by simp [hi])]

lemma pickFrom_congr (h : ∀ k ∈ keys, r'.get k = r.get k) : r'.pickFrom keys = r.pickFrom keys := by
  induction keys with
  | nil => rfl
  | cons k keys ih =>
    rw [pickFrom, pickFrom, h k (by simp), ih fun k hk => h k (by simp [hk])]

/-- The key counts for the field: it gives information, and none that outranks it does. -/
structure Wins (r : Record) (f : Field) (k : String) : Prop where
  mem : k ∈ f.keys
  informs : (r.get k).isBlank = false
  first : ∀ j, f.Outranks j k → (r.get j).isBlank = true

/-- The value of a field is the one under the key that counts. -/
lemma Wins.pick_eq (h : r.Wins f k) : r.pick f = r.get k := by
  obtain ⟨before, after, hkeys, hk⟩ := List.eq_append_cons_of_mem h.mem
  have hblank : ∀ j ∈ before, (r.get j).isBlank = true := fun j hj =>
    h.first j ((Field.outranks_iff hkeys hk).2 hj)
  rw [pick, hkeys, pickFrom_append hblank, pickFrom, if_neg (by simp [h.informs])]

lemma wins_of_keys_eq {before after : List String} (hkeys : f.keys = before ++ k :: after)
    (hblank : ∀ j ∈ before, (r.get j).isBlank = true) (hk : (r.get k).isBlank = false) :
    r.Wins f k := by
  have hnot : k ∉ before := fun hmem => by simp [hblank k hmem] at hk
  exact ⟨by simp [hkeys], hk, fun j hj => hblank j ((Field.outranks_iff hkeys hnot).1 hj)⟩

lemma wins_key (h : (r.get f.key).isBlank = false) : r.Wins f f.key := by
  have hkeys : f.keys = [] ++ f.key :: f.aliases := rfl
  exact wins_of_keys_eq hkeys (by simp) h

/-- Some key of the field counts, unless none gives any information. -/
lemma forall_blank_or_wins (r : Record) (f : Field) :
    (∀ k ∈ f.keys, (r.get k).isBlank = true) ∨ ∃ k, r.Wins f k := by
  rw [or_iff_not_imp_left]
  intro hsome
  have hfind : (f.keys.find? fun k => !(r.get k).isBlank).isSome := by
    simpa using hsome
  obtain ⟨k, hk⟩ := Option.isSome_iff_exists.1 hfind
  obtain ⟨hinforms, before, after, hkeys, hblank⟩ := List.find?_eq_some_iff_append.1 hk
  exact ⟨k, wins_of_keys_eq hkeys (by simpa using hblank) (by simpa using hinforms)⟩

/-- The record without all keys of some fields. -/
def without (fields : List Field) (r : Record) : Record :=
  r.filter fun entry => entry.1 ∉ fields.flatMap Field.keys

lemma get?_without (fields : List Field) (r : Record) (k : String) :
    (r.without fields).get? k = if k ∈ fields.flatMap Field.keys then none else r.get? k := by
  induction r with
  | nil => simp [without, get?]
  | cons entry rest ih =>
    obtain ⟨key, v⟩ := entry
    rw [without] at ih ⊢
    by_cases hremoved : key ∈ fields.flatMap Field.keys
    · rw [List.filter_cons_of_neg (by simpa using hremoved), ih, get?]
      split_ifs with hk heq
      · rfl
      · exact absurd (heq ▸ hremoved) hk
      · rfl
    · rw [List.filter_cons_of_pos (by simpa using hremoved), get?, ih, get?]
      split_ifs with heq hk hk
      · exact absurd hk (heq ▸ hremoved)
      · rfl
      · rfl
      · rfl

/-- Fields that are left out have no value, and the others keep theirs. -/
lemma pick_without (fields : List Field) (r : Record) (f : Field) :
    (r.without fields).pick f = if f ∈ fields then .null else r.pick f := by
  split_ifs with hf
  · refine pickFrom_of_forall_blank fun k hk => ?_
    rw [get, get?_without, if_pos (List.mem_flatMap.2 ⟨f, hf, hk⟩)]
    rfl
  · refine pickFrom_congr fun k hk => ?_
    have hkept : k ∉ fields.flatMap Field.keys := by
      intro hmem
      obtain ⟨g, hg, hkg⟩ := List.mem_flatMap.1 hmem
      exact hf (Field.eq_of_mem_keys hk hkg ▸ hg)
    rw [get, get?_without, if_neg hkept, get]

end Record

namespace Criteria

variable {s s' : Bool} {r r' : Record}

def pricing : List Field := [.priceMin, .priceMax, .hasNoMin, .hasNoMax]

/-- Criteria depend on the price that was read and on the values of the other fields. -/
lemma ofRecord_congr (hprice : readPrice s' r' = readPrice s r)
    (h : ∀ f ∉ pricing, r'.pick f = r.pick f) : ofRecord s' r' = ofRecord s r := by
  simp (disch := decide) only [ofRecord, readOrder, readPlace, readKeywords, hprice, h]

/-- Filters that say the same about every field are read alike. -/
lemma read_congr (h : ∀ f, r'.pick f = r.pick f) (strict : Bool) :
    read strict (.object r') = read strict (.object r) :=
  ofRecord_congr (by simp only [readPrice, h]) fun f _ => h f

end Criteria
end ListingSearch
