import ListingSearch.Proofs.Criteria.Picks
import Mathlib.Logic.Relation

/-! Edits of a filter that do not change what it says. A key may come, go or change if no field has
it, if it gives no information before and after, or if a key that outranks it gives some; and the
value of a field may move to the explicit key. Any number of keys may be edited at once and any
number of times: every field keeps its value, so the filter is read as before. -/
namespace ListingSearch

namespace Record

variable {r r' : Record} {f : Field} {k : String}

/-- Why a key may have another value in an edited filter. A key that is absent has the value
null. -/
inductive MayDiffer (r r' : Record) (k : String) : Prop
  | unchanged (h : r'.get k = r.get k)
  /-- No field has the key. -/
  | unknown (h : ∀ f : Field, k ∉ f.keys)
  /-- The key gives no information, neither before nor after the edit. -/
  | blank (hold : (r.get k).isBlank = true) (hnew : (r'.get k).isBlank = true)
  /-- A key that takes precedence gives information. -/
  | outranked {f : Field} {j : String} (h : f.Outranks j k) (hj : (r.get j).isBlank = false)
  /-- The value of the field is moved from here to the explicit key. -/
  | vacated {f : Field} (h : r.Wins f k) (hto : r'.get f.key = r.get k)
  /-- The value of the field is moved to here, the explicit key. -/
  | filled {f : Field} {j : String} (h : r.Wins f j) (hk : k = f.key) (hto : r'.get k = r.get j)

/-- The second filter is an edited form of the first one that says the same. -/
def Restates (r r' : Record) : Prop := ∀ k, r.MayDiffer r' k

/-- Where the value of a field is not moved, its keys differ for one of three reasons. -/
lemma MayDiffer.cases_of_mem (h : r.MayDiffer r' k) (hk : k ∈ f.keys)
    (hstays : ¬ ∃ j, r.Wins f j ∧ r'.get f.key = r.get j) :
    r'.get k = r.get k ∨ ((r.get k).isBlank = true ∧ (r'.get k).isBlank = true) ∨
      ∃ j, f.Outranks j k ∧ (r.get j).isBlank = false := by
  cases h with
  | unchanged h => exact .inl h
  | unknown h => exact absurd hk (h f)
  | blank hold hnew => exact .inr (.inl ⟨hold, hnew⟩)
  | outranked h hj =>
    obtain rfl := Field.eq_of_mem_keys hk h.1
    exact .inr (.inr ⟨_, h, hj⟩)
  | vacated h hto =>
    obtain rfl := Field.eq_of_mem_keys hk h.mem
    exact absurd ⟨k, h, hto⟩ hstays
  | filled h hkey hto =>
    subst hkey
    obtain rfl := Field.eq_of_mem_keys hk (Field.key_mem_keys _)
    exact absurd ⟨_, h, hto⟩ hstays

/-- The key that counted still counts where the value of the field is not moved. -/
lemma Restates.wins (h : r.Restates r') (hwins : r.Wins f k)
    (hstays : ¬ ∃ j, r.Wins f j ∧ r'.get f.key = r.get j) :
    r'.Wins f k ∧ r'.get k = r.get k := by
  have hsame : r'.get k = r.get k := by
    rcases (h k).cases_of_mem hwins.mem hstays with hsame | ⟨hblank, -⟩ | ⟨j, hj, hinforms⟩
    · exact hsame
    · simp [hwins.informs] at hblank
    · simp [hwins.first j hj] at hinforms
  refine ⟨⟨hwins.mem, hsame ▸ hwins.informs, fun j hj => ?_⟩, hsame⟩
  rcases (h j).cases_of_mem hj.mem_keys hstays with hsame | ⟨-, hblank⟩ | ⟨i, hi, hinforms⟩
  · rw [hsame]
    exact hwins.first j hj
  · exact hblank
  · simp [hwins.first i (hi.trans hj)] at hinforms

/-- A field that had no value has none after the edit. -/
lemma Restates.forall_blank (h : r.Restates r')
    (hblank : ∀ k ∈ f.keys, (r.get k).isBlank = true) :
    ∀ k ∈ f.keys, (r'.get k).isBlank = true := by
  have hstays : ¬ ∃ j, r.Wins f j ∧ r'.get f.key = r.get j := by
    rintro ⟨j, hwins, -⟩
    simpa [hwins.informs] using hblank j hwins.mem
  intro k hk
  rcases (h k).cases_of_mem hk hstays with hsame | ⟨-, hnew⟩ | ⟨j, hj, hinforms⟩
  · rw [hsame]
    exact hblank k hk
  · exact hnew
  · simp [hblank j hj.mem_keys] at hinforms

/-- Every field keeps its value. -/
lemma Restates.pick_eq (h : r.Restates r') (f : Field) : r'.pick f = r.pick f := by
  by_cases hmoved : ∃ j, r.Wins f j ∧ r'.get f.key = r.get j
  · obtain ⟨j, hwins, hto⟩ := hmoved
    have hwins' : r'.Wins f f.key := wins_key (hto ▸ hwins.informs)
    rw [hwins.pick_eq, hwins'.pick_eq, hto]
  · rcases forall_blank_or_wins r f with hblank | ⟨k, hwins⟩
    · rw [pick, pick, pickFrom_of_forall_blank hblank,
        pickFrom_of_forall_blank (h.forall_blank hblank)]
    · obtain ⟨hwins', hsame⟩ := h.wins hwins hmoved
      rw [hwins.pick_eq, hwins'.pick_eq, hsame]

lemma get_eq_null_of_not_mem (hk : k ∉ r.map (·.1)) : r.get k = .null := by
  have hnone : r.get? k = none := by
    induction r with
    | nil => rfl
    | cons entry rest ih =>
      rw [List.map_cons, List.mem_cons, not_or] at hk
      rw [get?, if_neg (Ne.symm hk.1), ih hk.2]
  rw [get, hnone]
  rfl

/-- Only the keys that are there before or after an edit need a reason to differ. -/
lemma restates_of_forall_mem (h : ∀ k ∈ r.map (·.1) ++ r'.map (·.1), r.MayDiffer r' k) :
    r.Restates r' := by
  intro k
  by_cases hk : k ∈ r.map (·.1) ++ r'.map (·.1)
  · exact h k hk
  · rw [List.mem_append, not_or] at hk
    exact .unchanged (by rw [get_eq_null_of_not_mem hk.1, get_eq_null_of_not_mem hk.2])

end Record

namespace Criteria

/-- A filter that was edited, in any number of edits that say the same, gives the same criteria, or
it fails to be read in the same way. -/
theorem read_restated {r r' : Record} (h : Relation.ReflTransGen Record.Restates r r') :
    (∀ f, r'.pick f = r.pick f) ∧
      ∀ strict, read strict (.object r') = read strict (.object r) := by
  have hpick : ∀ f, r'.pick f = r.pick f := by
    induction h with
    | refl => exact fun f => rfl
    | tail _ hedit ih => exact fun f => (hedit.pick_eq f).trans (ih f)
  exact ⟨hpick, read_congr hpick⟩

/-- A price and a number of bedrooms that move to their explicit keys in two rounds of edits, while
keys behind them, blank keys and unknown keys come and go. -/
theorem read_restated_twoRounds :
    let first : Record := [("minPrice", .text "1,000"), ("min_price", .int 7),
      ("bedsMin", .text "  "), ("bedrooms", .int 2), ("color", .text "red")]
    let second : Record := [("priceMin", .text "1,000"), ("bedrooms", .int 2),
      ("beds_min", .int 9), ("statuses", .list []), ("theme", .text "dark")]
    let third : Record := [("priceMin", .text "1,000"), ("minPrice", .int 3), ("bedsMin", .int 2)]
    first.Restates second ∧ second.Restates third ∧
      (∀ f, third.pick f = first.pick f) ∧ third.pick .priceMin = .text "1,000" ∧
      ∀ strict, read strict (.object third) = read strict (.object first) := by
  intro first second third
  have hprice : first.Wins .priceMin "minPrice" := by
    have hkeys : Field.keys .priceMin = ["priceMin"] ++ "minPrice" :: ["min_price", "price_min"] :=
      rfl
    exact Record.wins_of_keys_eq hkeys (List.forall_mem_singleton.2 rfl) rfl
  have hbeds : second.Wins .bedsMin "bedrooms" := by
    have hkeys : Field.keys .bedsMin = ["bedsMin"] ++ "bedrooms" :: ["minBeds", "beds_min"] := rfl
    exact Record.wins_of_keys_eq hkeys (List.forall_mem_singleton.2 rfl) rfl
  have hunknown : ∀ k ∈ ["color", "theme"], ∀ f : Field, k ∉ f.keys := by
    have hall : ∀ k ∈ ["color", "theme"], ∀ f ∈ Field.all, k ∉ f.keys := by decide +kernel
    exact fun k hk f => hall k hk f f.mem_all
  have hsecond : first.Restates second := by
    refine Record.restates_of_forall_mem ?_
    simp only [first, second, List.map_cons, List.map_nil, List.cons_append, List.nil_append,
      List.forall_mem_cons]
    exact ⟨.vacated hprice rfl, .outranked (f := .priceMin) (j := "minPrice") (by decide) rfl,
      .blank rfl rfl, .unchanged rfl, .unknown (hunknown _ (by simp)), .filled hprice rfl rfl,
      .unchanged rfl, .outranked (f := .bedsMin) (j := "bedrooms") (by decide) rfl, .blank rfl rfl,
      .unknown (hunknown _ (by simp)), by simp⟩
  have hthird : second.Restates third := by
    refine Record.restates_of_forall_mem ?_
    simp only [second, third, List.map_cons, List.map_nil, List.cons_append, List.nil_append,
      List.forall_mem_cons]
    exact ⟨.unchanged rfl, .vacated hbeds rfl,
      .outranked (f := .bedsMin) (j := "bedrooms") (by decide) rfl, .blank rfl rfl,
      .unknown (hunknown _ (by simp)), .unchanged rfl,
      .outranked (f := .priceMin) (j := "priceMin") (by decide) rfl, .filled hbeds rfl rfl,
      by simp⟩
  obtain ⟨hpick, hread⟩ := read_restated (.tail (.single hsecond) hthird)
  exact ⟨hsecond, hthird, hpick, rfl, hread⟩

end Criteria
end ListingSearch
