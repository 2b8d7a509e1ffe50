import ListingSearch.Proofs.Memory.Inventory
import ListingSearch.Proofs.Value.Order

/-! The order in which a search gives its results. Where the values of the column can be compared it
is a total order of the rows: rows with a value come first, then the value decides in the direction
of the order, then the identifier. So what a search gives does not depend on how the rows stand. -/
namespace ListingSearch.Inventory

/-- The values of a column can be compared as far as there are any, and none of them is `nan`. -/
structure Comparable (column : String) (rows : List Record) : Prop where
  nanFree : ∀ r ∈ rows, (r.get column).NanFree
  less : ∀ r ∈ rows, ∀ s ∈ rows, (r.get column).isNull = false → (s.get column).isNull = false →
    ∃ b, (r.get column).less (s.get column) = .ok b

/-- The identifier of the first row is smaller. -/
def IdBefore (r s : Record) : Prop :=
  ∃ a b, r.get? "id" = some (.text a) ∧ s.get? "id" = some (.text b) ∧ a < b

/-- The first row has a value in the column of the order, and the second one has none or one that
comes later in its direction. -/
def Outranks (sort : SortOrder) (r s : Record) : Prop :=
  (r.get sort.column).isNull = false ∧ ((s.get sort.column).isNull = true ∨
    if sort.descending then (s.get sort.column).less (r.get sort.column) = .ok true
    else (r.get sort.column).less (s.get sort.column) = .ok true)

/-- The first row stands in front of the second one: it outranks it, or neither outranks the other
and its identifier is smaller. -/
def Precedes (sort : SortOrder) (r s : Record) : Prop :=
  Outranks sort r s ∨ (¬ Outranks sort s r ∧ IdBefore r s)

variable {p : Predicate} {sort : SortOrder} {column : String} {limit : Int}
  {rows found : List Record} {r s : Record}

lemma Comparable.of_subset (h : Comparable column rows) (hsubset : found ⊆ rows) :
    Comparable column found :=
  ⟨fun r hr => h.nanFree r (hsubset hr),
    fun r hr s hs => h.less r (hsubset hr) s (hsubset hs)⟩

/-- Texts can be compared. -/
lemma comparable_of_texts (h : ∀ r ∈ rows, ∃ s : Option String, r.get column = .ofText? s) :
    Comparable column rows := by
  refine ⟨fun r hr => ?_, fun r hr s hs hrn hsn => ?_⟩
  · obtain ⟨t, ht⟩ := h r hr
    rw [ht]
    cases t with
    | none => exact .null
    | some t => exact .text t
  · obtain ⟨t, ht⟩ := h r hr
    obtain ⟨u, hu⟩ := h s hs
    rw [ht] at hrn ⊢
    rw [hu] at hsn ⊢
    cases t with
    | none => cases hrn
    | some t =>
      cases u with
      | none => cases hsn
      | some u => exact ⟨_, rfl⟩

/-- A row with its value in a column, if it is among some rows and has one. -/
def KeyedIn (column : String) (rows : List Record) (x : Keyed) : Prop :=
  x.2 ∈ rows ∧ x.1 = x.2.get column ∧ x.1.isNull = false

lemma Comparable.ranking (h : Comparable column rows) :
    Ranking (fun x y : Keyed => x.1.less y.1) (KeyedIn column rows) := by
  have hvalues : Ranking Value.less fun v =>
      ∃ r ∈ rows, v = r.get column ∧ v.isNull = false := by
    refine Value.ranking_less ?_ ?_
    · rintro _ ⟨r, hr, rfl, -⟩
      exact h.nanFree r hr
    · rintro _ _ ⟨r, hr, rfl, hr'⟩ ⟨s, hs, rfl, hs'⟩
      exact h.less r hr s hs hr' hs'
  have hvalue {x : Keyed} (hx : KeyedIn column rows x) :
      ∃ r ∈ rows, x.1 = r.get column ∧ x.1.isNull = false := ⟨x.2, hx⟩
  exact ⟨fun hx hy => hvalues.decided (hvalue hx) (hvalue hy),
    fun hx hy => hvalues.asymm (hvalue hx) (hvalue hy),
    fun hx hy hz => hvalues.trans (hvalue hx) (hvalue hy) (hvalue hz)⟩

lemma Labelled.get (h : Labelled rows) (hr : r ∈ rows) :
    ∃ a, r.get? "id" = some (.text a) ∧ r.get "id" = .text a := by
  obtain ⟨a, ha⟩ := h.text r hr
  exact ⟨a, ha, by rw [Record.get, ha, Option.getD_some]⟩

/-- A row is told by its identifier. -/
lemma Labelled.eq_of_get (h : Labelled rows) (hr : r ∈ rows) (hs : s ∈ rows)
    (heq : r.get "id" = s.get "id") : r = s := by
  obtain ⟨a, ha, hgeta⟩ := h.get hr
  obtain ⟨b, hb, hgetb⟩ := h.get hs
  refine List.inj_on_of_nodup_map h.nodup hr hs ?_
  rw [ha, hb, ← hgeta, ← hgetb, heq]

lemma Labelled.comparable (h : Labelled rows) : Comparable "id" rows := by
  refine ⟨fun r hr => ?_, fun r hr s hs _ _ => ?_⟩
  · obtain ⟨a, -, ha⟩ := h.get hr
    rw [ha]
    exact .text a
  · obtain ⟨a, -, ha⟩ := h.get hr
    obtain ⟨b, -, hb⟩ := h.get hs
    rw [ha, hb]
    exact ⟨_, rfl⟩

lemma mapM_identifier (h : Labelled rows) :
    (rows.mapM fun r => return (← identifier r, r) : Outcome (List Keyed)) =
      .ok (rows.map fun r => (r.get "id", r)) := by
  rw [Outcome.mapM_eq_ok_iff, List.forall₂_map_right_iff, List.forall₂_same]
  intro r hr
  obtain ⟨a, ha, hget⟩ := h.get hr
  rw [identifier, ha, hget]
  rfl

/-- Rows with identifiers of their own are put in the order of these. -/
lemma byIdentifier_spec (h : Labelled rows) :
    ∃ zs, byIdentifier rows = .ok zs ∧ zs.Perm rows ∧ zs.Pairwise IdBefore := by
  have hmember : ∀ x ∈ rows.map fun r => (r.get "id", r), KeyedIn "id" rows x := by
    intro x hx
    obtain ⟨r, hr, rfl⟩ := List.mem_map.1 hx
    obtain ⟨a, -, ha⟩ := h.get hr
    exact ⟨hr, rfl, by rw [ha]; rfl⟩
  have hdistinct : (rows.map fun r => (r.get "id", r)).Pairwise
      fun x y : Keyed => x.2.get? "id" ≠ y.2.get? "id" :=
    List.pairwise_map.2 (List.pairwise_map.1 h.nodup)
  obtain ⟨zs, hzs, hperm, hsorted⟩ := h.comparable.ranking.inOrder_spec hmember hdistinct
  have hall : byIdentifier rows = .ok (zs.map (·.2)) := by
    rw [byIdentifier, mapM_identifier h]
    change (·.map (·.2)) <$> byKey _ = _
    rw [byKey, hzs]
    rfl
  refine ⟨zs.map (·.2), hall, byIdentifier_perm hall, List.pairwise_map.2 ?_⟩
  refine hsorted.imp_of_mem fun {x y} hx hy hxy => ?_
  obtain ⟨hxrow, hxkey, -⟩ := hmember x (hperm.subset hx)
  obtain ⟨hyrow, hykey, -⟩ := hmember y (hperm.subset hy)
  obtain ⟨a, ha, hgeta⟩ := h.get hxrow
  obtain ⟨b, hb, hgetb⟩ := h.get hyrow
  refine ⟨a, b, ha, hb, ?_⟩
  simp only [InFront, hxkey, hykey, hgeta, hgetb, Value.less, Except.ok.injEq, decide_eq_true_eq,
    decide_eq_false_iff_not] at hxy
  rcases hxy with hlt | ⟨hnot, hnot', hne⟩
  · exact hlt
  · refine absurd ?_ hne
    rw [ha, hb, le_antisymm (not_lt.1 hnot') (not_lt.1 hnot)]

lemma outranks_iff (hr : (r.get sort.column).isNull = false)
    (hs : (s.get sort.column).isNull = false) :
    Outranks sort r s ↔
      if sort.descending then (s.get sort.column).less (r.get sort.column) = .ok true
      else (r.get sort.column).less (s.get sort.column) = .ok true := by
  simp [Outranks, hr, hs]

lemma precedes_of_ascending {x y : Keyed} (hsort : sort.descending = false)
    (hx : KeyedIn sort.column rows x) (hy : KeyedIn sort.column rows y)
    (h : InFront (fun x y : Keyed => x.1.less y.1) (fun x y => IdBefore x.2 y.2) x y) :
    Precedes sort x.2 y.2 := by
  obtain ⟨-, hxkey, hxnull⟩ := hx
  obtain ⟨-, hykey, hynull⟩ := hy
  rw [hxkey] at hxnull
  rw [hykey] at hynull
  simp only [InFront, hxkey, hykey] at h
  rcases h with hless | ⟨-, hnot, hid⟩
  · exact .inl ((outranks_iff hxnull hynull).2 (by simpa [hsort] using hless))
  · refine .inr ⟨?_, hid⟩
    rw [outranks_iff hynull hxnull]
    simp [hsort, hnot]

lemma precedes_of_descending {x y : Keyed} (hsort : sort.descending = true)
    (hx : KeyedIn sort.column rows x) (hy : KeyedIn sort.column rows y)
    (h : InFront (fun x y : Keyed => x.1.less y.1) (fun x y => IdBefore y.2 x.2) y x) :
    Precedes sort x.2 y.2 := by
  obtain ⟨-, hxkey, hxnull⟩ := hx
  obtain ⟨-, hykey, hynull⟩ := hy
  rw [hxkey] at hxnull
  rw [hykey] at hynull
  simp only [InFront, hxkey, hykey] at h
  rcases h with hless | ⟨-, hnot, hid⟩
  · exact .inl ((outranks_iff hxnull hynull).2 (by simpa [hsort] using hless))
  · refine .inr ⟨?_, hid⟩
    rw [outranks_iff hynull hxnull]
    simp [hsort, hnot]

/-- Rows that all have a value in the column, in the order of their identifiers at first, are put in
the order asked for. -/
lemma byColumn_spec (h : Comparable sort.column rows)
    (hpresent : ∀ r ∈ rows, (r.get sort.column).isNull = false) (hid : rows.Pairwise IdBefore) :
    ∃ zs, byColumn sort rows = .ok zs ∧ zs.Perm rows ∧ zs.Pairwise (Precedes sort) := by
  set keyed : List Keyed := rows.map fun r => (r.get sort.column, r) with hkeyed
  have hmember : ∀ x ∈ keyed, KeyedIn sort.column rows x := by
    intro x hx
    obtain ⟨r, hr, rfl⟩ := List.mem_map.1 hx
    exact ⟨hr, rfl, hpresent r hr⟩
  have hkeyedId : keyed.Pairwise fun x y : Keyed => IdBefore x.2 y.2 := List.pairwise_map.2 hid
  cases hsort : sort.descending with
  | false =>
    obtain ⟨zs, hzs, hperm, hsorted⟩ := h.ranking.inOrder_spec hmember hkeyedId
    have hall : byColumn sort rows = .ok (zs.map (·.2)) := by
      simp only [byColumn, hsort, Bool.false_eq_true, if_false, byKey, ← hkeyed, hzs]
      rfl
    refine ⟨_, hall, byColumn_perm hall, List.pairwise_map.2 ?_⟩
    exact hsorted.imp_of_mem fun hx hy hxy => precedes_of_ascending hsort
      (hmember _ (hperm.subset hx)) (hmember _ (hperm.subset hy)) hxy
  | true =>
    -- Turned round before and after, rows of equal value keep the order of their identifiers.
    obtain ⟨zs, hzs, hperm, hsorted⟩ := h.ranking.inOrder_spec
      (fun x hx => hmember x (List.mem_reverse.1 hx)) (List.pairwise_reverse.2 hkeyedId)
    have hall : byColumn sort rows = .ok (zs.map (·.2)).reverse := by
      simp only [byColumn, hsort, if_true, byKey, ← hkeyed, hzs]
      rfl
    have hmem : ∀ x ∈ zs, KeyedIn sort.column rows x := fun x hx =>
      hmember x (List.mem_reverse.1 (hperm.subset hx))
    refine ⟨_, hall, byColumn_perm hall, List.pairwise_reverse.2 (List.pairwise_map.2 ?_)⟩
    exact hsorted.imp_of_mem fun hx hy hxy =>
      precedes_of_descending hsort (hmem _ hy) (hmem _ hx) hxy

/-- Rows with identifiers of their own and values that can be compared are put in order. -/
theorem arrange_spec (hid : Labelled rows) (h : Comparable sort.column rows) :
    ∃ zs, arrange sort rows = .ok zs ∧ zs.Perm rows ∧ zs.Pairwise (Precedes sort) := by
  obtain ⟨byId, hbyId, hperm, hsorted⟩ := byIdentifier_spec hid
  set isMissing : Record → Bool := fun r => (r.get sort.column).isNull with hmissing
  have hpresent : ∀ r ∈ byId.filter (!isMissing ·), (r.get sort.column).isNull = false :=
    fun r hr => by simpa [hmissing] using (List.mem_filter.1 hr).2
  obtain ⟨zs, hzs, hzsperm, hzssorted⟩ := byColumn_spec
    (h.of_subset fun r hr => hperm.subset (List.mem_of_mem_filter hr)) hpresent (hsorted.filter _)
  have hall : arrange sort rows = .ok (zs ++ byId.filter isMissing) := by
    rw [arrange, hbyId]
    change (byColumn sort (byId.filter (!isMissing ·)) >>= _) = _
    rw [hzs]
    rfl
  refine ⟨_, hall, arrange_perm hall, List.pairwise_append.2 ⟨hzssorted, ?_, fun r hr s hs => ?_⟩⟩
  · refine (hsorted.filter _).imp_of_mem fun {r s} _ hs hrs => .inr ⟨fun hout => ?_, hrs⟩
    have hnull : (s.get sort.column).isNull = true := (List.mem_filter.1 hs).2
    have hpresent : (s.get sort.column).isNull = false := hout.1
    rw [hnull] at hpresent
    cases hpresent
  · exact .inl ⟨hpresent r (hzsperm.subset hr), .inl (List.mem_filter.1 hs).2⟩

lemma not_precedes_both (h : Comparable sort.column rows) (hr : r ∈ rows) (hs : s ∈ rows)
    (hrs : Precedes sort r s) (hsr : Precedes sort s r) : False := by
  rcases hrs with hrs | ⟨hnot, a, b, ha, hb, hlt⟩
  · rcases hsr with hsr | ⟨hnot, -⟩
    · have hrnull := hrs.1
      have hsnull := hsr.1
      have hmr : KeyedIn sort.column rows (r.get sort.column, r) := ⟨hr, rfl, hrnull⟩
      have hms : KeyedIn sort.column rows (s.get sort.column, s) := ⟨hs, rfl, hsnull⟩
      rw [outranks_iff hrnull hsnull] at hrs
      rw [outranks_iff hsnull hrnull] at hsr
      split at hrs
      · rename_i hsort
        rw [if_pos hsort] at hsr
        have hfalse := h.ranking.asymm hms hmr hrs
        dsimp only at hfalse
        rw [hsr] at hfalse
        cases hfalse
      · rename_i hsort
        rw [if_neg hsort] at hsr
        have hfalse := h.ranking.asymm hmr hms hrs
        dsimp only at hfalse
        rw [hsr] at hfalse
        cases hfalse
    · exact hnot hrs
  · rcases hsr with hsr | ⟨-, a', b', ha', hb', hlt'⟩
    · exact hnot hsr
    · rw [hb] at ha'
      rw [ha] at hb'
      cases ha'
      cases hb'
      exact lt_asymm hlt hlt'

/-- Rows can be put in order in one way only. -/
lemma eq_of_precedes {zs : List Record} (h : Comparable sort.column rows) (hsubset : found ⊆ rows)
    (hperm : found.Perm zs) (hfound : found.Pairwise (Precedes sort))
    (hzs : zs.Pairwise (Precedes sort)) : found = zs :=
  List.Perm.eq_of_pairwise (fun _ _ hr hs hrs hsr =>
    (not_precedes_both h (hsubset hr) (hsubset (hperm.symm.subset hs)) hrs hsr).elim)
    hfound hzs hperm

/-- The rows of which a condition holds, if it can be decided on every row. -/
lemma matching_eq (h : ∀ r ∈ rows, ∃ b, p.holds r = .ok b) :
    matching p rows = .ok (rows.filter fun r => p.holds r = .ok true) := by
  induction rows with
  | nil => rfl
  | cons r rows ih =>
    obtain ⟨b, hb⟩ := h r (by simp)
    rw [matching, hb, ih fun s hs => h s (by simp [hs])]
    cases b <;> simp [hb, bind, Except.bind, pure, Except.pure]

/-- A search gives the first of the rows of which its condition holds, in their order. -/
theorem fetch_eq (hid : Labelled rows) (h : Comparable sort.column rows)
    (hp : ∀ r ∈ rows, ∃ b, p.holds r = .ok b) (hfound : found.Pairwise (Precedes sort))
    (hperm : found.Perm (rows.filter fun r => p.holds r = .ok true)) (limit : Int) :
    fetch p sort limit rows = .ok (found.take limit.toNat) := by
  have hsublist : (rows.filter fun r => p.holds r = .ok true).Sublist rows := List.filter_sublist
  obtain ⟨zs, hzs, hzsperm, hsorted⟩ :=
    arrange_spec (hid.of_subperm hsublist.subperm) (h.of_subset hsublist.subset)
  rw [fetch, matching_eq hp]
  change (arrange sort (rows.filter fun r => p.holds r = .ok true) >>= _) = _
  rw [hzs, eq_of_precedes h (fun r hr => hsublist.subset (hperm.subset hr))
    (hperm.trans hzsperm.symm) hfound hsorted]
  rfl

end ListingSearch.Inventory
