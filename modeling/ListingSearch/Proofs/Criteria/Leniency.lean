import ListingSearch.Proofs.Criteria.Canonical
import ListingSearch.Proofs.Criteria.Failures
import ListingSearch.Proofs.Criteria.Picks

/-! Strict and lenient reading. They differ only in prices that are in force and in the wrong order:
strict reading refuses these, and lenient reading leaves out both bounds and keeps all else, as if
no bound had been given. -/
namespace ListingSearch

/-- Both price bounds are given as finite numbers, none of them is overridden, and the lower bound is
above the upper one. -/
structure Record.Inverts (r : Record) (low high : Binary64) : Prop where
  min : (r.pick .priceMin).amount? = .ok (some low)
  max : (r.pick .priceMax).amount? = .ok (some high)
  finite : low.isFinite = true ∧ high.isFinite = true
  noMin : (r.pick .hasNoMin).ticked = false
  noMax : (r.pick .hasNoMax).ticked = false
  order : high.toRat < low.toRat

namespace PriceBounds

variable {p : PriceBounds} {low high : Binary64}

lemma check_of_inversion? (h : p.inversion? = some (low, high)) :
    p.check = .error (.invertedPrice low high) := by
  rw [check, h]

lemma check_of_ordered (h : p.inversion? = none) : p.check = .ok p := by
  rw [check, h]

/-- Bounds that are mended are left out, and they were not overridden. -/
lemma mend_of_inversion? (h : p.inversion? = some (low, high)) : p.mend = {} := by
  obtain ⟨-, -, hnoMin, hnoMax, -⟩ := inversion?_eq_some_iff.1 h
  rw [mend, h, Option.isSome_some, if_pos rfl, hnoMin, hnoMax]

lemma mend_of_ordered (h : p.inversion? = none) : p.mend = p := by
  rw [mend, h, if_neg (by simp)]

end PriceBounds

namespace Criteria

variable {r : Record} {p : PriceBounds} {low high : Binary64} {c : Criteria}

/-- The price that a filter gives is mended in lenient reading and checked in strict reading. -/
lemma exists_given (h : readPrice false r = .ok p) : ∃ given : PriceBounds,
    p = given.mend ∧ readPrice true r = given.check ∧
      ∀ low high, given.inversion? = some (low, high) ↔ r.Inverts low high := by
  obtain ⟨bounds, hbounds, h⟩ := Outcome.bind_eq_ok h
  obtain ⟨min, hmin, hrest⟩ := Outcome.bind_eq_ok hbounds
  obtain ⟨max, hmax, hrest⟩ := Outcome.bind_eq_ok hrest
  cases hrest
  cases h
  refine ⟨_, rfl, by rw [readPrice, hbounds]; rfl, fun low high => ?_⟩
  rw [PriceBounds.inversion?_eq_some_iff]
  constructor
  · rintro ⟨rfl, rfl, hnoMin, hnoMax, hlt⟩
    have hlow := Value.isFinite_of_amount? hmin
    have hhigh := Value.isFinite_of_amount? hmax
    exact ⟨hmin, hmax, ⟨hlow, hhigh⟩, hnoMin, hnoMax, (Binary64.lt_iff hhigh hlow).1 hlt⟩
  · intro h
    exact ⟨Except.ok.inj (hmin.symm.trans h.min), Except.ok.inj (hmax.symm.trans h.max), h.noMin,
      h.noMax, (Binary64.lt_iff h.finite.2 h.finite.1).2 h.order⟩

/-- Without the keys of both price bounds there is no price, if none was overridden. -/
lemma readPrice_without (hnoMin : (r.pick .hasNoMin).ticked = false)
    (hnoMax : (r.pick .hasNoMax).ticked = false) :
    readPrice true (r.without [.priceMin, .priceMax]) = .ok {} := by
  have hgone (f : Field) (hf : f ∈ [Field.priceMin, Field.priceMax]) :
      (r.without [.priceMin, .priceMax]).pick f = .null :=
    (Record.pick_without _ _ _).trans (if_pos hf)
  have hkept (f : Field) (hf : f ∉ [Field.priceMin, Field.priceMax]) :
      (r.without [.priceMin, .priceMax]).pick f = r.pick f :=
    (Record.pick_without _ _ _).trans (if_neg hf)
  rw [readPrice, hgone .priceMin (by decide), hgone .priceMax (by decide),
    hkept .hasNoMin (by decide), hkept .hasNoMax (by decide), hnoMin, hnoMax]
  rfl

/-- Lenient reading gives the price that strict reading gives; or the prices are in the wrong order,
and strict reading refuses them where lenient reading leaves them out. -/
lemma readPrice_cases (h : readPrice false r = .ok p) :
    (readPrice true r = .ok p ∧ ∀ low high, ¬ r.Inverts low high) ∨
      ((∃ low high, r.Inverts low high) ∧ p = {} ∧
        ∀ low high, r.Inverts low high → readPrice true r = .error (.invertedPrice low high)) := by
  obtain ⟨given, rfl, hstrict, hinverts⟩ := exists_given h
  rw [hstrict]
  simp only [← hinverts]
  cases hinversion : given.inversion? with
  | none =>
    rw [PriceBounds.check_of_ordered hinversion, PriceBounds.mend_of_ordered hinversion]
    exact .inl ⟨rfl, by simp⟩
  | some prices =>
    obtain ⟨low, high⟩ := prices
    refine .inr ⟨⟨low, high, rfl⟩, PriceBounds.mend_of_inversion? hinversion, ?_⟩
    rintro _ _ ⟨⟩
    exact PriceBounds.check_of_inversion? hinversion

/-- Where lenient reading gives criteria, strict reading gives the same ones or refuses the price.
It refuses just the prices that are in force and in the wrong order, and then lenient reading gives
what strict reading gives for the filter without the keys of both price bounds. -/
theorem read_true_of_read_false (h : read false (.object r) = .ok c) :
    (read true (.object r) = .ok c ∨ ∃ failure, read true (.object r) = .error failure ∧
      failure.field? = some "price" ∧ ∃ low high, failure = .invertedPrice low high) ∧
    ((∃ failure, read true (.object r) = .error failure) ↔ ∃ low high, r.Inverts low high) ∧
    ∀ low high, r.Inverts low high →
      read true (.object r) = .error (.invertedPrice low high) ∧
      read true (.object (r.without [.priceMin, .priceMax])) = .ok c := by
  obtain ⟨order, horder, hrest⟩ := Outcome.bind_eq_ok h
  obtain ⟨place, hplace, hrest⟩ := Outcome.bind_eq_ok hrest
  obtain ⟨price, hprice, -⟩ := Outcome.bind_eq_ok hrest
  rcases readPrice_cases hprice with ⟨hstrict, hordered⟩ | ⟨hinverts, rfl, hrefused⟩
  · have hread : read true (.object r) = .ok c :=
      (ofRecord_congr (hstrict.trans hprice.symm) fun _ _ => rfl).trans h
    refine ⟨.inl hread, iff_of_false ?_ ?_, fun low high hinv => absurd hinv (hordered low high)⟩
    · rintro ⟨failure, hfailure⟩
      rw [hread] at hfailure
      cases hfailure
    · rintro ⟨low, high, hinv⟩
      exact hordered low high hinv
  · have hfails (low high : Binary64) (hinv : r.Inverts low high) :
        read true (.object r) = .error (.invertedPrice low high) :=
      read_eq_error_of_readPrice horder hplace (hrefused low high hinv)
    obtain ⟨low, high, hinv⟩ := hinverts
    refine ⟨.inr ⟨_, hfails low high hinv, rfl, low, high, rfl⟩,
      iff_of_true ⟨_, hfails low high hinv⟩ ⟨low, high, hinv⟩, fun low high hinv => ?_⟩
    refine ⟨hfails low high hinv, (ofRecord_congr ?_ fun f hf => ?_).trans h⟩
    · rw [readPrice_without hinv.noMin hinv.noMax, hprice]
    · refine (Record.pick_without _ _ _).trans (if_neg fun hmem => hf ?_)
      exact List.mem_append_left [.hasNoMin, .hasNoMax] hmem

/-- Prices in the wrong order under two keys, one of them with an alias that is not looked at. -/
theorem read_true_of_read_false_inverted :
    let r : Record := [("state", .text "MA"), ("priceMin", .text "$900,000"),
      ("min_price", .int 1), ("maxPrice", .int 500000), ("hasNoMax", .text "no"),
      ("bedsMin", .int 2)]
    ∃ c low high, read false (.object r) = .ok c ∧ c.place.state = some "MA" ∧ c.price = {} ∧
      r.Inverts low high ∧ read true (.object r) = .error (.invertedPrice low high) ∧
      read true (.object (r.without [.priceMin, .priceMax])) = .ok c := by
  intro r
  have hlenient : (fun c => (c.place.state, c.price)) <$> read false (.object r) =
      .ok (some "MA", {}) := by
    decide +kernel
  obtain ⟨c, hc, hparts⟩ := Outcome.map_eq_ok hlenient
  obtain ⟨hstate, hprice⟩ := Prod.mk.inj hparts
  obtain ⟨-, hrefused, hinverted⟩ := read_true_of_read_false hc
  have hstrict : ∃ failure, read true (.object r) = .error failure := by
    have hfails : (read true (.object r)).toBool = false := by decide +kernel
    cases hread : read true (.object r) with
    | ok d => simp [hread, Except.toBool] at hfails
    | error failure => exact ⟨failure, rfl⟩
  obtain ⟨low, high, hinv⟩ := hrefused.1 hstrict
  exact ⟨c, low, high, hc, hstate, hprice, hinv, hinverted low high hinv⟩

end Criteria
end ListingSearch
