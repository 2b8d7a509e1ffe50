import ListingSearch.Criteria.Basic
import ListingSearch.Record.Check

/-!
Criteria that are given part by part. Unlike a loose filter, every part has one name and one form;
parts that are missing have their default, and every faulty part is reported.
-/
namespace ListingSearch

namespace Check

def object {α : Type} (read : Record → Checked α) : Value → Checked α
  | .object entries => read entries
  | _ => .fault .notObject

def nonemptyText (v : Value) : Checked String :=
  (text v).andThen fun s => if s = "" then .fault .emptyText else .valid s

def textSet (v : Value) : Checked TextSet := TextSet.ofList <$> list .notSet text v

def naturalFrom (min : Nat) (v : Value) : Checked Nat := Int.toNat <$> integerFrom min v

end Check

open Check

/-- A town: a city and perhaps a neighborhood. -/
def Town.ofForm : Value → Checked Town :=
  object fun r => Town.mk <$> required "city" nonemptyText r <*> field? "neighborhood" text r

def Place.ofForm : Value → Checked Place :=
  object fun r =>
    Place.mk <$> field? "state" text r <*> field? "county" text r
      <*> withDefault "selectors" [] (list .notSequence Town.ofForm) r

def Bounds.ofForm : Value → Checked Bounds :=
  object fun r => Bounds.mk <$> field? "min" number r <*> field? "max" number r

def PriceBounds.ofForm : Value → Checked PriceBounds :=
  object fun r =>
    (fun low high noMin noMax => { min := low, max := high, noMin, noMax })
      <$> field? "min" number r <*> field? "max" number r
      <*> withDefault "has_no_min" false truth r <*> withDefault "has_no_max" false truth r

def Keywords.ofForm : Value → Checked Keywords :=
  object fun r =>
    Keywords.mk <$> field? "include" text r <*> field? "exclude" text r
      <*> withDefault "mode" .any (word [("any", .any), ("all", .all)]) r

namespace Criteria

/-- The parts of criteria, price bounds in the wrong order included. -/
def parts (r : Record) : Checked Criteria :=
  Criteria.mk <$> withDefault "geo" {} Place.ofForm r
    <*> withDefault "price" {} PriceBounds.ofForm r
    <*> withDefault "property_types" .empty textSet r
    <*> withDefault "statuses" .empty textSet r
    <*> withDefault "beds" {} Bounds.ofForm r
    <*> withDefault "baths" {} Bounds.ofForm r
    <*> withDefault "sqft" {} Bounds.ofForm r
    <*> withDefault "year_built" {} Bounds.ofForm r
    <*> withDefault "parking" {} Bounds.ofForm r
    <*> withDefault "lot_size" {} Bounds.ofForm r
    <*> withDefault "keywords" {} Keywords.ofForm r
    <*> field? "zip_code" text r
    <*> field? "street_number" text r
    <*> field? "street_name" text r
    <*> field? "listing_number" text r
    <*> field? "list_date_days" (naturalFrom 0) r
    <*> field? "off_market_days" (naturalFrom 1) r
    <*> withDefault "only_open_houses" false truth r
    <*> field? "max_price_per_sqft" number r
    <*> field? "limit" (naturalFrom 1) r
    <*> field? "sort_column" text r
    <*> withDefault "sort_direction" .descending
      (word [("asc", .ascending), ("desc", .descending)]) r

/-- Criteria from their parts. Prices in the wrong order are refused before other faults are
reported. -/
def ofForm : Value → Outcome Criteria
  | .object r =>
    match withDefault "price" {} PriceBounds.ofForm r with
    | .valid price =>
      match price.check with
      | .ok _ => (parts r).outcome
      | .error failure => .error failure
    | .faulty _ => (parts r).outcome
  | _ => (Checked.fault .notObject).outcome

end Criteria
end ListingSearch
