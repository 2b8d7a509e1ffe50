import ListingSearch.Proofs.Criteria.RoundTrip
import ListingSearch.Proofs.Record.Check
import ListingSearch.Proofs.SavedSearch.Bookkeeping

/-! Rows of saved searches, column by column. A row is read if each of its columns is; so a row
that is read is still read after one column was written, and only that part of the saved search is
another one. A saved search that was just created is read from its row. -/
namespace ListingSearch

namespace Record

@[simp] lemma get_set_self (r : Record) (key : String) (v : Value) : (r.set key v).get key = v := by
  rw [get, get?_set_self, Option.getD_some]

lemma get_set_of_ne {key other : String} (h : key ≠ other) (r : Record) (v : Value) :
    (r.set key v).get other = r.get other := by
  rw [get, get?_set, if_neg h, get]

end Record

namespace SavedSearch

/-- What each column of a row says about the saved search that is read from it. -/
structure ReadFrom (now : Instant) (r : Record) (search : SavedSearch) : Prop where
  id : Check.field? "id" Check.text r = .valid search.id
  owner : Check.text (orElse (r.get "user_id") (r.get "owner_id")) = .valid search.owner
  name : Check.text (orElse (r.get "name") (.text "")) = .valid search.name
  criteria : Criteria.read false (r.get "criteria") = .ok search.criteria
  delivered : ∃ ts : List String,
    distinctMembers (r.get "delivered_listing_ids") = .ok (ts.map .text) ∧
      TextSet.ofList ts = search.delivered
  active : Check.truth ((r.get? "is_active").getD (.bool true)) = .valid search.active
  version : Check.integerFrom 1 (orElse (r.get "version") (.int 1)) = .valid search.version
  createdAt : Check.text (orElse (r.get "created_at") (.text now.text)) = .valid search.createdAt
  updatedAt : Check.text (orElse (r.get "updated_at") (.text now.text)) = .valid search.updatedAt

end SavedSearch

namespace Checked

variable {α β : Type} {f : Checked (α → β)} {x : Checked α} {b : β}

lemma seq_eq_valid : (f <*> x) = .valid b ↔ ∃ g a, f = .valid g ∧ x = .valid a ∧ g a = b := by
  constructor
  · intro h
    cases f <;> cases x <;> cases h
    exact ⟨_, _, rfl, rfl, rfl⟩
  · rintro ⟨g, a, rfl, rfl, rfl⟩
    rfl

lemma map_eq_valid {g : α → β} : (g <$> x) = .valid b ↔ ∃ a, x = .valid a ∧ g a = b := by
  constructor
  · intro h
    cases x <;> cases h
    exact ⟨_, rfl, rfl⟩
  · rintro ⟨a, rfl, rfl⟩
    rfl

lemma within_eq_valid_iff {step : Fault.Step} {a : α} :
    x.within step = .valid a ↔ x = .valid a := by
  refine ⟨within_eq_valid, ?_⟩
  rintro rfl
  rfl

lemma outcome_eq_ok_iff {a : α} : x.outcome = .ok a ↔ x = .valid a := by
  refine ⟨outcome_eq_ok, ?_⟩
  rintro rfl
  rfl

end Checked

lemma Check.each_text_texts (start : Nat) (ts : List String) :
    each text start (ts.map .text) = .valid ts := by
  induction ts generalizing start with
  | nil => rfl
  | cons t ts ih =>
    rw [List.map_cons, each, ih]
    rfl

namespace SavedSearch

variable {now : Instant} {r : Record} {search : SavedSearch}

lemma ofColumns_eq_valid_iff {criteria : Criteria} {ts : List String} :
    ofColumns r criteria (ts.map .text) now = .valid search ↔
      search.criteria = criteria ∧ search.delivered = TextSet.ofList ts ∧
        Check.field? "id" Check.text r = .valid search.id ∧
        Check.text (orElse (r.get "user_id") (r.get "owner_id")) = .valid search.owner ∧
        Check.text (orElse (r.get "name") (.text "")) = .valid search.name ∧
        Check.truth ((r.get? "is_active").getD (.bool true)) = .valid search.active ∧
        Check.integerFrom 1 (orElse (r.get "version") (.int 1)) = .valid search.version ∧
        Check.text (orElse (r.get "created_at") (.text now.text)) = .valid search.createdAt ∧
        Check.text (orElse (r.get "updated_at") (.text now.text)) = .valid search.updatedAt := by
  simp only [ofColumns, Checked.seq_eq_valid, Checked.map_eq_valid, Checked.within_eq_valid_iff,
    Check.each_text_texts]
  constructor
  · rintro ⟨_, _, ⟨_, _, ⟨_, _, ⟨_, _, ⟨_, _, ⟨_, _, ⟨_, _, ⟨_, _, ⟨_, hid, rfl⟩, howner, rfl⟩,
      hname, rfl⟩, hcriteria, rfl⟩, ⟨_, hts, rfl⟩, rfl⟩, hactive, rfl⟩, hversion, rfl⟩,
      hcreated, rfl⟩, hupdated, rfl⟩
    cases hcriteria
    cases hts
    exact ⟨rfl, rfl, hid, howner, hname, hactive, hversion, hcreated, hupdated⟩
  · rintro ⟨rfl, hts, hid, howner, hname, hactive, hversion, hcreated, hupdated⟩
    exact ⟨_, _, ⟨_, _, ⟨_, _, ⟨_, _, ⟨_, _, ⟨_, _, ⟨_, _, ⟨_, _, ⟨_, hid, rfl⟩, howner, rfl⟩,
      hname, rfl⟩, rfl, rfl⟩, ⟨_, rfl, hts.symm⟩, rfl⟩, hactive, rfl⟩, hversion, rfl⟩,
      hcreated, rfl⟩, hupdated, rfl⟩

/-- A row is read just if every column is. -/
lemma ofRow_eq_ok_iff : ofRow now (.object r) = .ok search ↔ ReadFrom now r search := by
  constructor
  · intro h
    obtain ⟨criteria, hcriteria, h⟩ := Outcome.bind_eq_ok h
    obtain ⟨members, hmembers, h⟩ := Outcome.bind_eq_ok h
    have hvalid := Checked.outcome_eq_ok h
    obtain ⟨ts, rfl⟩ : ∃ ts : List String, members = ts.map .text := by
      have hgives : (ofColumns r criteria members now).Gives
          fun _ => ∃ ts : List String, members = ts.map .text := by
        unfold ofColumns
        iterate 4 apply Checked.gives_seq_any
        refine Checked.gives_seq (Q := fun _ => ∃ ts : List String, members = ts.map .text) ?_ ?_
        · intro set hset
          obtain ⟨ts, hts, -⟩ := Checked.map_eq_valid.1 (Checked.within_eq_valid hset)
          exact ⟨ts, Check.each_text_eq_valid hts⟩
        · intro _ _ _ hts
          iterate 4 intro
          exact hts
      exact hgives search hvalid
    obtain ⟨rfl, hdelivered, hid, howner, hname, hactive, hversion, hcreated, hupdated⟩ :=
      ofColumns_eq_valid_iff.1 hvalid
    exact ⟨hid, howner, hname, hcriteria, ⟨ts, hmembers, hdelivered.symm⟩, hactive, hversion,
      hcreated, hupdated⟩
  · rintro ⟨hid, howner, hname, hcriteria, ⟨ts, hmembers, hdelivered⟩, hactive, hversion,
      hcreated, hupdated⟩
    have hvalid := ofColumns_eq_valid_iff.2 ⟨rfl, hdelivered.symm, hid, howner, hname, hactive,
      hversion, hcreated, hupdated⟩
    rw [ofRow, hcriteria]
    change (distinctMembers (r.get "delivered_listing_ids") >>= _) = _
    rw [hmembers]
    exact Checked.outcome_eq_ok_iff.2 hvalid

lemma field?_set_of_ne {α : Type} {read : Value → Checked α} {key other : String}
    (h : key ≠ other) (r : Record) (v : Value) :
    Check.field? other read (r.set key v) = Check.field? other read r := by
  rw [Check.field?, Check.withDefault, Record.get?_set, if_neg h, Check.field?, Check.withDefault]

lemma integerFrom_one {n : Int} (hn : 1 ≤ n) :
    Check.integerFrom 1 (orElse (.int n) (.int 1)) = .valid n := by
  have htruthy : (Value.int n).truthy = true := bne_iff_ne.2 (by omega)
  rw [orElse, if_pos htruthy, Check.integerFrom, Check.integer, Checked.andThen, if_neg (by omega)]

lemma ReadFrom.setVersion (h : ReadFrom now r search) {n : Int} (hn : 1 ≤ n) :
    ReadFrom now (r.set "version" (.int n)) { search with version := n } := by
  have hversion := integerFrom_one hn
  obtain ⟨hid, howner, hname, hcriteria, hdelivered, hactive, -, hcreated, hupdated⟩ := h
  constructor <;> simp (disch := decide) only [field?_set_of_ne, Record.get_set_of_ne,
    Archive.get?_set_of_ne, Record.get_set_self] <;> assumption

lemma ReadFrom.setCriteria (h : ReadFrom now r search) {document : Value} {criteria : Criteria}
    (hread : Criteria.read false document = .ok criteria) :
    ReadFrom now (r.set "criteria" document) { search with criteria } := by
  obtain ⟨hid, howner, hname, -, hdelivered, hactive, hversion, hcreated, hupdated⟩ := h
  constructor <;> simp (disch := decide) only [field?_set_of_ne, Record.get_set_of_ne,
    Archive.get?_set_of_ne, Record.get_set_self] <;> assumption

lemma ReadFrom.setActive (h : ReadFrom now r search) (active : Bool) :
    ReadFrom now (r.set "is_active" (.bool active)) { search with active } := by
  have hread : Check.truth (((r.set "is_active" (.bool active)).get? "is_active").getD
      (.bool true)) = .valid active := by
    rw [Record.get?_set_self]
    rfl
  obtain ⟨hid, howner, hname, hcriteria, hdelivered, -, hversion, hcreated, hupdated⟩ := h
  constructor <;> try simp (disch := decide) only [field?_set_of_ne, Record.get_set_of_ne]
  all_goals assumption

lemma exists_distinctMembers_ofTexts (ts : List String) : ∃ us : List String,
    distinctMembers (.ofTexts ts) = .ok (us.map .text) ∧ TextSet.ofList us = TextSet.ofList ts := by
  obtain ⟨us, hus, -, hmem⟩ := Value.exists_distinctValues_texts ts
  refine ⟨us, (distinctMembers_ofTexts ts).trans (congrArg _ hus), TextSet.ext fun x => ?_⟩
  rw [TextSet.mem_ofList, TextSet.mem_ofList, hmem]

lemma ReadFrom.setDelivered (h : ReadFrom now r search) (ts : List String) :
    ReadFrom now (r.set "delivered_listing_ids" (.ofTexts ts))
      { search with delivered := TextSet.ofList ts } := by
  have hmembers := exists_distinctMembers_ofTexts ts
  obtain ⟨hid, howner, hname, hcriteria, -, hactive, hversion, hcreated, hupdated⟩ := h
  constructor <;> simp (disch := decide) only [field?_set_of_ne, Record.get_set_of_ne,
    Archive.get?_set_of_ne, Record.get_set_self] <;> assumption

lemma ofList_toList (set : TextSet) : TextSet.ofList set.toList = set :=
  TextSet.ext fun x => by rw [TextSet.mem_ofList, TextSet.mem_toList]

lemma text_orElse (s t : String) :
    Check.text (orElse (.text s) (.text t)) = .valid (if s = "" then t else s) := by
  by_cases hs : s = "" <;> simp [orElse, Value.truthy, hs, Check.text]

lemma exists_text_orElse_of {v : Value} {s t u : String}
    (h : Check.text (orElse v (.text s)) = .valid u) :
    ∃ w, Check.text (orElse v (.text t)) = .valid w := by
  unfold orElse at h ⊢
  split
  · rename_i htruthy
    exact ⟨u, by rwa [if_pos htruthy] at h⟩
  · exact ⟨t, rfl⟩

/-- A row that is read at one instant is read at every other. -/
lemma ReadFrom.at_instant (h : ReadFrom now r search) (later : Instant) :
    ∃ other, ReadFrom later r other ∧ other.criteria = search.criteria ∧
      other.version = search.version := by
  obtain ⟨createdAt, hcreated⟩ := exists_text_orElse_of h.createdAt (t := later.text)
  obtain ⟨updatedAt, hupdated⟩ := exists_text_orElse_of h.updatedAt (t := later.text)
  exact ⟨{ search with createdAt, updatedAt }, ⟨h.id, h.owner, h.name, h.criteria, h.delivered,
    h.active, h.version, hcreated, hupdated⟩, rfl, rfl⟩

/-- A saved search is read from the row that it is stored in, whatever the identifier that it got;
its criteria are read from their document, and an instant that is missing is the one of reading. -/
lemma readFrom_toRow (hcriteria : search.criteria.Canonical) (howner : search.owner ≠ "")
    (hversion : 1 ≤ search.version) (id : String) (now : Instant) :
    ReadFrom now (search.toRow.set "id" (.text id))
      { search with
        id := some id, criteria := search.criteria.reread
        createdAt := if search.createdAt = "" then now.text else search.createdAt
        updatedAt := if search.updatedAt = "" then now.text else search.updatedAt } := by
  obtain ⟨ts, hts, hset⟩ := exists_distinctMembers_ofTexts search.delivered.toList
  have howned : orElse (.text search.owner) .null = .text search.owner :=
    if_pos (bne_iff_ne.2 howner)
  have hnamed : Check.text (orElse (.text search.name) (.text "")) = .valid search.name := by
    rw [text_orElse]
    split
    · rename_i hempty
      rw [hempty]
    · rfl
  constructor
  · rfl
  · exact congrArg Check.text howned
  · exact hnamed
  · exact Criteria.read_toDocument hcriteria false
  · exact ⟨ts, hts, hset.trans (ofList_toList _)⟩
  · rfl
  · exact integerFrom_one hversion
  · exact text_orElse _ _
  · exact text_orElse _ _

end SavedSearch
end ListingSearch
