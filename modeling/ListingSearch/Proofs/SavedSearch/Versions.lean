import ListingSearch.Proofs.Memory.Rows
import ListingSearch.Proofs.SavedSearch.Columns
import ListingSearch.Proofs.SavedSearch.Requests

/-! Archives in which every row can be read and has a version. Requests with data of the proper
types keep them so. A row that stays keeps its criteria and its version, unless its criteria were to
be replaced for just that version. -/
namespace ListingSearch

lemma Value.int_same_iff {v : Value} {n k : Int} (hv : v.number? = some (.int k)) :
    (Value.int n).same v = true ↔ n = k := by
  have hsame : (Value.int n).same v = (Number.int n).same (.int k) := by
    cases v <;> cases hv <;> rfl
  rw [hsame, Number.same_iff rfl rfl]
  exact Int.cast_inj

/-- A saved search can be read from the row, and the row has the version. -/
structure Record.AtVersion (r : Record) (n : Int) : Prop where
  version : r.get? "version" = some (.int n)
  positive : 1 ≤ n
  read : ∃ now search, SavedSearch.ofRow now (.object r) = .ok search

namespace Record.AtVersion

variable {r : Record} {n k : Int} {now : Instant} {search : SavedSearch}

lemma get_version (h : r.AtVersion n) : r.get "version" = .int n := by
  rw [Record.get, h.version, Option.getD_some]

lemma eq_of_readFrom (h : r.AtVersion n) (hread : SavedSearch.ReadFrom now r search) :
    search.version = n := by
  have hversion := hread.version
  rw [h.get_version, SavedSearch.integerFrom_one h.positive] at hversion
  exact (Checked.valid.inj hversion).symm

lemma exists_readFrom (h : r.AtVersion n) (now : Instant) :
    ∃ search, SavedSearch.ReadFrom now r search ∧ search.version = n := by
  obtain ⟨then_, search, hread⟩ := h.read
  obtain ⟨other, hother, -⟩ := (SavedSearch.ofRow_eq_ok_iff.1 hread).at_instant now
  exact ⟨other, hother, h.eq_of_readFrom hother⟩

lemma of_readFrom (hread : SavedSearch.ReadFrom now r search) (hn : 1 ≤ n)
    (h : r.get? "version" = some (.int n)) : r.AtVersion n :=
  ⟨h, hn, now, search, SavedSearch.ofRow_eq_ok_iff.2 hread⟩

lemma replaced (h : r.AtVersion n) {document : Value} {criteria : Criteria}
    (hread : Criteria.read false document = .ok criteria) (hk : 1 ≤ k) :
    ((r.set "criteria" document).set "version" (.int k)).AtVersion k := by
  obtain ⟨now, search, hsearch⟩ := h.read
  have hnew := ((SavedSearch.ofRow_eq_ok_iff.1 hsearch).setCriteria hread).setVersion hk
  exact of_readFrom hnew hk (Record.get?_set_self _ _ _)

lemma setActive (h : r.AtVersion n) (active : Bool) :
    (r.set "is_active" (.bool active)).AtVersion n := by
  obtain ⟨now, search, hsearch⟩ := h.read
  have hnew := (SavedSearch.ofRow_eq_ok_iff.1 hsearch).setActive active
  exact of_readFrom hnew h.positive (by rw [Archive.get?_set_of_ne (by decide), h.version])

lemma setDelivered (h : r.AtVersion n) (ts : List String) :
    (r.set "delivered_listing_ids" (.ofTexts ts)).AtVersion n := by
  obtain ⟨now, search, hsearch⟩ := h.read
  have hnew := (SavedSearch.ofRow_eq_ok_iff.1 hsearch).setDelivered ts
  exact of_readFrom hnew h.positive (by rw [Archive.get?_set_of_ne (by decide), h.version])

/-- Texts can be noted in the row. -/
lemma exists_withNoted (h : r.AtVersion n) {listings : Value} {ss : List String}
    (hl : listings.members = .ok (ss.map .text)) :
    ∃ us : List String, Archive.withNoted r listings = .ok (us.map .text) := by
  obtain ⟨now, search, hsearch⟩ := h.read
  obtain ⟨ts, hts, -⟩ := (SavedSearch.ofRow_eq_ok_iff.1 hsearch).delivered
  obtain ⟨us, hus, -⟩ := Archive.withNoted_of_distinctMembers hts hl
  exact ⟨us, hus⟩

end Record.AtVersion

/-- Rows stand under texts, identifiers still to be given are free, and every row can be read and
has a version. -/
structure Archive.Orderly (a : Archive) : Prop where
  labelled : a.Labelled
  versions : ∀ s r, a.row? s = some r → ∃ n, r.AtVersion n

/-- The data of the request has the proper types. -/
def Service.Request.Proper : Service.Request → Prop
  | .create search => search.owner ≠ "" ∧ search.version = 1 ∧ search.criteria.Canonical
  | .replaceCriteria _ document version =>
    (∃ criteria, Criteria.read false document = .ok criteria) ∧
      ∃ n, version.number? = some (.int n)
  | .setActive _ active => ∃ b, active = .bool b
  | .addDelivered _ ids => ids.OnlyTexts
  | _ => True

lemma Service.Request.Proper.onlyTexts {request : Service.Request} (h : request.Proper) :
    request.OnlyTexts := by
  cases request <;> first | exact h | trivial

namespace Registry

/-- The arguments of the operation have the proper types: an owner is not the empty text, a version
that is given is a whole number, a switch is a truth value, and listings are named by texts. -/
def Operation.Proper : Operation → Prop
  | .create owner _ _ => owner ≠ .text ""
  | .edit _ _ version => version.isNull = true ∨ ∃ n, version.number? = some (.int n)
  | .setActive _ active => ∃ b, active = .bool b
  | .markDelivered _ listings => listings.OnlyTexts
  | .deliver _ chosen => chosen.OnlyTexts
  | _ => True

lemma owner_of_checkOwner {owner : Value} {s : String}
    (h : SavedSearch.checkOwner owner = .ok s) : owner = .text s := by
  have hvalid := Checked.within_eq_valid (Checked.outcome_eq_ok h)
  cases owner <;> cases hvalid
  rfl

lemma onlyTexts_of_identifiers {listings : Value} {ids : List Value} (hl : listings.OnlyTexts)
    (h : identifiers listings = .ok ids) : Value.OnlyTexts (.list ids) := by
  obtain ⟨ss, -, rfl, -⟩ := identifiers_texts hl h
  exact Value.onlyTexts_list ss

lemma Operation.MayAsk.proper {now : Instant} {operation : Operation} {request : Service.Request}
    (h : operation.MayAsk now request) (hoperation : operation.Proper) : request.Proper := by
  cases h with
  | look h => cases request <;> trivial
  | create hcriteria hname howner =>
    refine ⟨fun hempty => hoperation ?_, rfl, Criteria.canonical_of_read hcriteria⟩
    rw [owner_of_checkOwner howner]
    exact congrArg _ hempty
  | replace hcriteria hversion =>
    refine ⟨⟨_, Criteria.read_toDocument (Criteria.canonical_of_read hcriteria) false⟩, ?_⟩
    split at hversion
    · obtain ⟨n, rfl⟩ := hversion
      exact ⟨n, rfl⟩
    · rename_i hgiven
      subst hversion
      exact hoperation.resolve_left hgiven
  | setActive => exact hoperation
  | delete => trivial
  | mark hids => exact onlyTexts_of_identifiers hoperation hids
  | send => trivial
  | note hsent hids =>
    refine onlyTexts_of_identifiers ?_ hids
    rcases hsent with ⟨ss, rfl⟩ | hsent
    · exact Value.onlyTexts_list ss
    · exact onlyTexts_of_identifiers hoperation hsent

/-- A row that can be read is not empty. -/
lemma present?_of_ofRow {now : Instant} {r : Record} {search : SavedSearch}
    (h : SavedSearch.ofRow now (.object r) = .ok search) :
    present? (some (.object r)) = some (.object r) := by
  have hfull : r ≠ [] := by
    rintro rfl
    have howner := (SavedSearch.ofRow_eq_ok_iff.1 h).owner
    cases howner
  simp [present?, Value.truthy, hfull]

lemma run_find {id : Value} {m : Memory} {row : Option Record} (h : m.archive.find id = .ok row) :
    (Plan.request (I := Service) (.find id)).run Memory.handle m =
      (.ok (row.map .object), m) := by
  rw [Plan.run_request]
  simp only [Memory.handle, Memory.reply, h]
  rfl

/-- A saved search is got from its row, if that can be read. -/
lemma run_get {now : Instant} {id : Value} {m : Memory} {r : Record} {search : SavedSearch}
    (hr : m.archive.find id = .ok (some r))
    (hread : SavedSearch.ofRow now (.object r) = .ok search) :
    (get now id).run Memory.handle m = (.ok search, m) := by
  rw [get, Plan.run_bind_of_ok (run_find hr), Option.map_some, present?_of_ofRow hread]
  dsimp only
  rw [Plan.run_ofOutcome, hread]

end Registry

namespace Archive

variable {a : Archive} {r r' : Record} {s : String} {n : Int} {request : Service.Request}

/-- A version is the same as a whole number just if it is that number. -/
lemma same_version_iff {version : Value} {k : Int} (hr : r.AtVersion n)
    (hversion : version.number? = some (.int k)) :
    (r.get "version").same version = true ↔ n = k := by
  rw [hr.get_version, Value.int_same_iff hversion]

/-- The row under a text after a proper request can be read and has a version. -/
lemma Orderly.exists_version_rowAfter (h : a.Orderly) (hrequest : request.Proper)
    (hrow : a.rowAfter s request = some r') : ∃ n, r'.AtVersion n := by
  cases request with
  | create search =>
    simp only [rowAfter] at hrow
    split at hrow
    · cases hrow
      obtain ⟨howner, hversion, hcriteria⟩ := hrequest
      have hread := SavedSearch.readFrom_toRow hcriteria howner hversion.ge s
        ⟨⟨2000, 1, 1⟩, 0, 0, 0, 0, none⟩
      refine ⟨1, .of_readFrom hread le_rfl ?_⟩
      rw [get?_set_of_ne (by decide), SavedSearch.toRow, hversion]
      rfl
    · exact h.versions s r' hrow
  | replaceCriteria id document version =>
    obtain ⟨⟨criteria, hread⟩, k, hk⟩ := hrequest
    simp only [rowAfter] at hrow
    split at hrow
    · obtain ⟨r, hr, rfl⟩ := Option.map_eq_some_iff.1 hrow
      obtain ⟨n, hn⟩ := h.versions s r hr
      split
      · rename_i hsame
        have heq := (same_version_iff hn hk).1 hsame
        have hpositive := hn.positive
        rw [Value.next, hk]
        exact ⟨k + 1, hn.replaced hread (by omega)⟩
      · exact ⟨n, hn⟩
    · exact h.versions s r' hrow
  | setActive id active =>
    obtain ⟨b, rfl⟩ := hrequest
    simp only [rowAfter] at hrow
    split at hrow
    · obtain ⟨r, hr, rfl⟩ := Option.map_eq_some_iff.1 hrow
      obtain ⟨n, hn⟩ := h.versions s r hr
      exact ⟨n, hn.setActive b⟩
    · exact h.versions s r' hrow
  | delete id =>
    simp only [rowAfter] at hrow
    split at hrow
    · cases hrow
    · exact h.versions s r' hrow
  | addDelivered id listings =>
    simp only [rowAfter] at hrow
    split at hrow
    · obtain ⟨r, hr, rfl⟩ := Option.map_eq_some_iff.1 hrow
      obtain ⟨n, hn⟩ := h.versions s r hr
      cases hnoted : withNoted r listings with
      | error failure => exact ⟨n, hn⟩
      | ok all =>
        obtain ⟨ss, hss⟩ := exists_members_of_withNoted hrequest hnoted
        obtain ⟨us, hus⟩ := hn.exists_withNoted hss
        rw [hnoted] at hus
        cases hus
        exact ⟨n, hn.setDelivered us⟩
    · exact h.versions s r' hrow
  | _ => exact h.versions s r' hrow

/-- A row that stays keeps its criteria and its version, if these were not to be replaced. -/
lemma Labelled.kept_rowAfter (h : a.Labelled) (hr : a.row? s = some r)
    (hr' : a.rowAfter s request = some r')
    (hother : ∀ document version, request = .replaceCriteria (.text s) document version →
      (r.get "version").same version = false) :
    r'.get? "criteria" = r.get? "criteria" ∧ r'.get? "version" = r.get? "version" := by
  by_cases hreplaces : ∃ document version, request = .replaceCriteria (.text s) document version
  · obtain ⟨document, version, rfl⟩ := hreplaces
    rw [rowAfter, if_pos rfl, hr, Option.map_some,
      if_neg (by simp [hother document version rfl])] at hr'
    cases hr'
    exact ⟨rfl, rfl⟩
  · cases request with
    | replaceCriteria id document version =>
      have hid : id ≠ .text s := by
        rintro rfl
        exact hreplaces ⟨document, version, rfl⟩
      rw [rowAfter, if_neg hid, hr] at hr'
      cases hr'
      exact ⟨rfl, rfl⟩
    | _ =>
      exact ⟨h.get?_rowAfter hr hr' (by simp [Service.Request.columns]),
        h.get?_rowAfter hr hr' (by simp [Service.Request.columns])⟩

end Archive

namespace Memory

variable {m : Memory} {request : Service.Request}

lemma orderly_handle (h : m.archive.Orderly) (hrequest : request.Proper) :
    (handle request m).2.archive.Orderly := by
  refine ⟨h.labelled.moves (moves_handle request m hrequest.onlyTexts), fun s r hrow => ?_⟩
  rw [row?_handle] at hrow
  exact h.exists_version_rowAfter hrequest hrow

end Memory
end ListingSearch
