import ListingSearch.Memory.Basic
import ListingSearch.Proofs.Text.Numeral
import ListingSearch.Proofs.Value.Members

/-! What single requests do to the archive: a new row under a number that was never given before, a
changed row in the place of the old one, or rows less. The listings noted in a row are texts, and no
change takes one of them away. -/
namespace ListingSearch

namespace Archive

variable {a b : Archive} {id : Value} {r s : Record} {rows : List (Value × Record)}

def numberedId (n : Nat) : String := "hs-" ++ toString n

lemma numberedId_injective : Function.Injective numberedId := by
  intro m n h
  have hlist := congrArg String.toList h
  simp only [numberedId, String.toList_append, List.append_cancel_left_eq,
    String.toList_inj] at hlist
  exact Text.toString_nat_injective hlist

/-- A row that is there is replaced where it stands. -/
lemma exists_split_of_lookUp (h : lookUp id rows = some r) :
    ∃ key front back, rows = front ++ (key, r) :: back ∧ key.same id = true ∧
      ∀ s, place id s rows = front ++ (key, s) :: back := by
  induction rows with
  | nil => cases h
  | cons row rows ih =>
    obtain ⟨key, t⟩ := row
    rw [lookUp] at h
    split at h
    · rename_i hkey
      cases h
      exact ⟨key, [], rows, rfl, hkey, fun s => by simp [place, hkey]⟩
    · rename_i hkey
      obtain ⟨found, front, back, rfl, hfound, hplace⟩ := ih h
      exact ⟨found, (key, t) :: front, back, rfl, hfound, fun s => by simp [place, hkey, hplace]⟩

lemma place_of_forall_not_same (h : ∀ row ∈ rows, row.1.same id = false) (r : Record) :
    place id r rows = rows ++ [(id, r)] := by
  induction rows with
  | nil => rfl
  | cons row rows ih =>
    obtain ⟨key, t⟩ := row
    have hkey : key.same id = false := h (key, t) (by simp)
    simp [place, hkey, ih fun row hrow => h row (by simp [hrow])]

/-- The change of a row by one request. -/
inductive Rewrites (r : Record) : Record → Prop
  | same : Rewrites r r
  | criteria (document : Value) : Rewrites r (r.set "criteria" document)
  | version (document next : Value) :
    Rewrites r ((r.set "criteria" document).set "version" next)
  | active (flag : Value) : Rewrites r (r.set "is_active" flag)
  | noted {listings : Value} {all : List Value} (htexts : listings.OnlyTexts)
    (h : withNoted r listings = .ok all) : Rewrites r (r.set "delivered_listing_ids" (.list all))

/-- The change of the archive by one request. -/
inductive Moves (a : Archive) : Archive → Prop
  | same : Moves a a
  | created (search : SavedSearch) : Moves a (a.create search.toRow).2
  | replaced {id : Value} {r s : Record} (h : a.find id = .ok (some r)) (hs : Rewrites r s) :
    Moves a (a.put id s)
  | erased (id : Value) : Moves a (a.erase id)

section Change

variable {α : Type} {f : Record → Outcome (Option α) × Record}

lemma change_of_find (h : a.find id = .ok (some r)) :
    a.change id f = ((f r).1, a.put id (f r).2) := by
  rw [change, h]

lemma change_of_find_none (h : a.find id = .ok none) : a.change id f = (.ok none, a) := by
  rw [change, h]

lemma change_of_find_error {failure : Failure} (h : a.find id = .error failure) :
    a.change id f = (.error failure, a) := by
  rw [change, h]

lemma moves_change
    (h : ∀ r, a.find id = .ok (some r) → Rewrites r (f r).2) : Moves a (a.change id f).2 := by
  unfold change
  split
  · rename_i r hr
    exact .replaced hr (h r hr)
  · exact .same
  · exact .same

end Change

lemma lookUp_of_find (h : a.find id = .ok (some r)) : lookUp id a.rows = some r := by
  unfold find at h
  split at h
  · exact Except.ok.inj h
  · cases h

end Archive

/-- Listings are given to be noted only by texts. -/
def Service.Request.OnlyTexts : Service.Request → Prop
  | .addDelivered _ ids => ids.OnlyTexts
  | _ => True

namespace Archive

variable {a : Archive} {id : Value}

lemma moves_replaceCriteria (document version : Value) :
    Moves a (a.replaceCriteria id document version).2 := by
  refine moves_change fun r _ => ?_
  split
  · dsimp only
    split
    · exact .version document _
    · exact .criteria document
  · exact .same

lemma moves_setActive (active : Value) : Moves a (a.setActive id active).2 :=
  moves_change fun _ _ => .active active

lemma moves_delete : Moves a (a.delete id).2 := by
  unfold delete
  split
  · exact .erased id
  · exact .same

lemma moves_addDelivered {listings : Value} (h : listings.OnlyTexts) :
    Moves a (a.addDelivered id listings).2 := by
  refine moves_change fun r _ => ?_
  split
  · rename_i all hall
    exact .noted h hall
  · exact .same

end Archive

namespace Memory

/-- Every request changes the archive in one of these ways. -/
lemma moves_handle (request : Service.Request) (m : Memory) (h : request.OnlyTexts) :
    m.archive.Moves (handle request m).2.archive := by
  cases request with
  | create search => exact .created search
  | replaceCriteria id document version => exact Archive.moves_replaceCriteria document version
  | setActive id active => exact Archive.moves_setActive active
  | delete id => exact Archive.moves_delete
  | addDelivered id listings => exact Archive.moves_addDelivered h
  | send id listings =>
    simp only [handle, send]
    split <;> exact .same
  | _ => exact .same

lemma listings_handle (request : Service.Request) (m : Memory) :
    (handle request m).2.listings = m.listings := by
  cases request with
  | send id listings =>
    simp only [handle, send]
    split <;> rfl
  | _ => rfl

lemma sent_handle (request : Service.Request) (m : Memory)
    (h : ∀ id listings, request ≠ .send id listings) : (handle request m).2.sent = m.sent := by
  cases request with
  | send id listings => exact absurd rfl (h id listings)
  | _ => rfl

end Memory
end ListingSearch
