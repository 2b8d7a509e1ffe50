import ListingSearch.Proofs.SavedSearch.Delivery

/-! Deliveries over whole runs. What was sent for a saved search is noted in its row as long as the
row is there, nothing is sent twice in one delivery, a delivery that chooses for itself sends only
what was neither sent nor marked before, and a delivery that fails leaves everything as it was. -/
namespace ListingSearch

open Registry (Setup Operation Answer)

/-- Listings are named by texts, and in the inventory each has a name of its own. -/
def Event.NamesListings : Event → Prop
  | .call _ (.markDelivered _ listings) => listings.OnlyTexts
  | .call _ (.deliver _ chosen) => chosen.OnlyTexts
  | .restock listings => Inventory.Identified listings
  | _ => True

namespace World

def Sent (w : World) (id x : Value) : Prop := ∃ ids, (id, ids) ∈ w.memory.sent ∧ x ∈ ids

/-- A listing was among those that somebody marked as delivered for a saved search. -/
def Marked (w : World) (id x : Value) : Prop := ∃ listings items answer,
  (Operation.markDelivered id listings, Except.ok answer) ∈ w.history ∧
    listings.members? = some items ∧ x ∈ items

/-- What the books have to know: everything sent, and everything marked but the empty text. -/
def Logged (w : World) (id x : Value) : Prop :=
  w.Sent id x ∨ (w.Marked id x ∧ x ≠ .text "")

structure Sound (w : World) : Prop where
  identified : Inventory.Identified w.memory.listings
  keeps : w.memory.archive.Keeps w.Logged
  distinct : ∀ entry ∈ w.memory.sent, ∃ ss : List String, entry.2 = ss.map .text ∧ ss.Nodup

variable {w : World} {setup : Setup} {operation : Operation} {outcome : Outcome Answer}
  {memory : Memory}

lemma sound_start (now : Instant) : (start now).Sound where
  identified := ⟨by simp [start], .nil⟩
  keeps := Archive.keeps_empty fun id x h => by
    rcases h with ⟨ids, hids, -⟩ | ⟨⟨listings, items, answer, hmem, -⟩, -⟩
    · cases hids
    · cases hmem
  distinct := by simp [start]

lemma step_call (h : w.carryOut setup operation = (outcome, memory)) :
    w.step (.call setup operation) =
      { w with memory, history := w.history ++ [(operation, outcome)] } := by
  rw [step, h]

lemma asks_plan (now : Instant) (hkind : Event.NamesListings (.call setup operation))
    (h : ∀ id chosen, operation ≠ .deliver id chosen) :
    (operation.plan setup now).Asks Service.Request.KeepsBooks := by
  cases operation with
  | create owner name filter => exact (Registry.asks_create owner name filter).map _
  | get id => exact Registry.asks_get_keepsBooks.map _
  | ofOwner owner =>
    exact ((Registry.asks_ofOwner owner).mono fun _ => Service.Request.OnlyLooks.keepsBooks).map _
  | edit id filter version => exact (Registry.asks_edit filter version).map _
  | setActive id active => exact (Registry.asks_setActive active).map _
  | delete id => exact Registry.asks_delete.map _
  | currentMatches id =>
    exact (Registry.asks_currentMatches.mono fun _ => Service.Request.OnlyLooks.keepsBooks).map _
  | newMatches id =>
    exact (Registry.asks_newMatches.mono fun _ => Service.Request.OnlyLooks.keepsBooks).map _
  | markDelivered id listings => exact (Registry.asks_markDelivered hkind).map _
  | deliver id chosen => exact absurd rfl (h id chosen)

/-- What has to be known after an operation had to be known before, or the operation sent it or
marked it. -/
lemma logged_call {id x : Value} {batches : List (Value × List Value)}
    (hsent : memory.sent = w.memory.sent ++ batches)
    (h : Logged { w with memory, history := w.history ++ [(operation, outcome)] } id x) :
    w.Logged id x ∨ (∃ ids, (id, ids) ∈ batches ∧ x ∈ ids) ∨
      x ≠ .text "" ∧ ∃ listings items answer, operation = .markDelivered id listings ∧
        outcome = .ok answer ∧ listings.members? = some items ∧ x ∈ items := by
  rcases h with ⟨ids, hids, hx⟩ | ⟨⟨listings, items, answer, hmem, hitems, hx⟩, hne⟩
  · rw [hsent] at hids
    rcases List.mem_append.1 hids with hids | hids
    · exact .inl (.inl ⟨ids, hids, hx⟩)
    · exact .inr (.inl ⟨ids, hids, hx⟩)
  · rcases List.mem_append.1 hmem with hmem | hmem
    · exact .inl (.inr ⟨⟨listings, items, answer, hmem, hitems, hx⟩, hne⟩)
    · obtain ⟨rfl, rfl⟩ := Prod.mk.inj (List.mem_singleton.1 hmem)
      exact .inr (.inr ⟨hne, listings, items, answer, rfl, rfl, hitems, hx⟩)

lemma logged_of_quiet {id x : Value} (hsent : memory.sent = w.memory.sent)
    (hmarks : ∀ listings answer, ¬ (operation = .markDelivered id listings ∧ outcome = .ok answer))
    (h : Logged { w with memory, history := w.history ++ [(operation, outcome)] } id x) :
    w.Logged id x := by
  rcases logged_call (hsent.trans (List.append_nil _).symm) h with
    hold | ⟨_, hids, _⟩ | ⟨_, listings, _, answer, hoperation, houtcome, _⟩
  · exact hold
  · exact absurd hids List.not_mem_nil
  · exact absurd ⟨hoperation, houtcome⟩ (hmarks listings answer)

/-- A delivery changes nothing, or it sends what it gives in one piece and notes it. -/
lemma carryOut_deliver {id chosen : Value} (hw : w.Sound) (hc : chosen.OnlyTexts)
    (h : w.carryOut setup (.deliver id chosen) = (outcome, memory)) :
    ((∀ ids, outcome = .ok (.identifiers ids) → ids = []) ∧
      memory.archive = w.memory.archive ∧ memory.sent = w.memory.sent) ∨
    ∃ ss : List String, outcome = .ok (.identifiers (ss.map .text)) ∧ ss.Nodup ∧
      (chosen = .null → ∀ s ∈ ss, s ≠ "" ∧ ¬ w.Logged id (.text s)) ∧
      memory.sent = w.memory.sent ++ [(id, ss.map .text)] ∧
      memory.archive.Keeps (Archive.logWith w.Logged id (ss.map .text)) := by
  obtain ⟨result, hrun, rfl⟩ := Plan.exists_of_run_map h
  rcases Registry.run_deliver hw.keeps hw.identified hc hrun with
    ⟨hnone, harchive, hsent⟩ | ⟨ss, rfl, hrest⟩
  · refine .inl ⟨fun ids hids => ?_, harchive, hsent⟩
    obtain ⟨ids, hresult, hids⟩ := Outcome.map_eq_ok hids
    cases hids
    exact hnone _ hresult
  · exact .inr ⟨ss, rfl, hrest⟩

lemma Sound.identified_carryOut (hw : w.Sound)
    (h : w.carryOut setup operation = (outcome, memory)) :
    Inventory.Identified memory.listings := by
  rw [Memory.listings_run h]
  exact hw.identified

lemma Sound.call_deliver {id chosen : Value} (hw : w.Sound) (hc : chosen.OnlyTexts)
    (h : w.carryOut setup (.deliver id chosen) = (outcome, memory)) :
    Sound { w with memory, history := w.history ++ [(.deliver id chosen, outcome)] } := by
  have hidentified := hw.identified_carryOut h
  rcases carryOut_deliver hw hc h with ⟨-, harchive, hsent⟩ | ⟨ss, -, hnodup, -, hsent, hkeeps⟩
  · refine ⟨hidentified, ?_, ?_⟩
    · rw [harchive]
      exact hw.keeps.anti fun other x hx => logged_of_quiet hsent (fun _ _ h => (by cases h.1)) hx
    · rw [hsent]
      exact hw.distinct
  · refine ⟨hidentified, hkeeps.anti fun other x hx => ?_, fun entry hentry => ?_⟩
    · rcases logged_call hsent hx with hold | ⟨ids, hids, hx⟩ | ⟨-, _, _, _, hoperation, -⟩
      · exact .inl hold
      · obtain ⟨rfl, rfl⟩ := Prod.mk.inj (List.mem_singleton.1 hids)
        exact .inr ⟨rfl, hx⟩
      · cases hoperation
    · rw [hsent] at hentry
      rcases List.mem_append.1 hentry with hentry | hentry
      · exact hw.distinct entry hentry
      · rw [List.mem_singleton.1 hentry]
        exact ⟨ss, rfl, hnodup⟩

lemma keeps_markDelivered {id listings : Value} (hw : w.Sound) (hl : listings.OnlyTexts)
    (h : w.carryOut setup (.markDelivered id listings) = (outcome, memory)) :
    memory.sent = w.memory.sent ∧
      memory.archive.Keeps (Logged { w with
        memory, history := w.history ++ [(.markDelivered id listings, outcome)] }) := by
  obtain ⟨result, hrun, rfl⟩ := Plan.exists_of_run_map h
  obtain ⟨hkept, hsent⟩ :=
    Memory.run_of_keepsBooks (Registry.asks_markDelivered hl) hw.keeps hrun
  refine ⟨hsent, ?_⟩
  cases result with
  | error failure =>
    exact hkept.anti fun other x hx => logged_of_quiet hsent (fun _ _ h => (by cases h.2)) hx
  | ok all =>
    obtain ⟨ss, ms, hmembers, hmem, hkeeps⟩ := Registry.markDelivered_eq_ok hw.keeps hl hrun
    refine hkeeps.anti fun other x hx => ?_
    rcases logged_call (hsent.trans (List.append_nil _).symm) hx with
      hold | ⟨_, hids, -⟩ | ⟨hne, found, items, answer, hoperation, -, hitems, hx⟩
    · exact .inl hold
    · exact absurd hids List.not_mem_nil
    · cases hoperation
      have hfound : listings.members = .ok items := by rw [Value.members, hitems]
      rw [hmembers] at hfound
      cases hfound
      obtain ⟨s, hs, rfl⟩ := List.mem_map.1 hx
      refine .inr ⟨rfl, List.mem_map_of_mem ((hmem s).2 ⟨hs, ?_⟩)⟩
      rintro rfl
      exact hne rfl

lemma Sound.call_markDelivered {id listings : Value} (hw : w.Sound) (hl : listings.OnlyTexts)
    (h : w.carryOut setup (.markDelivered id listings) = (outcome, memory)) :
    Sound { w with memory, history := w.history ++ [(.markDelivered id listings, outcome)] } := by
  obtain ⟨hsent, hkeeps⟩ := keeps_markDelivered hw hl h
  refine ⟨hw.identified_carryOut h, hkeeps, ?_⟩
  rw [hsent]
  exact hw.distinct

lemma Sound.call_other (hw : w.Sound) (hkind : Event.NamesListings (.call setup operation))
    (hdeliver : ∀ id chosen, operation ≠ .deliver id chosen)
    (hmark : ∀ id listings, operation ≠ .markDelivered id listings)
    (h : w.carryOut setup operation = (outcome, memory)) :
    Sound { w with memory, history := w.history ++ [(operation, outcome)] } := by
  obtain ⟨hkeeps, hsent⟩ :=
    Memory.run_of_keepsBooks (asks_plan w.now hkind hdeliver) hw.keeps h
  refine ⟨hw.identified_carryOut h, hkeeps.anti fun id x hx => ?_, ?_⟩
  · exact logged_of_quiet hsent (fun listings _ h => hmark id listings h.1) hx
  · rw [hsent]
    exact hw.distinct

lemma Sound.step (hw : w.Sound) {event : Event} (hkind : event.NamesListings) :
    (w.step event).Sound := by
  cases event with
  | restock listings => exact ⟨hkind, hw.keeps, hw.distinct⟩
  | clock now => exact ⟨hw.identified, hw.keeps, hw.distinct⟩
  | inventoryFault fault => exact ⟨hw.identified, hw.keeps, hw.distinct⟩
  | senderFault fault => exact ⟨hw.identified, hw.keeps, hw.distinct⟩
  | call setup operation =>
    cases h : w.carryOut setup operation with
    | mk outcome memory =>
      rw [step_call h]
      cases operation with
      | deliver id chosen => exact hw.call_deliver hkind h
      | markDelivered id listings => exact hw.call_markDelivered hkind h
      | _ => exact hw.call_other hkind (by rintro _ _ ⟨⟩) (by rintro _ _ ⟨⟩) h

lemma sound_run (now : Instant) {events : List Event} (h : ∀ event ∈ events, event.NamesListings) :
    ((start now).run events).Sound :=
  run_preserves (fun _ _ hkind hw => hw.step hkind) h (sound_start now)

/-- What the deliveries so far and the next one promise. -/
structure Accounted (w : World) : Prop where
  /-- What was sent for a saved search that is still there is noted in its row. -/
  noted : ∀ id x, w.Sent id x → ∀ r, w.memory.archive.find id = .ok (some r) →
    ∃ noted, r.get "delivered_listing_ids" = .list noted ∧ x ∈ noted
  /-- No delivery sent a listing twice. -/
  distinct : ∀ entry ∈ w.memory.sent, entry.2.Pairwise fun x y => x.same y = false
  /-- A delivery without a choice sends only what was never sent or marked for its search. -/
  fresh : ∀ setup id outcome memory,
    w.carryOut setup (.deliver id .null) = (outcome, memory) →
      ∃ batches, memory.sent = w.memory.sent ++ batches ∧ ∀ batch ∈ batches, batch.1 = id ∧
        ∀ x ∈ batch.2, ¬ w.Sent id x ∧ ¬ w.Marked id x
  /-- A delivery that fails changes neither the archive nor what was sent. -/
  untouched : ∀ setup id chosen failure memory, chosen.OnlyTexts →
    w.carryOut setup (.deliver id chosen) = (.error failure, memory) →
      memory.archive = w.memory.archive ∧ memory.sent = w.memory.sent

lemma Sound.noted (hw : w.Sound) {id x : Value} (hx : w.Sent id x) {r : Record}
    (hr : w.memory.archive.find id = .ok (some r)) :
    ∃ noted, r.get "delivered_listing_ids" = .list noted ∧ x ∈ noted := by
  obtain ⟨ts, hts, hlogged⟩ := hw.keeps.notes_of_find hr
  exact ⟨ts.map .text, by rw [Record.get, hts]; rfl, hlogged x (.inl hx)⟩

lemma Sound.fresh (hw : w.Sound) {id : Value}
    (h : w.carryOut setup (.deliver id .null) = (outcome, memory)) :
    ∃ batches, memory.sent = w.memory.sent ++ batches ∧ ∀ batch ∈ batches, batch.1 = id ∧
      ∀ x ∈ batch.2, ¬ w.Sent id x ∧ ¬ w.Marked id x := by
  have hnull : Value.null.OnlyTexts := fun _ h => (by cases h)
  rcases carryOut_deliver hw hnull h with ⟨-, -, hsent⟩ | ⟨ss, -, -, hfresh, hsent, -⟩
  · exact ⟨[], by rw [hsent, List.append_nil], by simp⟩
  · refine ⟨[(id, ss.map .text)], hsent, fun batch hbatch => ?_⟩
    rw [List.mem_singleton.1 hbatch]
    refine ⟨rfl, fun x hx => ?_⟩
    obtain ⟨s, hs, rfl⟩ := List.mem_map.1 hx
    obtain ⟨hne, hnot⟩ := hfresh rfl s hs
    exact ⟨fun hold => hnot (.inl hold),
      fun hmarked => hnot (.inr ⟨hmarked, fun heq => hne (Value.text.inj heq)⟩)⟩

lemma Sound.accounted (hw : w.Sound) : w.Accounted where
  noted _ _ hx _ hr := hw.noted hx hr
  distinct entry hentry := by
    obtain ⟨ss, hss, hnodup⟩ := hw.distinct entry hentry
    rw [hss, List.pairwise_map]
    refine hnodup.imp fun {s t} hne => ?_
    rw [← Bool.not_eq_true, Value.same_text_iff]
    exact fun heq => hne (Value.text.inj heq)
  fresh _ _ _ _ h := hw.fresh h
  untouched setup id chosen failure memory hc h := by
    rcases carryOut_deliver hw hc h with ⟨-, hkept⟩ | ⟨ss, houtcome, -⟩
    · exact hkept
    · cases houtcome

/-- After any run from empty stores the deliveries are accounted for. -/
theorem accounted_run (now : Instant) {events : List Event}
    (h : ∀ event ∈ events, event.NamesListings) : ((start now).run events).Accounted :=
  (sound_run now h).accounted

def bareRows (ids : List String) : List Record := ids.map fun s => [("id", .text s)]

lemma identified_bareRows {ids : List String} (hnodup : ids.Nodup) (hempty : "" ∉ ids) :
    Inventory.Identified (bareRows ids) where
  text r hr := by
    obtain ⟨s, hs, rfl⟩ := List.mem_map.1 hr
    exact ⟨s, fun heq => hempty (heq ▸ hs), rfl⟩
  nodup := by
    rw [bareRows, List.map_map]
    exact hnodup.map fun s t h => Value.text.inj (Option.some.inj h)

/-- Two listings are delivered. Of two more the next delivery, which fails, sends none, and after
one of them was marked only the other one is sent. -/
def threeDeliveries : List Event :=
  let setup : Setup := ⟨⟨.empty, 10, 10⟩, true⟩
  [.restock (bareRows ["a", "b"]),
    .call setup (.create (.text "ana") (.text "Centro") (.object [])),
    .call setup (.deliver (.text "hs-1") .null),
    .restock (bareRows ["d", "c", "b", "a"]),
    .senderFault (some "down"),
    .call setup (.deliver (.text "hs-1") .null),
    .senderFault none,
    .call setup (.markDelivered (.text "hs-1") (.list (["c"].map .text))),
    .call setup (.deliver (.text "hs-1") .null)]

lemma namesListings_threeDeliveries : ∀ event ∈ threeDeliveries, event.NamesListings := by
  have hnull : Value.null.OnlyTexts := fun _ h => (by cases h)
  simp only [threeDeliveries, List.forall_mem_cons, Event.NamesListings, List.not_mem_nil,
    false_imp_iff, implies_true, true_and, and_true]
  exact ⟨identified_bareRows (by decide) (by decide), hnull,
    identified_bareRows (by decide) (by decide), hnull, Value.onlyTexts_list ["c"], hnull⟩

theorem accounted_threeDeliveries :
    (∀ event ∈ threeDeliveries, event.NamesListings) ∧
    ((start ⟨⟨2024, 5, 1⟩, 12, 0, 0, 0, some 0⟩).run threeDeliveries).Accounted ∧
    (((start ⟨⟨2024, 5, 1⟩, 12, 0, 0, 0, some 0⟩).run threeDeliveries).memory.sent.map
      fun entry => entry.2.map Value.text?) = [[some "a", some "b"], [some "d"]] :=
  ⟨namesListings_threeDeliveries, accounted_run _ namesListings_threeDeliveries, by decide +kernel⟩

end World
end ListingSearch
