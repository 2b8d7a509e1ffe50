import ListingSearch.Proofs.Predicate.StoreForm
import ListingSearch.Proofs.Query.Demand

/-! The text of a condition is unambiguous. It is the text of a syntax tree, in which a range
between two bounds is a conjunction, and whatever begins with the text of a tree tells that tree, up
to demands that the same records pass. So conditions in store form with one text have one outcome. -/
namespace ListingSearch

namespace Predicate

def Joint.join : Joint → List Predicate → Predicate
  | .all => .and
  | .any => .or

/-- A joined list is decided like another one whose members are decided like its own. -/
lemma holds_join_congr {r : Record} {ps qs : List Predicate} (j : Joint)
    (h : List.Forall₂ (fun p q => p.holds r = q.holds r) ps qs) :
    (j.join ps).holds r = (j.join qs).holds r := by
  cases j with
  | all =>
    rw [Joint.join, holds_and, holds_and]
    induction h with
    | nil => rfl
    | cons h _ ih => rw [allHold_cons, allHold_cons, h, ih]
  | any =>
    rw [Joint.join, holds_or, holds_or]
    induction h with
    | nil => rfl
    | cons h _ ih => rw [someHolds_cons, someHolds_cons, h, ih]

end Predicate

namespace Query

open Predicate (Joint Operands)

/-- The word before the parts of a node. -/
def joinWord : Joint → String
  | .all => "and"
  | .any => "or"

inductive Tree where
  | leaf (negated : Bool) (field : String) (demand : Demand)
  | node (negated : Bool) (joint : Joint) (parts : List Tree)

def notText (negated : Bool) : String := if negated then "not." else ""

/-- The opposite, if there is a negation. -/
def signed (negated : Bool) (p : Predicate) : Predicate := if negated then .not p else p

namespace Tree

def text : Tree → String
  | .leaf negated field demand =>
    field ++ "." ++ (notText negated ++ (demand.word ++ "." ++ demand.operand))
  | .node negated joint parts =>
    notText negated ++ (joinWord joint ++ "(" ++ (",".intercalate (parts.map text) ++ ")"))

def predicate : Tree → Predicate
  | .leaf negated field demand => signed negated (.test (demand.test field))
  | .node negated joint parts => signed negated (joint.join (parts.map predicate))

/-- The two trees stand for conditions with one outcome. -/
def Alike (T U : Tree) : Prop := ∀ r, T.predicate.holds r = U.predicate.holds r

end Tree

/-- No point and no opening parenthesis. -/
def IsName (s : String) : Prop := ∀ c ∈ s.toList, c ≠ '.' ∧ c ≠ '('

instance (s : String) : Decidable (IsName s) :=
  List.decidableBAll (fun c : Char => c ≠ '.' ∧ c ≠ '(') s.toList

/-- Fields are names, operands are literals, and every node has parts. -/
inductive Tree.Proper : Tree → Prop
  | leaf (negated : Bool) {field : String} {demand : Demand} (hname : IsName field)
    (hliteral : demand.Literal) : Proper (.leaf negated field demand)
  | node (negated : Bool) (joint : Joint) {parts : List Tree} (hparts : ∀ T ∈ parts, Proper T)
    (hne : parts ≠ []) : Proper (.node negated joint parts)

variable {s t : String} {u v : List Char} {c d : Char} {m n : Bool} {T U : Tree}

/-- A name ends at the first point or opening parenthesis. -/
lemma IsName.cancel (hs : IsName s) (ht : IsName t) (hc : c = '.' ∨ c = '(')
    (hd : d = '.' ∨ d = '(') (h : s.toList ++ c :: u = t.toList ++ d :: v) :
    s = t ∧ c = d ∧ u = v := by
  have hstop {x : Char} (hx : x = '.' ∨ x = '(') (w : List Char) :
      (x :: w).takeWhile (fun y => y != '.' && y != '(') = [] := by
    rcases hx with rfl | rfl <;> rfl
  have hst := congrArg (List.takeWhile fun y => y != '.' && y != '(') h
  rw [List.takeWhile_append_of_pos fun y hy => by simp [hs y hy],
    List.takeWhile_append_of_pos fun y hy => by simp [ht y hy], hstop hc, hstop hd,
    List.append_nil, List.append_nil] at hst
  rw [hst, List.append_cancel_left_eq] at h
  exact ⟨String.toList_inj.1 hst, List.cons.inj h⟩

/-- The mark of a negation is told from the word behind it. -/
lemma notText_cancel (hs : IsName s) (ht : IsName t) (hs' : s ≠ "not") (ht' : t ≠ "not")
    (hc : c = '.' ∨ c = '(') (hd : d = '.' ∨ d = '(')
    (h : (notText m).toList ++ (s.toList ++ c :: u) = (notText n).toList ++ (t.toList ++ d :: v)) :
    m = n ∧ s = t ∧ c = d ∧ u = v := by
  have hnot : IsName "not" := by decide
  cases m <;> cases n
  · exact ⟨rfl, hs.cancel ht hc hd h⟩
  · exact absurd (hs.cancel hnot hc (.inl rfl) h).1 hs'
  · exact absurd (ht.cancel hnot hd (.inl rfl) h.symm).1 ht'
  · exact ⟨rfl, hs.cancel ht hc hd (List.append_cancel_left h)⟩

lemma isName_joinWord (j : Joint) : IsName (joinWord j) ∧ joinWord j ≠ "not" := by
  cases j <;> decide

lemma isName_word (d : Demand) : IsName d.word ∧ d.word ≠ "not" := by
  cases d <;> simp only [Demand.word] <;> decide

lemma joinWord_injective : Function.Injective joinWord := by
  intro i j h
  cases i <;> cases j <;> first | rfl | exact absurd h (by decide)

namespace Tree

variable {field field' : String} {demand demand' : Demand} {i j : Joint} {parts parts' : List Tree}

lemma toList_leaf (negated : Bool) (field : String) (demand : Demand) :
    (Tree.leaf negated field demand).text.toList = field.toList ++ '.' ::
      ((notText negated).toList ++ (demand.word.toList ++ '.' :: demand.operand.toList)) := by
  simp [text]

lemma toList_node (negated : Bool) (joint : Joint) (T : Tree) (parts : List Tree) :
    (Tree.node negated joint (T :: parts)).text.toList = (notText negated).toList ++
      ((joinWord joint).toList ++ '(' ::
        ((",".intercalate ((T :: parts).map text)).toList ++ [')'])) := by
  simp [text]

lemma leaf_cancels (hname : IsName field) (hname' : IsName field') (hd : demand.Literal)
    (hd' : demand'.Literal) :
    Cancels (Tree.leaf m field demand).text.toList (Tree.leaf n field' demand').text.toList
      ((Tree.leaf m field demand).Alike (.leaf n field' demand')) := by
  intro u v hu hv heq
  simp only [toList_leaf, List.append_assoc, List.cons_append] at heq
  obtain ⟨rfl, -, hrest⟩ := hname.cancel hname' (.inl rfl) (.inl rfl) heq
  obtain ⟨hword, hnot⟩ := isName_word demand
  obtain ⟨hword', hnot'⟩ := isName_word demand'
  obtain ⟨rfl, hsame, -, hend⟩ :=
    notText_cancel hword hword' hnot hnot' (.inl rfl) (.inl rfl) hrest
  obtain ⟨halike, huv⟩ := Demand.operand_cancels hd hd' hsame u v hu hv hend
  refine ⟨fun r => ?_, huv⟩
  have hholds := halike field r
  cases m <;> simp [predicate, signed, hholds]

/-- No text is that of a leaf and that of a node. -/
lemma leaf_node_cancels (hname : IsName field) :
    Cancels (Tree.leaf m field demand).text.toList (Tree.node n j (T :: parts)).text.toList
      False := by
  intro u v _ _ heq
  simp only [toList_leaf, toList_node, List.append_assoc, List.cons_append] at heq
  obtain ⟨hjoin, hnot⟩ := isName_joinWord j
  obtain ⟨hword, hnot'⟩ := isName_word demand
  -- A leaf has a point where a node has a parenthesis.
  cases n with
  | false => exact absurd (hname.cancel hjoin (.inl rfl) (.inr rfl) heq).2.1 (by decide)
  | true =>
    obtain ⟨-, -, hrest⟩ :=
      hname.cancel (t := "not") (by decide) (.inl rfl) (.inl rfl) heq
    have hclash := notText_cancel (n := false) hword hjoin hnot' hnot (.inl rfl) (.inr rfl) hrest
    exact absurd hclash.2.2.1 (by decide)

lemma node_cancels (hparts : ∀ T ∈ parts, ∀ U ∈ parts',
      Cancels T.text.toList U.text.toList (T.Alike U)) (hne : parts ≠ []) (hne' : parts' ≠ []) :
    Cancels (Tree.node m i parts).text.toList (Tree.node n j parts').text.toList
      (m = n ∧ i = j ∧ List.Forall₂ Alike parts parts') := by
  intro u v _ _ heq
  obtain ⟨T, rest, rfl⟩ := List.exists_cons_of_ne_nil hne
  obtain ⟨U, rest', rfl⟩ := List.exists_cons_of_ne_nil hne'
  simp only [toList_node, List.append_assoc, List.cons_append, List.nil_append] at heq
  obtain ⟨hname, hnot⟩ := isName_joinWord i
  obtain ⟨hname', hnot'⟩ := isName_joinWord j
  obtain ⟨hmn, hjoin, -, hrest⟩ :=
    notText_cancel hname hname' hnot hnot' (.inr rfl) (.inr rfl) heq
  obtain ⟨hall, huv⟩ := further_cancels (f := fun T => (text T).toList) (u := u) (v := v)
    hparts (by rw [← comma_intercalate, ← comma_intercalate, List.cons_append, List.cons_append,
      hrest])
  exact ⟨⟨hmn, joinWord_injective hjoin, hall⟩, huv⟩

lemma alike_node (h : List.Forall₂ Alike parts parts') :
    (Tree.node m j parts).Alike (.node m j parts') := by
  intro r
  have hall : List.Forall₂ (fun p q => p.holds r = q.holds r) (parts.map predicate)
      (parts'.map predicate) := by
    rw [List.forall₂_map_left_iff, List.forall₂_map_right_iff]
    exact h.imp fun _ _ hTU => hTU r
  have hjoin := Predicate.holds_join_congr j hall
  cases m <;> simp [predicate, signed, hjoin]

/-- The text of a proper tree ends by itself and tells the tree, up to its outcome. -/
theorem Proper.cancels (hT : T.Proper) (hU : U.Proper) :
    Cancels T.text.toList U.text.toList (T.Alike U) := by
  -- The induction is on one tree; the other one has to be of the same kind.
  induction hT generalizing U with
  | leaf m hname hliteral =>
    cases hU with
    | leaf n hname' hliteral' => exact leaf_cancels hname hname' hliteral hliteral'
    | node n j hparts' hne' =>
      obtain ⟨U, rest, rfl⟩ := List.exists_cons_of_ne_nil hne'
      exact (leaf_node_cancels hname).mono False.elim
  | node m i hparts hne ih =>
    cases hU with
    | leaf n hname' hliteral' =>
      obtain ⟨T, rest, rfl⟩ := List.exists_cons_of_ne_nil hne
      exact (leaf_node_cancels hname').symm.mono False.elim
    | node n j hparts' hne' =>
      refine (node_cancels (fun T hT U hU => ih T hT (hparts' U hU)) hne hne').mono ?_
      rintro ⟨rfl, rfl, hall⟩
      exact alike_node hall

/-- Whether the tree is a negation. -/
def negated : Tree → Bool
  | .leaf negated _ _ | .node negated _ _ => negated

def opposite : Tree → Tree
  | .leaf _ field demand => .leaf true field demand
  | .node _ joint parts => .node true joint parts

lemma Proper.opposite (h : T.Proper) : T.opposite.Proper := by
  cases h with
  | leaf m hname hliteral => exact .leaf true hname hliteral
  | node m j hparts hne => exact .node true j hparts hne

lemma holds_opposite (h : T.negated = false) (r : Record) :
    T.opposite.predicate.holds r = (T.predicate.holds r).map (!·) := by
  cases T with
  | leaf m field demand =>
    obtain rfl : m = false := h
    simp [Tree.opposite, predicate, signed]
  | node m j parts =>
    obtain rfl : m = false := h
    simp [Tree.opposite, predicate, signed]

/-- How the text of a node is recognised. -/
lemma opens_iff (inner : String) :
    ("and(".toList.isPrefixOf inner.toList || "or(".toList.isPrefixOf inner.toList) = true ↔
      ∃ j, (joinWord j).toList ++ ['('] <+: inner.toList := by
  rw [Bool.or_eq_true, List.isPrefixOf_iff_prefix, List.isPrefixOf_iff_prefix]
  constructor
  · rintro (h | h)
    · exact ⟨.all, h⟩
    · exact ⟨.any, h⟩
  · rintro ⟨j, h⟩
    cases j with
    | all => exact .inl h
    | any => exact .inr h

lemma cut_name (hname : IsName field) (rest : String) :
    Text.cut '.' (field ++ ("." ++ rest)) = (field, rest) := by
  have hchars : (field ++ ("." ++ rest)).toList = field.toList ++ '.' :: rest.toList := by simp
  have hbefore : (field.toList ++ '.' :: rest.toList).takeWhile (· != '.') = field.toList := by
    rw [List.takeWhile_append_of_pos fun c hc => by simp [hname c hc]]
    simp
  rw [Text.cut, hchars, hbefore]
  simp

lemma negatedText_leaf (hname : IsName field) :
    negatedText (Tree.leaf false field demand).text = (Tree.leaf true field demand).text := by
  have hleaf : ¬ ∃ j, (joinWord j).toList ++ ['('] <+:
      (Tree.leaf false field demand).text.toList := by
    rintro ⟨j, rest, hrest⟩
    rw [toList_leaf, List.append_assoc] at hrest
    exact absurd ((isName_joinWord j).1.cancel hname (.inr rfl) (.inl rfl) hrest).2.1 (by decide)
  have hdot : (".not." : String) = "." ++ "not." := by decide
  rw [negatedText, if_neg (mt (opens_iff _).1 hleaf)]
  simp only [text, String.append_assoc, cut_name hname, hdot, notText, if_true]
  rfl

lemma negatedText_node (j : Joint) (parts : List Tree) :
    negatedText (Tree.node false j parts).text = (Tree.node true j parts).text := by
  have hnode : (joinWord j).toList ++ ['('] <+: (Tree.node false j parts).text.toList := by
    simp [text, notText]
  rw [negatedText, if_pos ((opens_iff _).2 ⟨j, hnode⟩)]
  simp [text, notText]

/-- The text of a negation is made from the text of the tree. -/
lemma Proper.negatedText (h : T.Proper) (hnot : T.negated = false) :
    Query.negatedText T.text = T.opposite.text := by
  cases h with
  | leaf m hname hliteral =>
    obtain rfl : m = false := hnot
    exact negatedText_leaf hname
  | node m j hparts hne =>
    obtain rfl : m = false := hnot
    exact negatedText_node j _

end Tree

section Spelling

variable {p q p₀ q₀ : Predicate} {ps : List Predicate} {test : Test} {j : Joint}

/-- The tree has the text, and the outcome of the condition. -/
structure Spells (T : Tree) (p : Predicate) (s : String) : Prop where
  proper : T.Proper
  text_eq : T.text = s
  holds_eq : ∀ r, T.predicate.holds r = p.holds r

lemma Spells.opposite (h : Spells T p s) (hnot : T.negated = false) :
    Spells T.opposite (.not p) (negatedText s) := by
  refine ⟨h.proper.opposite, ?_, fun r => ?_⟩
  · rw [← h.text_eq, h.proper.negatedText hnot]
  · rw [Tree.holds_opposite hnot, h.holds_eq, Predicate.holds_not]

end Spelling

end Query
end ListingSearch
