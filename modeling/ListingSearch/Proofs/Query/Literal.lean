import ListingSearch.Proofs.Binary64.Integral
import ListingSearch.Proofs.Binary64.Numeral
import ListingSearch.Proofs.Value.Alike
import ListingSearch.Query.Literal

/-! Literals delimit themselves. A quoted text ends at its closing mark, whatever stands in the text
and whatever follows it, and a number or a truth value ends before the next comma or parenthesis. So
what is written tells the literal, up to the form of a number. -/
namespace ListingSearch

open Value (Alike)

namespace Number

variable {a b : Number}

def numeral : Number → String
  | .int n => toString n
  | .float x => x.plainText

lemma numeral_eq (a : Number) :
    (∃ n : Int, a.numeral = toString n ∧ a.isFinite = true ∧ a.toRat = n) ∨
      ∃ x, a = .float x ∧ a.numeral = x.text := by
  cases a with
  | int n => exact .inl ⟨n, rfl, rfl, rfl⟩
  | float x =>
    cases hx : x.toInt? with
    | some n =>
      refine .inl ⟨n, ?_, Binary64.isFinite_of_toInt? hx, Binary64.toRat_of_toInt? hx⟩
      simp [numeral, Binary64.plainText, hx]
    | none =>
      refine .inr ⟨x, rfl, ?_⟩
      simp [numeral, Binary64.plainText, hx]

/-- A numeral tells its number, but not the form of an integer. -/
lemma alike_of_numeral (h : a.numeral = b.numeral) : a.Alike b := by
  obtain ⟨m, hm, ha, hma⟩ | ⟨x, rfl, hx⟩ := numeral_eq a
  · obtain ⟨n, hn, hb, hnb⟩ | ⟨y, rfl, hy⟩ := numeral_eq b
    · rw [hm, hn] at h
      have hmn : m = n := Text.toString_int_injective h
      exact alike_of_toRat ha hb (by rw [hma, hnb, hmn])
    · rw [hm, hy] at h
      exact absurd h.symm (Binary64.text_ne_toString y m)
  · obtain ⟨n, hn, -⟩ | ⟨y, rfl, hy⟩ := numeral_eq b
    · rw [hx, hn] at h
      exact absurd h (Binary64.text_ne_toString x n)
    · rw [hx, hy] at h
      rw [Binary64.text_injective h]
      exact .refl _

lemma numeric_numeral (a : Number) : Text.Numeric a.numeral ∧ a.numeral ≠ "" := by
  obtain ⟨n, hn, -⟩ | ⟨x, -, hx⟩ := numeral_eq a
  · rw [hn]
    exact ⟨Text.numeric_toString_int n, Text.toString_int_ne_empty n⟩
  · rw [hx]
    exact ⟨Binary64.numeric_text x, Binary64.text_ne_empty x⟩

end Number

namespace Query

section Escapes

/-- The characters with a backslash before the special ones. -/
def escapeIf (special : Char → Bool) : List Char → List Char
  | [] => []
  | c :: cs => if special c then '\\' :: c :: escapeIf special cs else c :: escapeIf special cs

/-- Reads up to a mark that has no backslash before it: the characters, and what is left. -/
def readEscaped? (mark : Char) : List Char → Option (List Char × List Char)
  | [] => none
  | '\\' :: c :: rest => (readEscaped? mark rest).map fun (cs, left) => (c :: cs, left)
  | c :: rest =>
    if c = mark then some ([], rest)
    else (readEscaped? mark rest).map fun (cs, left) => (c :: cs, left)

variable {special : Char → Bool} {mark : Char}

lemma readEscaped?_mark (hmark : mark ≠ '\\') (u : List Char) :
    readEscaped? mark (mark :: u) = some ([], u) := by
  rw [readEscaped?.eq_def]
  split
  · rename_i h
    cases h
  · rename_i h
    cases h
    exact absurd rfl hmark
  · rename_i h
    cases h
    rw [if_pos rfl]

lemma readEscaped?_cons {c : Char} (hc : c ≠ mark) (hbackslash : c ≠ '\\') (u : List Char) :
    readEscaped? mark (c :: u) = (readEscaped? mark u).map fun (cs, left) => (c :: cs, left) := by
  rw [readEscaped?.eq_def]
  split
  · rename_i h
    cases h
  · rename_i h
    cases h
    exact absurd rfl hbackslash
  · rename_i h
    cases h
    rw [if_neg hc]

/-- Escaped characters are read back, and nothing of what follows them. -/
lemma readEscaped?_escapeIf (hmark : special mark = true) (hbackslash : special '\\' = true)
    (hne : mark ≠ '\\') (cs u : List Char) :
    readEscaped? mark (escapeIf special cs ++ mark :: u) = some (cs, u) := by
  induction cs with
  | nil => exact readEscaped?_mark hne u
  | cons c cs ih =>
    rw [escapeIf]
    cases hc : special c with
    | true =>
      rw [if_pos rfl, List.cons_append, List.cons_append, readEscaped?, ih]
      rfl
    | false =>
      have hcm : c ≠ mark := by
        rintro rfl
        rw [hmark] at hc
        cases hc
      have hcb : c ≠ '\\' := by
        rintro rfl
        rw [hbackslash] at hc
        cases hc
      rw [if_neg (by decide), List.cons_append, readEscaped?_cons hcm hcb, ih]
      rfl

lemma escape_eq_escapeIf (cs : List Char) :
    escape cs = escapeIf (fun c => decide (c = '"' ∨ c = '\\')) cs := by
  induction cs with
  | nil => rfl
  | cons c cs ih => simp [escape, escapeIf, ih]

lemma escapeWildcards_eq_escapeIf (cs : List Char) :
    escapeWildcards cs = escapeIf (fun c => decide (c = '\\' ∨ c = '%' ∨ c = '_')) cs := by
  induction cs with
  | nil => rfl
  | cons c cs ih => simp [escapeWildcards, escapeIf, ih]

lemma readEscaped?_escape (cs u : List Char) :
    readEscaped? '"' (escape cs ++ '"' :: u) = some (cs, u) := by
  rw [escape_eq_escapeIf]
  exact readEscaped?_escapeIf rfl rfl (by decide) cs u

lemma readEscaped?_escapeWildcards (cs u : List Char) :
    readEscaped? '%' (escapeWildcards cs ++ '%' :: u) = some (cs, u) := by
  rw [escapeWildcards_eq_escapeIf]
  exact readEscaped?_escapeIf rfl rfl (by decide) cs u

/-- Escapes that are put in one after another are put in at once, if the later ones are not before
backslashes, which may be escapes already, nor before characters that have one. -/
lemma escapeIf_escapeIf {first later : Char → Bool} (hbackslash : later '\\' = false)
    (hdisjoint : ∀ c, first c = true → later c = false) (cs : List Char) :
    escapeIf later (escapeIf first cs) = escapeIf (fun c => first c || later c) cs := by
  induction cs with
  | nil => rfl
  | cons c cs ih =>
    cases hfirst : first c with
    | true => simp [escapeIf, hfirst, hdisjoint c hfirst, hbackslash, ih]
    | false => cases hlater : later c <;> simp [escapeIf, hfirst, hlater, ih]

/-- The escapes of a literal are put in by two replacements, of backslashes first. -/
lemma escape_eq_replaced (cs : List Char) :
    escape cs = escapeIf (· == '"') (escapeIf (· == '\\') cs) := by
  have hdisjoint (c : Char) (hc : (c == '\\') = true) : (c == '"') = false := by
    rw [eq_of_beq hc]
    rfl
  rw [escapeIf_escapeIf rfl hdisjoint, escape_eq_escapeIf]
  congr 1
  funext c
  rw [Bool.decide_or, Bool.or_comm]
  rfl

/-- The escapes of a pattern are put in by three replacements, of backslashes first. -/
lemma escapeWildcards_eq_replaced (cs : List Char) :
    escapeWildcards cs = escapeIf (· == '_') (escapeIf (· == '%') (escapeIf (· == '\\') cs)) := by
  have hpercent (c : Char) (hc : (c == '\\') = true) : (c == '%') = false := by
    rw [eq_of_beq hc]
    rfl
  have hunderscore (c : Char) (hc : (c == '\\' || c == '%') = true) : (c == '_') = false := by
    rcases Bool.or_eq_true_iff.1 hc with hc | hc <;> rw [eq_of_beq hc] <;> rfl
  rw [escapeIf_escapeIf rfl hpercent, escapeIf_escapeIf rfl hunderscore, escapeWildcards_eq_escapeIf]
  congr 1
  funext c
  rw [Bool.decide_or, Bool.decide_or, ← Bool.or_assoc]
  rfl

end Escapes

section Quoted

variable {s t u v : String}

/-- Reads a literal that opens with a quotation mark: the text, and what is left. -/
def readQuoted? (literal : String) : Option (String × String) :=
  match literal.toList with
  | '"' :: cs => (readEscaped? '"' cs).map fun (s, left) => (String.ofList s, String.ofList left)
  | _ => none

lemma toList_quotedText (s : String) :
    (quotedText s).toList = '"' :: (escape s.toList ++ ['"']) := by
  rw [quotedText, String.toList_ofList, List.cons_append]

/-- A reader takes a quoted text back to the text, and leaves what follows it. -/
lemma readQuoted?_quotedText (s u : String) : readQuoted? (quotedText s ++ u) = some (s, u) := by
  have hchars : (quotedText s ++ u).toList = '"' :: (escape s.toList ++ '"' :: u.toList) := by
    rw [String.toList_append, toList_quotedText, List.cons_append, List.append_assoc,
      List.singleton_append]
  simp only [readQuoted?, hchars, readEscaped?_escape, Option.map_some, String.ofList_toList]

example : readQuoted? "\"\\\"),\\\\\",id" = some ("\"),\\", ",id") := by decide

/-- What begins with a quoted text tells the text and what follows it. -/
lemma quotedText_append_inj (h : quotedText s ++ u = quotedText t ++ v) : s = t ∧ u = v := by
  have hread := congrArg readQuoted? h
  rw [readQuoted?_quotedText, readQuoted?_quotedText, Option.some.injEq, Prod.mk.injEq] at hread
  exact hread

end Quoted

variable {s t : String} {m n : MatchMode}

lemma readEscaped?_likePattern (s : String) (m : MatchMode) :
    readEscaped? '%' (likePattern s m).toList =
      match m with
      | .atStart => some (s.toList, [])
      | .anywhere => some ([], escapeWildcards s.toList ++ ['%']) := by
  cases m with
  | atStart => rw [likePattern, String.toList_ofList, readEscaped?_escapeWildcards]
  | anywhere =>
    rw [likePattern, String.toList_ofList, List.cons_append, readEscaped?_mark (by decide)]

/-- A pattern tells the text that it finds, and where. -/
lemma likePattern_injective (h : likePattern s m = likePattern t n) : s = t ∧ m = n := by
  have hread := congrArg (fun p => readEscaped? '%' p.toList) h
  simp only [readEscaped?_likePattern] at hread
  cases m with
  | atStart =>
    cases n with
    | atStart =>
      rw [Option.some.injEq, Prod.mk.injEq] at hread
      exact ⟨String.toList_inj.1 hread.1, rfl⟩
    | anywhere => simp at hread
  | anywhere =>
    cases n with
    | atStart => simp at hread
    | anywhere =>
      rw [Option.some.injEq, Prod.mk.injEq] at hread
      have hagain := congrArg (readEscaped? '%') hread.2
      rw [readEscaped?_escapeWildcards, readEscaped?_escapeWildcards, Option.some.injEq,
        Prod.mk.injEq] at hagain
      exact ⟨String.toList_inj.1 hagain.1, rfl⟩

section Ends

variable {cs ds u v : List Char} {R R' : Prop}

/-- What may follow a literal: nothing, or a comma or a closing parenthesis. -/
def Ends (u : List Char) : Prop := ∀ c ∈ u.head?, c = ',' ∨ c = ')'

/-- Where two texts are equal as a whole, what the characters say before agrees, and so does what
follows them. -/
def Cancels (cs ds : List Char) (R : Prop) : Prop :=
  ∀ u v, Ends u → Ends v → cs ++ u = ds ++ v → R ∧ u = v

lemma ends_comma (u : List Char) : Ends (',' :: u) := by simp [Ends]

lemma ends_close (u : List Char) : Ends (')' :: u) := by simp [Ends]

lemma Cancels.mono (h : Cancels cs ds R) (f : R → R') : Cancels cs ds R' :=
  fun u v hu hv heq => (h u v hu hv heq).imp_left f

lemma Cancels.symm (h : Cancels cs ds R) : Cancels ds cs R :=
  fun u v hu hv heq => (h v u hv hu heq.symm).imp_right Eq.symm

lemma quotedText_cancels (s t : String) :
    Cancels (quotedText s).toList (quotedText t).toList (s = t) := by
  intro u v _ _ heq
  have happend : quotedText s ++ String.ofList u = quotedText t ++ String.ofList v := by
    rw [← String.toList_inj, String.toList_append, String.toList_append, String.toList_ofList,
      String.toList_ofList, heq]
  obtain ⟨hst, huv⟩ := quotedText_append_inj happend
  exact ⟨hst, String.ofList_injective huv⟩

/-- The text has no character that could end it or open a quoted text. -/
def Bare (s : String) : Prop := s ≠ "" ∧ ∀ c ∈ s.toList, c ≠ ',' ∧ c ≠ ')' ∧ c ≠ '"'

instance (s : String) : Decidable (Bare s) :=
  haveI := List.decidableBAll (fun c : Char => c ≠ ',' ∧ c ≠ ')' ∧ c ≠ '"') s.toList
  inferInstanceAs (Decidable (s ≠ "" ∧ _))

lemma Bare.takeWhile (hs : Bare s) (hu : Ends u) :
    (s.toList ++ u).takeWhile (fun c => c != ',' && c != ')') = s.toList := by
  have hnone : u.takeWhile (fun c => c != ',' && c != ')') = [] := by
    cases u with
    | nil => rfl
    | cons c u => rcases hu c (by simp) with rfl | rfl <;> rfl
  rw [List.takeWhile_append_of_pos fun c hc => by simp [hs.2 c hc], hnone, List.append_nil]

lemma Bare.cancels (hs : Bare s) (ht : Bare t) : Cancels s.toList t.toList (s = t) := by
  intro u v hu hv heq
  have hst := congrArg (List.takeWhile fun c => c != ',' && c != ')') heq
  rw [hs.takeWhile hu, ht.takeWhile hv] at hst
  rw [hst, List.append_cancel_left_eq] at heq
  exact ⟨String.toList_inj.1 hst, heq⟩

lemma Bare.exists_cons (hs : Bare s) : ∃ c cs, s.toList = c :: cs ∧ c ≠ ')' ∧ c ≠ '"' := by
  obtain ⟨c, cs, hcs⟩ := List.exists_cons_of_ne_nil (mt String.toList_eq_nil_iff.1 hs.1)
  exact ⟨c, cs, hcs, (hs.2 c (by simp [hcs])).2⟩

lemma Bare.cancels_quotedText (hs : Bare s) (t : String) :
    Cancels s.toList (quotedText t).toList False := by
  intro u v _ _ heq
  obtain ⟨c, cs, hcs, -, hc⟩ := hs.exists_cons
  rw [hcs, quotedText, String.toList_ofList] at heq
  exact absurd (List.cons.inj heq).1 hc

lemma bare_of_numeric (hs : Text.Numeric s) (hne : s ≠ "") : Bare s := by
  refine ⟨hne, fun c hc => ?_⟩
  rcases hs c hc with hdigit | hother
  · exact ⟨Text.ne_of_isDigit hdigit rfl, Text.ne_of_isDigit hdigit rfl,
      Text.ne_of_isDigit hdigit rfl⟩
  · simp only [List.mem_cons, List.not_mem_nil, or_false] at hother
    rcases hother with rfl | rfl | rfl | rfl | rfl | rfl | rfl | rfl <;> decide

end Ends

/-- The data that literals in a tree stand for. -/
inductive IsLiteral : Value → Prop
  | text (s : String) : IsLiteral (.text s)
  | truth (b : Bool) : IsLiteral (.bool b)
  | int (n : Int) : IsLiteral (.int n)
  | float (x : Binary64) : IsLiteral (.float x)

variable {v w : Value}

lemma quote_text (s : String) : quote (.text s) = quotedText s := rfl

lemma bare_numeral (a : Number) : Bare a.numeral :=
  bare_of_numeric a.numeric_numeral.1 a.numeric_numeral.2

/-- No numeral is the name of a truth value. -/
lemma quote_bool_ne_numeral (b : Bool) (a : Number) : quote (.bool b) ≠ a.numeral := by
  intro heq
  have hnumeric := heq ▸ a.numeric_numeral.1
  cases b <;> exact absurd hnumeric (by decide)

/-- A literal is quoted, or it is bare and a number is its value. -/
lemma quoted_or_bare (h : IsLiteral v) :
    (∃ s, v = .text s) ∨ Bare (quote v) ∧ ∃ a : Number, v.number? = some a ∧
      (quote v = a.numeral ∨ ∃ b, v = .bool b) := by
  cases h with
  | text s => exact .inl ⟨s, rfl⟩
  | truth b =>
    refine .inr ⟨?_, _, rfl, .inr ⟨b, rfl⟩⟩
    cases b <;> decide
  | int n => exact .inr ⟨bare_numeral (.int n), .int n, rfl, .inl rfl⟩
  | float x => exact .inr ⟨bare_numeral (.float x), .float x, rfl, .inl rfl⟩

lemma alike_of_quote {a b : Number} (hv : v.number? = some a) (hw : w.number? = some b)
    (hva : quote v = a.numeral ∨ ∃ c, v = .bool c) (hwb : quote w = b.numeral ∨ ∃ c, w = .bool c)
    (h : quote v = quote w) : Alike v w := by
  rcases hva with hva | ⟨c, rfl⟩ <;> rcases hwb with hwb | ⟨d, rfl⟩
  · exact .number hv hw (Number.alike_of_numeral (by rw [← hva, ← hwb, h]))
  · exact absurd (h.symm.trans hva) (quote_bool_ne_numeral d a)
  · exact absurd (h.trans hwb) (quote_bool_ne_numeral c b)
  · have hcd : c = d := by cases c <;> cases d <;> first | rfl | exact absurd h (by decide)
    subst hcd
    exact .number hv hv (.refl _)

/-- A literal ends by itself and tells the data that it stands for. -/
lemma quote_cancels (hv : IsLiteral v) (hw : IsLiteral w) :
    Cancels (quote v).toList (quote w).toList (Alike v w) := by
  obtain ⟨s, rfl⟩ | ⟨hbv, a, ha, hva⟩ := quoted_or_bare hv <;>
    obtain ⟨t, rfl⟩ | ⟨hbw, b, hb, hwb⟩ := quoted_or_bare hw
  · exact (quotedText_cancels s t).mono fun hst => hst ▸ .text s
  · exact (hbw.cancels_quotedText s).symm.mono False.elim
  · exact (hbv.cancels_quotedText t).mono False.elim
  · exact (hbv.cancels hbw).mono (alike_of_quote ha hb hva hwb)

lemma quote_head (h : IsLiteral v) : ∃ c cs, (quote v).toList = c :: cs ∧ c ≠ ')' := by
  obtain ⟨s, rfl⟩ | ⟨hbare, -⟩ := quoted_or_bare h
  · exact ⟨'"', _, String.toList_ofList, by decide⟩
  · obtain ⟨c, cs, hcs, hc, -⟩ := hbare.exists_cons
    exact ⟨c, cs, hcs, hc⟩

section Lists

variable {α : Type} {f : α → List Char} {R : α → α → Prop} {as bs : List α} {u v : List Char}

/-- The characters of further members of a list. -/
def further (f : α → List Char) (as : List α) : List Char := as.flatMap fun a => ',' :: f a

lemma comma_intercalate (f : α → String) (a : α) (as : List α) :
    ',' :: (",".intercalate ((a :: as).map f)).toList =
      further (fun x => (f x).toList) (a :: as) := by
  induction as generalizing a with
  | nil => simp [further]
  | cons b as ih =>
    rw [List.map_cons, List.map_cons, String.intercalate_cons_cons, ← List.map_cons,
      String.toList_append, String.toList_append, List.append_assoc]
    change ',' :: ((f a).toList ++ (',' :: (",".intercalate ((b :: as).map f)).toList)) = _
    rw [ih]
    rfl

lemma ends_further (f : α → List Char) (as : List α) (u : List Char) :
    Ends (further f as ++ ')' :: u) := by
  cases as with
  | nil => exact ends_close u
  | cons a as => exact ends_comma _

/-- The further members up to a closing parenthesis tell themselves. -/
lemma further_cancels (h : ∀ a ∈ as, ∀ b ∈ bs, Cancels (f a) (f b) (R a b))
    (heq : further f as ++ ')' :: u = further f bs ++ ')' :: v) :
    List.Forall₂ R as bs ∧ u = v := by
  induction as generalizing bs with
  | nil =>
    cases bs with
    | nil => exact ⟨.nil, (List.cons.inj heq).2⟩
    | cons b bs => exact absurd (List.cons.inj heq).1 (by decide)
  | cons a as ih =>
    cases bs with
    | nil => exact absurd (List.cons.inj heq).1 (by decide)
    | cons b bs =>
      simp only [further, List.flatMap_cons, List.cons_append, List.append_assoc, List.cons.injEq,
        true_and] at heq
      obtain ⟨hab, hrest⟩ := h a (by simp) b (by simp) _ _ (ends_further f as u)
        (ends_further f bs v) heq
      obtain ⟨hall, huv⟩ := ih (fun a ha b hb => h a (by simp [ha]) b (by simp [hb])) hrest
      exact ⟨.cons hab hall, huv⟩

end Lists

lemma literalList_nil : (literalList []).toList = ['(', ')'] := rfl

lemma literalList_cons (v : Value) (vs : List Value) :
    (literalList (v :: vs)).toList =
      '(' :: ((",".intercalate ((v :: vs).map quote)).toList ++ [')']) := by
  simp [literalList]

lemma literalList_nil_append_ne (hv : IsLiteral v) (vs : List Value) (cs ds : List Char) :
    (literalList []).toList ++ cs ≠ (literalList (v :: vs)).toList ++ ds := by
  intro heq
  obtain ⟨c, rest, hrest, hc⟩ := quote_head hv
  have hcomma := comma_intercalate quote v vs
  rw [further, List.flatMap_cons, hrest] at hcomma
  rw [literalList_nil, literalList_cons, (List.cons.inj hcomma).2] at heq
  exact absurd (List.cons.inj (List.cons.inj heq).2).1.symm hc

/-- What begins with a list of literals tells the data that its members stand for, and what follows
the list. -/
lemma literalList_append_inj {vs ws : List Value} {cs ds : List Char}
    (hvs : ∀ v ∈ vs, IsLiteral v) (hws : ∀ w ∈ ws, IsLiteral w)
    (heq : (literalList vs).toList ++ cs = (literalList ws).toList ++ ds) :
    List.Forall₂ Alike vs ws ∧ cs = ds := by
  match vs, ws with
  | [], [] => exact ⟨.nil, List.append_cancel_left heq⟩
  | [], w :: ws => exact absurd heq (literalList_nil_append_ne (hws w (by simp)) ws cs ds)
  | v :: vs, [] => exact absurd heq.symm (literalList_nil_append_ne (hvs v (by simp)) vs ds cs)
  | v :: vs, w :: ws =>
    simp only [literalList_cons, List.cons_append, List.append_assoc, List.nil_append,
      List.cons.injEq, true_and] at heq
    refine further_cancels (f := fun x => (quote x).toList) (u := cs) (v := ds)
      (fun v hv w hw => quote_cancels (hvs v hv) (hws w hw)) ?_
    rw [← comma_intercalate, ← comma_intercalate, List.cons_append, List.cons_append, heq]

/-- A list of literals ends by itself. -/
lemma literalList_cancels {vs ws : List Value} (hvs : ∀ v ∈ vs, IsLiteral v)
    (hws : ∀ w ∈ ws, IsLiteral w) :
    Cancels (literalList vs).toList (literalList ws).toList (List.Forall₂ Alike vs ws) :=
  fun _ _ _ _ heq => literalList_append_inj hvs hws heq

lemma isLiteral_of_mem_texts {ss : List String} (h : v ∈ ss.map Value.text) : IsLiteral v := by
  obtain ⟨s, -, rfl⟩ := List.mem_map.1 h
  exact .text s

lemma eq_of_alike_texts {ss ts : List String}
    (h : List.Forall₂ Alike (ss.map .text) (ts.map .text)) : ss = ts := by
  rw [List.forall₂_map_left_iff, List.forall₂_map_right_iff] at h
  rw [← List.forall₂_eq_eq_eq]
  refine h.imp fun s t hst => ?_
  cases hst with
  | text => rfl
  | number hv => cases hv

/-- What begins with a list of quoted texts tells the texts and what follows the list. -/
lemma literalList_texts_append_inj {ss ts : List String} {u v : String}
    (h : literalList (ss.map .text) ++ u = literalList (ts.map .text) ++ v) : ss = ts ∧ u = v := by
  rw [← String.toList_inj, String.toList_append, String.toList_append] at h
  obtain ⟨halike, huv⟩ := literalList_append_inj (fun _ hv => isLiteral_of_mem_texts hv)
    (fun _ hw => isLiteral_of_mem_texts hw) h
  exact ⟨eq_of_alike_texts halike, String.toList_inj.1 huv⟩

/-- The literal for a text has every backslash doubled and then one put before every quotation mark.
A reader takes it back to the text and leaves what follows, so no text ends its literal early: what
begins with a literal tells the text and the rest, and what begins with a list of literals for texts
tells the texts and the rest. -/
theorem quote_delimits_itself :
    (∀ s : String, (quote (.text s)).toList =
        '"' :: (escapeIf (· == '"') (escapeIf (· == '\\') s.toList) ++ ['"'])) ∧
      (∀ s u : String, readQuoted? (quote (.text s) ++ u) = some (s, u)) ∧
      (∀ s t u v : String, quote (.text s) ++ u = quote (.text t) ++ v ↔ s = t ∧ u = v) ∧
      ∀ (ss ts : List String) (u v : String),
        literalList (ss.map .text) ++ u = literalList (ts.map .text) ++ v ↔ ss = ts ∧ u = v := by
  simp only [quote_text]
  refine ⟨fun s => ?_, readQuoted?_quotedText, fun s t u v => ⟨quotedText_append_inj, ?_⟩,
    fun ss ts u v => ⟨literalList_texts_append_inj, ?_⟩⟩
  · rw [toList_quotedText, escape_eq_replaced]
  · rintro ⟨rfl, rfl⟩
    rfl
  · rintro ⟨rfl, rfl⟩
    rfl

end Query
end ListingSearch
