import ListingSearch.Predicate.NullSafe
import ListingSearch.Query.Tree
import ListingSearch.SortOrder

/-!
The clauses of a query to a table service. The tests of a top-level conjunction are clauses of
their own; all other conjuncts travel together in one clause that holds a logical tree.
-/
namespace ListingSearch

namespace Query

inductive Clause where
  | eq (field : String) (value : Value)
  | isNull (field : String)
  | isNotNull (field : String)
  | isIn (field : String) (literals : String)
  | atLeast (field : String) (bound : String)
  | atMost (field : String) (bound : String)
  | like (field : String) (pattern : String)
  /-- A choice, as the texts of its alternatives. -/
  | either (tree : String)
  /-- An order by a column: descending or not, and missing values first or not, where given. -/
  | order (column : String) (descending nullsFirst : Option Bool)
  | select (columns : String)
  /-- Only the exact number of rows is asked for. -/
  | count (columns : String)
  | limit (n : Int)
  /-- Only the rows from one position to another, both included. -/
  | slice (first last : Int)
  | insert (row : Record)
  | update (row : Record)
  | delete

def testClauses : Test → List Clause
  | .eq field .null => [.isNull field]
  | .eq field value => [.eq field value]
  | .oneOf field values => [.isIn field (literalList values)]
  | .range field min max =>
    (min.map fun b => Clause.atLeast field (plainBound b)).toList ++
      (max.map fun b => Clause.atMost field (plainBound b)).toList
  | .like field text mode => [.like field (likePattern text mode)]

/-- The clauses of a condition that needs no tree: a test, or that a value is there. -/
def simpleClauses? : Predicate → Option (List Clause)
  | .test t => some (testClauses t)
  | .not (.test (.eq field .null)) => some [.isNotNull field]
  | _ => none

/-- The text that holds all conditions that need a tree. -/
def treeText? : List Predicate → Outcome (Option String)
  | [] => .ok none
  | [.or ps] => (fun parts => some (",".intercalate parts)) <$> renderEach ps
  | ps => some <$> render (.allOf ps)

/-- The clauses of a query as far as it could be written, and why it could not be completed. -/
structure Draft where
  clauses : List Clause
  failure : Option Failure

def Draft.outcome (d : Draft) : Outcome (List Clause) :=
  match d.failure with
  | none => .ok d.clauses
  | some failure => .error failure

/-- A draft between clauses that are already there and clauses that complete it. -/
def Draft.between (first last : List Clause) (d : Draft) : Draft :=
  { d with clauses := first ++ d.clauses ++ if d.failure.isNone then last else [] }

def Draft.plain (clauses : List Clause) : Draft := ⟨clauses, none⟩

def conjunctClauses (conjuncts : List Predicate) : Draft :=
  let simple := (conjuncts.filterMap simpleClauses?).flatten
  match treeText? (conjuncts.filter fun q => (simpleClauses? q).isNone) with
  | .ok tree => ⟨simple ++ (tree.map Clause.either).toList, none⟩
  | .error failure => ⟨simple, some failure⟩

def filters (p : Predicate) : Draft :=
  if p.isAlways then ⟨[], none⟩
  else
    match p.nullSafe with
    | .ok q => conjunctClauses q.conjuncts
    | .error failure => ⟨[], some failure⟩

/-- The clauses of an order; rows that are equal in it are ordered by identifier. -/
def ordering (sort : SortOrder) : List Clause :=
  .order sort.column (some sort.descending) (some false) ::
    if sort.column = "id" then [] else [.order "id" (some false) none]

end Query
end ListingSearch
