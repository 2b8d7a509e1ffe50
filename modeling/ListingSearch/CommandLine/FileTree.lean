import ListingSearch.Failure

/-!
Files that are prepared beforehand, and what a path leads to among them. A path is followed name by
name from the root or from the working directory. It ends at the first name that leads nowhere, and
what stands after that name does not matter.
-/
namespace ListingSearch.CommandLine

inductive FileTree.Entry where
  | file (contents : String)
  | directory
  deriving DecidableEq

/-- Prepared files. A place is given by the names on the way from the root. -/
structure FileTree where
  entry? : List String → Option FileTree.Entry
  workingDirectory : List String := []

namespace FileTree

def nameLimit : Nat := 255

def pathLimit : Nat := 4095

/-- The names of a path. Repeated slashes count once, and a single point for nothing. -/
def names (path : String) : List String :=
  (Text.split '/' path).filter fun name => name ≠ "" ∧ name ≠ "."

def isAbsolute (path : String) : Bool := path.toList.head? = some '/'

/-- How many slashes a path keeps in front: two if there are just two, else at most one. -/
def rootSlashes (path : String) : Nat :=
  let slashes := (path.toList.takeWhile (· == '/')).length
  if slashes = 2 then 2 else min slashes 1

/-- How many bytes a path has, written with single slashes between its names. -/
def written (path : String) : Nat :=
  rootSlashes path + ("/".intercalate (names path)).utf8ByteSize

def follow (t : FileTree) (place : List String) : List String → Outcome String
  | [] =>
    match t.entry? place with
    | some (.file contents) => .ok contents
    | some .directory => .error (.unreadableFile .directory)
    | none => .error (.unreadableFile .missing)
  | name :: rest =>
    match t.entry? place with
    | some .directory =>
      if name = ".." then t.follow place.dropLast rest
      else if nameLimit < name.utf8ByteSize then .error (.unreadableFile .nameTooLong)
      else t.follow (place ++ [name]) rest
    | some (.file _) => .error (.unreadableFile .belowFile)
    | none => .error (.unreadableFile .missing)

def contents (t : FileTree) (path : String) : Outcome String :=
  if path.toList.contains '\x00' then .error (.unreadableFile .unusableName)
  else if pathLimit < written path then .error (.unreadableFile .nameTooLong)
  else t.follow (if isAbsolute path then [] else t.workingDirectory) (names path)

/-- Only a file has contents. -/
theorem follow_nil_eq_ok_iff (t : FileTree) (place : List String) (s : String) :
    t.follow place [] = .ok s ↔ t.entry? place = some (.file s) := by
  unfold follow
  split <;> simp_all

/-- Nothing is found below a file. -/
theorem follow_file (t : FileTree) {place : List String} {s : String} (name : String)
    (rest : List String) (h : t.entry? place = some (.file s)) :
    t.follow place (name :: rest) = .error (.unreadableFile .belowFile) := by
  simp [follow, h]

end FileTree
end ListingSearch.CommandLine
