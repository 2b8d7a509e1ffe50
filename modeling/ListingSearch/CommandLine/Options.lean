import ListingSearch.Text.Digit

/-!
Reading the arguments of a command that knows only options. An option can be written in full, with
its value behind an equals sign or as the next argument, or shortened as long as only one option
begins so. Whatever is not an option of the command is misuse, but help is given as soon as it is
asked for.
-/
namespace ListingSearch.CommandLine

structure Flag where
  /-- The name, without the two dashes in front. -/
  name : String
  takesValue : Bool := false
  deriving DecidableEq

def helpFlag : Flag := { name := "help" }

/-- The options that are given, the last one first, each with its value if it has one. -/
abbrev Values := List (String × Option String)

inductive Reading (α : Type) where
  | command (a : α)
  | help
  | misuse

inductive Argument where
  /-- Flags of which one is meant, with the value that stands in the same argument. -/
  | flags (candidates : List Flag) (value : Option String)
  /-- The short flag for help, with what follows it in the same argument. -/
  | shortHelp (rest : List Char)
  /-- An argument that begins like an option and is none. -/
  | unknown
  /-- Two dashes: nothing after them is an option. -/
  | separator
  | plain

def withoutLineFeed (cs : List Char) : List Char :=
  if cs.getLast? = some '\n' then cs.dropLast else cs

/-- Whether a text looks like a negative number, with or without a fraction. It may be a line of
its own. -/
def isNegativeNumber (cs : List Char) : Bool :=
  match withoutLineFeed cs with
  | '-' :: cs =>
    let whole := cs.takeWhile Text.isDigit
    match cs.drop whole.length with
    | [] => !whole.isEmpty
    | '.' :: fraction => !fraction.isEmpty && fraction.all Text.isDigit
    | _ => false
  | _ => false

/-- The flags that a name stands for: the flag of that name, or else those that begin with it. -/
def candidates (known : List Flag) (name : List Char) : List Flag :=
  match known.find? fun f => f.name.toList = name with
  | some f => [f]
  | none => known.filter fun f => name.isPrefixOf f.name.toList

def undashed (cs : List Char) : Argument :=
  if isNegativeNumber cs || cs.contains ' ' then .plain else .unknown

/-- What a long argument is, without its two dashes. A name is looked for before the first equals
sign, and a whole argument goes before. -/
def longArgument (known : List Flag) (cs : List Char) : Argument :=
  let name := cs.takeWhile (· != '=')
  let value := if name.length = cs.length then none
    else some (String.ofList (cs.drop (name.length + 1)))
  match candidates known name with
  | [] => undashed ('-' :: '-' :: cs)
  | fs => .flags fs value

def classify (known : List Flag) (s : String) : Argument :=
  match s.toList with
  | ['-', '-'] => .separator
  | '-' :: '-' :: cs => longArgument known cs
  | '-' :: 'h' :: cs => .shortHelp cs
  | '-' :: c :: cs => undashed ('-' :: c :: cs)
  | _ => .plain

/-- Whether what follows the short flag for help only repeats its letter, perhaps behind an equals
sign. -/
def repeatsHelp : List Char → Bool
  | '=' :: cs => !cs.isEmpty && cs.all (· == 'h')
  | cs => cs.all (· == 'h')

/-- The value behind an equals sign; two dashes are none. -/
def attachedValue? (v : String) : Option String := if v = "--" then none else some v

/-- Reads arguments after some that were read. Something else than an option is remembered: it is
misuse at the end. -/
def readFrom (known : List Flag) (extra : Bool) (values : Values) : List String → Reading Values
  | [] => if extra then .misuse else .command values
  | s :: rest =>
    match classify known s with
    | .flags [f] value =>
      if f.takesValue then
        match value with
        | some v => readFrom known extra ((f.name, attachedValue? v) :: values) rest
        | none =>
          match rest with
          | v :: tail =>
            match classify known v with
            | .plain => readFrom known extra ((f.name, some v) :: values) tail
            | _ => .misuse
          | [] => .misuse
      else if value.isSome then .misuse
      else if f = helpFlag then .help
      else readFrom known extra ((f.name, none) :: values) rest
    | .flags _ _ => .misuse
    | .shortHelp tail => if repeatsHelp tail then .help else .misuse
    | .separator => .misuse
    | .unknown | .plain => readFrom known true values rest

def isAmbiguous (known : List Flag) (s : String) : Bool :=
  match classify known s with
  | .flags (_ :: _ :: _) _ => true
  | _ => false

/-- The values of the options among arguments, unless one is missing that has to be there. An
argument that is short for several options is misuse wherever it stands. -/
def readOptions (known : List Flag) (needed : List String) (arguments : List String) :
    Reading Values :=
  let known := helpFlag :: known
  if (arguments.takeWhile (· ≠ "--")).any (isAmbiguous known) then .misuse
  else
    match readFrom known false [] arguments with
    | .command values =>
      if needed.all fun name => (values.lookup name).isSome then .command values else .misuse
    | other => other

example : repeatsHelp "=h".toList = true ∧ repeatsHelp "hx".toList = false := by decide
example : isNegativeNumber "-.5\n".toList = true := by decide

end ListingSearch.CommandLine
