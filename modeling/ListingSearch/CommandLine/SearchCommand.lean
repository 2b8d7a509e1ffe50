import ListingSearch.CommandLine.Options
import ListingSearch.CommandLine.Report
import ListingSearch.JsonText.Printer
import ListingSearch.Recipients
import ListingSearch.Search
import ListingSearch.Settings

/-!
The command that searches the inventory for criteria and prints the listings, their number, or an
estimate of the recipients. The criteria are read before the settings, and these before anything is
asked of the service.
-/
namespace ListingSearch.CommandLine

structure SearchCommand where
  /-- The criteria, as a JSON text. -/
  criteria : Option String := none
  /-- The file that holds the criteria. -/
  file : Option String := none
  countOnly : Bool := false
  recipients : Bool := false

namespace SearchCommand

def flags : List Flag :=
  [{ name := "criteria", takesValue := true }, { name := "criteria-file", takesValue := true },
    { name := "count" }, { name := "recipients" }]

/-- The command that arguments stand for. An empty file name is none. -/
def ofArguments (arguments : List String) : Reading SearchCommand :=
  match readOptions flags [] arguments with
  | .command values =>
    .command
      { criteria := (values.lookup "criteria").join
        file := (values.lookup "criteria-file").join.filter (· ≠ "")
        countOnly := (values.lookup "count").isSome
        recipients := (values.lookup "recipients").isSome }
  | .help => .help
  | .misuse => .misuse

/-- The text of the criteria, given the contents of the file. Criteria that are not given or empty
restrict nothing. -/
def text (c : SearchCommand) (contents : Outcome String) : Outcome String :=
  match c.file, c.criteria with
  | some _, _ => contents
  | none, some "" | none, none => .ok "\x7b\x7d"
  | none, some s => .ok s

def readCriteria (c : SearchCommand) (contents : Outcome String) : Outcome Criteria := do
  Criteria.read true (← JsonText.read (← c.text contents))

def answer (c : SearchCommand) (policy : Policy) (now : Instant) (criteria : Criteria) :
    Plan Service Record :=
  if c.recipients then do
    let r ← Recipients.estimate criteria.place
    return [("recipients", .int r.count), ("level", .text r.level.name)]
  else do
    let search ← .ofOutcome (Search.ofCriteria policy now criteria)
    if c.countOnly then
      return [("count", ← Search.count search.condition)]
    else
      let found ← search.results policy
      return [("count", .int found.length),
        ("listings", .list (found.map fun l => .object l.toRecord))]

variable {σ : Type}

def outcome (c : SearchCommand) (environment : List (String × String))
    (connect : Settings → Handler Service σ) (now : Instant) (contents : Outcome String) (s : σ) :
    Outcome Record × σ :=
  match c.readCriteria contents with
  | .error failure => (.error failure, s)
  | .ok criteria =>
    match Settings.readOpen environment with
    | .error failure => (.error failure, s)
    | .ok settings => (c.answer settings.policy now criteria).run (connect settings) s

def isForeseen (failure : Failure) : Bool :=
  failure.isForeseen || failure == .unreadableDocument

def report : Outcome Record → Report
  | .ok r => { status := 0, output := JsonText.text (.object r) ++ "\n" }
  | .error .interrupted => .interrupted "Búsqueda interrumpida por usuario"
  | .error failure =>
    .failed (if isForeseen failure then "Criterio o store inválido" else "Error fatal en búsqueda")
      failure

def run (c : SearchCommand) (environment : List (String × String))
    (connect : Settings → Handler Service σ) (now : Instant) (contents : Outcome String) (s : σ) :
    Report × σ :=
  let (result, s) := c.outcome environment connect now contents s
  (report result, s)

end SearchCommand
end ListingSearch.CommandLine
