import ListingSearch.CommandLine.Options
import ListingSearch.CommandLine.Report
import ListingSearch.SavedSearch.Registry
import ListingSearch.Settings

/-!
The command that reviews a saved search: it logs the listings that were not delivered yet, or sends
them, or sends chosen ones.
-/
namespace ListingSearch.CommandLine

structure ReviewCommand where
  id : Value
  send : Bool := false
  /-- The listings to be sent, or null if they are not chosen. -/
  chosen : Value := .null

namespace ReviewCommand

def flags : List Flag :=
  [{ name := "hotsheet-id", takesValue := true }, { name := "send" },
    { name := "listing-ids", takesValue := true }]

/-- The identifiers between the commas of a text; an empty text makes no choice. -/
def choice (s : String) : Value :=
  if s = "" then .null else .ofTexts (((Text.split ',' s).map Text.trim).filter (· ≠ ""))

/-- The command that arguments stand for. An identifier without a value is the empty list, which
identifies nothing. -/
def ofArguments (arguments : List String) : Reading ReviewCommand :=
  match readOptions flags ["hotsheet-id"] arguments with
  | .command values =>
    .command
      { id := (values.lookup "hotsheet-id").join.elim (.list []) .text
        send := (values.lookup "send").isSome
        chosen := (values.lookup "listing-ids").join.elim .null choice }
  | .help => .help
  | .misuse => .misuse

def openingLine (c : ReviewCommand) (search : SavedSearch) : LogLine :=
  { level := .info, event := "Revisando hotsheet"
    fields := [("hotsheet_id", c.id), ("name", .text search.name),
      ("delivered", .int search.delivered.size)] }

def listingLine (l : Listing) : LogLine :=
  { level := .info, event := "Listing nuevo"
    fields := [("listing_id", .text l.id), ("address", .ofText? l.address),
      ("city", .ofText? l.city), ("price", l.price.elim .null .float)] }

def closingLine (c : ReviewCommand) (count : Nat) : LogLine :=
  { level := .info, event := "Revisión completada"
    fields := [("hotsheet_id", c.id), ("listings", .int count), ("sent", .bool c.send)] }

/-- Sends listings or finds the new ones, and gives the lines that close the review. -/
def answer (c : ReviewCommand) (policy : Policy) (now : Instant) : Plan Service (List LogLine) :=
  if c.send then do
    let sent ← Registry.deliver policy now true c.id c.chosen
    return [c.closingLine sent.length]
  else do
    let found ← Registry.newMatches policy now c.id
    return found.map listingLine ++ [c.closingLine found.length]

def failed : Failure → Report
  | .interrupted => .interrupted "Revisión interrumpida por usuario"
  | failure =>
    .failed
      (match failure with
        | .notFound _ => "Hotsheet inexistente"
        | failure =>
          if failure.isTransient then "Store no disponible, reintentar más tarde"
          else "Error fatal en revisión")
      failure

variable {σ : Type}

def runWith (c : ReviewCommand) (settings : Settings) (handle : Handler Service σ) (now : Instant)
    (s : σ) : Report × σ :=
  match (Registry.get now c.id).run handle s with
  | (.error failure, s) => (failed failure, s)
  | (.ok search, s) =>
    let (result, s) := (c.answer settings.policy now).run handle s
    let report : Report := match result with
      | .ok lines => { status := 0, log := lines }
      | .error failure => failed failure
    (report.after [c.openingLine search], s)

/-- Carries out the command and reports it. The service is reached by the settings. -/
def run (c : ReviewCommand) (environment : List (String × String))
    (connect : Settings → Handler Service σ) (now : Instant) (s : σ) : Report × σ :=
  match Settings.readOpen environment with
  | .error failure => (failed failure, s)
  | .ok settings => c.runWith settings (connect settings) now s

end ReviewCommand
end ListingSearch.CommandLine
