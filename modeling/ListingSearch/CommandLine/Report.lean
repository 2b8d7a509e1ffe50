import ListingSearch.Failure

/-!
What a command leaves behind: a status, an output, and lines of a log.
-/
namespace ListingSearch.CommandLine

inductive Level where
  | info
  | error
  deriving DecidableEq

def Level.name : Level → String
  | .info => "info"
  | .error => "error"

/-- A line of the log: an event with its fields, and the failure that it reports. -/
structure LogLine where
  level : Level
  event : String
  fields : Record := []
  failure : Option Failure := none

structure Report where
  status : Nat
  output : String := ""
  log : List LogLine := []

namespace Report

def misuse : Report := { status := 2 }

def failed (event : String) (failure : Failure) : Report :=
  { status := 1, log := [{ level := .error, event, failure := some failure }] }

def interrupted (event : String) : Report :=
  { status := 130, log := [{ level := .info, event }] }

def after (lines : List LogLine) (r : Report) : Report := { r with log := lines ++ r.log }

end Report
end ListingSearch.CommandLine
