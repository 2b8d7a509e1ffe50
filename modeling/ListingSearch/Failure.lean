import ListingSearch.Binary64.Numeral
import ListingSearch.Value.Basic

/-!
Everything that can go wrong, as causes. Faults say where a record has not the form asked for; a
failure ends an operation. The wording shown to users is in `Failure.message?` and nowhere else.
-/
namespace ListingSearch

inductive Fault.Step where
  | field (name : String)
  | index (i : Nat)
  deriving DecidableEq

inductive Fault.Kind where
  | missing
  | notText
  | emptyText
  | unknownWord
  | notNumber
  | unreadableNumber
  | notInteger
  | unreadableInteger
  | fractionalInteger
  | unboundedInteger
  | oversizedInteger
  | belowMinimum
  | notTruthValue
  | unreadableTruthValue
  | notList
  | notSequence
  | notSet
  | notObject
  | notRecord
  deriving DecidableEq

/-- A part of a record that has not the form asked for. -/
structure Fault where
  path : List Fault.Step
  kind : Fault.Kind
  deriving DecidableEq

def Fault.within (step : Fault.Step) (fault : Fault) : Fault :=
  { fault with path := step :: fault.path }

inductive FileFault where
  | missing
  /-- The path leads to a directory. -/
  | directory
  /-- The path goes on behind a file. -/
  | belowFile
  | nameTooLong
  /-- No path can hold a NUL character. -/
  | unusableName
  deriving DecidableEq

/-- Why an operation ends without a result. -/
inductive Failure where
  /-- The lower price bound is above the upper one and neither is overridden. -/
  | invertedPrice (min max : Binary64)
  | missingName
  /-- Something stands as a name that is no text. -/
  | nameNotText
  | nameTooLong (limit : Nat)
  /-- No saved search has the identifier. -/
  | notFound (id : String)
  /-- Somebody else changed the saved search since it was read. -/
  | staleVersion (id version : String)
  /-- The store does not answer; trying again later may help. -/
  | storeUnavailable (message : String) (operation : Option String)
  /-- No attempt at an operation reached the service; trying again later may help. -/
  | unreachable (operation reason : String)
  /-- The service gave more pages than are read. -/
  | tooManyPages
  | unsupportedCriteria (kind : Value.Kind)
  /-- A choice between no alternatives stands where a filter for the store is asked for. -/
  | emptyChoice
  | emptyConjunctionInTree
  | emptyChoiceInTree
  | unboundedRange (field : String)
  | noDispatcher
  | missingCredentials
  /-- The service refuses a request; trying again does not help. -/
  | rejected (reason : String)
  | dispatchFailed (reason : String)
  /-- Something without members stands where a collection is asked for. -/
  | notCollection
  /-- A text and a number have no order. -/
  | incomparable
  /-- A list or an object cannot be a member of a set, nor identify anything. -/
  | notMember
  /-- Something else stands where a number is asked for. -/
  | notNumber
  /-- An integer is too large for a binary64 number. -/
  | numberTooLarge
  /-- An integer has too many digits to be converted to or from a text. -/
  | tooManyDigits
  /-- A date lies outside the years 1 to 9999. -/
  | dateOutOfRange
  | malformed (faults : List Fault)
  /-- A setting holds no readable document. -/
  | unreadableSetting
  /-- A row is not an object. -/
  | rowNotObject
  /-- An object has no entry at a position. -/
  | noEntry
  | unreadableDocument
  | unreadableFile (fault : FileFault)
  | interrupted
  deriving DecidableEq

namespace Failure

def kindName : Value.Kind → String
  | .null => "null"
  | .bool => "bool"
  | .int => "int"
  | .float => "float"
  | .text => "str"
  | .list => "list"
  | .object => "object"

def message? : Failure → Option String
  | .invertedPrice min max =>
    some ("Precio mínimo (" ++ min.sixDigitText ++ ") mayor al máximo (" ++ max.sixDigitText ++ ")")
  | .missingName => some "El nombre de la hotsheet es obligatorio"
  | .nameTooLong limit =>
    some ("El nombre de la hotsheet supera " ++ toString limit ++ " caracteres")
  | .notFound id => some ("Hotsheet no encontrada: " ++ id)
  | .staleVersion id version =>
    some ("La hotsheet " ++ id ++ " ya no está en la versión " ++ version)
  | .storeUnavailable message _ => some message
  | .unreachable operation reason =>
    some ("Falla transitoria en " ++ operation ++ ": " ++ reason)
  | .unsupportedCriteria kind => some ("Criterio no soportado: " ++ kindName kind)
  | .emptyChoice => some "Or vacío: el predicado no matchea nada"
  | .emptyConjunctionInTree => some "And vacío dentro de un árbol lógico"
  | .emptyChoiceInTree => some "Or vacío dentro de un árbol lógico"
  | .unboundedRange field => some ("Range sin cotas: " ++ field)
  | .noDispatcher => some "HotsheetRegistry sin dispatcher configurado"
  | .missingCredentials =>
    some "SUPABASE_URL y SUPABASE_KEY son requeridos. Configura las variables de entorno."
  | .rejected reason => some reason
  | .dispatchFailed reason => some reason
  | _ => none

def operation? : Failure → Option String
  | .storeUnavailable _ operation => operation
  | .unreachable operation _ => some operation
  | _ => none

def isTransient : Failure → Bool
  | .storeUnavailable .. | .unreachable .. => true
  | _ => false

/-- Whether the failure is one of searching and saving itself, and not one of odd data or of the
surroundings. -/
def isForeseen : Failure → Bool
  | .invertedPrice .. | .missingName | .nameTooLong _ | .notFound _ | .staleVersion .. => true
  | failure => failure.isTransient

/-- The field that a rejected input is to be mended at. -/
def field? : Failure → Option String
  | .invertedPrice .. => some "price"
  | .missingName | .nameTooLong _ => some "name"
  | _ => none

end Failure

abbrev Outcome (α : Type) := Except Failure α

end ListingSearch
