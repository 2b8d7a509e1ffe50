import ListingSearch.JsonText.Reader
import ListingSearch.Policy
import ListingSearch.Record.Check
import ListingSearch.Remote.Retry
import ListingSearch.Remote.Stores
import ListingSearch.Text.Lowercase

/-!
The settings, as they are read from the environment. The names of variables count in capitals and
small letters alike; what is not set has a default, except for the address of the service and its
key.
-/
namespace ListingSearch

structure Settings where
  url : String
  key : String
  /-- The key of the service itself, which goes before the other one. -/
  serviceKey : Option String := none
  retryAttempts : Int := 3
  /-- The longest pause between two attempts, in seconds. -/
  retryMaxWait : Binary64 := .finite false (10 * Nat.pow 2 49) (-49) (by decide)
  maxResults : Int := 500
  reviewLimit : Int := 200
  /-- States that are looked for when criteria ask for none. -/
  defaultStatuses : List String := ["active", "coming_soon"]
  /-- The function that sends listings. -/
  sender : String := "process-hot-sheet"
  logLevel : String := "INFO"

namespace Settings

def namedValues (environment : List (String × String)) : Record :=
  environment.foldl (fun r entry => r.set (Text.lower entry.1) (.text entry.2)) []

/-- The default states, which are set as a JSON text; null sets nothing. -/
def statuses? (r : Record) : Outcome (Option Value) :=
  match r.get? "default_statuses" with
  | some (.text s) =>
    match JsonText.read s with
    | .ok .null => .ok none
    | .ok v => .ok (some v)
    | .error .unreadableDocument => .error .unreadableSetting
    | .error failure => .error failure
  | _ => .ok none

open Check in
def ofVariables (r : Record) (statuses : Option Value) : Checked Settings :=
  let defaults : Settings := { url := "", key := "" }
  Settings.mk <$> required "supabase_url" text r
    <*> required "supabase_key" text r
    <*> field? "supabase_service_key" text r
    <*> withDefault "store_retry_attempts" defaults.retryAttempts (integerFrom 1) r
    <*> withDefault "store_retry_max_wait" defaults.retryMaxWait (numberFrom (.zero false)) r
    <*> withDefault "max_results" defaults.maxResults (integerFrom 1) r
    <*> withDefault "hotsheet_review_limit" defaults.reviewLimit (integerFrom 1) r
    <*> (match statuses with
      | some v => (list .notList text v).within (.field "default_statuses")
      | none => .valid defaults.defaultStatuses)
    <*> withDefault "hotsheet_dispatch_function" defaults.sender text r
    <*> withDefault "log_level" defaults.logLevel text r

def read (environment : List (String × String)) : Outcome Settings := do
  let r := namedValues environment
  (ofVariables r (← statuses? r)).outcome

def policy (s : Settings) : Policy :=
  { defaultStatuses := .ofList s.defaultStatuses, maxResults := s.maxResults
    reviewLimit := s.reviewLimit }

def patience (s : Settings) : Remote.Patience :=
  { attempts := s.retryAttempts.toNat, maxPause := s.retryMaxWait }

/-- What the use of the service depends on, when so many pages are read at most. -/
def access (s : Settings) (pageLimit : Nat) : Remote.Access := { sender := s.sender, pageLimit }

structure Credentials where
  url : String
  key : String

/-- The address of the service and the key to use; both have to be set. -/
def credentials (s : Settings) : Outcome Credentials :=
  if s.url = "" ∨ s.key = "" then .error .missingCredentials
  else
    match s.serviceKey with
    | some key => .ok ⟨s.url, if key = "" then s.key else key⟩
    | none => .ok ⟨s.url, s.key⟩

def readOpen (environment : List (String × String)) : Outcome Settings := do
  let s ← read environment
  discard s.credentials
  return s

end Settings
end ListingSearch
