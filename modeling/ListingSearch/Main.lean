import ListingSearch.CommandLine.ReviewCommand
import ListingSearch.CommandLine.SearchCommand
import ListingSearch.Remote.Conversation
import Std.Time.DateTime

/-!
The program. Its first argument names the command, `search` or `review`; the others are the options
of the command. The replies of the service are taken from the standard input, one JSON text a line,
and the log goes to the standard error output.
-/
namespace ListingSearch.Main

open CommandLine

/-- The reply in a document: a reason why there is none, or data and perhaps a count. -/
def replyOf : Value → Remote.Attempt Remote.Response
  | .object r =>
    match Record.get r "unreachable" with
    | .text reason => .lost reason
    | _ => .answered { data := Record.get r "data", count := Record.get r "count" }
  | v => .answered { data := v }

/-- The replies on the lines of a text; lines that are no JSON texts are passed over. -/
def repliesOf (s : String) : List (Remote.Attempt Remote.Response) :=
  (Text.split '\n' s).filterMap fun line => (JsonText.read? line).map replyOf

def settingNames : List String :=
  ["SUPABASE_URL", "SUPABASE_KEY", "SUPABASE_SERVICE_KEY", "STORE_RETRY_ATTEMPTS",
    "STORE_RETRY_MAX_WAIT", "MAX_RESULTS", "HOTSHEET_REVIEW_LIMIT", "DEFAULT_STATUSES",
    "HOTSHEET_DISPATCH_FUNCTION", "LOG_LEVEL"]

/-- The variables of the environment that are set, in capitals or in small letters. -/
def environment : IO (List (String × String)) := do
  let names := settingNames ++ settingNames.map Text.lower
  return (← names.mapM fun name => return (← IO.getEnv name).map (name, ·)).filterMap id

/-- The present time, without an offset from universal time but zero. -/
def present : IO Instant := do
  let t := Std.Time.DateTime.toPlainDateTime
    (Std.Time.DateTime.ofTimestamp (← Std.Time.Timestamp.now) Std.Time.TimeZone.ZoneRules.UTC)
  return {
    date := ⟨t.date.year.toInt.toNat, t.date.month.toNat, t.date.day.toNat⟩
    hour := t.time.hour.toNat
    minute := t.time.minute.toNat
    second := t.time.second.toNat
    microsecond := t.time.nanosecond.toNat / 1000
    offset := some 0 }

def contentsOf (path : Option String) : IO (Outcome String) := do
  match path with
  | some path =>
    if path.toList.contains '\x00' then return .error (.unreadableFile .unusableName)
    try return .ok (← IO.FS.readFile path)
    catch
      | .inappropriateType .. => return .error (.unreadableFile .directory)
      | _ => return .error (.unreadableFile .missing)
  | none => return .error (.unreadableFile .missing)

def lineText (l : LogLine) : String :=
  let fields := l.fields.map fun (key, v) => " " ++ key ++ "=" ++ v.display
  let failure := (l.failure.bind Failure.message?).elim "" (" error=" ++ ·)
  l.level.name ++ ": " ++ l.event ++ String.join fields ++ failure

def write (r : Report) : IO UInt32 := do
  for l in r.log do IO.eprintln (lineText l)
  IO.print r.output
  return r.status.toUInt32

def connect (now : Instant) (pageLimit : Nat) (s : Settings) :
    Handler Service Remote.Conversation :=
  Remote.service (Remote.Conversation.transport.handle s.patience) (s.access pageLimit) now

def carryOut {α : Type} (reading : Reading α) (file? : α → Option String)
    (run : α → List (String × String) → (Settings → Handler Service Remote.Conversation) →
      Instant → Outcome String → Remote.Conversation → Report × Remote.Conversation) :
    IO UInt32 := do
  match reading with
  | .misuse => write .misuse
  | .help => write { status := 0 }
  | .command c =>
    let now ← present
    let replies := repliesOf (← (← IO.getStdin).readToEnd)
    let contents ← contentsOf (file? c)
    let connect := connect now (replies.length + 1)
    write (run c (← environment) connect now contents { replies }).1

end ListingSearch.Main

open ListingSearch in
def main (arguments : List String) : IO UInt32 :=
  match arguments with
  | "search" :: options =>
    Main.carryOut (CommandLine.SearchCommand.ofArguments options) (·.file)
      fun c environment connect now contents => c.run environment connect now contents
  | "review" :: options =>
    Main.carryOut (CommandLine.ReviewCommand.ofArguments options) (fun _ => none)
      fun c environment connect now _ => c.run environment connect now
  | _ => Main.write .misuse
