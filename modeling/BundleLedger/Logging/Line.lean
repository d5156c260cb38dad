import BundleLedger.Datum.Printer
import BundleLedger.Text.Template

/-!
# Log lines

One line of the log. A record is written as an object with the time, the level, the logger, the thread,
the message, the correlation id and those of its attributes that are meant to be structured; nothing
else of the record reaches the line.
-/

set_option autoImplicit false

namespace BundleLedger

/-- The kind and the message of an exception. -/
structure LoggedException where
  kind : String
  message : String
deriving DecidableEq, Repr

namespace LoggedException

/-- The name of a kind with the place where it is at home, unless it is known everywhere. -/
def fullKind (kind : String) : String :=
  if kind = FaultKind.cancelled.name then "concurrent.futures._base." ++ kind
  else if kind ∈ ["AnalyticsRefreshError", "AccountNotFoundError"] then "billing_analytics.errors." ++ kind
  else kind

/-- The text of an exception: its kind, and its message unless that is empty. The message of a missing
key stands in quotes. -/
def text (e : LoggedException) : String :=
  let message := if e.kind = FaultKind.key.name then Text.quoted e.message else e.message
  if message = "" then fullKind e.kind else fullKind e.kind ++ ": " ++ message

end LoggedException

/-- A log record with its attributes. -/
structure LogRecord where
  created : Datum
  levelName : Datum
  logger : Datum
  thread : Datum
  template : Datum
  arguments : List Datum
  correlation : Datum
  attributes : List (String × Datum)
  exception : Option LoggedException

namespace LogRecord

/-- The names of the structured attributes, in the order in which they are written. -/
def structuredFields : List String :=
  ["account_id", "bundle_id", "bundle_count", "record_count", "table", "status", "check",
    "mismatch_count", "event_name", "method", "path", "status_code", "duration_ms", "error"]

/-- The number of characters of an error text that are kept. -/
def maxErrorLength : Nat := 500

/-- An attribute as it is written: an error text is cut. -/
def written (name : String) (value : Datum) : Datum :=
  match value with
  | .text s => if name = "error" then .text (Text.cut maxErrorLength s) else value
  | _ => value

/-- The structured attributes that the record has, and its exception. -/
def fields (r : LogRecord) : List (String × Datum) :=
  (structuredFields.filterMap fun name ↦
    (Datum.lookup r.attributes name).map fun value ↦ (name, written name value)) ++
  match r.exception with
  | some e => [("exception", .text e.text)]
  | none => []

/-- The bound of the seconds that a clock counts. -/
def secondsBound : Int := 0x8000000000000000

/-- The bound of the years, counted from 1900, that a clock shows. -/
def yearBound : Int := 0x80000000

/-- Seconds after the start of 1970 and microseconds in universal time. A year outside the calendar is
named, as a number of 32 bits. -/
def timeText (seconds : Int) (micros : Nat) : Except Cause String :=
  let beyondClock : Except Cause String :=
    .error (.fault .overflow "timestamp out of range for platform time_t")
  if seconds < -secondsBound ∨ secondsBound ≤ seconds then beyondClock
  else
    let (year, _, _) := Date.numbersOfEpochDays (seconds / 86400)
    if year - 1900 < -yearBound ∨ yearBound ≤ year - 1900 then
      .error (.fault .os "[Errno 75] Value too large for defined data type")
    else
      match Moment.ofEpochMicros? (seconds * 1000000 + micros) with
      | some m => .ok (m.text ++ "+00:00")
      | none =>
        let shown := if yearBound ≤ year then year - 2 * yearBound else year
        .error (.fault .value ("year " ++ Text.integer shown ++ " is out of range"))

/-- The time in universal time. -/
def time (r : LogRecord) : Except Cause String :=
  match r.created with
  | .int n => timeText n 0
  | .bool b => timeText (if b then 1 else 0) 0
  | .real .notANumber => .error (.fault .value "Invalid value NaN (not a number)")
  | .real (.infinite _) => timeText secondsBound 0
  | .real (.finite negative mantissa exponent) =>
    let (seconds, micros) := secondsAndMicros negative mantissa exponent
    timeText seconds micros
  | d => .error (.fault .type ("'" ++ d.kindName ++ "' object cannot be interpreted as an integer"))

/-- The message with its arguments. -/
def message (r : LogRecord) : Except Cause String :=
  Text.fillTemplate r.template.plain r.arguments

/-- The record as an object. -/
def payload (r : LogRecord) : Except Cause Datum := do
  let time ← r.time
  let message ← r.message
  return .dict
    [("ts", .text time), ("level", r.levelName), ("logger", r.logger), ("thread", r.thread),
      ("msg", .text message), ("correlation_id", r.correlation), ("fields", .dict r.fields)]

/-- The line that is written for the record. -/
def line (r : LogRecord) : Except Cause String :=
  r.payload.map Datum.jsonText

end LogRecord
end BundleLedger
