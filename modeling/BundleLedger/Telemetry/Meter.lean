import BundleLedger.Telemetry.Notice

/-!
# Counters, spans and logs

Counters and spans. An `Increment` adds to a counter that is known by its name and labels; a `Span` is
a finished stretch of work with its attributes, the name of the span it ran in, and whether an error
ended it. `Telemetry` collects them with the log.
-/

set_option autoImplicit false

namespace BundleLedger

/-- A counter with its labels. -/
inductive Counter where
  | httpRequests (method path : String) (status : Nat)
  | httpDuration (method path : String)
  | refreshes (status : RefreshStatus)
  | refreshDuration
  | recordsBuilt
  | buildFailures
  | mismatches (check : Check)
deriving DecidableEq, Repr

namespace Counter

/-- The name of a counter followed by its labels in alphabetical order. -/
def text : Counter → String
  | .httpRequests method path status =>
    "http_requests_total\x7bmethod=" ++ method ++ ",path=" ++ path ++ ",status=" ++
      Text.natural status ++ "\x7d"
  | .httpDuration method path =>
    "http_request_duration_seconds_count\x7bmethod=" ++ method ++ ",path=" ++ path ++ "\x7d"
  | .refreshes status =>
    "analytics_refresh_total\x7bstatus=" ++ status.text ++ ",table=" ++ bundlesTable ++ "\x7d"
  | .refreshDuration => "analytics_refresh_duration_seconds_count\x7btable=" ++ bundlesTable ++ "\x7d"
  | .recordsBuilt => "analytics_records_built_total\x7btable=" ++ bundlesTable ++ "\x7d"
  | .buildFailures => "analytics_build_failures_total\x7btable=" ++ bundlesTable ++ "\x7d"
  | .mismatches check => "analytics_sanity_mismatches_total\x7bcheck=" ++ check.name ++ "\x7d"

/-- The names of all metric families, as a metrics page lists them. -/
def families : List String :=
  ["analytics_build_failures_total", "analytics_records_built_total",
    "analytics_refresh_duration_seconds", "analytics_refresh_total",
    "analytics_sanity_mismatches_total", "http_request_duration_seconds", "http_requests_total"]

end Counter

/-- An amount added to a counter. -/
structure Increment where
  counter : Counter
  amount : Nat
deriving DecidableEq, Repr

/-- What a span covers, with its attributes. The aggregation has attributes only once its context
has been read. -/
inductive Scope where
  | refresh (account : Uuid) (correlation : Option String)
  | aggregation (facts : Option (Uuid × Nat))
  | build (account bundle : Uuid) (rank : Nat)
deriving DecidableEq, Repr

/-- The kinds of spans. -/
inductive SpanKind where
  | refresh | aggregation | build
deriving DecidableEq, Repr

def SpanKind.name : SpanKind → String
  | .refresh => "analytics.bundles.refresh"
  | .aggregation => "analytics.bundles.aggregate"
  | .build => "analytics.bundle.build"

namespace Scope

def kind : Scope → SpanKind
  | .refresh .. => .refresh
  | .aggregation _ => .aggregation
  | .build .. => .build

def attributes : Scope → List (String × Datum)
  | .refresh account correlation =>
    [("account_id", .text account.text), ("table", .text bundlesTable)] ++
      (match correlation with
        | some id => if id = "" then [] else [("correlation_id", .text id)]
        | none => [])
  | .aggregation none => []
  | .aggregation (some (account, count)) =>
    [("account_id", .text account.text), ("bundle_count", .int count)]
  | .build account bundle rank =>
    [("account_id", .text account.text), ("bundle_id", .text bundle.text),
      ("bundle_account_rank", .int rank)]

end Scope

/-- A finished span. -/
structure Span where
  scope : Scope
  parent : Option SpanKind
  failed : Bool
deriving DecidableEq, Repr

/-- What has been observed, in order. -/
structure Telemetry where
  logs : List LogEntry
  increments : List Increment
  spans : List Span
deriving Repr

namespace Telemetry

def none : Telemetry := ⟨[], [], []⟩

/-- What was observed first, then what was observed next. -/
def append (a b : Telemetry) : Telemetry :=
  ⟨a.logs ++ b.logs, a.increments ++ b.increments, a.spans ++ b.spans⟩

instance : Append Telemetry := ⟨append⟩

@[simp] theorem logs_append (a b : Telemetry) : (a ++ b).logs = a.logs ++ b.logs := rfl

@[simp] theorem increments_append (a b : Telemetry) :
    (a ++ b).increments = a.increments ++ b.increments := rfl

@[simp] theorem spans_append (a b : Telemetry) : (a ++ b).spans = a.spans ++ b.spans := rfl

theorem append_none (t : Telemetry) : t ++ none = t := by
  change append t none = t
  simp only [append, none, List.append_nil]

theorem append_assoc (a b c : Telemetry) : a ++ b ++ c = a ++ (b ++ c) := by
  change append (append a b) c = append a (append b c)
  simp only [append, List.append_assoc]

/-- What increments of one counter add up to. -/
def totalOf (counter : Counter) : List Increment → Nat
  | [] => 0
  | i :: rest => (if i.counter = counter then i.amount else 0) + totalOf counter rest

theorem totalOf_append (counter : Counter) (a b : List Increment) :
    totalOf counter (a ++ b) = totalOf counter a + totalOf counter b := by
  induction a with
  | nil => simp [totalOf]
  | cons i rest ih => simp only [List.cons_append, totalOf, ih, Nat.add_assoc]

/-- The sum of what was added to a counter. -/
def total (t : Telemetry) (counter : Counter) : Nat :=
  totalOf counter t.increments

/-- The counters that grew, each once, in the order of their first growth, with their sums. -/
def sums (t : Telemetry) : List (Counter × Nat) :=
  ((t.increments.map (·.counter)).eraseDups.map fun counter ↦ (counter, t.total counter)).filter
    fun entry ↦ entry.2 ≠ 0

end Telemetry
end BundleLedger
