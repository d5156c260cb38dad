import BundleLedger.Access.Permission
import BundleLedger.Bundle.Aggregation
import BundleLedger.Currency.Question
import BundleLedger.Report.Snapshot

/-!
# How telemetry is reported

What was observed, as it stands in answers: log records, counter sums, spans and lookups, with the whole of
an aggregation and of an authorization.
-/

set_option autoImplicit false

namespace BundleLedger.Report

def logEntry (e : LogEntry) : Datum :=
  .dict ([("level", .text e.notice.level.text), ("logger", .text e.notice.logger),
      ("msg", .text e.notice.message), ("correlation_id", .ofText? e.correlation),
      ("fields", .dict e.notice.fields)] ++
    match e.notice.exception? with
    | some name => [("exception", .text name)]
    | none => [])

def logEntries (entries : List LogEntry) : Datum :=
  .list (entries.map logEntry)

def logs (t : Telemetry) : Datum :=
  logEntries t.logs

def metrics (t : Telemetry) : Datum :=
  .dict (t.sums.map fun (counter, sum) ↦ (counter.text, .int sum))

def span (s : Span) : Datum :=
  .dict [("name", .text s.scope.kind.name), ("parent", .ofText? (s.parent.map SpanKind.name)),
    ("attributes", .dict s.scope.attributes),
    ("status", .text (if s.failed then "ERROR" else "UNSET"))]

def spans (t : Telemetry) : Datum :=
  .list (t.spans.map span)

/-- The rank of the bundle that a span built; none of another span. -/
def buildRank? (s : Span) : Option Nat :=
  match s.scope with
  | .build _ _ rank => some rank
  | _ => none

/-- The first of some spans up to the next that is no build, and the rest. -/
def sortBuildRuns (fuel : Nat) (spans : List Span) : List Span :=
  match fuel with
  | 0 => spans
  | fuel + 1 =>
    let (builds, rest) := spans.span fun s ↦ (buildRank? s).isSome
    let sorted := builds.mergeSort fun a b ↦ (buildRank? a).getD 0 ≤ (buildRank? b).getD 0
    match rest with
    | [] => sorted
    | s :: rest => sorted ++ s :: sortBuildRuns fuel rest

/-- Spans with every stretch of consecutive builds in the order of the ranks. -/
def spansByRank (t : Telemetry) : Datum :=
  .list ((sortBuildRuns (t.spans.length + 1) t.spans).map span)

/-- The name of a lookup and its argument. -/
def lookup : Lookup → String × Datum
  | .account => ("get_account", .null)
  | .accountRecordId => ("get_account_record_id", .null)
  | .tenantRecordId => ("get_tenant_record_id", .null)
  | .reportGroup => ("get_report_group", .null)
  | .converter => ("get_currency_converter", .null)
  | .bundles => ("get_account_bundles", .null)
  | .bundleRecordId id => ("get_bundle_record_id", .uuid id)
  | .latestForExternalKey key => ("get_latest_subscription_bundle_for_external_key", .text key)
  | .creationAudit id => ("get_bundle_creation_audit_log", .uuid id)

def call (c : Call) : Datum :=
  let (name, argument) := lookup c.lookup
  .list [.text name, argument,
    .text (match c.side with
      | .caller => "caller"
      | .worker => "worker")]

def startedBuild (b : StartedBuild) : Datum :=
  .list [.uuid b.bundle, .ofText? b.correlation]

def records (rs : List BundleRecord) : Datum :=
  .list (rs.map bundleRecord)

def aggregation (a : Aggregation) : Datum :=
  .dict
    [("result",
        match a.result with
        | .ok rs => .dict [("records", records rs)]
        | .error e => refreshError e),
      ("calls", .list (a.calls.map call)), ("built", .list (a.started.map startedBuild)),
      ("logs", logs a.telemetry), ("metrics", metrics a.telemetry), ("spans", spans a.telemetry)]

/-! ### Rankings and conversions -/

def ranking (r : Ranking) : Datum :=
  .dict
    [("ranks", .list (r.ranks.map fun (id, rank) ↦ .list [.uuid id, .int rank])),
      ("latest", .list (r.latest.map fun (id, t) ↦ .list [.uuid id, .int t.recordId, .text t.event]))]

def conversion (value : Except Cause (Option Decimal)) : Datum :=
  match value with
  | .ok d => .ofDecimal? d
  | .error c => cause c

/-- The reference currency of a converter and its answers to some questions. -/
def conversions (c : Converter) (questions : List Question) : Datum :=
  .dict
    [("reference_currency", .text c.reference),
      ("values", .list (questions.map fun q ↦ conversion (q.answer c)))]

/-! ### Authorizations -/

def texts (ts : List String) : Datum :=
  .list (ts.map .text)

/-- The body of an answer that states a reason. -/
def detail (text : String) : Datum :=
  .dict [("detail", .text text)]

def admission : Admission → Datum
  | .allowed => .text "allowed"
  | .denied missing => .dict [("status", .int 403), ("detail", .text (Admission.detail missing))]

def missing : Admission → List String
  | .allowed => []
  | .denied missing => missing

def authorization (a : Authorization) : Datum :=
  .dict [("token_found", .bool a.tokenFound), ("sub", .text a.caller.subject),
    ("roles", texts a.caller.roles), ("missing", texts (missing a.admission)),
    ("outcome", admission a.admission), ("logs", logEntries (a.notices.map (⟨·, none⟩)))]

end BundleLedger.Report
