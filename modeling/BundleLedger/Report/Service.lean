import BundleLedger.Report.Observed
import BundleLedger.Request.Handling
import BundleLedger.Tracing

/-!
# Answers of the running system

The settings and the tracer provider of the process, the results of checks, refreshes, stored records, lookups,
events and responses to requests as they stand in answers.

Missing bundles stand in the order of their record numbers. The rows of the other checks are ordered by the
rank of the record that they are about, as far as the run is limited to one account and has such a record,
and then by the texts of their cells.
-/

set_option autoImplicit false

namespace BundleLedger.Report

/-! ### Settings and tracing -/

/-- Settings by the names of their fields. The address of the database is shown only on demand. -/
def settings (s : Settings) (showDatabase : Bool) : Datum :=
  .dict ([("app_name", .text s.appName), ("app_version", .text s.appVersion),
      ("app_env", .text s.appEnv), ("app_debug", .bool s.appDebug), ("api_port", .int s.apiPort),
      ("log_level", .text s.logLevel)] ++
    (if showDatabase then [("database_url", .text s.databaseUrl)] else []) ++
    [("redis_url", .text s.redisUrl), ("jwt_secret", .text s.jwtSecret),
      ("jwt_algorithm", .text s.jwtAlgorithm), ("metrics_enabled", .bool s.metricsEnabled),
      ("otel_enabled", .bool s.otelEnabled), ("otel_service_name", .text s.otelServiceName),
      ("otel_exporter_otlp_endpoint", .ofText? s.otelEndpoint),
      ("otel_console_exporter", .bool s.otelConsole),
      ("analytics_refresh_workers", .int s.refreshWorkers),
      ("analytics_reference_currency", .text s.referenceCurrency),
      ("analytics_auto_refresh_on_events", .bool s.autoRefresh)])

/-- A provider: what it says about the process, and its processors by name. -/
def provider (p : Provider) : Datum :=
  .dict [("service.name", .text p.resource.serviceName),
    ("service.version", .text p.resource.serviceVersion),
    ("deployment.environment", .text p.resource.environment),
    ("processors", .list (p.processors.map fun processor ↦ .text processor.name)),
    ("same_as_get", .bool true)]

/-! ### Checks -/

/-- The rank of the record of a bundle under an account; zero if there is none. -/
def rankIn (db : Database) (scope bundle : Option Uuid) : Int :=
  match scope, bundle, Database.rows db.entries with
  | some account, some bundle, .ok entries =>
    ((entries.find? fun r ↦ r.entry.account = account && r.entry.bundle = bundle).map
      fun r ↦ r.entry.rank).getD 0
  | _, _, _ => 0

/-- The texts of the cells of a row with bars between. -/
def rowText (f : Finding) : String :=
  String.intercalate "|" (f.cells.map fun cell ↦ cell.2.plain)

/-- The order of reported rows. -/
def reportedBefore (a b : Int × String) : Bool :=
  a.1 < b.1 || (a.1 == b.1 && a.2 ≤ b.2)

/-- The rows of a check in their order. -/
def orderedFindings (db : Database) (scope : Option Uuid) (r : CheckResult) : List Finding :=
  if r.check = .bundlesMissing then r.findings
  else
    let keyed := r.findings.map fun f ↦ ((rankIn db scope f.bundle?, rowText f), f)
    (keyed.mergeSort fun a b ↦ reportedBefore a.1 b.1).map (·.2)

def finding (f : Finding) : Datum :=
  .dict (f.cells.map fun (name, cell) ↦ (name, cell.toDatum))

def checkResult (db : Database) (scope : Option Uuid) (r : CheckResult) : Datum :=
  .dict [("check", .text r.check.name), ("mismatch_count", .int r.findings.length),
    ("rows", .list ((orderedFindings db scope r).map finding))]

/-- The answer of a run of all checks. -/
def reconciliation (db : Database) (scope : Option Uuid) (results : List CheckResult) : Datum :=
  .dict [("account_id", .ofUuid? scope), ("passed", .bool (Reconciliation.passed results)),
    ("checks", .list (results.map (checkResult db scope)))]

/-! ### Refreshes and stored records -/

/-- A finished refresh. -/
def refreshed (r : RefreshResult) : Datum :=
  .dict [("account_id", .uuid r.account), ("record_count", .int r.records.length),
    ("records", records r.records)]

/-- A finished refresh without its records. -/
def refreshSummary (r : RefreshResult) : Datum :=
  .dict [("account_id", .uuid r.account), ("record_count", .int r.records.length)]

/-- A stored record; amounts have all their decimal places. -/
def entryRow (r : EntryRow) : Datum :=
  entry ⟨.ofText?, fun a ↦ .ofDecimal? (a.map Fixed.toDecimal), fun m ↦ .text m.text, .text⟩ r.entry

def entryRows (rs : List EntryRow) : Datum :=
  .list (rs.map entryRow)

/-! ### Lookups -/

/-- The answer of a lookup at a source; the converter is answered by its reference currency. -/
def answerAt (s : Source) (db : Database) : Lookup → Except RefreshError Datum
  | .account => (s.factsOr db).map fun facts ↦ account facts.row.snapshot
  | .accountRecordId => (s.factsOr db).map fun facts ↦ .int facts.row.recordId
  | .tenantRecordId => (s.factsOr db).map fun facts ↦ .int facts.row.tenantRecordId
  | .reportGroup => (s.factsOr db).map fun facts ↦ .text (Database.groupOf facts.tags).text
  | .converter => (s.converter db).map fun c ↦ .text c.reference
  | .bundles => (s.load .bundles (db.bundlesOf s.account)).map fun bs ↦ .list (bs.map bundle)
  | .bundleRecordId id => (s.bundleRecordId db id).map .int
  | .latestForExternalKey key => (s.latestBundle db key).map bundle
  | .creationAudit id => (s.creationAudit db id).map fun a ↦ (a.map auditLog).getD .null

def transitions (ts : List Transition) : Datum :=
  .list (ts.map transition)

/-! ### Events -/

def envelope (e : Envelope) : Datum := .dict e

/-- A published event with its envelope as it is now. -/
def event (b : Bus) (e : Event) : Datum :=
  .dict [("name", .text e.name), ("payload", envelope (b.payload e))]

def published (b : Bus) : Datum :=
  .list (b.published.map envelope)

def deliveries (ds : List Delivery) : Datum :=
  .list (ds.map fun d ↦ .list [.text d.script, .text d.event, envelope d.payload])

/-! ### Responses -/

/-- What a response shows besides its status and correlation id. -/
def content : Option Content → List (String × Datum)
  | some (.health s) =>
    [("body", .dict [("status", .text "ok"), ("service", .text s.appName), ("version", .text s.appVersion),
      ("environment", .text s.appEnv)])]
  | some (.refreshed r) => [("body", refreshed r)]
  | some (.checked db scope results) => [("body", reconciliation db scope results)]
  | some (.detail text) => [("body", detail text)]
  | some .metrics => [("content_type", .text "text/plain"), ("families", texts Counter.families)]
  | some (.document kind) => [("content_type", .text kind)]
  | some .unprocessable => []
  | none => [("content_type", .text "text/plain")]

def response (r : Response) : Datum :=
  .dict ([("status", .int r.status), ("correlation_id", .ofText? r.correlation)] ++ content r.content)

end BundleLedger.Report
