import BundleLedger.Datum.Basic
import BundleLedger.Failure
import BundleLedger.Reconciliation.Check

/-!
# Notices

What is worth telling an operator: one constructor for each thing that is logged, with the level, the
logger, the message and the structured fields of its record. A `LogEntry` adds the correlation id
that was current.
-/

set_option autoImplicit false

namespace BundleLedger

/-- How a refresh ended. -/
inductive RefreshStatus where
  | succeeded | failed
deriving DecidableEq, Repr

def RefreshStatus.text : RefreshStatus → String
  | .succeeded => "Succeeded"
  | .failed => "Failed"

/-- The name of the table of bundle records. -/
def bundlesTable : String := "analytics_bundles"

/-- Something that is logged. -/
inductive Notice where
  | buildFailed (account : Uuid) (bundle : Option Uuid) (cause : Option Cause)
  | buildSuppressed (account : Uuid) (bundle : Option Uuid) (cause : Option Cause)
  | refreshStarted (account : Uuid)
  | refreshSucceeded (account : Uuid) (count : Nat)
  | refreshFailed (account : Uuid) (error : RefreshError)
  | checkFailed (check : Check) (count : Nat) (account : Option Uuid)
  | tokenRejected
  | permissionDenied (subject : String) (missing : List String)
  | systemEvent (event : String)
  | autoRefreshSkipped (event : String)
  | autoRefreshFailed (event account : String) (error : RefreshError)
  | requestServed (method path : String) (status : Nat)
  | requestFailed (method path : String) (failure : Failure)
deriving DecidableEq, Repr

inductive LogLevel where
  | info | warning | error
deriving DecidableEq, Repr

def LogLevel.text : LogLevel → String
  | .info => "INFO"
  | .warning => "WARNING"
  | .error => "ERROR"

namespace Notice

def level : Notice → LogLevel
  | .buildFailed .. | .autoRefreshFailed .. | .requestFailed .. => .error
  | .buildSuppressed .. | .checkFailed .. | .permissionDenied .. | .autoRefreshSkipped .. => .warning
  | _ => .info

def logger : Notice → String
  | .buildFailed .. | .buildSuppressed .. => "billing_analytics.bundles"
  | .refreshStarted .. | .refreshSucceeded .. | .refreshFailed .. => "billing_analytics.refresh"
  | .checkFailed .. => "billing_analytics.sanity"
  | .tokenRejected | .permissionDenied .. => "billing_analytics.security"
  | .systemEvent .. | .autoRefreshSkipped .. | .autoRefreshFailed .. => "billing_analytics.lifecycle"
  | .requestServed .. | .requestFailed .. => "billing_analytics.request"

def message : Notice → String
  | .buildFailed .. => "bundles.build.failed"
  | .buildSuppressed .. => "bundles.build.suppressed_error"
  | .refreshStarted .. => "bundles.refresh.started"
  | .refreshSucceeded .. | .refreshFailed .. => "bundles.refresh.finished"
  | .checkFailed .. => "sanity.check.failed"
  | .tokenRejected => "auth.token.rejected"
  | .permissionDenied .. => "auth.permission.denied"
  | .systemEvent .. => "system_event"
  | .autoRefreshSkipped .. => "bundles_auto_refresh_skipped"
  | .autoRefreshFailed .. => "bundles_auto_refresh_failed"
  | .requestServed .. => "http.request"
  | .requestFailed .. => "http.error"

/-- What stands in a record for a text that is left out. -/
def omitted : String := "<omitted>"

/-- An identifier in a record, where it may be unknown. -/
def idText (id : Option Uuid) : String :=
  match id with
  | some id => id.text
  | none => "None"

/-- The cause of a failed build as its record tells it. -/
def causeText (cause : Option Cause) : String :=
  match cause with
  | some c => c.text?.getD omitted
  | none => "None"

/-- Texts with a comma and a blank between. -/
def commaList (texts : List String) : String :=
  String.intercalate ", " texts

def fields : Notice → List (String × Datum)
  | .buildFailed account bundle cause | .buildSuppressed account bundle cause =>
    [("account_id", .text account.text), ("bundle_id", .text (idText bundle)),
      ("error", .text (causeText cause))]
  | .refreshStarted account =>
    [("account_id", .text account.text), ("table", .text bundlesTable), ("status", .text "Running")]
  | .refreshSucceeded account count =>
    [("account_id", .text account.text), ("record_count", .int count), ("table", .text bundlesTable),
      ("status", .text RefreshStatus.succeeded.text)]
  | .refreshFailed account error =>
    [("account_id", .text account.text), ("table", .text bundlesTable),
      ("status", .text RefreshStatus.failed.text), ("error", .text error.text)]
  | .checkFailed check count account =>
    [("account_id", .ofText? (account.map Uuid.text)), ("check", .text check.name),
      ("mismatch_count", .int count)]
  | .tokenRejected => [("error", .text omitted)]
  | .permissionDenied subject missing =>
    [("error", .text (subject ++ " lacks " ++ commaList missing))]
  | .systemEvent event => [("event_name", .text event)]
  | .autoRefreshSkipped event =>
    [("event_name", .text event), ("error", .text "invalid account_id")]
  | .autoRefreshFailed event account error =>
    [("account_id", .text account), ("event_name", .text event), ("error", .text error.text)]
  | .requestServed method path status =>
    [("method", .text method), ("path", .text path), ("status_code", .int status)]
  | .requestFailed method path _ =>
    [("method", .text method), ("path", .text path), ("status_code", .int 500)]

/-- The name of the exception a record is logged with. -/
def exception? : Notice → Option String
  | .autoRefreshFailed _ _ error => some error.name
  | .requestFailed _ _ failure => some failure.name
  | _ => none

end Notice

/-- A notice with the correlation id that was current when it was logged. -/
structure LogEntry where
  notice : Notice
  correlation : Option String
deriving DecidableEq, Repr

end BundleLedger
