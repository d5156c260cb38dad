import BundleLedger.Bundle.Aggregation
import BundleLedger.Store.Source
import BundleLedger.Service.Basic

/-!
# Refreshing the records of an account

A refresh reads the transitions of an account, builds its records, replaces the stored ones in one
transaction and publishes that it did. It runs under one correlation id, the given one if it is not empty and
the current one otherwise, and within a span. How it ended is logged when it succeeded or failed by an error
of its own; it is counted in any case.
-/

set_option autoImplicit false

namespace BundleLedger

/-- The outcome of a refresh: the account and its records in the order of their ranks. -/
structure RefreshResult where
  account : Uuid
  records : List BundleRecord
deriving Repr

namespace Refresh

/-- The correlation id of a refresh. -/
def effective (given current : Option String) : Option String :=
  match given with
  | some id => if id = "" then current else some id
  | none => current

/-- The error of records that could not be stored. -/
def unableToStore (account : Uuid) (fault : DatabaseFault) : RefreshError :=
  RefreshError.raised
    { reason := .unableToStore account, cause := some (.database fault), account := some account }

/-- The records of an account, built from the database. -/
def build (settings : Settings) (account : Uuid) : Procedure (List BundleRecord) := fun s ↦
  let source := Source.fresh account settings.referenceCurrency
  match source.transitions s.database, s.pool.schedule settings.refreshWorkers with
  | .error e, _ => (.error (.refresh e), s)
  | .ok _, .error cause => (.error (.cause cause), s)
  | .ok transitions, .ok schedule =>
    let attempt : Attempt :=
      { context := source.context s.database, stream := .ofList transitions, schedule
        correlation := s.correlation, parent := s.span }
    let aggregation := attempt.run
    (aggregation.result.mapError .refresh, s.observe aggregation.telemetry)

/-- The stored records of an account replaced. -/
def store (account : Uuid) (records : List BundleRecord) : Procedure Unit := fun s ↦
  match s.database.replaceRecords account s.now records with
  | .ok database => (.ok (), { s with database })
  | .error fault => (.error (.refresh (unableToStore account fault)), s)

/-- The envelope that tells of a refresh. -/
def envelope (account : Uuid) (count : Nat) (correlation : Option String) : Envelope :=
  [("event_type", .text "analytics.bundles.refreshed"), ("account_id", .text account.text),
    ("record_count", .int count), ("correlation_id", .ofText? correlation)]

/-- The work of a refresh: build, store, log, publish. -/
def work (publish : Envelope → Procedure Unit) (settings : Settings) (account : Uuid) :
    Procedure (List BundleRecord) := do
  let records ← build settings account
  store account records
  Procedure.log (.refreshSucceeded account records.length)
  let s ← Procedure.get
  publish (envelope account records.length s.correlation)
  return records

/-- How a refresh ended, for its counter. -/
def status {α : Type} : Except Failure α → RefreshStatus
  | .ok _ => .succeeded
  | .error _ => .failed

/-- What is logged about a refresh that ended with a failure: nothing, unless it is an error of its own. -/
def failureNotices (account : Uuid) {α : Type} : Except Failure α → List Notice
  | .error (.refresh e) => [.refreshFailed account e]
  | _ => []

/-- What is observed at the end of a refresh: what is logged bears the correlation id that is then the current one,
the span shows that of the refresh. -/
def conclusion (account : Uuid) (current correlation : Option String) (parent : Option SpanKind) {α : Type}
    (outcome : Except Failure α) : Telemetry where
  logs := (failureNotices account outcome).map (⟨·, current⟩)
  increments := [⟨.refreshes (status outcome), 1⟩, ⟨.refreshDuration, 1⟩]
  spans := [⟨.refresh account correlation, parent, !outcome.toBool⟩]

/-- The order of records by rank. -/
def byRank (records : List BundleRecord) : List BundleRecord :=
  records.mergeSort fun a b ↦ a.rank ≤ b.rank

/-- A refresh under valid settings. -/
def runWith (publish : Envelope → Procedure Unit) (settings : Settings) (account : Uuid)
    (given : Option String) : Procedure RefreshResult := fun s ↦
  let correlation := effective given s.correlation
  let inside := { s with correlation, span := some .refresh }.log (.refreshStarted account)
  let (outcome, t) := work publish settings account inside
  let t := t.observe (conclusion account t.correlation correlation s.span outcome)
  (outcome.map fun records ↦ ⟨account, byRank records⟩,
    { t with correlation := s.correlation, span := s.span })

/-- A refresh of the records of an account. Invalid settings fail it before it begins. -/
def run (publish : Envelope → Procedure Unit) (account : Uuid) (given : Option String) :
    Procedure RefreshResult := fun s ↦
  match s.settings with
  | .error cause => (.error (.cause cause), s)
  | .ok settings => runWith publish settings account given s

end Refresh
end BundleLedger
