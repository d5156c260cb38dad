import BundleLedger.Bundle.Build
import BundleLedger.Bundle.Schedule
import BundleLedger.Telemetry.Meter

/-!
# Aggregating the bundles of an account

Building all records of an account on a worker pool. The context is read first, on the caller's side;
then every ranked bundle is submitted, and the outcomes are collected in the order of completion. The
result is all records or one error: a refused submission before anything else, then a stalled pool,
then the first failure collected.
-/

set_option autoImplicit false

namespace BundleLedger

/-- An attempt to build the records of an account: what is read, the series of transitions, builds
that fail as soon as they start, the worker pool, the caller's correlation id, and the kind of span
it runs in. -/
structure Attempt where
  context : Context
  stream : Stream
  obstacle : Uuid → Option Failure := fun _ ↦ none
  schedule : Schedule := .fifo
  correlation : Option String := none
  parent : Option SpanKind := none

/-- A task as it was submitted: its work, and what it takes along of the caller's context as it was then, the
correlation id and the current span. Spans are told apart by `σ`. -/
structure Task (σ : Type) where
  item : WorkItem
  correlation : Option String
  span : Option σ

/-- A build that was started: its bundle, and the correlation id it saw. -/
structure StartedBuild where
  bundle : Uuid
  correlation : Option String
deriving DecidableEq, Repr

/-- What an attempt leaves: its result, the lookups it made, the builds it started and what was
observed. -/
structure Aggregation where
  result : Except RefreshError (List BundleRecord)
  calls : List Call
  started : List StartedBuild
  telemetry : Telemetry

namespace Attempt

/-- One build on a worker. -/
def build (a : Attempt) (p : Prefetched) (item : WorkItem) : Run BundleRecord :=
  match a.obstacle item.transition.bundle with
  | some failure => Run.fail failure
  | none => Build.run a.context p item

/-- The work items accepted by the pool. -/
def submitted (a : Attempt) (work : List WorkItem) : List WorkItem :=
  work.take (a.schedule.accepted work.length)

/-- The error of the first refused submission, if one is refused. -/
def scheduleError? (a : Attempt) (p : Prefetched) (work : List WorkItem) : Option RefreshError :=
  work[a.schedule.accepted work.length]?.map fun item ↦
    { reason := .unableToSchedule, cause := some .closedPool, account := some p.account.id
      bundle := some item.transition.bundle }

/-- The task for some work, submitted in the span of the aggregation. -/
def task (a : Attempt) (item : WorkItem) : Task SpanKind :=
  ⟨item, a.correlation, some .aggregation⟩

/-- A task as it completes: with the run of its build unless it was cancelled. -/
structure Completion where
  task : Task SpanKind
  run : Option (Run BundleRecord)

/-- The tasks that complete, in order. -/
def completions (a : Attempt) (p : Prefetched) (work : List WorkItem) : List Completion :=
  let tasks := a.submitted work
  (a.schedule.finished tasks.length).filterMap fun index ↦
    tasks[index]?.map fun item ↦
      ⟨a.task item, if a.schedule.isCancelled index then none else some (a.build p item)⟩

end Attempt

namespace Attempt.Completion

/-- A failed build as an error that names its account and bundle: a cancellation, an error of the
refresh with missing names filled in, or any other failure as the cause. -/
def errorOf (account bundle : Uuid) : Failure → RefreshError
  | .refresh e => e.fillIn account bundle
  | .cause c =>
    { reason := if c.isCancellation then .buildCancelled bundle else .buildFailed bundle
      cause := some c, account := some account, bundle := some bundle }

/-- What the caller collects: the record, or the error. -/
def outcome (account : Uuid) (c : Completion) : Except RefreshError BundleRecord :=
  match c.run with
  | none => .error (errorOf account c.task.item.transition.bundle (.cause .cancelledTask))
  | some run => run.outcome.mapError (errorOf account c.task.item.transition.bundle)

/-- The build that the task started; none if it was cancelled. It sees the correlation id that the task took
along. -/
def started? (c : Completion) : Option StartedBuild :=
  c.run.map fun _ ↦ ⟨c.task.item.transition.bundle, c.task.correlation⟩

/-- The span of the build, opened in the one that the task took along; none of a cancelled task. -/
def span? (account : Uuid) (c : Completion) : Option Span :=
  c.run.map fun run ↦
    { scope := .build account c.task.item.transition.bundle c.task.item.rank
      parent := c.task.span
      failed := !run.outcome.toBool }

/-- The lookups of the build. -/
def calls (c : Completion) : List Call :=
  match c.run with
  | none => []
  | some run => run.calls

end Attempt.Completion

namespace Aggregation

/-- The records among collected outcomes. -/
def records (outcomes : List (Except RefreshError BundleRecord)) : List BundleRecord :=
  outcomes.filterMap Except.toOption

/-- The errors among collected outcomes. -/
def errors (outcomes : List (Except RefreshError BundleRecord)) : List RefreshError :=
  outcomes.filterMap fun
    | .error e => some e
    | .ok _ => none

/-- What is logged about the errors collected: the first failed the aggregation, the others are
suppressed. -/
def notices (account : Uuid) : List RefreshError → List Notice
  | [] => []
  | first :: others =>
    .buildFailed account first.bundle first.cause ::
      others.map fun e ↦ .buildSuppressed account e.bundle e.cause

/-- The error of a pool that stalled. -/
def timeoutError (account : Uuid) : RefreshError where
  reason := .timedOut
  cause := some .expiredWait
  account := some account

/-- The result: a refused submission, then a stalled pool, then the first error decides. The error is
raised from its cause. -/
def decide (refused : Option RefreshError) (stalled : Option RefreshError)
    (outcomes : List (Except RefreshError BundleRecord)) : Except RefreshError (List BundleRecord) :=
  match refused, stalled, errors outcomes with
  | some e, _, _ => .error e.raised
  | none, some e, _ => .error e.raised
  | none, none, e :: _ => .error e.raised
  | none, none, [] => .ok (records outcomes)

/-- The number of records built, as an increment; none when there is nothing to add. -/
def builtIncrement : Except RefreshError (List BundleRecord) → List Increment
  | .ok records => if records.isEmpty then [] else [⟨.recordsBuilt, records.length⟩]
  | .error _ => []

end Aggregation

namespace Attempt

/-- The error of an attempt whose context could not be read. -/
def prefetchError (failure : Failure) : RefreshError :=
  failure.wrap fun cause ↦ RefreshError.raised { reason := .unableToPrefetch, cause := some cause }

/-- The attempt after its context has been read. -/
def runBuilds (a : Attempt) (p : Prefetched) (work : List WorkItem) : Aggregation :=
  let account := p.account.id
  let completions := a.completions p work
  let outcomes := completions.map (·.outcome account)
  let errors := Aggregation.errors outcomes
  let stalled :=
    if a.schedule.stalls (a.submitted work).length then some (Aggregation.timeoutError account)
    else none
  let result := Aggregation.decide (a.scheduleError? p work) stalled outcomes
  { result
    calls := completions.flatMap (·.calls)
    started := completions.filterMap (·.started?)
    telemetry :=
      { logs := (Aggregation.notices account errors).map (⟨·, a.correlation⟩)
        increments := errors.map (fun _ ↦ ⟨.buildFailures, 1⟩) ++ Aggregation.builtIncrement result
        spans := completions.filterMap (·.span? account) ++
          [⟨.aggregation (some (account, work.length)), a.parent, !result.toBool⟩] } }

/-- All records of the account, or one error. -/
def run (a : Attempt) : Aggregation :=
  let prefetch := Prefetch.run a.context a.stream
  match prefetch.outcome with
  | .error failure =>
    { result := .error (prefetchError failure)
      calls := prefetch.calls
      started := []
      telemetry := { logs := [], increments := [], spans := [⟨.aggregation none, a.parent, true⟩] } }
  | .ok (p, work) =>
    let rest := a.runBuilds p work
    { rest with calls := prefetch.calls ++ rest.calls }

end Attempt
end BundleLedger
