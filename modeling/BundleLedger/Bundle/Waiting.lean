import BundleLedger.Bundle.Aggregation

/-!
# Builds that outlast the wait

When a pool stalls, some builds may be under way. The caller drops the tasks that have not started and waits for
the builds under way to end, but collects nothing of them.
-/

set_option autoImplicit false

namespace BundleLedger.Attempt

/-- The tasks that are under way when the pool stalls, out of `count`, in the order in which they end: those
of a list that have not completed and are not cancelled. -/
def underWay (a : Attempt) (running : List Nat) (count : Nat) : List Nat :=
  if a.schedule.stalls count then
    running.eraseDups.filter fun index ↦
      index < count && !(a.schedule.finished count).contains index && !a.schedule.isCancelled index
  else []

/-- The builds under way when the pool stalls; each runs to its end. -/
def awaited (a : Attempt) (p : Prefetched) (work : List WorkItem) (running : List Nat) : List Completion :=
  let tasks := a.submitted work
  (a.underWay running tasks.length).filterMap fun index ↦
    tasks[index]?.map fun item ↦ ⟨a.task item, some (a.build p item)⟩

/-- All records of the account, or one error, when these tasks are running as the pool stalls. -/
def runAwaiting (a : Attempt) (running : List Nat) : Aggregation :=
  match (Prefetch.run a.context a.stream).outcome with
  | .error _ => a.run
  | .ok (p, work) =>
    let builds := a.awaited p work running
    let spans := a.run.telemetry.spans
    { a.run with
      calls := a.run.calls ++ builds.flatMap (·.calls)
      started := a.run.started ++ builds.filterMap (·.started?)
      -- The span of the aggregation ends last.
      telemetry := { a.run.telemetry with
        spans := spans.dropLast ++ builds.filterMap (·.span? p.account.id) ++ spans.getLast?.toList } }

theorem underWay_nil (a : Attempt) (count : Nat) : a.underWay [] count = [] := by
  unfold underWay
  split <;> rfl

/-- When nothing runs as the pool stalls, there is nothing to wait for. -/
theorem runAwaiting_nil (a : Attempt) : a.runAwaiting [] = a.run := by
  have hspans : ∀ spans : List Span, spans.dropLast ++ spans.getLast?.toList = spans := by
    intro spans
    cases h : spans.getLast? with
    | none => simp [List.getLast?_eq_none_iff.1 h]
    | some span =>
      obtain ⟨front, rfl⟩ := List.getLast?_eq_some_iff.1 h
      simp
  unfold runAwaiting
  split
  · rfl
  · simp [awaited, underWay_nil, hspans]

end BundleLedger.Attempt
