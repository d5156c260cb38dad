import BundleLedger.Bundle.Waiting
import BundleLedger.Telemetry.Tracer

/-!
# The spans of an attempt

An attempt runs in a span. Every task that it submits takes the current span along, and a build opens its span in
that one, on the worker that takes up the task. Builds run side by side: each begins and ends at some moment, and
those of other workers may begin and end in between.
-/

set_option autoImplicit false

namespace BundleLedger

/-- What happens on the workers: the build of a task begins or ends. Tasks are numbered in the order of their
submission. -/
inductive BuildEvent where
  | begins (index : Nat)
  | ends (index : Nat)
deriving DecidableEq, Repr

/-- The workers: the spans so far, and the tasks whose builds are under way, with the numbers of their spans. -/
structure Workers where
  tracer : Tracer
  underWay : List (Nat × Nat) := []

/-- The workers after a build has begun or ended. -/
def Workers.after (a : Attempt) (p : Prefetched) (tasks : List (Task Nat)) (w : Workers) : BuildEvent → Workers
  | .begins index =>
    match tasks[index]? with
    | some task => ⟨w.tracer.start .build task.span, (index, w.tracer.next) :: w.underWay⟩
    | none => w
  | .ends index =>
    match tasks[index]?, w.underWay.find? (·.1 == index) with
    | some task, some build =>
      ⟨w.tracer.finish build.2 (.build p.account.id task.item.transition.bundle task.item.rank)
          (!(a.build p task.item).outcome.toBool),
        w.underWay.erase build⟩
    | _, _ => w

/-- Whether builds can begin and end like this when some have begun before and `order` are those that are still to
end, in this order: one that ends has begun, and all that begin end. -/
inductive Interleaves : (begun order : List Nat) → List BuildEvent → Prop
  | done : Interleaves [] [] []
  | begins {begun order : List Nat} {events : List BuildEvent} {index : Nat} (hmem : index ∈ order)
      (hnew : index ∉ begun) (rest : Interleaves (index :: begun) order events) :
      Interleaves begun order (.begins index :: events)
  | ends {begun order : List Nat} {events : List BuildEvent} {index : Nat} (hmem : index ∈ begun)
      (rest : Interleaves (begun.erase index) order events) :
      Interleaves begun (index :: order) (.ends index :: events)

/-- The task for some work, submitted in a span that is given by its number. -/
def Attempt.taskIn (a : Attempt) (current : Option Nat) (item : WorkItem) : Task Nat :=
  { a.task item with span := current }

/-- All records of the account, or one error, with the spans: `current` is the span in which the attempt is made,
and `events` is what happens on the workers. -/
def Attempt.trace (a : Attempt) (events : List BuildEvent) (current : Option Nat) (t : Tracer) :
    Except RefreshError (List BundleRecord) × Tracer :=
  t.inSpan .aggregation current fun current t ↦
    match (Prefetch.run a.context a.stream).outcome with
    | .error failure => ((.aggregation none, .error (prefetchError failure)), t)
    | .ok (p, work) =>
      let tasks := (a.submitted work).map (a.taskIn current)
      let workers := events.foldl (Workers.after a p tasks) { tracer := t }
      ((.aggregation (some (p.account.id, work.length)), (a.runBuilds p work).result), workers.tracer)

end BundleLedger
