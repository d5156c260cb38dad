import BundleLedger.Telemetry.Meter

/-!
# Spans inside spans

A tracer numbers spans in the order in which they are opened. Each is opened in the span that is current for the
work that opens it, or in none. The current span belongs to the work and not to a thread: work that is handed to
another thread takes it along.
-/

set_option autoImplicit false

namespace BundleLedger

/-- A span that has ended, with the number of the span it was opened in. -/
structure EndedSpan where
  number : Nat
  parent : Option Nat
  scope : Scope
  failed : Bool
deriving DecidableEq, Repr

/-- The spans opened so far, in the order of their numbers, each with its kind and the span it was opened in, and
the spans that have ended, in the order in which they did. -/
structure Tracer where
  opened : List (SpanKind × Option Nat) := []
  ended : List EndedSpan := []
deriving DecidableEq, Repr

namespace Tracer

/-- The number of the span that is opened next. -/
def next (t : Tracer) : Nat :=
  t.opened.length

/-- The tracer once a span has been opened. -/
def start (t : Tracer) (kind : SpanKind) (current : Option Nat) : Tracer :=
  { t with opened := t.opened ++ [(kind, current)] }

/-- The tracer once a span has ended. -/
def finish (t : Tracer) (number : Nat) (scope : Scope) (failed : Bool) : Tracer :=
  { t with ended := t.ended ++ [⟨number, t.opened[number]?.bind (·.2), scope, failed⟩] }

/-- Work inside a span of its own, which is current for it and has failed if an error ends the work. The work says
what the span has covered. -/
def inSpan {ε α : Type} (t : Tracer) (kind : SpanKind) (current : Option Nat)
    (work : Option Nat → Tracer → (Scope × Except ε α) × Tracer) : Except ε α × Tracer :=
  let ((scope, outcome), u) := work (some t.next) (t.start kind current)
  (outcome, u.finish t.next scope (!outcome.toBool))

/-- The kind of a span. -/
def kind? (t : Tracer) (number : Nat) : Option SpanKind :=
  t.opened[number]?.map (·.1)

/-- A span as it is reported, with the kind of the span it was opened in. -/
def report (t : Tracer) (span : EndedSpan) : Span :=
  ⟨span.scope, span.parent.bind t.kind?, span.failed⟩

/-- The tracer once other spans have been opened and have ended. -/
def followedBy (t more : Tracer) : Tracer :=
  ⟨t.opened ++ more.opened, t.ended ++ more.ended⟩

end Tracer
end BundleLedger
