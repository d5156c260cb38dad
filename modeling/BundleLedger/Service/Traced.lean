import BundleLedger.Bundle.Traced
import BundleLedger.Service.Delivery

/-!
# The spans of a refresh

A refresh runs in a span, and the attempt to build the records is made in that one, as is everything that follows
while its event is delivered.
-/

set_option autoImplicit false

namespace BundleLedger.Refresh

/-- The attempt to build the records of an account, unless the transitions cannot be read or the pool cannot be
made. -/
def attempt? (settings : Settings) (account : Uuid) (s : Service) : Option Attempt :=
  let source := Source.fresh account settings.referenceCurrency
  match source.transitions s.database, s.pool.schedule settings.refreshWorkers with
  | .ok transitions, .ok schedule =>
    some
      { context := source.context s.database, stream := .ofList transitions, schedule
        correlation := s.correlation, parent := s.span }
  | _, _ => none

/-- A refresh under valid settings with the spans: `current` is the span in which it is made, `events` is what
happens on the workers, and `delivered` are the spans that are opened and end while its event is delivered. -/
def trace (publish : Publisher) (settings : Settings) (account : Uuid) (given : Option String)
    (events : List BuildEvent) (delivered : Tracer) (current : Option Nat) (s : Service) (t : Tracer) :
    Except Failure RefreshResult × Tracer :=
  let correlation := effective given s.correlation
  let inside := { s with correlation, span := some .refresh }.log (.refreshStarted account)
  t.inSpan .refresh current fun current t ↦
    let t :=
      match attempt? settings account inside with
      | some a => (a.trace events current t).2.followedBy delivered
      | none => t
    ((.refresh account correlation, (runWith publish settings account given s).1), t)

end BundleLedger.Refresh
