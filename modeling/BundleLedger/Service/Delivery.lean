import BundleLedger.Service.Refresh

/-!
# Publishing and delivery

A published envelope is kept first and then delivered to the handlers that are subscribed at that moment, in
the order of subscription, up to the first that fails. A handler may publish in turn; deliveries nest to a
limited depth.
-/

set_option autoImplicit false

namespace BundleLedger

/-- A way to publish an envelope for its effects. -/
abbrev Publisher := Envelope → Procedure Unit

namespace Handler

/-! ### Refreshing after a change -/

/-- The refresh after a change; its own errors are logged and go no further. -/
def refreshAfter (publish : Publisher) (event : Event) (raw : String) (account : Uuid)
    (correlation : Option String) : Procedure Unit := fun s ↦
  match Refresh.run publish account correlation s with
  | (.ok _, t) => (.ok (), t)
  | (.error (.refresh e), t) => (.ok (), t.log (.autoRefreshFailed event.name raw e))
  | (.error failure, t) => (.error failure, t)

/-- The refresh of the account that an event is about, when the settings ask for it. An event without the
text of an account is passed over, and one with a malformed text is logged. -/
def refreshOnChange (publish : Publisher) (event : Event) : Procedure Unit := fun s ↦
  match s.settings with
  | .error cause => (.error (.cause cause), s)
  | .ok settings =>
    let payload := s.bus.payload event
    match settings.autoRefresh, Datum.lookup payload "account_id" with
    | true, some (.text raw) =>
      match Uuid.ofLooseText raw with
      | .error _ => (.ok (), s.log (.autoRefreshSkipped event.name))
      | .ok account =>
        refreshAfter publish event raw account ((Datum.lookup payload "correlation_id").bind Datum.text?) s
    | _, _ => (.ok (), s)

/-! ### Scripts -/

/-- One action of a script that handles an event. -/
def act (publish : Publisher) (event : Event) : Action → Procedure Unit
  | .subscribe name handler => Procedure.modify fun s ↦ { s with bus := s.bus.subscribe name handler }
  | .unsubscribe name handler => Procedure.modify fun s ↦ { s with bus := s.bus.unsubscribe name handler }
  | .publish envelope => publish envelope
  | .set key value => Procedure.modify fun s ↦ { s with bus := s.bus.set event key value }
  | .fail failure => Procedure.fail failure

/-- The system with the delivery to a script noted. -/
def noted (name : String) (event : Event) (s : Service) : Service :=
  { s with deliveries := s.deliveries ++ [⟨name, event.name, s.bus.payload event⟩] }

/-- A script run for an event: it is noted first. -/
def runScript (publish : Publisher) (name : String) (event : Event) : Procedure Unit := fun s ↦
  let actions := ((s.scripts.find? fun script ↦ script.1 = name).map (·.2)).getD []
  Procedure.each (act publish event) actions (noted name event s)

/-- What a handler does with an event. -/
def run (publish : Publisher) (event : Event) : Handler → Procedure Unit
  | .announceStart => Procedure.log (.systemEvent event.name)
  | .refreshAccount => refreshOnChange publish event
  | .script name => runScript publish name event

end Handler

namespace Service

/-- The failure of deliveries that nest too deeply. -/
def tooDeep : Failure :=
  .cause (.fault .recursion "maximum recursion depth exceeded")

/-- An envelope published, with deliveries inside nesting to a depth. -/
def publishWithin : Nat → Envelope → Procedure Event
  | 0, _ => Procedure.fail tooDeep
  | depth + 1, envelope => fun s ↦
    match Bus.eventType? envelope with
    | none => (.error Bus.untyped, s)
    | some name =>
      let (event, bus) := s.bus.keep name (Bus.stamped s.correlation envelope)
      let publish : Publisher := fun e ↦ (publishWithin depth e).forget
      let (outcome, t) :=
        Procedure.each (Handler.run publish event) (bus.handlersOf name) { s with bus }
      (outcome.map fun _ ↦ event, t)

/-- How deep deliveries nest before the interpreter runs out of calls that it can nest: each delivery takes a few of
them. The bus itself has no such bound, and what is proved about deliveries holds at every depth. -/
def maxDepth : Nat := 480

/-- An envelope published: the event that it makes. -/
def publish (envelope : Envelope) : Procedure Event :=
  publishWithin maxDepth envelope

/-- A refresh of the records of an account. -/
def refresh (account : Uuid) (correlation : Option String) : Procedure RefreshResult :=
  Refresh.run (fun e ↦ (publish e).forget) account correlation

/-! ### Starting -/

/-- The types of events that change an account. -/
def changeEvents : List String := ["subscription.changed", "bundle.changed"]

/-- The bus with the handlers of the system subscribed. -/
def subscribeHandlers (b : Bus) : Bus :=
  changeEvents.foldl (fun b event ↦ b.subscribe event .refreshAccount)
    (b.subscribe "system.started" .announceStart)

/-- The start of the system: handlers are subscribed, and the start is published. -/
def startUp : Procedure Unit := do
  Procedure.modify fun s ↦ { s with bus := subscribeHandlers s.bus }
  let s ← Procedure.get
  let settings ← Procedure.ofExcept (s.settings.mapError .cause)
  Procedure.forget
    (publish [("event_type", .text "system.started"), ("service", .text settings.otelServiceName)])

/-! ### Other services -/

/-- A refresh of the account that a value identifies. -/
def refreshNamed (account : Datum) (correlation : Option String) : Procedure RefreshResult :=
  match account.identifier with
  | .ok id => refresh id correlation
  | .error cause => Procedure.fail (.cause cause)

end Service
end BundleLedger
