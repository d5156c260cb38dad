import BundleLedger.Datum.Display
import BundleLedger.Failure

/-!
# The event bus

Envelopes are dictionaries that name their type of event. The bus knows which handlers are subscribed to
which type, in the order of subscription, and keeps every envelope that was published. An envelope that is
published without a correlation id gets the current one. Handlers see the kept envelope itself, so what one
of them sets, the next one reads.
-/

set_option autoImplicit false

namespace BundleLedger

/-- An envelope: its entries in order. -/
abbrev Envelope := List (String × Datum)

/-- What can be subscribed to a type of event. -/
inductive Handler where
  /-- Logs that the system has started. -/
  | announceStart
  /-- Refreshes the account that an event is about. -/
  | refreshAccount
  /-- Runs the actions of a script. -/
  | script (name : String)
deriving DecidableEq, Repr

/-- One action of a script. -/
inductive Action where
  | subscribe (event : String) (handler : Handler)
  | unsubscribe (event : String) (handler : Handler)
  | publish (envelope : Envelope)
  /-- Sets an entry of the envelope that is being delivered. -/
  | set (key : String) (value : Datum)
  | fail (failure : Failure)

namespace Action

/-- The type of event that a value names, if it is a text; other values name none, and values with parts
cannot be asked. -/
def topic : Datum → Except Cause (Option String)
  | .text name => .ok (some name)
  | .list items => .error (.fault .type ("unhashable type: '" ++ (Datum.list items).kindName ++ "'"))
  | .dict entries => .error (.fault .type ("unhashable type: '" ++ (Datum.dict entries).kindName ++ "'"))
  | _ => .ok none

/-- The action on the type of event that a value names: nothing happens if it names none. -/
def onTopic (d : Datum) (action : String → Action) : List Action :=
  match topic d with
  | .ok (some name) => [action name]
  | .ok none => []
  | .error cause => [.fail (.cause cause)]

end Action

/-- A published event: its type, and the place of its envelope among the published ones. -/
structure Event where
  name : String
  index : Nat
deriving DecidableEq, Repr

/-- Subscriptions in their order, and the envelopes published so far. -/
structure Bus where
  subscriptions : List (String × Handler)
  published : List Envelope

namespace Bus

def empty : Bus := ⟨[], []⟩

/-- The handlers of a type of event, in the order of subscription. -/
def handlersOf (b : Bus) (event : String) : List Handler :=
  (b.subscriptions.filter fun s ↦ s.1 = event).map (·.2)

/-- A handler subscribed to a type of event, if it is not yet. -/
def subscribe (b : Bus) (event : String) (handler : Handler) : Bus :=
  if (event, handler) ∈ b.subscriptions then b
  else { b with subscriptions := b.subscriptions ++ [(event, handler)] }

/-- A handler no longer subscribed to a type of event. -/
def unsubscribe (b : Bus) (event : String) (handler : Handler) : Bus :=
  { b with subscriptions := b.subscriptions.erase (event, handler) }

/-- The failure of an envelope without a type of event. -/
def untyped : Failure :=
  .cause (.fault .value "event envelope needs a non-empty event_type")

/-- The type of event that an envelope names. -/
def eventType? (envelope : Envelope) : Option String :=
  match Datum.lookup envelope "event_type" with
  | some (.text name) => if name = "" then none else some name
  | _ => none

/-- An envelope with the current correlation id, if it has none of its own. -/
def stamped (correlation : Option String) (envelope : Envelope) : Envelope :=
  match Datum.lookup envelope "correlation_id" with
  | none | some .null => Datum.put envelope "correlation_id" (.ofText? correlation)
  | some _ => envelope

/-- The bus with an envelope kept, and the event that it makes. -/
def keep (b : Bus) (name : String) (envelope : Envelope) : Event × Bus :=
  (⟨name, b.published.length⟩, { b with published := b.published ++ [envelope] })

/-- The envelope of an event as it is now. -/
def payload (b : Bus) (event : Event) : Envelope :=
  b.published.getD event.index []

/-- An entry of the envelope of an event set. -/
def set (b : Bus) (event : Event) (key : String) (value : Datum) : Bus :=
  { b with published := b.published.modify event.index fun e ↦ Datum.put e key value }

/-- No handler is subscribed twice to a type of event. -/
def WellFormed (b : Bus) : Prop := b.subscriptions.Nodup

theorem wellFormed_empty : empty.WellFormed := List.nodup_nil

theorem wellFormed_subscribe {b : Bus} (h : b.WellFormed) (event : String) (handler : Handler) :
    (b.subscribe event handler).WellFormed := by
  unfold subscribe WellFormed at *
  split
  · exact h
  · rename_i hn
    rw [List.nodup_append]
    exact ⟨h, by simp, fun a ha b hb heq ↦ hn (by simp_all)⟩

theorem wellFormed_unsubscribe {b : Bus} (h : b.WellFormed) (event : String) (handler : Handler) :
    (b.unsubscribe event handler).WellFormed := by
  unfold unsubscribe WellFormed at *
  exact h.erase _

end Bus
end BundleLedger
