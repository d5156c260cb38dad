import BundleLedger.Settings

/-!
# Tracing

The tracer provider of the process. It is made once, by the first call that needs it, from the settings
of that call; exporters are attached once, by the first call that configures tracing while it is
enabled.
-/

set_option autoImplicit false

namespace BundleLedger

/-- What the provider says about the process. -/
structure Resource where
  serviceName : String
  serviceVersion : String
  environment : String
deriving DecidableEq, Repr

namespace Resource

/-- The name of a service that has none. -/
def unknownService : String := "unknown_service"

def ofSettings (s : Settings) : Resource :=
  ⟨if s.otelServiceName = "" then unknownService else s.otelServiceName, s.appVersion, s.appEnv⟩

end Resource

/-- A consumer of finished spans, by where it sends them. -/
inductive Processor where
  | endpoint (address : String)
  | console
  | memory
deriving DecidableEq, Repr

/-- The name of the way in which a processor hands spans on: in batches to an endpoint, one by one
otherwise. -/
def Processor.name : Processor → String
  | .endpoint _ => "BatchSpanProcessor"
  | .console | .memory => "SimpleSpanProcessor"

structure Provider where
  /-- Which of the providers it is that the process has made, counted from zero. -/
  number : Nat
  resource : Resource
  processors : List Processor
deriving DecidableEq, Repr

/-- The tracing state of the process. -/
structure Tracing where
  provider : Option Provider
  exportersAttached : Bool
  /-- The number of providers made so far. -/
  made : Nat
deriving DecidableEq, Repr

namespace Tracing

def fresh : Tracing := ⟨none, false, 0⟩

/-- The provider, made from the settings if there is none. -/
def get (t : Tracing) (s : Settings) : Provider × Tracing :=
  match t.provider with
  | some p => (p, t)
  | none =>
    let p : Provider := ⟨t.made, .ofSettings s, []⟩
    (p, { t with provider := some p, made := t.made + 1 })

/-- The exporters that settings ask for, in the order of attachment. -/
def exporters (s : Settings) : List Processor :=
  (match s.otelEndpoint with
    | some address => if address = "" then [] else [.endpoint address]
    | none => []) ++
  if s.otelConsole then [.console] else []

/-- Tracing configured by settings: nothing happens while they disable it. -/
def configure (t : Tracing) (s : Settings) : Option Provider × Tracing :=
  if s.otelEnabled then
    let (p, t) := t.get s
    if t.exportersAttached then (some p, t)
    else
      let p := { p with processors := p.processors ++ exporters s }
      (some p, { t with provider := some p, exportersAttached := true })
  else (none, t)

/-- A processor that keeps spans in memory added to the provider. -/
def attachMemory (t : Tracing) (s : Settings) : Provider × Tracing :=
  let (p, t) := t.get s
  let p := { p with processors := p.processors ++ [.memory] }
  (p, { t with provider := some p })

/-- A call that concerns the provider. One that need not be given settings comes with the settings that the
environment has at that time. -/
inductive Call where
  | configure (settings : Settings)
  | get (given : Option Settings) (environment : Settings)
  | attachMemory (environment : Settings)

/-- The provider that a call comes to, as it is after the call, and the state then. -/
def answer (t : Tracing) : Call → Option Provider × Tracing
  | .configure s => t.configure s
  | .get given environment =>
    let (p, t) := t.get (given.getD environment)
    (some p, t)
  | .attachMemory environment =>
    let (p, t) := t.attachMemory environment
    (some p, t)

/-- The state after some calls. -/
def after (t : Tracing) (calls : List Call) : Tracing :=
  calls.foldl (fun t call ↦ (t.answer call).2) t

theorem configure_of_disabled (t : Tracing) (s : Settings) (h : s.otelEnabled = false) :
    t.configure s = (none, t) := by
  simp [configure, h]

end Tracing
end BundleLedger
