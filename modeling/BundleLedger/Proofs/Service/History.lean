import BundleLedger.Proofs.Service.Stored

/-!
# Refreshes in sequence

A history is a sequence of calls of a refresh. Between two calls everything may change but the database and the
environment: the pool and the order in which it completes builds, the handlers and their scripts, the clock. Calls
may fail, and handlers may run further refreshes. Whatever the calls, the source tables stay as they are, and the
stored records of each account are as they were or those of its reference list (`History.evolves`).
-/

set_option autoImplicit false

namespace BundleLedger

/-- A call of a refresh: the system in which it is made, the account and the given correlation id. -/
structure RefreshCall where
  before : Service
  account : Uuid
  given : Option String

namespace RefreshCall

/-- The system after a call. -/
def after (call : RefreshCall) : Service :=
  (Service.refresh call.account call.given call.before).2

/-- Whether a call returns. -/
def Returns (call : RefreshCall) : Prop :=
  ∃ result, Service.refresh call.account call.given call.before = (.ok result, call.after)

theorem returns_iff_exists {call : RefreshCall} :
    call.Returns ↔ ∃ result t, Service.refresh call.account call.given call.before = (.ok result, t) := by
  constructor
  · rintro ⟨result, h⟩
    exact ⟨result, _, h⟩
  · rintro ⟨result, t, h⟩
    obtain rfl : call.after = t := congrArg Prod.snd h
    exact ⟨result, h⟩

end RefreshCall

/-- Whether some calls lead from a system to another. Each is made with the database and in the environment that
the call before it left. -/
inductive History : Service → List RefreshCall → Service → Prop
  | nil (s : Service) : History s [] s
  | cons {s t : Service} {call : RefreshCall} {calls : List RefreshCall}
      (hdatabase : call.before.database = s.database) (henvironment : call.before.environment = s.environment)
      (hrest : History call.after calls t) : History s (call :: calls) t

theorem RefreshCall.evolves (call : RefreshCall) : call.before.Evolves call.after :=
  Service.allows_evolves.carries.refresh call.account call.given call.before

namespace History

variable {s t : Service} {calls : List RefreshCall}

/-- A history leaves the source tables as they are, and the stored records of each account as they were or as its
reference list. -/
theorem evolves (h : History s calls t) : s.Evolves t := by
  induction h with
  | nil s => exact .of_eq rfl rfl
  | cons hdatabase henvironment hrest ih =>
    exact (Service.Evolves.of_eq hdatabase henvironment).trans ((RefreshCall.evolves _).trans ih)

end History
end BundleLedger
