import BundleLedger.Bundle.Record
import BundleLedger.Failure

/-!
# Contexts of an account

What building the records of an account asks of its surroundings: ten lookups, each of which gives
its answer or fails. Numbers and groups are given as they were found, to be checked when a record is
built. A `Stream` is the series of transitions, which may break off with a failure.
-/

set_option autoImplicit false

namespace BundleLedger

/-- The answers to the lookups for one account. -/
structure Context where
  account : Except Failure Account
  accountRecordId : Except Failure (Reading Int)
  tenantRecordId : Except Failure (Reading Int)
  reportGroup : Except Failure (Reading ReportGroup)
  converter : Except Failure Converter
  bundles : Except Failure (List Bundle)
  bundleRecordId : Uuid → Except Failure (Reading Int)
  latestForExternalKey : String → Except Failure Uuid
  creationAudit : Uuid → Except Failure (Option AuditLog)

/-- Transitions in the order of events, then possibly a failure. -/
structure Stream where
  transitions : List Transition
  failure : Option Failure

namespace Stream

def ofList (transitions : List Transition) : Stream := ⟨transitions, none⟩

/-- The series that fails just before the item at an index; a series without that item does not
fail. -/
def failingAt (index : Nat) (failure : Failure) (transitions : List Transition) : Stream :=
  if index < transitions.length then ⟨transitions.take index, some failure⟩ else ofList transitions

/-- All transitions, unless the series fails. -/
def collect (s : Stream) : Except Failure (List Transition) :=
  match s.failure with
  | none => .ok s.transitions
  | some failure => .error failure

end Stream

/-! ### Calls -/

/-- A lookup with its argument. -/
inductive Lookup where
  | account | accountRecordId | tenantRecordId | reportGroup | converter | bundles
  | bundleRecordId (bundle : Uuid)
  | latestForExternalKey (key : String)
  | creationAudit (bundle : Uuid)
deriving DecidableEq, Repr

/-- Where a lookup is made: on the thread that drives the refresh, or on a worker. -/
inductive Side where
  | caller | worker
deriving DecidableEq, Repr

structure Call where
  lookup : Lookup
  side : Side
deriving DecidableEq, Repr

/-- A computation that notes the lookups it makes, in order, and ends with a value or a failure. -/
structure Run (α : Type) where
  calls : List Call
  outcome : Except Failure α

namespace Run

variable {α β : Type}

def pure (value : α) : Run α := ⟨[], .ok value⟩

def fail (failure : Failure) : Run α := ⟨[], .error failure⟩

/-- The outcome of something that makes no lookup. -/
def ofExcept (outcome : Except Failure α) : Run α := ⟨[], outcome⟩

/-- One lookup; it is noted whether or not it fails. -/
def call (side : Side) (lookup : Lookup) (answer : Except Failure α) : Run α :=
  ⟨[⟨lookup, side⟩], answer⟩

def bind (x : Run α) (f : α → Run β) : Run β :=
  match x.outcome with
  | .error failure => ⟨x.calls, .error failure⟩
  | .ok value => ⟨x.calls ++ (f value).calls, (f value).outcome⟩

instance : Monad Run where
  pure := pure
  bind := bind

theorem bind_of_error {x : Run α} {failure : Failure} (f : α → Run β) (h : x.outcome = .error failure) :
    x.bind f = ⟨x.calls, .error failure⟩ := by
  simp [bind, h]

theorem bind_of_ok {x : Run α} {value : α} (f : α → Run β) (h : x.outcome = .ok value) :
    x.bind f = ⟨x.calls ++ (f value).calls, (f value).outcome⟩ := by
  simp [bind, h]

/-- A run for each item in turn, up to the first failure. -/
def each (f : α → Run β) : List α → Run (List β)
  | [] => pure []
  | item :: rest => (f item).bind fun value ↦ (each f rest).bind fun values ↦ pure (value :: values)

/-- The same calls, with the failure changed. -/
def mapFailure (f : Failure → Failure) (x : Run α) : Run α :=
  match x.outcome with
  | .error failure => ⟨x.calls, .error (f failure)⟩
  | .ok value => ⟨x.calls, .ok value⟩

theorem calls_mapFailure (f : Failure → Failure) (x : Run α) : (x.mapFailure f).calls = x.calls := by
  unfold mapFailure
  split <;> rfl

end Run
end BundleLedger
