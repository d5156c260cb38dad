import BundleLedger.Bundle.Schedule
import BundleLedger.Environment
import BundleLedger.Event.Bus
import BundleLedger.Store.Database
import BundleLedger.Telemetry.Meter

/-!
# The running system

Everything that outlives one call: the database, the environment, the event bus with the scripts that
handlers run, the current correlation id and span, the worker pool, and what has been observed. A
`Procedure` changes the system and ends with a value or a failure; what it changed before it failed stays
changed.
-/

set_option autoImplicit false

namespace BundleLedger

/-- The worker pool that refreshes use: a given one with its schedule, or one that each refresh makes for
itself with as many workers as the settings say, and that hands over its tasks in an order of completion. -/
inductive Pool where
  | given (schedule : Schedule)
  | own (order : List Nat)
deriving DecidableEq, Repr

namespace Pool

/-- Whether each refresh makes the pool for itself. -/
def isOwn : Pool → Bool
  | .given _ => false
  | .own _ => true

/-- The schedule of a pool. A pool that the refresh makes for itself takes at least one worker; it refuses and
cancels no task, and gets through all of them. -/
def schedule (workers : Int) : Pool → Except Cause Schedule
  | .given schedule => .ok schedule
  | .own order =>
    if workers ≤ 0 then .error (.fault .value "max_workers must be greater than 0") else .ok { order }

end Pool

/-- A script that was run, with the event and its envelope at that time. -/
structure Delivery where
  script : String
  event : String
  payload : Envelope

structure Service where
  database : Database
  environment : Environment
  bus : Bus
  scripts : List (String × List Action)
  deliveries : List Delivery
  correlation : Option String
  span : Option SpanKind
  pool : Pool
  telemetry : Telemetry
  /-- The present time in seconds since 1970. -/
  clock : Int
  /-- The number of correlation ids made so far. -/
  generated : Nat

namespace Service

/-- A system with an empty database, no subscriptions and the default settings. -/
def start (clock : Int) : Service where
  database := .empty
  environment := []
  bus := .empty
  scripts := []
  deliveries := []
  correlation := none
  span := none
  pool := .given .fifo
  telemetry := .none
  clock := clock
  generated := 0

/-- The present time. -/
def now (s : Service) : Moment :=
  (Moment.ofEpochMicros? (s.clock * 1000000)).getD .epoch

/-- The system with more observed. -/
def observe (s : Service) (t : Telemetry) : Service :=
  { s with telemetry := s.telemetry ++ t }

/-- The system with a notice logged under the current correlation id. -/
def log (s : Service) (notice : Notice) : Service :=
  s.observe ⟨[⟨notice, s.correlation⟩], [], []⟩

/-- The system with counters increased. -/
def count (s : Service) (increments : List Increment) : Service :=
  s.observe ⟨[], increments, []⟩

/-- The settings of the environment. -/
def settings (s : Service) : Except Cause Settings :=
  s.environment.settings.orCause

end Service

/-- A computation that changes the system and ends with a value or a failure. -/
def Procedure (α : Type) := Service → Except Failure α × Service

namespace Procedure

variable {α β : Type}

def run (p : Procedure α) (s : Service) : Except Failure α × Service := p s

def pure (value : α) : Procedure α := fun s ↦ (.ok value, s)

def fail (failure : Failure) : Procedure α := fun s ↦ (.error failure, s)

def ofExcept (x : Except Failure α) : Procedure α := fun s ↦ (x, s)

/-- One computation, and then the next unless the first failed. -/
def bind (p : Procedure α) (f : α → Procedure β) : Procedure β := fun s ↦
  match p s with
  | (.ok value, t) => f value t
  | (.error failure, t) => (.error failure, t)

instance : Monad Procedure where
  pure := pure
  bind := bind

def get : Procedure Service := fun s ↦ (.ok s, s)

def modify (f : Service → Service) : Procedure Unit := fun s ↦ (.ok (), f s)

def log (notice : Notice) : Procedure Unit := modify (·.log notice)

/-- The computations of a list in turn, up to the first failure. -/
def each (f : α → Procedure Unit) : List α → Procedure Unit
  | [] => pure ()
  | item :: rest => bind (f item) fun _ ↦ each f rest

/-- A computation for its effects. -/
def forget (p : Procedure α) : Procedure Unit := fun s ↦
  let (x, t) := p s
  (x.map fun _ ↦ (), t)

theorem run_bind_of_ok {p : Procedure α} {f : α → Procedure β} {s t : Service} {value : α}
    (h : p s = (.ok value, t)) : bind p f s = f value t := by
  simp [bind, h]

theorem run_bind_of_error {p : Procedure α} {f : α → Procedure β} {s t : Service} {failure : Failure}
    (h : p s = (.error failure, t)) : bind p f s = (.error failure, t) := by
  simp [bind, h]

end Procedure
end BundleLedger
