import BundleLedger.Datum.Conversion
import BundleLedger.Settings
import BundleLedger.Text.Case

/-!
# Log thresholds

The level from which on records are written. A logger is configured once; what is asked of it later
changes nothing until its configuration is forgotten.
-/

set_option autoImplicit false

namespace BundleLedger

/-- The number of a level name in capitals. -/
def levelNumber? : String → Option Nat
  | "CRITICAL" | "FATAL" => some 50
  | "ERROR" => some 40
  | "WARNING" | "WARN" => some 30
  | "INFO" => some 20
  | "DEBUG" => some 10
  | "NOTSET" => some 0
  | _ => none

/-- The number of a level name in any case; an unknown name counts as information. -/
def levelNumber (name : String) : Nat :=
  (levelNumber? (Text.upper name)).getD 20

/-- The state of the root logger. -/
structure RootLogger where
  configured : Bool
  level : Nat
  handlers : Nat
deriving DecidableEq, Repr

namespace RootLogger

/-- The logger as the running application has it: configured for information, with a handler of its
own and one more. -/
def running : RootLogger := ⟨true, 20, 2⟩

/-- A logger that may be configured again. -/
def forget (l : RootLogger) : RootLogger :=
  { l with configured := false }

/-- The logger at a level, with a single handler, unless it is configured already. -/
def configure (l : RootLogger) (level : Nat) : RootLogger :=
  if l.configured then l else ⟨true, level, 1⟩

/-- The logger configured for a level by name, or for the one in the settings if none is given. Neither is
looked at unless it is needed. -/
def configureFor (l : RootLogger) (level : Datum) (settings : Validated Settings) :
    Except Cause RootLogger :=
  if l.configured then .ok l
  else
    match level with
    | .null => settings.orCause.map fun s ↦ l.configure (levelNumber s.logLevel)
    | d => d.code.map fun name ↦ l.configure (levelNumber name)

end RootLogger
end BundleLedger
