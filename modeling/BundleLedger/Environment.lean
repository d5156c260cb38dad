import BundleLedger.Datum.Display
import BundleLedger.Failure
import BundleLedger.Settings

/-!
# The environment

Variables of the process by name, from which the settings are read: names are compared without regard to case
and unknown ones are ignored. A variable has a name without an equals sign and a text for its value, and
neither holds a zero character.
-/

set_option autoImplicit false

namespace BundleLedger

/-- Environment variables by name, in the order in which they were first set. -/
abbrev Environment := List (String × String)

namespace Environment

/-- The environment with a variable set. -/
def set (env : Environment) (name value : String) : Environment :=
  match env with
  | [] => [(name, value)]
  | entry :: rest => if entry.1 = name then (name, value) :: rest else entry :: set rest name value

/-- The environment with a variable set to a value, unless no variable can be so named or have that
value. -/
def assign (env : Environment) (name : String) (value : Datum) : Except Cause Environment :=
  match value with
  | .text value =>
    if '\x00' ∈ name.toList ∨ '\x00' ∈ value.toList then .error (.fault .value "embedded null byte")
    else if '=' ∈ name.toList then .error (.fault .value "illegal environment variable name")
    else if name = "" then .error (.fault .os "[Errno 22] Invalid argument")
    else .ok (env.set name value)
  | d => .error (.fault .type ("str expected, not " ++ d.kindName))

/-- The variables as fields, their names in small letters; of names that fall together the last
counts. -/
def fields (env : Environment) : List (String × Datum) :=
  env.foldl (fun e (name, value) ↦ Datum.put e (Text.lowerName name) (.text value)) []

/-- Whether a field is set. -/
def sets (env : Environment) (name : String) : Bool :=
  (Datum.lookup env.fields name).isSome

/-- The settings that the environment gives. -/
def settings (env : Environment) : Validated Settings :=
  Settings.ofEntries env.fields

end Environment
end BundleLedger
