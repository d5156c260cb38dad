import BundleLedger.Reconciliation.Finding
import BundleLedger.Telemetry.Meter

/-!
# A run of all checks

The checks run in a fixed order. Each that finds something is counted and logged at once, so when a later
check fails for want of a table, the earlier ones have left their traces.
-/

set_option autoImplicit false

namespace BundleLedger

/-- What one check found. -/
structure CheckResult where
  check : Check
  findings : List Finding
deriving Repr

/-- A run of the checks: their results or the fault that ended it, and what was observed. -/
structure Reconciliation where
  outcome : Except DatabaseFault (List CheckResult)
  telemetry : Telemetry

namespace Reconciliation

/-- What is observed when a check has found something. -/
def observed (scope : Option Uuid) (correlation : Option String) (r : CheckResult) : Telemetry :=
  if r.findings.isEmpty then .none
  else
    { logs := [⟨.checkFailed r.check r.findings.length scope, correlation⟩]
      increments := [⟨.mismatches r.check, r.findings.length⟩]
      spans := [] }

/-- The checks in turn, up to the first fault. -/
def runChecks (db : Database) (scope : Option Uuid) (correlation : Option String) :
    List Check → Reconciliation
  | [] => ⟨.ok [], .none⟩
  | check :: rest =>
    match Finding.find db scope check with
    | .error fault => ⟨.error fault, .none⟩
    | .ok findings =>
      let result : CheckResult := ⟨check, findings⟩
      let others := runChecks db scope correlation rest
      ⟨others.outcome.map (result :: ·), observed scope correlation result ++ others.telemetry⟩

/-- All checks, possibly limited to one account. -/
def run (db : Database) (scope : Option Uuid) (correlation : Option String) : Reconciliation :=
  runChecks db scope correlation Check.all

/-- Whether no check found anything. -/
def passed (results : List CheckResult) : Bool :=
  results.all fun r ↦ r.findings.isEmpty

end Reconciliation
end BundleLedger
