import BundleLedger.Decimal.Arithmetic
import BundleLedger.Text.Quoted
import BundleLedger.Uuid
import BundleLedger.Validation.Validated

/-!
# Failures

What can go wrong. A `Cause` is a failure that comes from outside the refresh of an account: from a
lookup, a worker, the database, arithmetic or a record that does not fit its schema. A `RefreshError`
says which part of a refresh failed, for which account and bundle, and keeps the cause. The texts of
all of them are here.
-/

set_option autoImplicit false

namespace BundleLedger

/-- Kinds of foreign failures, by the name they carry. -/
inductive FaultKind where
  | runtime | value | key | timeout | lookup | type | os | cancelled | overflow | recursion
  | named (name : String)
deriving DecidableEq, Repr

namespace FaultKind

def name : FaultKind → String
  | .runtime => "RuntimeError"
  | .value => "ValueError"
  | .key => "KeyError"
  | .timeout => "TimeoutError"
  | .lookup => "LookupError"
  | .type => "TypeError"
  | .os => "OSError"
  | .cancelled => "CancelledError"
  | .overflow => "OverflowError"
  | .recursion => "RecursionError"
  | .named name => name

/-- The kinds with a constructor of their own. -/
def known : List FaultKind :=
  [.runtime, .value, .key, .timeout, .lookup, .type, .os, .cancelled, .overflow, .recursion]

def ofName (name : String) : FaultKind :=
  (known.find? fun kind ↦ kind.name = name).getD (.named name)

end FaultKind

/-- How the database refuses a statement. -/
inductive DatabaseFault where
  /-- A row would break a constraint of its table. -/
  | integrity
  /-- A table that the statement names does not exist. -/
  | operational
  /-- A value does not suit its column. -/
  | statement
deriving DecidableEq, Repr

def DatabaseFault.name : DatabaseFault → String
  | .integrity => "IntegrityError"
  | .operational => "OperationalError"
  | .statement => "StatementError"

def Decimal.Fault.name : Decimal.Fault → String
  | .invalidOperation | .unreadable => "InvalidOperation"
  | .overflow => "Overflow"

/-- The condition that a fault signals. -/
def Decimal.Fault.condition : Decimal.Fault → String
  | .unreadable => "ConversionSyntax"
  | f => f.name

/-- A failure from outside. -/
inductive Cause where
  | fault (kind : FaultKind) (text : String)
  | invalid (first : FieldError) (others : List FieldError)
  | database (fault : DatabaseFault)
  | arithmetic (fault : Decimal.Fault)
deriving DecidableEq, Repr

namespace Cause

/-- A failure as its raiser states it: a missing key is shown in quotes. -/
def stated (kind : FaultKind) (message : String) : Cause :=
  .fault kind (if kind = .key then Text.quoted message else message)

/-- No entry for a text key. -/
def missingKey (key : String) : Cause :=
  .fault .key (Text.quoted key)

/-- No entry for an identifier. -/
def missingId (id : Uuid) : Cause :=
  .fault .key ("UUID('" ++ id.text ++ "')")

/-- The length to which a quoted text in a failure is cut. -/
def maxQuotedLength : Nat := 200

/-- A text that names no identifier. -/
def malformedId : Uuid.Malformed → Cause
  | .badLength => .fault .value "badly formed hexadecimal UUID string"
  | .badDigits characters =>
    .fault .value ("invalid literal for int() with base 16: " ++
      Text.cut maxQuotedLength (Text.quoted (String.ofList characters)))

/-- The task was cancelled before it ran. -/
def cancelledTask : Cause :=
  .fault .cancelled ""

/-- The wait ended before every task had completed. -/
def expiredWait : Cause :=
  .fault .timeout ""

/-- The worker pool takes no more tasks. -/
def closedPool : Cause :=
  .fault .runtime "cannot schedule new futures after shutdown"

def name : Cause → String
  | .fault kind _ => kind.name
  | .invalid .. => "ValidationError"
  | .database f => f.name
  | .arithmetic f => f.name

/-- The text, where it is part of an answer: not for schemas and the database, whose texts are left
out. -/
def text? : Cause → Option String
  | .fault _ text => some text
  | .invalid .. => none
  | .database _ => none
  | .arithmetic f => some ("[<class 'decimal." ++ f.condition ++ "'>]")

def isCancellation : Cause → Bool
  | .fault kind _ => kind = .cancelled
  | _ => false

end Cause

/-- The value that was read, or the misfits as a cause. -/
def Validated.orCause {α : Type} : Validated α → Except Cause α
  | .ok value => .ok value
  | .invalid first others => .error (.invalid first others)

/-- What a context loads from the database. -/
inductive Load where
  | account | rates | bundles | recordId | latestBundle | auditLogs | transitions
deriving DecidableEq, Repr

def Load.text : Load → String
  | .account => "account"
  | .rates => "currency conversion rates"
  | .bundles => "account bundles"
  | .recordId => "bundle record id"
  | .latestBundle => "latest bundle for external key"
  | .auditLogs => "bundle audit logs"
  | .transitions => "subscription transitions"

/-- Which part of a refresh failed. -/
inductive RefreshReason where
  | accountNotFound (account : Uuid)
  | unableToLoad (what : Load)
  | bundleNotFound (bundle : Uuid)
  | noBundleForKey (key : String)
  | unableToPrefetch
  | unableToSchedule
  | timedOut
  | lookupFailed (bundle : Uuid)
  | buildCancelled (bundle : Uuid)
  | buildFailed (bundle : Uuid)
  | unableToStore (account : Uuid)
  | stated (text : String)
deriving DecidableEq, Repr

def RefreshReason.text : RefreshReason → String
  | .accountNotFound account => "account " ++ account.text ++ " not found"
  | .unableToLoad what => "unable to load " ++ what.text
  | .bundleNotFound bundle => "bundle " ++ bundle.text ++ " not found"
  | .noBundleForKey key => "no bundle for external key " ++ key
  | .unableToPrefetch => "unable to prefetch bundle context"
  | .unableToSchedule => "unable to schedule bundle build"
  | .timedOut => "timed out waiting for bundle builds"
  | .lookupFailed bundle => "lookup failed for bundle " ++ bundle.text
  | .buildCancelled bundle => "build of bundle " ++ bundle.text ++ " was cancelled"
  | .buildFailed bundle => "build of bundle " ++ bundle.text ++ " failed"
  | .unableToStore account => "unable to store bundles of account " ++ account.text
  | .stated text => text

/-- A failed refresh: the part that failed, the cause if there is one, the account and the bundle as
far as they are known, and the failure that it was raised from. -/
structure RefreshError where
  reason : RefreshReason
  cause : Option Cause := none
  account : Option Uuid := none
  bundle : Option Uuid := none
  chained : Option Cause := none
deriving DecidableEq, Repr

namespace RefreshError

/-- There is no account of this identifier. -/
def accountNotFound (account : Uuid) : RefreshError where
  reason := .accountNotFound account
  account := some account

/-- Whether the error says that the account does not exist. -/
def isAccountNotFound (e : RefreshError) : Bool :=
  match e.reason with
  | .accountNotFound _ => true
  | _ => false

def name (e : RefreshError) : String :=
  if e.isAccountNotFound then "AccountNotFoundError" else "AnalyticsRefreshError"

def text (e : RefreshError) : String :=
  e.reason.text

/-- The error raised from its cause, whatever it was raised from before. -/
def raised (e : RefreshError) : RefreshError :=
  { e with chained := e.cause }

/-- The error with the account and the bundle filled in where they are missing. -/
def fillIn (account bundle : Uuid) (e : RefreshError) : RefreshError :=
  { e with account := some (e.account.getD account), bundle := some (e.bundle.getD bundle) }

theorem chained_raised (e : RefreshError) : e.raised.chained = e.raised.cause := rfl

end RefreshError

/-- Any failure. -/
inductive Failure where
  | refresh (error : RefreshError)
  | cause (cause : Cause)
deriving DecidableEq, Repr

namespace Failure

def name : Failure → String
  | .refresh e => e.name
  | .cause c => c.name

/-- The text, where it is part of an answer. -/
def text? : Failure → Option String
  | .refresh e => some e.text
  | .cause c => c.text?

/-- A failure inside a part of a refresh: an error of the refresh passes, anything else becomes the
cause of a new one. -/
def wrap (error : Cause → RefreshError) : Failure → RefreshError
  | .refresh e => e
  | .cause c => error c

end Failure
end BundleLedger
