import BundleLedger.Datum.Display
import BundleLedger.Reconciliation.Check
import BundleLedger.Report.Snapshot

/-!
# Schemas

The schemas by name: reading a value by one of them, writing what was read, and setting fields of it
afterwards. Snapshots refuse every change; the answers of requests take any value without checking it.
-/

set_option autoImplicit false

namespace BundleLedger

/-- The answer of a refresh. -/
structure RefreshRead where
  account : Uuid
  recordCount : Int
  durationMs : Double
  records : List BundleRecord

/-- The answer of one check. -/
structure CheckRead where
  check : Check
  mismatchCount : Int
  rows : List (List (String × Datum))

/-- The answer of all checks. -/
structure ReportRead where
  account : Option Uuid
  passed : Bool
  checks : List CheckRead

def RefreshRead.read : Datum → Validated RefreshRead :=
  Entries.record .modelType fun e ↦
    RefreshRead.mk <$> Entries.required e "account_id" Field.uuid
      <*> Entries.required e "record_count" Field.integer
      <*> Entries.required e "duration_ms" Field.real
      <*> Entries.items e "records" .listType BundleRecord.read

def CheckRead.read : Datum → Validated CheckRead :=
  Entries.record .modelType fun e ↦
    CheckRead.mk <$> Entries.required e "check" (Field.choice Check.ofName?)
      <*> Entries.required e "mismatch_count" Field.integer
      <*> Entries.items e "rows" .listType (Entries.record .dictType .ok)

def ReportRead.read : Datum → Validated ReportRead :=
  Entries.record .modelType fun e ↦
    ReportRead.mk <$> Entries.required e "account_id" (Field.optional Field.uuid)
      <*> Entries.required e "passed" Field.boolean
      <*> Entries.items e "checks" .listType CheckRead.read

def RefreshRead.write (r : RefreshRead) : Datum :=
  .dict [("account_id", .uuid r.account), ("record_count", .int r.recordCount),
    ("duration_ms", .real r.durationMs), ("records", .list (r.records.map Report.bundleRecord))]

def CheckRead.write (c : CheckRead) : Datum :=
  .dict [("check", .text c.check.name), ("mismatch_count", .int c.mismatchCount),
    ("rows", .list (c.rows.map .dict))]

def ReportRead.write (r : ReportRead) : Datum :=
  .dict [("account_id", .ofUuid? r.account), ("passed", .bool r.passed),
    ("checks", .list (r.checks.map CheckRead.write))]

/-- The schemas. -/
inductive Schema where
  | account | subscription | bundle | auditLog | transition | bundleRecord
  | refreshRead | checkRead | reportRead
deriving DecidableEq, Repr

namespace Schema

def name : Schema → String
  | .account => "Account"
  | .subscription => "Subscription"
  | .bundle => "SubscriptionBundle"
  | .auditLog => "AuditLog"
  | .transition => "SubscriptionTransition"
  | .bundleRecord => "BundleRecord"
  | .refreshRead => "BundleRefreshRead"
  | .checkRead => "SanityCheckRead"
  | .reportRead => "SanityReportRead"

def ofName? (name : String) : Option Schema :=
  [Schema.account, .subscription, .bundle, .auditLog, .transition, .bundleRecord, .refreshRead,
    .checkRead, .reportRead].find? fun schema ↦ schema.name = name

/-- Whether values of the schema can be changed. -/
def isMutable : Schema → Bool
  | .refreshRead | .checkRead | .reportRead => true
  | _ => false

/-- A value read by the schema and written with all its fields. -/
def read : Schema → Datum → Validated Datum
  | .account, d => (Account.read d).map Report.account
  | .subscription, d => (Subscription.read d).map Report.subscription
  | .bundle, d => (Bundle.read d).map Report.bundle
  | .auditLog, d => (AuditLog.read d).map Report.auditLog
  | .transition, d => (Transition.read d).map Report.transition
  | .bundleRecord, d => (BundleRecord.read d).map Report.bundleRecord
  | .refreshRead, d => (RefreshRead.read d).map RefreshRead.write
  | .checkRead, d => (CheckRead.read d).map CheckRead.write
  | .reportRead, d => (ReportRead.read d).map ReportRead.write

/-- The failure of setting something that can only be read. -/
def readOnly (schema : Schema) (name : String) : Failure :=
  .cause (.fault (.named "AttributeError")
    ("property '" ++ name ++ "' of '" ++ schema.name ++ "' object has no setter"))

/-- The names of views of a value that are no fields. -/
def views : List String := ["model_extra", "model_fields_set"]

/-- Setting a name that starts with an underscore: it belongs to no field, so nothing is seen of it, but
some of these names are taken. -/
def setHidden (schema : Schema) (name : String) (value : Datum) (entries : List (String × Datum)) :
    Except Failure (List (String × Datum)) :=
  if name = "__class__" then
    .error (.cause (.fault .type ("__class__ must be set to a class, not '" ++ value.kindName ++
      "' object")))
  else if name = "__fields_set__" then .error (schema.readOnly name)
  else if name = "__dict__" then
    match value with
    | .dict chosen =>
      .ok (entries.filterMap fun (field, _) ↦ (Datum.lookup chosen field).map fun d ↦ (field, d))
    | d => .error (.cause (.fault .type ("__dict__ must be set to a dictionary, not a '" ++ d.kindName ++
        "'")))
  else .ok entries

/-- One field set on a value of the schema. -/
def set (schema : Schema) (field : String × Datum) (entries : List (String × Datum)) :
    Except Failure (List (String × Datum)) :=
  let (name, value) := field
  if name = "model_config" then
    .error (.cause (.fault (.named "AttributeError") ("'model_config' is a ClassVar of \x60" ++
      schema.name ++ "\x60 and cannot be set on an instance. If you want to set a value on the class, " ++
      "use \x60" ++ schema.name ++ ".model_config = value\x60.")))
  else if name.toList.head? = some '_' then schema.setHidden name value entries
  else if !schema.isMutable then .error (.cause (.invalid ⟨[name], .frozen⟩ []))
  else if name ∈ views then .error (schema.readOnly name)
  else if (Datum.lookup entries name).isNone then
    .error (.cause (.fault .value (Text.quotedName schema.name ++ " object has no field " ++
      Text.quotedName name)))
  else .ok (Datum.put entries name value)

/-- A value read by the schema, with fields set afterwards in order. -/
def check (schema : Schema) (d : Datum) (changes : List (String × Datum)) : Except Failure Datum :=
  match schema.read d with
  | .invalid first others => .error (.cause (.invalid first others))
  | .ok value => (changes.foldlM (fun entries field ↦ schema.set field entries) value.entries).map .dict

end Schema
end BundleLedger
