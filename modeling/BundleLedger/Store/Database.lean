import BundleLedger.Store.Columns

/-!
# The database

The eight tables, any of which may have been dropped. Reading or changing a dropped table is an operational
fault. Statements name their table and columns at run time; queries read typed rows.
-/

set_option autoImplicit false

namespace BundleLedger

/-- The tables by what they hold. A dropped table is none. -/
structure Database where
  accounts : Option (Table AccountRow)
  tags : Option (Table TagRow)
  bundles : Option (Table BundleRow)
  subscriptions : Option (Table SubscriptionRow)
  audits : Option (Table AuditRow)
  transitions : Option (Table TransitionRow)
  rates : Option (Table RateRow)
  entries : Option (Table EntryRow)

/-- The names of the tables. -/
inductive TableName where
  | accounts | tags | bundles | subscriptions | audits | transitions | rates | entries
deriving DecidableEq, Repr

namespace TableName

def text : TableName → String
  | .accounts => "accounts"
  | .tags => "account_tags"
  | .bundles => "bundles"
  | .subscriptions => "subscriptions"
  | .audits => "audit_log"
  | .transitions => "analytics_subscription_transitions"
  | .rates => "analytics_currency_conversion"
  | .entries => "analytics_bundles"

def all : List TableName :=
  [.accounts, .tags, .bundles, .subscriptions, .audits, .transitions, .rates, .entries]

def ofText? (s : String) : Option TableName :=
  all.find? fun name ↦ name.text = s

end TableName

namespace Database

/-- A database with all tables, and no rows. -/
def empty : Database :=
  ⟨some .empty, some .empty, some .empty, some .empty, some .empty, some .empty, some .empty, some .empty⟩

/-- The table itself, unless it has been dropped. -/
def existing {Row : Type} [Stored Row] (t : Option (Table Row)) : Except DatabaseFault (Table Row) :=
  match t with
  | some t => .ok t
  | none => .error .operational

/-- The rows of a table, unless it has been dropped. -/
def rows {Row : Type} [Stored Row] (t : Option (Table Row)) : Except DatabaseFault (List Row) :=
  (existing t).map (·.rows)

/-- Rows in the order of their record numbers. -/
def inOrder {Row : Type} [Stored Row] (rows : List Row) : List Row :=
  rows.mergeSort fun a b ↦ Stored.recordId a ≤ Stored.recordId b

/-! ### Statements -/

/-- What a statement does to a table of whatever rows: the number of rows it concerns, and the table
afterwards. -/
structure Statement where
  run : {Row : Type} → [Stored Row] → Table Row → Except Cause (Nat × Table Row)

namespace Statement

def insert (values : List (List (String × Datum))) : Statement where
  run t := (t.insert values).map fun t ↦ (values.length, t)

def update (conditions changes : List (String × Datum)) : Statement where
  run t := t.update conditions changes

def delete (conditions : List (String × Datum)) : Statement where
  run t := t.delete conditions

/-- The statement on a table that may have been dropped. -/
def runOn {Row : Type} [Stored Row] (s : Statement) (t : Option (Table Row)) :
    Except Cause (Nat × Option (Table Row)) := do
  let (count, t) ← s.run (← (existing t).mapError .database)
  return (count, some t)

end Statement

/-- The number of rows that a statement concerns, and the database afterwards. -/
def execute (db : Database) (name : TableName) (s : Statement) : Except Cause (Nat × Database) :=
  match name with
  | .accounts => (s.runOn db.accounts).map fun (n, accounts) ↦ (n, { db with accounts })
  | .tags => (s.runOn db.tags).map fun (n, tags) ↦ (n, { db with tags })
  | .bundles => (s.runOn db.bundles).map fun (n, bundles) ↦ (n, { db with bundles })
  | .subscriptions =>
    (s.runOn db.subscriptions).map fun (n, subscriptions) ↦ (n, { db with subscriptions })
  | .audits => (s.runOn db.audits).map fun (n, audits) ↦ (n, { db with audits })
  | .transitions => (s.runOn db.transitions).map fun (n, transitions) ↦ (n, { db with transitions })
  | .rates => (s.runOn db.rates).map fun (n, rates) ↦ (n, { db with rates })
  | .entries => (s.runOn db.entries).map fun (n, entries) ↦ (n, { db with entries })

/-- The database without a table, which must be there. -/
def drop (db : Database) : TableName → Except DatabaseFault Database
  | .accounts => (existing db.accounts).map fun _ ↦ { db with accounts := none }
  | .tags => (existing db.tags).map fun _ ↦ { db with tags := none }
  | .bundles => (existing db.bundles).map fun _ ↦ { db with bundles := none }
  | .subscriptions => (existing db.subscriptions).map fun _ ↦ { db with subscriptions := none }
  | .audits => (existing db.audits).map fun _ ↦ { db with audits := none }
  | .transitions => (existing db.transitions).map fun _ ↦ { db with transitions := none }
  | .rates => (existing db.rates).map fun _ ↦ { db with rates := none }
  | .entries => (existing db.entries).map fun _ ↦ { db with entries := none }

/-! ### The records of an account -/

/-- The stored form of an optional amount; amounts of records are numbers. -/
def storedAmount (d : Option Decimal) : Option Amount :=
  d.bind Fixed.ofDecimal?

/-- The stored form of a record. -/
def storedEntry (r : BundleRecord) : Entry String Amount Moment String where
  account := r.account
  accountRecordId := r.accountRecordId
  accountExternalKey := r.accountExternalKey
  accountName := r.accountName
  bundle := r.bundle
  bundleRecordId := r.bundleRecordId
  bundleExternalKey := r.bundleExternalKey
  subscription := r.subscription
  rank := r.rank
  latestForExternalKey := r.latestForExternalKey
  chargedThrough := r.chargedThrough
  current :=
    { r.current with
      productCategory := r.current.productCategory.map ProductCategory.text
      price := storedAmount r.current.price
      mrr := storedAmount r.current.mrr }
  convertedPrice := storedAmount r.convertedPrice
  convertedMrr := storedAmount r.convertedMrr
  convertedCurrency := r.convertedCurrency
  created := r.created.moment
  createdBy := r.createdBy
  createdReasonCode := r.createdReasonCode
  createdComments := r.createdComments
  tenantRecordId := r.tenantRecordId
  reportGroup := r.reportGroup.text

/-- Rows for records, numbered onward from a first number. -/
def entryRows (refreshed : Moment) (first : Int) : List BundleRecord → List EntryRow
  | [] => []
  | r :: rest => ⟨first, storedEntry r, refreshed⟩ :: entryRows refreshed (first + 1) rest

/-- The database with the records of an account replaced by others. -/
def replaceRecords (db : Database) (account : Uuid) (refreshed : Moment) (records : List BundleRecord) :
    Except DatabaseFault Database := do
  let kept := (← existing db.entries).filter fun r ↦ r.entry.account ≠ account
  let entries ← kept.add (entryRows refreshed (Table.nextRecordId kept.rows) records)
  return { db with entries := some entries }

/-- The order of stored records in lists: by rank, then by bundle. -/
def listedBefore (a b : EntryRow) : Bool :=
  a.entry.rank < b.entry.rank ||
    (a.entry.rank == b.entry.rank && a.entry.bundle.toNat ≤ b.entry.bundle.toNat)

/-- The stored records of an account in the order of their ranks. -/
def recordsOf (db : Database) (account : Uuid) : Except DatabaseFault (List EntryRow) :=
  (rows db.entries).map fun rs ↦ (rs.filter fun r ↦ r.entry.account = account).mergeSort listedBefore

end Database
end BundleLedger
