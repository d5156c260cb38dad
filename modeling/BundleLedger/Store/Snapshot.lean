import BundleLedger.Store.Database

/-!
# Snapshots from rows

The transactional side as queries see it: accounts with their tags, bundles with their subscriptions in the
order of record numbers, the transitions of an account in the order of events, the rates into a currency and
the audit entries of creations. A category that the schema does not know fails the query.
-/

set_option autoImplicit false

namespace BundleLedger

/-- A stored category, unless the schema does not know it. -/
def ProductCategory.ofStored (field : String) : Option String → Except Cause (Option ProductCategory)
  | none => .ok none
  | some s =>
    match ofText? s with
    | some category => .ok (some category)
    | none => .error (.invalid ⟨[field], .literal⟩ [])

def SubscriptionRow.snapshot (r : SubscriptionRow) : Except Cause Subscription := do
  let lastActiveCategory ← ProductCategory.ofStored "last_active_product_category" r.lastActiveCategory
  return { id := r.id, bundle := r.bundle, baseEntitlement := r.baseEntitlement, lastActiveCategory
           chargedThrough := r.chargedThrough }

def AuditRow.snapshot (r : AuditRow) : AuditLog where
  createdBy := r.createdBy
  reasonCode := r.reasonCode
  comments := r.comments
  created := some (.naive r.created)

def AccountRow.snapshot (r : AccountRow) : Account :=
  ⟨r.id, r.externalKey, r.name, r.currency⟩

def RateRow.snapshot (r : RateRow) : Rate :=
  ⟨r.currency, r.start, r.finish, r.rate.toDecimal⟩

/-- The numeral of a stored amount, unless it is infinite. -/
def Amount.ofStored (field : String) : Option Amount → Except Cause (Option Decimal)
  | none => .ok none
  | some amount =>
    if amount.toDecimal.isFinite then .ok (some amount.toDecimal)
    else .error (.invalid ⟨[field], .finiteNumber⟩ [])

def TransitionRow.snapshot (r : TransitionRow) : Except Cause Transition := do
  let productCategory ← ProductCategory.ofStored "next_product_category" r.next.productCategory
  let price ← Amount.ofStored "next_price" r.next.price
  let mrr ← Amount.ofStored "next_mrr" r.next.mrr
  return { recordId := r.recordId, bundle := r.bundle, bundleExternalKey := r.bundleExternalKey
           subscription := r.subscription, event := r.event
           next := { r.next with
             productCategory, price, mrr } }

namespace Database

/-- The rows of a table, for a query that fails with the fault of a dropped table. -/
def query {Row : Type} [Stored Row] (t : Option (Table Row)) : Except Cause (List Row) :=
  (rows t).mapError .database

/-! ### Accounts -/

/-- An account with its tags in upper case. -/
structure AccountFacts where
  row : AccountRow
  tags : List String

/-- The row of an account. -/
def accountRow? (db : Database) (account : Uuid) : Except Cause (Option AccountRow) := do
  return (← query db.accounts).find? fun r ↦ r.id = account

/-- The tags of an account in upper case. -/
def tagsOf (db : Database) (account : Uuid) : Except Cause (List String) := do
  return ((← query db.tags).filter fun r ↦ r.account = account).map fun r ↦ Text.upper r.name

/-- The group that tags put an account in; the test tag goes before the partner tag. -/
def groupOf (tags : List String) : ReportGroup :=
  if tags.contains "TEST" then .test else if tags.contains "PARTNER" then .partner else .default

/-! ### Bundles -/

/-- A bundle with its subscriptions out of those of all bundles. -/
def bundleOf (subscriptions : List SubscriptionRow) (r : BundleRow) : Except Cause Bundle := do
  let own := inOrder (subscriptions.filter fun s ↦ s.bundle = r.id)
  return { id := r.id, externalKey := r.externalKey, account := r.account, created := .naive r.created
           subscriptions := ← own.mapM SubscriptionRow.snapshot }

/-- The bundle rows of an account in the order of their record numbers. -/
def bundleRowsOf (db : Database) (account : Uuid) : Except Cause (List BundleRow) := do
  return inOrder ((← query db.bundles).filter fun r ↦ r.account = account)

/-- The bundles of an account. Subscriptions are read only if there is a bundle. -/
def bundlesOf (db : Database) (account : Uuid) : Except Cause (List Bundle) := do
  match ← bundleRowsOf db account with
  | [] => return []
  | rs =>
    let subscriptions ← query db.subscriptions
    rs.mapM (bundleOf subscriptions)

/-- The record number of a bundle. -/
def bundleRecordId? (db : Database) (bundle : Uuid) : Except Cause (Option Int) := do
  return ((← query db.bundles).find? fun r ↦ r.id = bundle).map (·.recordId)

/-- Whether a bundle is no newer than another: by creation, then by record number. -/
def notNewer (a b : BundleRow) : Bool :=
  a.created < b.created || (a.created = b.created && a.recordId ≤ b.recordId)

/-- The newest of some bundles. -/
def newest : List BundleRow → Option BundleRow
  | [] => none
  | r :: rest =>
    match newest rest with
    | none => some r
    | some s => if notNewer r s then some s else some r

/-- The newest bundle of an external key within a tenant. -/
def latestBundle? (db : Database) (tenant : Int) (key : String) : Except Cause (Option Bundle) := do
  let candidates := (← query db.bundles).filter fun r ↦ r.externalKey = key && r.tenantRecordId = tenant
  match newest candidates with
  | none => return none
  | some r => some <$> bundleOf (← query db.subscriptions) r

/-! ### Audit entries -/

/-- The name of the table of bundles in audit entries. -/
def auditedBundles : String := "BUNDLES"

/-- Whether an audit entry tells of the creation of a bundle. -/
def isCreation (r : AuditRow) : Bool :=
  r.tableName = auditedBundles && r.changeType = "INSERT"

/-- The audit entries of creations under an account, by the record number of what was created, in the order
of their own record numbers. -/
def creationsOf (db : Database) (accountRecordId : Int) : Except Cause (List (Int × AuditLog)) := do
  let own := (← query db.audits).filter fun r ↦ r.accountRecordId = accountRecordId && isCreation r
  return (inOrder own).map fun r ↦ (r.targetRecordId, r.snapshot)

/-- The first entry of a record number. -/
def creation? (creations : List (Int × AuditLog)) (recordId : Int) : Option AuditLog :=
  (creations.find? fun creation ↦ creation.1 = recordId).map (·.2)

/-! ### Transitions and rates -/

/-- The place of a start in the order of events; transitions without a start come first. -/
def startKey : Option Date → Nat
  | none => 0
  | some day => day.rank + 1

/-- The order of events: by start, then by record number. -/
def happensBefore (a b : TransitionRow) : Bool :=
  startKey a.next.start < startKey b.next.start ||
    (startKey a.next.start = startKey b.next.start && a.recordId ≤ b.recordId)

/-- The transitions of an account in the order of events. -/
def transitionsOf (db : Database) (account : Uuid) : Except Cause (List Transition) := do
  let own := (← query db.transitions).filter fun r ↦ r.account = account
  (own.mergeSort happensBefore).mapM TransitionRow.snapshot

/-- The rates into a currency, whose code must be spelled the same. -/
def ratesInto (db : Database) (reference : String) : Except Cause (List Rate) := do
  let into := (← query db.rates).filter fun r ↦ r.reference = reference
  return (inOrder into).map RateRow.snapshot

end Database
end BundleLedger
