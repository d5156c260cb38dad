import BundleLedger.Reconciliation.Check
import BundleLedger.Store.Snapshot

/-!
# What the checks find

Each check compares the stored records with the transactional side and finds rows that do not agree. A check
may be limited to one account. A check reads every table that it mentions, so it fails when any of them has
been dropped, whatever the rows of the others.
-/

set_option autoImplicit false

namespace BundleLedger

/-- The ranks of the stored records of an account, summed up. -/
structure RankSummary where
  account : Uuid
  count : Nat
  least : Int
  greatest : Int
deriving DecidableEq, Repr

/-- How many stored records of an external key within a tenant are flagged as the latest. -/
structure LatestSummary where
  externalKey : String
  tenantRecordId : Int
  count : Nat
deriving DecidableEq, Repr

/-- A row that a check reports. -/
inductive Finding where
  | bundleMissing (bundle : BundleRow)
  | bundleOrphaned (entry : EntryRow)
  | bundleFields (entry : EntryRow) (bundle : BundleRow)
  | accountFields (entry : EntryRow) (account : AccountRow)
  | creationAudit (entry : EntryRow) (audit : AuditRow)
  | chargedThrough (entry : EntryRow) (expected : Option Date)
  | ranks (summary : RankSummary)
  | latest (summary : LatestSummary)
deriving DecidableEq, Repr

namespace Finding

open Database (rows inOrder isCreation)

/-- Whether an account is within the limits of a check. -/
def inScope (scope : Option Uuid) (account : Uuid) : Bool :=
  match scope with
  | some id => account = id
  | none => true

/-! ### Bundles without a record, and records without a bundle -/

/-- Whether a bundle has a transition of a base subscription: of the base entitlement of any subscription. -/
def hasBaseTransition (transitions : List TransitionRow) (subscriptions : List SubscriptionRow)
    (b : BundleRow) : Bool :=
  transitions.any fun t ↦ t.bundle = b.id && subscriptions.any fun s ↦ s.baseEntitlement = t.subscription

/-- The bundles with a base transition and without a record, in the order of their record numbers. -/
def bundlesMissing (db : Database) (scope : Option Uuid) : Except DatabaseFault (List BundleRow) := do
  let bundles ← rows db.bundles
  let transitions ← rows db.transitions
  let subscriptions ← rows db.subscriptions
  let entries ← rows db.entries
  return inOrder (bundles.filter fun b ↦
    inScope scope b.account && hasBaseTransition transitions subscriptions b &&
      !entries.any fun r ↦ r.entry.bundle = b.id)

/-- The stored records within the limits. -/
def entriesIn (db : Database) (scope : Option Uuid) : Except DatabaseFault (List EntryRow) := do
  return (← rows db.entries).filter fun r ↦ inScope scope r.entry.account

/-- The records of bundles that do not exist. -/
def bundlesOrphaned (db : Database) (scope : Option Uuid) : Except DatabaseFault (List EntryRow) := do
  let entries ← entriesIn db scope
  let bundles ← rows db.bundles
  return entries.filter fun r ↦ !bundles.any fun b ↦ b.id = r.entry.bundle

/-! ### Fields that differ -/

/-- Whether a record disagrees with its bundle. -/
def bundleDiffers (e : Entry String Amount Moment String) (b : BundleRow) : Bool :=
  e.bundleExternalKey ≠ b.externalKey || e.bundleRecordId ≠ b.recordId || e.account ≠ b.account ||
    e.created ≠ b.created

/-- The records that disagree with their bundle. -/
def bundleFieldsOf (db : Database) (scope : Option Uuid) :
    Except DatabaseFault (List (EntryRow × BundleRow)) := do
  let entries ← entriesIn db scope
  let bundles ← rows db.bundles
  return entries.flatMap fun r ↦
    (bundles.filter fun b ↦ b.id = r.entry.bundle && bundleDiffers r.entry b).map fun b ↦ (r, b)

/-- Whether a record disagrees with its account. -/
def accountDiffers (e : Entry String Amount Moment String) (a : AccountRow) : Bool :=
  e.accountRecordId ≠ a.recordId || e.accountExternalKey ≠ a.externalKey || e.accountName ≠ a.name ||
    e.tenantRecordId ≠ a.tenantRecordId

/-- The records that disagree with their account. -/
def accountFieldsOf (db : Database) (scope : Option Uuid) :
    Except DatabaseFault (List (EntryRow × AccountRow)) := do
  let entries ← entriesIn db scope
  let accounts ← rows db.accounts
  return entries.flatMap fun r ↦
    (accounts.filter fun a ↦ a.id = r.entry.account && accountDiffers r.entry a).map fun a ↦ (r, a)

/-- Whether a record disagrees with an audit entry. -/
def auditDiffers (e : Entry String Amount Moment String) (a : AuditRow) : Bool :=
  e.createdBy ≠ a.createdBy || e.createdReasonCode ≠ a.reasonCode || e.createdComments ≠ a.comments

/-- The records with each audit entry of the creation of their bundle that they disagree with. -/
def creationAuditsOf (db : Database) (scope : Option Uuid) :
    Except DatabaseFault (List (EntryRow × AuditRow)) := do
  let entries ← entriesIn db scope
  let bundles ← rows db.bundles
  let audits ← rows db.audits
  return entries.flatMap fun r ↦
    (bundles.filter fun b ↦ b.id = r.entry.bundle).flatMap fun b ↦
      (audits.filter fun a ↦
        a.targetRecordId = b.recordId && isCreation a && auditDiffers r.entry a).map fun a ↦ (r, a)

/-- The subscription whose charged period a record should show: of those of its bundle whose last active
category is the base one, the one with the least record number. -/
def firstBase? (subscriptions : List SubscriptionRow) (bundle : Uuid) : Option SubscriptionRow :=
  (inOrder (subscriptions.filter fun s ↦
    s.bundle = bundle && s.lastActiveCategory = some ProductCategory.base.text)).head?

/-- The records whose charged period is not that of the first base subscription, with the expected date. -/
def chargedThroughOf (db : Database) (scope : Option Uuid) :
    Except DatabaseFault (List (EntryRow × Option Date)) := do
  let entries ← entriesIn db scope
  let subscriptions ← rows db.subscriptions
  return (entries.map fun r ↦
    (r, (firstBase? subscriptions r.entry.bundle).bind (·.chargedThrough))).filter fun (r, expected) ↦
      r.entry.chargedThrough ≠ expected

/-! ### Groups of records -/

/-- The ranks of the records of an account, summed up. -/
def rankSummary (entries : List EntryRow) (account : Uuid) : RankSummary :=
  let ranks := (entries.filter fun r ↦ r.entry.account = account).map fun r ↦ r.entry.rank
  ⟨account, ranks.length, ranks.min?.getD 0, ranks.max?.getD 0⟩

/-- The number of different ranks of an account. -/
def distinctRanks (entries : List EntryRow) (account : Uuid) : Nat :=
  ((entries.filter fun r ↦ r.entry.account = account).map fun r ↦ r.entry.rank).eraseDups.length

/-- Whether the ranks of an account are not those from one to their number, judged by the least, the
greatest and the number of different ones. -/
def isSparse (entries : List EntryRow) (account : Uuid) : Bool :=
  let s := rankSummary entries account
  s.least ≠ 1 || s.greatest ≠ s.count || distinctRanks entries account ≠ s.count

/-- The accounts whose ranks are not dense, each once. -/
def sparseRanks (db : Database) (scope : Option Uuid) : Except DatabaseFault (List RankSummary) := do
  let entries ← entriesIn db scope
  return ((entries.map fun r ↦ r.entry.account).eraseDups.filter (isSparse entries)).map
    (rankSummary entries)

/-- The external key and the tenant of a record. -/
def keyOf (r : EntryRow) : String × Int :=
  (r.entry.bundleExternalKey, r.entry.tenantRecordId)

/-- The flags of the records of a key and a tenant, summed up. -/
def latestSummary (entries : List EntryRow) (key : String × Int) : LatestSummary :=
  ⟨key.1, key.2, entries.countP fun r ↦ keyOf r = key && r.entry.latestForExternalKey⟩

/-- Whether a key and a tenant both occur among the records of an account. -/
def occursIn (entries : List EntryRow) (scope : Option Uuid) (key : String × Int) : Bool :=
  match scope with
  | none => true
  | some id =>
    let own := entries.filter fun r ↦ r.entry.account = id
    own.any (fun r ↦ r.entry.bundleExternalKey = key.1) && own.any fun r ↦ r.entry.tenantRecordId = key.2

/-- The external keys within tenants of which not exactly one record is flagged as the latest, each once.
The records of all accounts count, also when the check is limited to one. -/
def latestFlags (db : Database) (scope : Option Uuid) : Except DatabaseFault (List LatestSummary) := do
  let entries ← rows db.entries
  let keys := (entries.map keyOf).eraseDups.filter (occursIn entries scope)
  return (keys.map (latestSummary entries)).filter fun s ↦ s.count ≠ 1

/-! ### All checks -/

/-- What a check finds. -/
def find (db : Database) (scope : Option Uuid) : Check → Except DatabaseFault (List Finding)
  | .bundlesMissing => (bundlesMissing db scope).map fun found ↦ found.map .bundleMissing
  | .bundlesOrphaned => (bundlesOrphaned db scope).map fun found ↦ found.map .bundleOrphaned
  | .bundleFields => (bundleFieldsOf db scope).map fun found ↦ found.map fun (r, b) ↦ .bundleFields r b
  | .accountFields => (accountFieldsOf db scope).map fun found ↦ found.map fun (r, a) ↦ .accountFields r a
  | .creationAudit => (creationAuditsOf db scope).map fun found ↦ found.map fun (r, a) ↦ .creationAudit r a
  | .chargedThroughDate =>
    (chargedThroughOf db scope).map fun found ↦ found.map fun (r, day) ↦ .chargedThrough r day
  | .rankDensity => (sparseRanks db scope).map fun found ↦ found.map .ranks
  | .latestForExternalKey => (latestFlags db scope).map fun found ↦ found.map .latest

/-! ### Cells -/

/-- The cells of a reported row. -/
def cells : Finding → Cells
  | .bundleMissing b =>
    [("bundle_id", .uuid b.id), ("account_id", .uuid b.account), ("external_key", .text b.externalKey)]
  | .bundleOrphaned r => [("bundle_id", .uuid r.entry.bundle), ("account_id", .uuid r.entry.account)]
  | .bundleFields r b =>
    [("bundle_id", .uuid r.entry.bundle), ("bundle_external_key", .text r.entry.bundleExternalKey),
      ("expected_bundle_external_key", .text b.externalKey),
      ("bundle_record_id", .int r.entry.bundleRecordId), ("expected_bundle_record_id", .int b.recordId)]
  | .accountFields r a =>
    [("bundle_id", .uuid r.entry.bundle), ("account_id", .uuid r.entry.account),
      ("account_record_id", .int r.entry.accountRecordId), ("expected_account_record_id", .int a.recordId),
      ("account_external_key", .text r.entry.accountExternalKey),
      ("expected_account_external_key", .text a.externalKey)]
  | .creationAudit r a =>
    [("bundle_id", .uuid r.entry.bundle), ("created_by", .ofOption .text r.entry.createdBy),
      ("expected_created_by", .ofOption .text a.createdBy),
      ("created_reason_code", .ofOption .text r.entry.createdReasonCode),
      ("expected_reason_code", .ofOption .text a.reasonCode),
      ("created_comments", .ofOption .text r.entry.createdComments),
      ("expected_comments", .ofOption .text a.comments)]
  | .chargedThrough r expected =>
    [("bundle_id", .uuid r.entry.bundle), ("charged_through_date", .ofOption .date r.entry.chargedThrough),
      ("expected_charged_through_date", .ofOption .date expected)]
  | .ranks s =>
    [("account_id", .uuid s.account), ("bundle_count", .int s.count), ("min_rank", .int s.least),
      ("max_rank", .int s.greatest)]
  | .latest s =>
    [("bundle_external_key", .text s.externalKey), ("tenant_record_id", .int s.tenantRecordId),
      ("latest_count", .int s.count)]

/-- The bundle whose record a row is about. -/
def bundle? : Finding → Option Uuid
  | .bundleMissing b => some b.id
  | .bundleOrphaned r | .bundleFields r _ | .accountFields r _ | .creationAudit r _
  | .chargedThrough r _ => some r.entry.bundle
  | .ranks _ | .latest _ => none

end Finding
end BundleLedger
