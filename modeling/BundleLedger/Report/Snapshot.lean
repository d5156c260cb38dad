import BundleLedger.Bundle.Record
import BundleLedger.Failure

/-!
# How snapshots and failures are reported

Accounts, bundles, transitions and bundle records as they stand in answers, with every field by its
name; and failures by their name, with as much of the text, the identifiers and the cause as each kind of
failure shows.
-/

set_option autoImplicit false

namespace BundleLedger.Report

/-! ### Failures -/

/-- A complaint about a field: its location with points between, and the issue. -/
def fieldError (e : FieldError) : Datum :=
  .list [.text (String.intercalate "." e.location), .text e.issue.code]

/-- All complaints about a record. -/
def fieldErrors (errors : List FieldError) : Datum :=
  .dict [("error", .text "ValidationError"), ("errors", .list (errors.map fieldError))]

/-- The cause of an error. The texts of expired waits are left out. -/
def causeSummary (c : Cause) : Datum :=
  let text :=
    match c with
    | .fault .timeout _ => none
    | _ => c.text?
  .dict [("kind", .text c.name), ("message", .ofText? text)]

def refreshError (e : RefreshError) : Datum :=
  .dict
    [("error", .text e.name), ("message", .text e.text), ("account_id", .ofUuid? e.account),
      ("bundle_id", .ofUuid? e.bundle), ("cause", (e.cause.map causeSummary).getD .null),
      ("chained", .bool (e.chained = e.cause))]

/-- A cause as an answer of its own. The texts of numbers out of range are left out. -/
def cause : Cause → Datum
  | .fault .overflow _ => .dict [("error", .text FaultKind.overflow.name)]
  | .fault kind text => .dict [("error", .text kind.name), ("message", .text text)]
  | .invalid first others => fieldErrors (first :: others)
  | .database f => .dict [("error", .text f.name)]
  | .arithmetic f => .dict [("error", .text f.name)]

def failure : Failure → Datum
  | .refresh e => refreshError e
  | .cause c => cause c

/-- The answer of a computation, or its failure. -/
def outcome {α : Type} (write : α → Datum) : Except Failure α → Datum
  | .ok value => write value
  | .error f => failure f

/-! ### Snapshots -/

def timestamp (t : Timestamp) : Datum :=
  .text t.text

def category (c : Option ProductCategory) : Datum :=
  .ofText? (c.map ProductCategory.text)

def account (a : Account) : Datum :=
  .dict [("id", .uuid a.id), ("external_key", .text a.externalKey), ("name", .ofText? a.name),
    ("currency", .ofText? a.currency)]

def subscription (s : Subscription) : Datum :=
  .dict [("id", .uuid s.id), ("bundle_id", .uuid s.bundle),
    ("base_entitlement_id", .uuid s.baseEntitlement),
    ("last_active_product_category", category s.lastActiveCategory),
    ("charged_through_date", .ofDate? s.chargedThrough)]

def bundle (b : Bundle) : Datum :=
  .dict [("id", .uuid b.id), ("external_key", .text b.externalKey), ("account_id", .uuid b.account),
    ("created_date", timestamp b.created),
    ("subscriptions", .list (b.subscriptions.map subscription))]

def auditLog (a : AuditLog) : Datum :=
  .dict [("created_by", .ofText? a.createdBy), ("reason_code", .ofText? a.reasonCode),
    ("comments", .ofText? a.comments),
    ("created_date", (a.created.map timestamp).getD .null)]

/-- The fields of a plan before its amounts, with a name in front of each. -/
def planHead {Category Amount : Type} (lead : String) (write : Option Category → Datum)
    (p : PlanState Category Amount) : List (String × Datum) :=
  [(lead ++ "product_name", .ofText? p.productName), (lead ++ "product_type", .ofText? p.productType),
    (lead ++ "product_category", write p.productCategory), (lead ++ "slug", .ofText? p.slug),
    (lead ++ "phase", .ofText? p.phase), (lead ++ "billing_period", .ofText? p.billingPeriod),
    (lead ++ "price_list", .ofText? p.priceList)]

/-- The fields of a plan after its amounts. -/
def planTail {Category Amount : Type} (lead : String) (p : PlanState Category Amount) :
    List (String × Datum) :=
  [(lead ++ "currency", .ofText? p.currency), (lead ++ "service", .ofText? p.service),
    (lead ++ "state", .ofText? p.state), (lead ++ "start_date", .ofDate? p.start),
    (lead ++ "end_date", .ofDate? p.finish)]

def transition (t : Transition) : Datum :=
  .dict ([("record_id", .int t.recordId), ("bundle_id", .uuid t.bundle),
      ("bundle_external_key", .text t.bundleExternalKey), ("subscription_id", .uuid t.subscription),
      ("event", .text t.event)] ++ planHead "next_" category t.next ++
    [("next_price", .ofDecimal? t.next.price), ("next_mrr", .ofDecimal? t.next.mrr)] ++
    planTail "next_" t.next)

/-- How the parts of a bundle record that depend on its types are written. -/
structure EntryWriter (Category Amount Instant Group : Type) where
  category : Option Category → Datum
  amount : Option Amount → Datum
  instant : Instant → Datum
  group : Group → Datum

/-- A bundle record. -/
def entry {Category Amount Instant Group : Type} (w : EntryWriter Category Amount Instant Group)
    (r : Entry Category Amount Instant Group) : Datum :=
  .dict ([("account_id", .uuid r.account), ("account_record_id", .int r.accountRecordId),
      ("account_external_key", .text r.accountExternalKey), ("account_name", .ofText? r.accountName),
      ("bundle_id", .uuid r.bundle), ("bundle_record_id", .int r.bundleRecordId),
      ("bundle_external_key", .text r.bundleExternalKey), ("subscription_id", .uuid r.subscription),
      ("bundle_account_rank", .int r.rank),
      ("latest_for_bundle_external_key", .bool r.latestForExternalKey),
      ("charged_through_date", .ofDate? r.chargedThrough)] ++
    planHead "current_" w.category r.current ++
    [("current_price", w.amount r.current.price), ("converted_current_price", w.amount r.convertedPrice),
      ("current_mrr", w.amount r.current.mrr), ("converted_current_mrr", w.amount r.convertedMrr)] ++
    planTail "current_" r.current ++
    [("converted_currency", .text r.convertedCurrency), ("created_date", w.instant r.created),
      ("created_by", .ofText? r.createdBy), ("created_reason_code", .ofText? r.createdReasonCode),
      ("created_comments", .ofText? r.createdComments), ("tenant_record_id", .int r.tenantRecordId),
      ("report_group", w.group r.reportGroup)])

def bundleRecord : BundleRecord → Datum :=
  entry ⟨category, .ofDecimal?, timestamp, fun g ↦ .text g.text⟩

end BundleLedger.Report
