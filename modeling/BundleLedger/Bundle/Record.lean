import BundleLedger.Bundle.Snapshot
import BundleLedger.Currency

/-!
# Bundle records

The denormalized record of one bundle of an account: the account, the bundle, its rank, the current
plan with its amounts in both currencies, and the circumstances of its creation. A record is built
only from values that fit its schema; otherwise every misfit is reported in the order of the fields.
-/

set_option autoImplicit false

namespace BundleLedger

/-- The end of the charged period: that of the first subscription whose last active category is the
base one. -/
def Bundle.chargedThrough (b : Bundle) : Option Date :=
  (b.subscriptions.find? fun s ↦ s.lastActiveCategory = some .base).bind (·.chargedThrough)

/-- The fields of a bundle record over the types of its product category, amounts, point in time of
creation and report group. -/
structure Entry (Category Amount Instant Group : Type) where
  account : Uuid
  accountRecordId : Int
  accountExternalKey : String
  accountName : Option String
  bundle : Uuid
  bundleRecordId : Int
  bundleExternalKey : String
  subscription : Uuid
  rank : Int
  latestForExternalKey : Bool
  chargedThrough : Option Date
  current : PlanState Category Amount
  convertedPrice : Option Amount
  convertedMrr : Option Amount
  convertedCurrency : String
  created : Instant
  createdBy : Option String
  createdReasonCode : Option String
  createdComments : Option String
  tenantRecordId : Int
  reportGroup : Group
deriving DecidableEq, Repr

/-- A bundle record. -/
abbrev BundleRecord := Entry ProductCategory Decimal Timestamp ReportGroup

namespace BundleRecord

/-- A record from the entries of a dictionary. -/
def read : Datum → Validated BundleRecord :=
  Entries.record .attributes fun e ↦
    let nullable {α : Type} (name : String) (reader : Datum → Reading α) :=
      Entries.required e name (Field.optional reader)
    let assemble :=
      (fun account accountRecordId accountExternalKey accountName bundle bundleRecordId
          bundleExternalKey subscription rank latest charged ↦
        (fun name type category slug phase period list price convertedPrice mrr convertedMrr currency
            service state startDate endDate convertedCurrency created createdBy reason comments tenant
            group ↦
          ({ account, accountRecordId, accountExternalKey, accountName, bundle, bundleRecordId,
             bundleExternalKey, subscription, rank, latestForExternalKey := latest,
             chargedThrough := charged,
             current := ⟨name, type, category, slug, phase, period, list, price, mrr, currency,
               service, state, startDate, endDate⟩,
             convertedPrice, convertedMrr, convertedCurrency, created, createdBy,
             createdReasonCode := reason, createdComments := comments, tenantRecordId := tenant,
             reportGroup := group } : BundleRecord)))
    assemble <$> Entries.required e "account_id" Field.uuid
      <*> Entries.required e "account_record_id" Field.integer
      <*> Entries.required e "account_external_key" Field.text
      <*> nullable "account_name" Field.text
      <*> Entries.required e "bundle_id" Field.uuid
      <*> Entries.required e "bundle_record_id" Field.integer
      <*> Entries.required e "bundle_external_key" Field.text
      <*> Entries.required e "subscription_id" Field.uuid
      <*> Entries.required e "bundle_account_rank" Field.positive
      <*> Entries.required e "latest_for_bundle_external_key" Field.boolean
      <*> nullable "charged_through_date" Field.date
      <*> nullable "current_product_name" Field.text
      <*> nullable "current_product_type" Field.text
      <*> nullable "current_product_category" (Field.choice ProductCategory.ofText?)
      <*> nullable "current_slug" Field.text
      <*> nullable "current_phase" Field.text
      <*> nullable "current_billing_period" Field.text
      <*> nullable "current_price_list" Field.text
      <*> nullable "current_price" Field.decimal
      <*> nullable "converted_current_price" Field.decimal
      <*> nullable "current_mrr" Field.decimal
      <*> nullable "converted_current_mrr" Field.decimal
      <*> nullable "current_currency" Field.text
      <*> nullable "current_service" Field.text
      <*> nullable "current_state" Field.text
      <*> nullable "current_start_date" Field.date
      <*> nullable "current_end_date" Field.date
      <*> Entries.required e "converted_currency" Field.text
      <*> Entries.required e "created_date" Field.timestamp
      <*> nullable "created_by" Field.text
      <*> nullable "created_reason_code" Field.text
      <*> nullable "created_comments" Field.text
      <*> Entries.required e "tenant_record_id" Field.integer
      <*> Entries.required e "report_group" (Field.choice ReportGroup.ofText?)

/-- A field that is already typed, or its issue. -/
def field {α : Type} (name : String) (reading : Reading α) : Validated α :=
  (Validated.ofReading reading).within name

/-- An optional amount, which must be a number. -/
def amount (name : String) : Option Decimal → Validated (Option Decimal)
  | none => .ok none
  | some d => field name ((Field.finite d).map some)

/-- A rank, which starts at one. -/
def rankField (rank : Nat) : Reading Int :=
  if 1 ≤ rank then .ok rank else .error .greaterThanEqual

/-- What a record is made from. The numbers and the group come from a context that does not check
them. -/
structure Draft where
  account : Account
  accountRecordId : Reading Int
  bundle : Bundle
  bundleRecordId : Reading Int
  transition : Transition
  rank : Nat
  isLatest : Bool
  convertedPrice : Option Decimal
  convertedMrr : Option Decimal
  convertedCurrency : String
  creation : Option AuditLog
  tenantRecordId : Reading Int
  reportGroup : Reading ReportGroup

/-- The record a draft makes, or every field that does not fit. -/
def ofDraft (d : Draft) : Validated BundleRecord :=
  (fun accountRecordId bundleRecordId rank price convertedPrice mrr convertedMrr tenantRecordId
      reportGroup ↦
    ({ account := d.account.id
       accountRecordId
       accountExternalKey := d.account.externalKey
       accountName := d.account.name
       bundle := d.bundle.id
       bundleRecordId
       bundleExternalKey := d.bundle.externalKey
       subscription := d.transition.subscription
       rank
       latestForExternalKey := d.isLatest
       chargedThrough := d.bundle.chargedThrough
       current := { d.transition.next with price, mrr }
       convertedPrice
       convertedMrr
       convertedCurrency := d.convertedCurrency
       created := d.bundle.created
       createdBy := d.creation.bind (·.createdBy)
       createdReasonCode := d.creation.bind (·.reasonCode)
       createdComments := d.creation.bind (·.comments)
       tenantRecordId
       reportGroup } : BundleRecord))
    <$> field "account_record_id" d.accountRecordId
    <*> field "bundle_record_id" d.bundleRecordId
    <*> field "bundle_account_rank" (rankField d.rank)
    <*> amount "current_price" d.transition.next.price
    <*> amount "converted_current_price" d.convertedPrice
    <*> amount "current_mrr" d.transition.next.mrr
    <*> amount "converted_current_mrr" d.convertedMrr
    <*> field "tenant_record_id" d.tenantRecordId
    <*> field "report_group" d.reportGroup

end BundleRecord
end BundleLedger
