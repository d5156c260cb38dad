import BundleLedger.Validation.Field

/-!
# Snapshots of accounts and bundles

What the transactional side knows of an account: the account, its bundles with their subscriptions,
the audit entries of their creation and the transitions of the subscriptions. Each comes with a
reader that checks every field.
-/

set_option autoImplicit false

namespace BundleLedger

/-- The category of a product. -/
inductive ProductCategory where
  | base | addOn | standalone
deriving DecidableEq, Repr

namespace ProductCategory

def text : ProductCategory → String
  | .base => "BASE"
  | .addOn => "ADD_ON"
  | .standalone => "STANDALONE"

def ofText? (s : String) : Option ProductCategory :=
  [ProductCategory.base, .addOn, .standalone].find? fun category ↦ category.text = s

end ProductCategory

/-- The group of accounts that a report counts an account in. -/
inductive ReportGroup where
  | default | test | partner
deriving DecidableEq, Repr

namespace ReportGroup

def text : ReportGroup → String
  | .default => "default"
  | .test => "test"
  | .partner => "partner"

def ofText? (s : String) : Option ReportGroup :=
  [ReportGroup.default, .test, .partner].find? fun group ↦ group.text = s

end ReportGroup

structure Account where
  id : Uuid
  externalKey : String
  name : Option String
  currency : Option String
deriving DecidableEq, Repr

structure Subscription where
  id : Uuid
  bundle : Uuid
  baseEntitlement : Uuid
  lastActiveCategory : Option ProductCategory
  chargedThrough : Option Date
deriving DecidableEq, Repr

/-- A bundle of subscriptions of one account. -/
structure Bundle where
  id : Uuid
  externalKey : String
  account : Uuid
  created : Timestamp
  subscriptions : List Subscription
deriving DecidableEq, Repr

/-- Who created something, and why. -/
structure AuditLog where
  createdBy : Option String
  reasonCode : Option String
  comments : Option String
  created : Option Timestamp
deriving DecidableEq, Repr

/-- The plan of a subscription from some day on. -/
structure PlanState (Category Amount : Type) where
  productName : Option String
  productType : Option String
  productCategory : Option Category
  slug : Option String
  phase : Option String
  billingPeriod : Option String
  priceList : Option String
  price : Option Amount
  mrr : Option Amount
  currency : Option String
  service : Option String
  state : Option String
  start : Option Date
  finish : Option Date
deriving DecidableEq, Repr

/-- A change of a subscription, with the plan that follows it. -/
structure Transition where
  recordId : Int
  bundle : Uuid
  bundleExternalKey : String
  subscription : Uuid
  event : String
  next : PlanState ProductCategory Decimal
deriving DecidableEq, Repr

/-! ### Readers -/

def Account.read : Datum → Validated Account :=
  Entries.record .attributes fun e ↦
    Account.mk <$> Entries.required e "id" Field.uuid
      <*> Entries.required e "external_key" Field.text
      <*> Entries.optional e "name" Field.text
      <*> Entries.optional e "currency" Field.text

def Subscription.read : Datum → Validated Subscription :=
  Entries.record .attributes fun e ↦
    Subscription.mk <$> Entries.required e "id" Field.uuid
      <*> Entries.required e "bundle_id" Field.uuid
      <*> Entries.required e "base_entitlement_id" Field.uuid
      <*> Entries.optional e "last_active_product_category" (Field.choice ProductCategory.ofText?)
      <*> Entries.optional e "charged_through_date" Field.date

def Bundle.read : Datum → Validated Bundle :=
  Entries.record .attributes fun e ↦
    Bundle.mk <$> Entries.required e "id" Field.uuid
      <*> Entries.required e "external_key" Field.text
      <*> Entries.required e "account_id" Field.uuid
      <*> Entries.required e "created_date" Field.timestamp
      <*> Entries.items e "subscriptions" .tupleType Subscription.read

def AuditLog.read : Datum → Validated AuditLog :=
  Entries.record .attributes fun e ↦
    AuditLog.mk <$> Entries.optional e "created_by" Field.text
      <*> Entries.optional e "reason_code" Field.text
      <*> Entries.optional e "comments" Field.text
      <*> Entries.optional e "created_date" Field.timestamp

/-- The plan after a transition, from the fields whose names start with `next_`. -/
def PlanState.readNext (e : List (String × Datum)) : Validated (PlanState ProductCategory Decimal) :=
  PlanState.mk <$> Entries.optional e "next_product_name" Field.text
    <*> Entries.optional e "next_product_type" Field.text
    <*> Entries.optional e "next_product_category" (Field.choice ProductCategory.ofText?)
    <*> Entries.optional e "next_slug" Field.text
    <*> Entries.optional e "next_phase" Field.text
    <*> Entries.optional e "next_billing_period" Field.text
    <*> Entries.optional e "next_price_list" Field.text
    <*> Entries.optional e "next_price" Field.decimal
    <*> Entries.optional e "next_mrr" Field.decimal
    <*> Entries.optional e "next_currency" Field.text
    <*> Entries.optional e "next_service" Field.text
    <*> Entries.optional e "next_state" Field.text
    <*> Entries.optional e "next_start_date" Field.date
    <*> Entries.optional e "next_end_date" Field.date

def Transition.read : Datum → Validated Transition :=
  Entries.record .attributes fun e ↦
    Transition.mk <$> Entries.required e "record_id" Field.integer
      <*> Entries.required e "bundle_id" Field.uuid
      <*> Entries.required e "bundle_external_key" Field.text
      <*> Entries.required e "subscription_id" Field.uuid
      <*> Entries.required e "event" Field.text
      <*> PlanState.readNext e

end BundleLedger
