import BundleLedger.Store.Row
import BundleLedger.Store.Table

/-!
# The columns and constraints of each table

The record number never repeats in any table. Besides, no two accounts, bundles or subscriptions share an
identifier, no account has a tag twice, and no account has two records for one bundle.
-/

set_option autoImplicit false

namespace BundleLedger

namespace Column

/-- The column of record numbers. -/
def number : Column := ⟨"record_id", .int, .int⟩

/-- A column that is null unless a value is given. -/
def plain (kind : CellKind) (name : String) : Column := ⟨name, kind, fun _ ↦ .null⟩

/-- The identifier that a new row gets when none is given. -/
def freshId (number : Int) : Uuid :=
  ⟨BitVec.ofInt 128 (0x80000000000000000000000000000000 + number)⟩

/-- The column of identifiers. -/
def identifier : Column := ⟨"id", .uuid, fun number ↦ .uuid (freshId number)⟩

/-- The column of tenants; without a tenant a row belongs to tenant zero. -/
def tenant : Column := ⟨"tenant_record_id", .int, fun _ ↦ .int 0⟩

/-- A column of points in time that are set when a row is inserted. -/
def stamp (name : String) : Column := ⟨name, .moment, fun _ ↦ .moment .epoch⟩

end Column

/-- A property of lists without repetitions under some keys passes to sublists. -/
theorem nodup_map_of_sublist {Row Key : Type} {kept rows : List Row} (key : Row → Key)
    (h : kept.Sublist rows) (hn : (rows.map key).Nodup) : (kept.map key).Nodup :=
  hn.sublist (h.map key)

namespace AccountRow

instance : Stored AccountRow where
  columns := [.number, .identifier, .plain .text "external_key", .plain .text "name",
    .plain .text "currency", .tenant, .stamp "created_date"]
  cells r := [("record_id", .int r.recordId), ("id", .uuid r.id), ("external_key", .text r.externalKey),
    ("name", .ofOption .text r.name), ("currency", .ofOption .text r.currency),
    ("tenant_record_id", .int r.tenantRecordId), ("created_date", .moment r.created)]
  ofCells? c := do
    return {
      recordId := ← (c.get "record_id").int?
      id := ← (c.get "id").uuid?
      externalKey := ← (c.get "external_key").text?
      name := ← (c.get "name").orNull Cell.text?
      currency := ← (c.get "currency").orNull Cell.text?
      tenantRecordId := ← (c.get "tenant_record_id").int?
      created := ← (c.get "created_date").moment? }
  recordId := recordId
  Consistent rows := (rows.map recordId).Nodup ∧ (rows.map id).Nodup
  decideConsistent _ := inferInstance
  nil := by simp
  sublist h := fun ⟨h₁, h₂⟩ ↦ ⟨nodup_map_of_sublist _ h h₁, nodup_map_of_sublist _ h h₂⟩

end AccountRow

namespace TagRow

/-- What no two tags share. -/
def key (r : TagRow) : Uuid × String := (r.account, r.name)

instance : Stored TagRow where
  columns := [.number, .plain .uuid "account_id", .plain .text "name"]
  cells r := [("record_id", .int r.recordId), ("account_id", .uuid r.account), ("name", .text r.name)]
  ofCells? c := do
    return {
      recordId := ← (c.get "record_id").int?
      account := ← (c.get "account_id").uuid?
      name := ← (c.get "name").text? }
  recordId := recordId
  Consistent rows := (rows.map recordId).Nodup ∧ (rows.map key).Nodup
  decideConsistent _ := inferInstance
  nil := by simp
  sublist h := fun ⟨h₁, h₂⟩ ↦ ⟨nodup_map_of_sublist _ h h₁, nodup_map_of_sublist _ h h₂⟩

end TagRow

namespace BundleRow

instance : Stored BundleRow where
  columns := [.number, .identifier, .plain .text "external_key", .plain .uuid "account_id", .tenant,
    .stamp "created_date"]
  cells r := [("record_id", .int r.recordId), ("id", .uuid r.id), ("external_key", .text r.externalKey),
    ("account_id", .uuid r.account), ("tenant_record_id", .int r.tenantRecordId),
    ("created_date", .moment r.created)]
  ofCells? c := do
    return {
      recordId := ← (c.get "record_id").int?
      id := ← (c.get "id").uuid?
      externalKey := ← (c.get "external_key").text?
      account := ← (c.get "account_id").uuid?
      tenantRecordId := ← (c.get "tenant_record_id").int?
      created := ← (c.get "created_date").moment? }
  recordId := recordId
  Consistent rows := (rows.map recordId).Nodup ∧ (rows.map id).Nodup
  decideConsistent _ := inferInstance
  nil := by simp
  sublist h := fun ⟨h₁, h₂⟩ ↦ ⟨nodup_map_of_sublist _ h h₁, nodup_map_of_sublist _ h h₂⟩

end BundleRow

namespace SubscriptionRow

instance : Stored SubscriptionRow where
  columns := [.number, .identifier, .plain .uuid "bundle_id", .plain .uuid "base_entitlement_id",
    .plain .text "category", .plain .text "last_active_product_category",
    .plain .date "charged_through_date", .stamp "created_date"]
  cells r := [("record_id", .int r.recordId), ("id", .uuid r.id), ("bundle_id", .uuid r.bundle),
    ("base_entitlement_id", .uuid r.baseEntitlement), ("category", .text r.category),
    ("last_active_product_category", .ofOption .text r.lastActiveCategory),
    ("charged_through_date", .ofOption .date r.chargedThrough), ("created_date", .moment r.created)]
  ofCells? c := do
    return {
      recordId := ← (c.get "record_id").int?
      id := ← (c.get "id").uuid?
      bundle := ← (c.get "bundle_id").uuid?
      baseEntitlement := ← (c.get "base_entitlement_id").uuid?
      category := ← (c.get "category").text?
      lastActiveCategory := ← (c.get "last_active_product_category").orNull Cell.text?
      chargedThrough := ← (c.get "charged_through_date").orNull Cell.date?
      created := ← (c.get "created_date").moment? }
  recordId := recordId
  Consistent rows := (rows.map recordId).Nodup ∧ (rows.map id).Nodup
  decideConsistent _ := inferInstance
  nil := by simp
  sublist h := fun ⟨h₁, h₂⟩ ↦ ⟨nodup_map_of_sublist _ h h₁, nodup_map_of_sublist _ h h₂⟩

end SubscriptionRow

namespace AuditRow

instance : Stored AuditRow where
  columns := [.number, .plain .int "account_record_id", .plain .text "table_name",
    .plain .int "target_record_id", .plain .text "change_type", .plain .text "created_by",
    .plain .text "reason_code", .plain .text "comments", .stamp "created_date"]
  cells r := [("record_id", .int r.recordId), ("account_record_id", .int r.accountRecordId),
    ("table_name", .text r.tableName), ("target_record_id", .int r.targetRecordId),
    ("change_type", .text r.changeType), ("created_by", .ofOption .text r.createdBy),
    ("reason_code", .ofOption .text r.reasonCode), ("comments", .ofOption .text r.comments),
    ("created_date", .moment r.created)]
  ofCells? c := do
    return {
      recordId := ← (c.get "record_id").int?
      accountRecordId := ← (c.get "account_record_id").int?
      tableName := ← (c.get "table_name").text?
      targetRecordId := ← (c.get "target_record_id").int?
      changeType := ← (c.get "change_type").text?
      createdBy := ← (c.get "created_by").orNull Cell.text?
      reasonCode := ← (c.get "reason_code").orNull Cell.text?
      comments := ← (c.get "comments").orNull Cell.text?
      created := ← (c.get "created_date").moment? }
  recordId := recordId
  Consistent rows := (rows.map recordId).Nodup
  decideConsistent _ := inferInstance
  nil := by simp
  sublist h := nodup_map_of_sublist _ h

end AuditRow

namespace PlanState

/-- The columns of a plan, their names starting with a common part. -/
def columns (start : String) : List Column :=
  [.plain .text (start ++ "product_name"), .plain .text (start ++ "product_type"),
    .plain .text (start ++ "product_category"), .plain .text (start ++ "slug"),
    .plain .text (start ++ "phase"), .plain .text (start ++ "billing_period"),
    .plain .text (start ++ "price_list"), .plain .amount (start ++ "price"),
    .plain .amount (start ++ "mrr"), .plain .text (start ++ "currency"),
    .plain .text (start ++ "service"), .plain .text (start ++ "state"),
    .plain .date (start ++ "start_date"), .plain .date (start ++ "end_date")]

/-- The cells of a plan. -/
def cells (start : String) (p : PlanState String Amount) : Cells :=
  [(start ++ "product_name", .ofOption .text p.productName),
    (start ++ "product_type", .ofOption .text p.productType),
    (start ++ "product_category", .ofOption .text p.productCategory),
    (start ++ "slug", .ofOption .text p.slug),
    (start ++ "phase", .ofOption .text p.phase),
    (start ++ "billing_period", .ofOption .text p.billingPeriod),
    (start ++ "price_list", .ofOption .text p.priceList),
    (start ++ "price", .ofOption .amount p.price),
    (start ++ "mrr", .ofOption .amount p.mrr),
    (start ++ "currency", .ofOption .text p.currency),
    (start ++ "service", .ofOption .text p.service),
    (start ++ "state", .ofOption .text p.state),
    (start ++ "start_date", .ofOption .date p.start),
    (start ++ "end_date", .ofOption .date p.finish)]

/-- The plan that cells make. -/
def ofCells? (start : String) (c : Cells) : Option (PlanState String Amount) := do
  let text (name : String) := (c.get (start ++ name)).orNull Cell.text?
  let amount (name : String) := (c.get (start ++ name)).orNull Cell.amount?
  let date (name : String) := (c.get (start ++ name)).orNull Cell.date?
  return {
    productName := ← text "product_name"
    productType := ← text "product_type"
    productCategory := ← text "product_category"
    slug := ← text "slug"
    phase := ← text "phase"
    billingPeriod := ← text "billing_period"
    priceList := ← text "price_list"
    price := ← amount "price"
    mrr := ← amount "mrr"
    currency := ← text "currency"
    service := ← text "service"
    state := ← text "state"
    start := ← date "start_date"
    finish := ← date "end_date" }

end PlanState

namespace TransitionRow

instance : Stored TransitionRow where
  columns := [.number, .plain .uuid "account_id", .plain .uuid "bundle_id",
    .plain .text "bundle_external_key", .plain .uuid "subscription_id", .plain .text "event"] ++
    PlanState.columns "next_"
  cells r := [("record_id", .int r.recordId), ("account_id", .uuid r.account), ("bundle_id", .uuid r.bundle),
    ("bundle_external_key", .text r.bundleExternalKey), ("subscription_id", .uuid r.subscription),
    ("event", .text r.event)] ++ r.next.cells "next_"
  ofCells? c := do
    return {
      recordId := ← (c.get "record_id").int?
      account := ← (c.get "account_id").uuid?
      bundle := ← (c.get "bundle_id").uuid?
      bundleExternalKey := ← (c.get "bundle_external_key").text?
      subscription := ← (c.get "subscription_id").uuid?
      event := ← (c.get "event").text?
      next := ← PlanState.ofCells? "next_" c }
  recordId := recordId
  Consistent rows := (rows.map recordId).Nodup
  decideConsistent _ := inferInstance
  nil := by simp
  sublist h := nodup_map_of_sublist _ h

end TransitionRow

namespace RateRow

instance : Stored RateRow where
  columns := [.number, .plain .text "currency", .plain .date "start_date", .plain .date "end_date",
    .plain .rate "reference_rate", .plain .text "reference_currency"]
  cells r := [("record_id", .int r.recordId), ("currency", .text r.currency),
    ("start_date", .date r.start), ("end_date", .date r.finish), ("reference_rate", .rate r.rate),
    ("reference_currency", .text r.reference)]
  ofCells? c := do
    return {
      recordId := ← (c.get "record_id").int?
      currency := ← (c.get "currency").text?
      start := ← (c.get "start_date").date?
      finish := ← (c.get "end_date").date?
      rate := ← (c.get "reference_rate").rate?
      reference := ← (c.get "reference_currency").text? }
  recordId := recordId
  Consistent rows := (rows.map recordId).Nodup
  decideConsistent _ := inferInstance
  nil := by simp
  sublist h := nodup_map_of_sublist _ h

end RateRow

namespace EntryRow

/-- What no two stored records share. -/
def key (r : EntryRow) : Uuid × Uuid := (r.entry.account, r.entry.bundle)

/-- The cells of a stored record. -/
def entryCells (e : Entry String Amount Moment String) : Cells :=
  [("account_id", .uuid e.account), ("account_record_id", .int e.accountRecordId),
    ("account_external_key", .text e.accountExternalKey), ("account_name", .ofOption .text e.accountName),
    ("bundle_id", .uuid e.bundle), ("bundle_record_id", .int e.bundleRecordId),
    ("bundle_external_key", .text e.bundleExternalKey), ("subscription_id", .uuid e.subscription),
    ("bundle_account_rank", .int e.rank), ("latest_for_bundle_external_key", .bool e.latestForExternalKey),
    ("charged_through_date", .ofOption .date e.chargedThrough)] ++ e.current.cells "current_" ++
    [("converted_current_price", .ofOption .amount e.convertedPrice),
      ("converted_current_mrr", .ofOption .amount e.convertedMrr),
      ("converted_currency", .text e.convertedCurrency), ("created_date", .moment e.created),
      ("created_by", .ofOption .text e.createdBy),
      ("created_reason_code", .ofOption .text e.createdReasonCode),
      ("created_comments", .ofOption .text e.createdComments),
      ("tenant_record_id", .int e.tenantRecordId), ("report_group", .text e.reportGroup)]

/-- The stored record that cells make. -/
def entryOfCells? (c : Cells) : Option (Entry String Amount Moment String) := do
  return {
    account := ← (c.get "account_id").uuid?
    accountRecordId := ← (c.get "account_record_id").int?
    accountExternalKey := ← (c.get "account_external_key").text?
    accountName := ← (c.get "account_name").orNull Cell.text?
    bundle := ← (c.get "bundle_id").uuid?
    bundleRecordId := ← (c.get "bundle_record_id").int?
    bundleExternalKey := ← (c.get "bundle_external_key").text?
    subscription := ← (c.get "subscription_id").uuid?
    rank := ← (c.get "bundle_account_rank").int?
    latestForExternalKey := ← (c.get "latest_for_bundle_external_key").bool?
    chargedThrough := ← (c.get "charged_through_date").orNull Cell.date?
    current := ← PlanState.ofCells? "current_" c
    convertedPrice := ← (c.get "converted_current_price").orNull Cell.amount?
    convertedMrr := ← (c.get "converted_current_mrr").orNull Cell.amount?
    convertedCurrency := ← (c.get "converted_currency").text?
    created := ← (c.get "created_date").moment?
    createdBy := ← (c.get "created_by").orNull Cell.text?
    createdReasonCode := ← (c.get "created_reason_code").orNull Cell.text?
    createdComments := ← (c.get "created_comments").orNull Cell.text?
    tenantRecordId := ← (c.get "tenant_record_id").int?
    reportGroup := ← (c.get "report_group").text? }

instance : Stored EntryRow where
  columns := [.number, .plain .uuid "account_id", .plain .int "account_record_id",
    .plain .text "account_external_key", .plain .text "account_name", .plain .uuid "bundle_id",
    .plain .int "bundle_record_id", .plain .text "bundle_external_key", .plain .uuid "subscription_id",
    .plain .int "bundle_account_rank", .plain .bool "latest_for_bundle_external_key",
    .plain .date "charged_through_date"] ++ PlanState.columns "current_" ++
    [.plain .amount "converted_current_price", .plain .amount "converted_current_mrr",
      .plain .text "converted_currency", .plain .moment "created_date", .plain .text "created_by",
      .plain .text "created_reason_code", .plain .text "created_comments", .plain .int "tenant_record_id",
      .plain .text "report_group", .stamp "refreshed_at"]
  cells r := ("record_id", .int r.recordId) :: entryCells r.entry ++ [("refreshed_at", .moment r.refreshed)]
  ofCells? c := do
    return {
      recordId := ← (c.get "record_id").int?
      entry := ← entryOfCells? c
      refreshed := ← (c.get "refreshed_at").moment? }
  recordId := recordId
  Consistent rows := (rows.map recordId).Nodup ∧ (rows.map key).Nodup
  decideConsistent _ := inferInstance
  nil := by simp
  sublist h := fun ⟨h₁, h₂⟩ ↦ ⟨nodup_map_of_sublist _ h h₁, nodup_map_of_sublist _ h h₂⟩

end EntryRow

end BundleLedger
