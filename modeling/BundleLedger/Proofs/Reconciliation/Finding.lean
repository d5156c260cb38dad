import BundleLedger.Proofs.Store.Query
import BundleLedger.Reconciliation.Finding

/-!
# The rows that each check finds

What each check finds, in terms of the rows that the tables hold: a bundle that is missing, a stored record
without a bundle, a record with a bundle, an account or an audit row that it disagrees with, a record with the
charged period that it should have, an account whose ranks are not dense, and an external key that is flagged as
the latest not exactly once.
-/

set_option autoImplicit false

namespace BundleLedger

open Result
open Database (stored)

/-- Whether a transition of any account names a bundle on the base entitlement of any subscription. -/
def HasEntitledTransition (db : Database) (b : BundleRow) : Prop :=
  ∃ event ∈ stored db.transitions, event.bundle = b.id ∧
    ∃ s ∈ stored db.subscriptions, s.baseEntitlement = event.subscription

/-- Whether an audit row tells of the creation of a bundle under any account. -/
def IsInsertionOf (db : Database) (b : BundleRow) (c : AuditRow) : Prop :=
  c ∈ stored db.audits ∧ c.tableName = "BUNDLES" ∧ c.changeType = "INSERT" ∧ c.targetRecordId = b.recordId

namespace Finding

variable {db : Database} {scope : Option Uuid} {findings : List Finding} {finding : Finding}

theorem inScope_some_iff {id account : Uuid} : inScope (some id) account = true ↔ account = id :=
  decide_eq_true_iff

/-! ### Bundles without a record, and records without a bundle -/

theorem hasBaseTransition_iff {b : BundleRow} :
    hasBaseTransition (stored db.transitions) (stored db.subscriptions) b = true ↔
      HasEntitledTransition db b := by
  unfold hasBaseTransition HasEntitledTransition
  simp only [List.any_eq_true, Bool.and_eq_true, decide_eq_true_eq]

theorem mem_bundlesMissing_iff (h : find db scope .bundlesMissing = .ok findings) :
    finding ∈ findings ↔
      ∃ b ∈ stored db.bundles, finding = .bundleMissing b ∧ inScope scope b.account = true ∧
        HasEntitledTransition db b ∧ ∀ r ∈ stored db.entries, r.entry.bundle ≠ b.id := by
  unfold find bundlesMissing at h
  simp only [map_eq_ok_iff, bind_eq_ok_iff, pure_eq_ok_iff] at h
  obtain ⟨found, ⟨bundles, hbundles, transitions, htransitions, subscriptions, hsubscriptions, entries, hentries,
    rfl⟩, rfl⟩ := h
  rw [← Database.rows_eq_ok hbundles, ← Database.rows_eq_ok htransitions,
    ← Database.rows_eq_ok hsubscriptions, ← Database.rows_eq_ok hentries]
  simp only [List.mem_map, Database.mem_inOrder, List.mem_filter, Bool.and_eq_true, hasBaseTransition_iff,
    Bool.not_eq_true', List.any_eq_false, decide_eq_true_eq]
  constructor
  · rintro ⟨b, ⟨hb, ⟨hscope, hevent⟩, hentries⟩, rfl⟩
    exact ⟨b, hb, rfl, hscope, hevent, hentries⟩
  · rintro ⟨b, hb, rfl, hscope, hevent, hentries⟩
    exact ⟨b, ⟨hb, ⟨hscope, hevent⟩, hentries⟩, rfl⟩

theorem mem_bundlesOrphaned_iff (h : find db scope .bundlesOrphaned = .ok findings) :
    finding ∈ findings ↔
      ∃ r ∈ stored db.entries, finding = .bundleOrphaned r ∧ inScope scope r.entry.account = true ∧
        ∀ b ∈ stored db.bundles, b.id ≠ r.entry.bundle := by
  unfold find bundlesOrphaned entriesIn at h
  simp only [map_eq_ok_iff, bind_eq_ok_iff, pure_eq_ok_iff] at h
  obtain ⟨found, ⟨_, ⟨entries, hentries, rfl⟩, bundles, hbundles, rfl⟩, rfl⟩ := h
  rw [← Database.rows_eq_ok hentries, ← Database.rows_eq_ok hbundles]
  simp only [List.mem_map, List.mem_filter, Bool.not_eq_true', List.any_eq_false, decide_eq_true_eq]
  constructor
  · rintro ⟨r, ⟨⟨hr, hscope⟩, hnone⟩, rfl⟩
    exact ⟨r, hr, rfl, hscope, hnone⟩
  · rintro ⟨r, hr, rfl, hscope, hnone⟩
    exact ⟨r, ⟨⟨hr, hscope⟩, hnone⟩, rfl⟩

/-! ### Fields that differ -/

theorem bundleDiffers_eq_true_iff {e : Entry String Amount Moment String} {b : BundleRow} :
    bundleDiffers e b = true ↔
      ¬(e.bundleExternalKey = b.externalKey ∧ e.bundleRecordId = b.recordId ∧ e.account = b.account ∧
        e.created = b.created) := by
  unfold bundleDiffers
  simp only [Bool.or_eq_true, decide_eq_true_eq, ne_eq]
  tauto

theorem mem_bundleFields_iff (h : find db scope .bundleFields = .ok findings) :
    finding ∈ findings ↔
      ∃ r ∈ stored db.entries, ∃ b ∈ stored db.bundles, finding = .bundleFields r b ∧
        inScope scope r.entry.account = true ∧ b.id = r.entry.bundle ∧
        ¬(r.entry.bundleExternalKey = b.externalKey ∧ r.entry.bundleRecordId = b.recordId ∧
          r.entry.account = b.account ∧ r.entry.created = b.created) := by
  unfold find bundleFieldsOf entriesIn at h
  simp only [map_eq_ok_iff, bind_eq_ok_iff, pure_eq_ok_iff] at h
  obtain ⟨found, ⟨_, ⟨entries, hentries, rfl⟩, bundles, hbundles, rfl⟩, rfl⟩ := h
  rw [← Database.rows_eq_ok hentries, ← Database.rows_eq_ok hbundles]
  simp only [List.mem_map, List.mem_flatMap, List.mem_filter, Bool.and_eq_true, decide_eq_true_eq,
    bundleDiffers_eq_true_iff]
  constructor
  · rintro ⟨_, ⟨r, ⟨hr, hscope⟩, b, ⟨hb, hid, hdiffers⟩, rfl⟩, rfl⟩
    exact ⟨r, hr, b, hb, rfl, hscope, hid, hdiffers⟩
  · rintro ⟨r, hr, b, hb, rfl, hscope, hid, hdiffers⟩
    exact ⟨(r, b), ⟨r, ⟨hr, hscope⟩, b, ⟨hb, hid, hdiffers⟩, rfl⟩, rfl⟩

theorem accountDiffers_eq_true_iff {e : Entry String Amount Moment String} {a : AccountRow} :
    accountDiffers e a = true ↔
      ¬(e.accountRecordId = a.recordId ∧ e.accountExternalKey = a.externalKey ∧ e.accountName = a.name ∧
        e.tenantRecordId = a.tenantRecordId) := by
  unfold accountDiffers
  simp only [Bool.or_eq_true, decide_eq_true_eq, ne_eq]
  tauto

theorem mem_accountFields_iff (h : find db scope .accountFields = .ok findings) :
    finding ∈ findings ↔
      ∃ r ∈ stored db.entries, ∃ a ∈ stored db.accounts, finding = .accountFields r a ∧
        inScope scope r.entry.account = true ∧ a.id = r.entry.account ∧
        ¬(r.entry.accountRecordId = a.recordId ∧ r.entry.accountExternalKey = a.externalKey ∧
          r.entry.accountName = a.name ∧ r.entry.tenantRecordId = a.tenantRecordId) := by
  unfold find accountFieldsOf entriesIn at h
  simp only [map_eq_ok_iff, bind_eq_ok_iff, pure_eq_ok_iff] at h
  obtain ⟨found, ⟨_, ⟨entries, hentries, rfl⟩, accounts, haccounts, rfl⟩, rfl⟩ := h
  rw [← Database.rows_eq_ok hentries, ← Database.rows_eq_ok haccounts]
  simp only [List.mem_map, List.mem_flatMap, List.mem_filter, Bool.and_eq_true, decide_eq_true_eq,
    accountDiffers_eq_true_iff]
  constructor
  · rintro ⟨_, ⟨r, ⟨hr, hscope⟩, a, ⟨ha, hid, hdiffers⟩, rfl⟩, rfl⟩
    exact ⟨r, hr, a, ha, rfl, hscope, hid, hdiffers⟩
  · rintro ⟨r, hr, a, ha, rfl, hscope, hid, hdiffers⟩
    exact ⟨(r, a), ⟨r, ⟨hr, hscope⟩, a, ⟨ha, hid, hdiffers⟩, rfl⟩, rfl⟩

theorem auditDiffers_eq_true_iff {e : Entry String Amount Moment String} {c : AuditRow} :
    auditDiffers e c = true ↔
      ¬(e.createdBy = c.createdBy ∧ e.createdReasonCode = c.reasonCode ∧ e.createdComments = c.comments) := by
  unfold auditDiffers
  simp only [Bool.or_eq_true, decide_eq_true_eq, ne_eq]
  tauto

theorem mem_creationAudits_iff (h : find db scope .creationAudit = .ok findings) :
    finding ∈ findings ↔
      ∃ r ∈ stored db.entries, ∃ b ∈ stored db.bundles, ∃ c, finding = .creationAudit r c ∧
        inScope scope r.entry.account = true ∧ b.id = r.entry.bundle ∧ IsInsertionOf db b c ∧
        ¬(r.entry.createdBy = c.createdBy ∧ r.entry.createdReasonCode = c.reasonCode ∧
          r.entry.createdComments = c.comments) := by
  unfold find creationAuditsOf entriesIn at h
  simp only [map_eq_ok_iff, bind_eq_ok_iff, pure_eq_ok_iff] at h
  obtain ⟨found, ⟨_, ⟨entries, hentries, rfl⟩, bundles, hbundles, audits, haudits, rfl⟩, rfl⟩ := h
  rw [← Database.rows_eq_ok hentries, ← Database.rows_eq_ok hbundles, ← Database.rows_eq_ok haudits]
  simp only [List.mem_map, List.mem_flatMap, List.mem_filter, Bool.and_eq_true, decide_eq_true_eq,
    auditDiffers_eq_true_iff, Database.isCreation]
  constructor
  · rintro ⟨_, ⟨r, ⟨hr, hscope⟩, b, ⟨hb, hid⟩, c, ⟨hc, ⟨htarget, htable, hchange⟩, hdiffers⟩, rfl⟩, rfl⟩
    exact ⟨r, hr, b, hb, c, rfl, hscope, hid, ⟨hc, htable, hchange, htarget⟩, hdiffers⟩
  · rintro ⟨r, hr, b, hb, c, rfl, hscope, hid, ⟨hc, htable, hchange, htarget⟩, hdiffers⟩
    exact ⟨(r, c), ⟨r, ⟨hr, hscope⟩, b, ⟨hb, hid⟩, c, ⟨hc, ⟨htarget, htable, hchange⟩, hdiffers⟩, rfl⟩, rfl⟩

theorem mem_chargedThrough_iff (h : find db scope .chargedThroughDate = .ok findings) :
    finding ∈ findings ↔
      ∃ r ∈ stored db.entries, ∃ expected, finding = .chargedThrough r expected ∧
        inScope scope r.entry.account = true ∧
        expected = (firstBase? (stored db.subscriptions) r.entry.bundle).bind (·.chargedThrough) ∧
        r.entry.chargedThrough ≠ expected := by
  unfold find chargedThroughOf entriesIn at h
  simp only [map_eq_ok_iff, bind_eq_ok_iff, pure_eq_ok_iff] at h
  obtain ⟨found, ⟨_, ⟨entries, hentries, rfl⟩, subscriptions, hsubscriptions, rfl⟩, rfl⟩ := h
  rw [← Database.rows_eq_ok hentries, ← Database.rows_eq_ok hsubscriptions]
  simp only [List.mem_map, List.mem_filter, decide_eq_true_eq]
  constructor
  · rintro ⟨_, ⟨⟨r, ⟨hr, hscope⟩, rfl⟩, hdiffers⟩, rfl⟩
    exact ⟨r, hr, _, rfl, hscope, rfl, hdiffers⟩
  · rintro ⟨r, hr, _, rfl, hscope, rfl, hdiffers⟩
    exact ⟨_, ⟨⟨r, ⟨hr, hscope⟩, rfl⟩, hdiffers⟩, rfl⟩

/-! ### Groups of records -/

/-- The records of an account within the limits are all its records. -/
theorem filter_entriesIn {entries : List EntryRow} {account : Uuid} (h : inScope scope account = true) :
    (entries.filter fun r ↦ inScope scope r.entry.account).filter (fun r ↦ r.entry.account = account) =
      entries.filter fun r ↦ r.entry.account = account := by
  rw [List.filter_filter]
  refine List.filter_congr fun r _ ↦ ?_
  by_cases haccount : r.entry.account = account
  · simp [haccount, h]
  · simp [haccount]

/-- The ranks of an account within the limits are summed up as if there were no limits. -/
theorem ranks_inScope (entries : List EntryRow) {account : Uuid} (h : inScope scope account = true) :
    rankSummary (entries.filter fun r ↦ inScope scope r.entry.account) account = rankSummary entries account ∧
      isSparse (entries.filter fun r ↦ inScope scope r.entry.account) account = isSparse entries account := by
  unfold isSparse rankSummary distinctRanks
  rw [filter_entriesIn h]
  exact ⟨rfl, rfl⟩

theorem mem_sparseRanks_iff (h : find db scope .rankDensity = .ok findings) :
    finding ∈ findings ↔
      ∃ r ∈ stored db.entries, finding = .ranks (rankSummary (stored db.entries) r.entry.account) ∧
        inScope scope r.entry.account = true ∧ isSparse (stored db.entries) r.entry.account = true := by
  unfold find sparseRanks entriesIn at h
  simp only [map_eq_ok_iff, bind_eq_ok_iff, pure_eq_ok_iff] at h
  obtain ⟨found, ⟨_, ⟨entries, hentries, rfl⟩, rfl⟩, rfl⟩ := h
  rw [← Database.rows_eq_ok hentries]
  simp only [List.mem_map, List.mem_filter, List.mem_eraseDups]
  constructor
  · rintro ⟨_, ⟨_, ⟨⟨r, ⟨hr, hscope⟩, rfl⟩, hsparse⟩, rfl⟩, rfl⟩
    obtain ⟨hrank, hsame⟩ := ranks_inScope (stored db.entries) hscope
    exact ⟨r, hr, congrArg Finding.ranks hrank, hscope, hsame ▸ hsparse⟩
  · rintro ⟨r, hr, rfl, hscope, hsparse⟩
    obtain ⟨hrank, hsame⟩ := ranks_inScope (stored db.entries) hscope
    exact ⟨_, ⟨_, ⟨⟨r, ⟨hr, hscope⟩, rfl⟩, hsame ▸ hsparse⟩, rfl⟩, congrArg Finding.ranks hrank⟩

theorem mem_latestFlags_iff (h : find db scope .latestForExternalKey = .ok findings) :
    finding ∈ findings ↔
      ∃ r ∈ stored db.entries, finding = .latest (latestSummary (stored db.entries) (keyOf r)) ∧
        occursIn (stored db.entries) scope (keyOf r) = true ∧
        (latestSummary (stored db.entries) (keyOf r)).count ≠ 1 := by
  unfold find latestFlags at h
  simp only [map_eq_ok_iff, bind_eq_ok_iff, pure_eq_ok_iff] at h
  obtain ⟨found, ⟨entries, hentries, rfl⟩, rfl⟩ := h
  rw [← Database.rows_eq_ok hentries]
  simp only [List.mem_map, List.mem_filter, List.mem_eraseDups, decide_eq_true_eq]
  constructor
  · rintro ⟨_, ⟨⟨_, ⟨⟨r, hr, rfl⟩, hscope⟩, rfl⟩, hcount⟩, rfl⟩
    exact ⟨r, hr, rfl, hscope, hcount⟩
  · rintro ⟨r, hr, rfl, hscope, hcount⟩
    exact ⟨_, ⟨⟨_, ⟨⟨r, hr, rfl⟩, hscope⟩, rfl⟩, hcount⟩, rfl⟩

end Finding
end BundleLedger
