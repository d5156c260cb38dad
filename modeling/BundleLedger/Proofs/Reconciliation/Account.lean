import BundleLedger.Proofs.Reconciliation.ChargedThrough
import BundleLedger.Proofs.Reconciliation.Density
import BundleLedger.Proofs.Reconciliation.Refreshed

/-!
# Checks that a refresh satisfies

Five checks compare the records of one account with rows that the refresh of the account reads in the same way:
that the bundles exist, the fields of bundles and of the account, the charged periods and the ranks. After a
refresh that returned, whatever the records of the account were before, each stored record mirrors the rows of the
tables (`Refreshed.mirrors`) and the ranks are those from one to their number. So a run that is limited to the
account reports nothing under these checks (`Service.reports_nothing`).
-/

set_option autoImplicit false

namespace BundleLedger

open Result
open Database (stored)

/-- The checks of the records of one account by notions that the refresh shares. -/
def Check.shared : List Check :=
  [.bundlesOrphaned, .bundleFields, .accountFields, .chargedThroughDate, .rankDensity]

/-! ### Records that mirror the tables -/

/-- Whether a stored record has the fields of its account and of its bundle, both of which exist, and the charged
period of the first base subscription. -/
structure Mirrors (db : Database) (e : Entry String Amount Moment String) : Prop where
  account : ∃ a ∈ stored db.accounts, a.id = e.account ∧ e.accountRecordId = a.recordId ∧
    e.accountExternalKey = a.externalKey ∧ e.accountName = a.name ∧ e.tenantRecordId = a.tenantRecordId
  bundle : ∃ b ∈ stored db.bundles, b.id = e.bundle ∧ e.bundleExternalKey = b.externalKey ∧
    e.bundleRecordId = b.recordId ∧ e.account = b.account ∧ e.created = b.created
  chargedThrough : e.chargedThrough =
    (Finding.firstBase? (stored db.subscriptions) e.bundle).bind (·.chargedThrough)

/-- The stored form of a record of the view mirrors the tables. -/
theorem ViewOf.mirrors {db : Database} {reference : String} {account : Uuid} {a : AccountRow} {b : BundleRow}
    {event : TransitionRow} {r : BundleRecord} (h : ViewOf db reference account a b event r) :
    Mirrors db (Database.storedEntry r) where
  account := ⟨a, h.accountRow.1, h.accountRow.2.trans h.account.symm, h.accountRecordId, h.accountExternalKey,
    h.accountName, h.tenantRecordId⟩
  bundle := ⟨b, h.bundleRow.1, h.bundleRow.2.2, h.bundleExternalKey, h.bundleRecordId,
    h.account.trans h.bundleRow.2.1.symm, congrArg Timestamp.moment h.created⟩
  chargedThrough := by
    rw [Finding.firstBase?_eq]
    change r.chargedThrough = _
    rw [h.chargedThrough, h.bundleRow.2.2]
    rfl

namespace Mirrors

variable {db : Database} {e : Entry String Amount Moment String}

theorem bundle_fields (h : Mirrors db e) {b : BundleRow} (hb : b ∈ stored db.bundles) (hid : b.id = e.bundle) :
    e.bundleExternalKey = b.externalKey ∧ e.bundleRecordId = b.recordId ∧ e.account = b.account ∧
      e.created = b.created := by
  obtain ⟨own, hown, hid', hfields⟩ := h.bundle
  obtain rfl := eq_of_id_eq hown hb (hid'.trans hid.symm)
  exact hfields

theorem account_fields (h : Mirrors db e) {a : AccountRow} (ha : a ∈ stored db.accounts)
    (hid : a.id = e.account) :
    e.accountRecordId = a.recordId ∧ e.accountExternalKey = a.externalKey ∧ e.accountName = a.name ∧
      e.tenantRecordId = a.tenantRecordId := by
  obtain ⟨own, hown, hid', hfields⟩ := h.account
  obtain rfl : own = a :=
    List.inj_on_of_nodup_map (Database.consistent_stored db.accounts).2 hown ha (hid'.trans hid.symm)
  exact hfields

end Mirrors

/-! ### After a refresh -/

namespace Refreshed

variable {s t : Service} {account : Uuid} {result : RefreshResult}

theorem mirrors (h : Refreshed s account result t) {r : EntryRow} (hr : r ∈ entriesOf t.database account) :
    Mirrors t.database r.entry := by
  obtain ⟨reference, a, b, event, made, hview, hentry⟩ := h.exists_view hr
  have hmirrors : Mirrors s.database r.entry := hentry ▸ hview.mirrors
  rw [h.evolves.tables]
  exact ⟨hmirrors.account, hmirrors.bundle, hmirrors.chargedThrough⟩

/-- The ranks of the stored records of the account are those from one to their number. -/
theorem ranks_perm (h : Refreshed s account result t) :
    (Finding.ranksOf (Database.stored t.database.entries) account).Perm (countedTo result.records.length) := by
  obtain ⟨settings, -, hview⟩ := h.reference.materialized
  have hranks := h.stored.map (·.rank)
  rw [List.map_map, List.map_map] at hranks
  rw [countedTo, ← hview.ranks]
  exact hranks

theorem isSparse_eq_false (h : Refreshed s account result t) {r : EntryRow}
    (hr : r ∈ entriesOf t.database account) :
    Finding.isSparse (Database.stored t.database.entries) account = false := by
  have hdense : IsDense (Finding.ranksOf (Database.stored t.database.entries) account) := .of_perm h.ranks_perm
  have hown : Finding.ranksOf (Database.stored t.database.entries) account ≠ [] :=
    List.ne_nil_of_mem (List.mem_map_of_mem hr)
  rw [← Bool.not_eq_true, Finding.isSparse_iff hown, not_not]
  exact hdense

end Refreshed

/-- After a refresh, whatever records the account had before, the checks that share its notions report nothing of
the account. -/
theorem Service.reports_nothing (account : Uuid) (given correlation : Option String) (s t : Service)
    (result : RefreshResult) (h : Service.refresh account given s = (.ok result, t)) :
    ∀ check ∈ Check.shared, Reconciliation.Reports t.database (some account) correlation check fun _ ↦ False := by
  have hdone := Service.refreshed h
  have hown : ∀ r ∈ stored t.database.entries, Finding.inScope (some account) r.entry.account = true →
      r ∈ entriesOf t.database account := fun r hr hscope ↦
    List.mem_filter.2 ⟨hr, decide_eq_true (Finding.inScope_some_iff.1 hscope)⟩
  intro check hcheck
  refine .of_find fun findings hfind finding ↦ iff_false_intro fun hfinding ↦ ?_
  simp only [Check.shared, List.mem_cons, List.not_mem_nil, or_false] at hcheck
  rcases hcheck with rfl | rfl | rfl | rfl | rfl
  · obtain ⟨r, hr, -, hscope, hnone⟩ := (Finding.mem_bundlesOrphaned_iff hfind).1 hfinding
    obtain ⟨b, hb, hid, -⟩ := (hdone.mirrors (hown r hr hscope)).bundle
    exact hnone b hb hid
  · obtain ⟨r, hr, b, hb, -, hscope, hid, hdiffers⟩ := (Finding.mem_bundleFields_iff hfind).1 hfinding
    exact hdiffers ((hdone.mirrors (hown r hr hscope)).bundle_fields hb hid)
  · obtain ⟨r, hr, a, ha, -, hscope, hid, hdiffers⟩ := (Finding.mem_accountFields_iff hfind).1 hfinding
    exact hdiffers ((hdone.mirrors (hown r hr hscope)).account_fields ha hid)
  · obtain ⟨r, hr, expected, -, hscope, rfl, hdiffers⟩ := (Finding.mem_chargedThrough_iff hfind).1 hfinding
    exact hdiffers (hdone.mirrors (hown r hr hscope)).chargedThrough
  · obtain ⟨r, hr, -, hscope, hsparse⟩ := (Finding.mem_sparseRanks_iff hfind).1 hfinding
    rw [Finding.inScope_some_iff.1 hscope, hdone.isSparse_eq_false (hown r hr hscope)] at hsparse
    simp at hsparse

namespace LargePrice

/-- A stored record that agrees with nothing. -/
def outdated (bundle : ℕ) : Entry String Amount Moment String where
  account := .ofNat 9
  accountRecordId := 4
  accountExternalKey := "former"
  accountName := none
  bundle := .ofNat bundle
  bundleRecordId := 4
  bundleExternalKey := "former"
  subscription := .ofNat 4
  rank := 4
  latestForExternalKey := true
  chargedThrough := some default
  current := ⟨none, none, none, none, none, none, none, none, none, none, none, none, none, none⟩
  convertedPrice := none
  convertedMrr := none
  convertedCurrency := "USD"
  created := .epoch
  createdBy := none
  createdReasonCode := none
  createdComments := none
  tenantRecordId := 4
  reportGroup := "default"

/-- The account has outdated records of its first bundle and of one that does not exist. -/
def withOutdated : Service :=
  { service with
    database :=
      { database with
        entries := some ⟨[⟨3, outdated 1, .epoch⟩, ⟨5, outdated 4, .epoch⟩], by decide⟩ } }

/-- The checks under which a run that is limited to the account reports something. -/
def failedChecks (db : Database) : Option (List Check) :=
  (Reconciliation.run db (some (.ofNat 9)) none).outcome.toOption.map fun results ↦
    (results.filter fun r ↦ !r.findings.isEmpty).map (·.check)

theorem failedChecks_withOutdated :
    failedChecks withOutdated.database =
      some [.bundlesMissing, .bundlesOrphaned, .bundleFields, .accountFields, .creationAudit,
        .chargedThroughDate, .rankDensity, .latestForExternalKey] := by
  unfold failedChecks Reconciliation.run
  simp only [Check.all, Reconciliation.runChecks, Finding.find, Finding.bundlesMissing,
    Finding.chargedThroughOf, Finding.firstBase?, Database.inOrder_eq_insertionSort]
  decide +kernel

theorem exists_refresh_withOutdated :
    ∃ result t, Service.refresh (.ofNat 9) none withOutdated = (.ok result, t) := by
  have hreturns : (Service.refresh (.ofNat 9) none withOutdated).1.toOption.isSome = true := by
    unfold Service.refresh Refresh.run Refresh.runWith Refresh.work Refresh.build Source.transitions
      Database.transitionsOf Source.context Source.latestBundle Database.latestBundle? Database.bundlesOf
      Database.bundleRowsOf Database.bundleOf Source.creationAudit Source.creationsOr Database.creationsOf
    simp only [Sorting.mergeSort_eq_insertionSort happensBefore_iff, Database.inOrder_eq_insertionSort,
      Refresh.byRank_eq_insertionSort]
    decide +kernel
  obtain ⟨result, hresult⟩ := Option.isSome_iff_exists.1 hreturns
  exact ⟨result, _, Prod.ext (toOption_eq_some_iff.1 hresult) rfl⟩

end LargePrice

/-- The checks report outdated records of the account, and nothing of it once it has been refreshed. -/
theorem reports_nothing_sample :
    LargePrice.failedChecks LargePrice.withOutdated.database =
        some [.bundlesMissing, .bundlesOrphaned, .bundleFields, .accountFields, .creationAudit,
          .chargedThroughDate, .rankDensity, .latestForExternalKey] ∧
      ∃ result t, Service.refresh (.ofNat 9) none LargePrice.withOutdated = (.ok result, t) ∧
        ∀ check ∈ Check.shared,
          Reconciliation.Reports t.database (some (.ofNat 9)) none check fun _ ↦ False := by
  obtain ⟨result, t, h⟩ := LargePrice.exists_refresh_withOutdated
  exact ⟨LargePrice.failedChecks_withOutdated, result, t, h, Service.reports_nothing _ _ _ _ _ _ h⟩

end BundleLedger
