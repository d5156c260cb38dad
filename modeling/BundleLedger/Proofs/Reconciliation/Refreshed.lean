import BundleLedger.Proofs.Reconciliation.Finding
import BundleLedger.Proofs.Reconciliation.Run
import BundleLedger.Proofs.Service.Materialization

/-!
# What the checks report after a refresh

The checks have notions of their own of what the records of an account should be. A run after a refresh that
returned therefore reports exactly what the notions of a check and of the refresh differ in.

A bundle is missing for the check if any transition names it on the base entitlement of any subscription, whatever
the accounts. The refresh records the bundles with a base transition of the account. So those are reported that
have only transitions of the first kind, unless another account has a record for them (`Service.reports_missing`).

The refresh takes the creation of a bundle from its first audit entry under the account. The check compares a
record with every audit entry of the creation, under any account. So those entries are reported that differ from
the one that the refresh took (`Service.reports_creation`).
-/

set_option autoImplicit false

namespace BundleLedger

open Result
open Database (stored)

/-! ### What the refresh records -/

/-- Whether the creation of a bundle that the refresh takes has certain fields: those of the first audit entry
under the account, else none. -/
def CreationTaken (db : Database) (a : AccountRow) (b : BundleRow)
    (createdBy reasonCode comments : Option String) : Prop :=
  (∃ c, IsCreationOf db a b c ∧ (∀ other, IsCreationOf db a b other → c.recordId ≤ other.recordId) ∧
    createdBy = c.createdBy ∧ reasonCode = c.reasonCode ∧ comments = c.comments) ∨
  (∀ c, ¬IsCreationOf db a b c) ∧ createdBy = none ∧ reasonCode = none ∧ comments = none

theorem CreationTaken.unique {db : Database} {a : AccountRow} {b : BundleRow}
    {createdBy createdBy' reasonCode reasonCode' comments comments' : Option String}
    (h : CreationTaken db a b createdBy reasonCode comments)
    (h' : CreationTaken db a b createdBy' reasonCode' comments') :
    createdBy = createdBy' ∧ reasonCode = reasonCode' ∧ comments = comments' := by
  rcases h with ⟨c, hc, hleast, rfl, rfl, rfl⟩ | ⟨hnone, rfl, rfl, rfl⟩
  · rcases h' with ⟨c', hc', hleast', rfl, rfl, rfl⟩ | ⟨hnone, -⟩
    · have hnumber : c.recordId = c'.recordId := le_antisymm (hleast c' hc') (hleast' c hc)
      obtain rfl : c = c' := List.inj_on_of_nodup_map (Database.consistent_stored db.audits) hc.1 hc'.1 hnumber
      exact ⟨rfl, rfl, rfl⟩
    · exact absurd hc (hnone c)
  · rcases h' with ⟨c', hc', -⟩ | ⟨-, rfl, rfl, rfl⟩
    · exact absurd hc' (hnone c')
    · exact ⟨rfl, rfl, rfl⟩

namespace Refreshed

variable {s t : Service} {account : Uuid} {result : RefreshResult}

theorem stored_bundles (h : Refreshed s account result t) :
    Database.stored t.database.bundles = Database.stored s.database.bundles := by
  rw [h.evolves.tables]

/-- After a refresh the account has stored records of just the bundles with a base transition. -/
theorem exists_entry_iff (h : Refreshed s account result t) (id : Uuid) :
    (∃ r ∈ entriesOf t.database account, r.entry.bundle = id) ↔
      ∃ event, IsBaseTransition s.database account event ∧ event.bundle = id := by
  obtain ⟨settings, -, hview⟩ := h.reference.materialized
  have hbundles : id ∈ ((entriesOf t.database account).map (·.entry)).map (·.bundle) ↔
      id ∈ (result.records.map Database.storedEntry).map (·.bundle) := (h.stored.map _).mem_iff
  rw [List.map_map, List.map_map] at hbundles
  rw [← hview.bundles id]
  exact List.mem_map.symm.trans hbundles

/-- After a refresh each stored record of the account is that of a record of the view of the tables. -/
theorem exists_view (h : Refreshed s account result t) {r : EntryRow} (hr : r ∈ entriesOf t.database account) :
    ∃ reference a b event made, ViewOf s.database reference account a b event made ∧
      Database.storedEntry made = r.entry := by
  obtain ⟨settings, -, hview⟩ := h.reference.materialized
  obtain ⟨made, hmade, hentry⟩ := List.mem_map.1 (h.stored.mem_iff.1 (List.mem_map_of_mem hr))
  obtain ⟨a, b, event, hrecord⟩ := hview.view made hmade
  exact ⟨settings.referenceCurrency, a, b, event, made, hrecord, hentry⟩

/-- After a refresh a stored record of the account has the creation that the refresh takes. -/
theorem creationTaken (h : Refreshed s account result t) {r : EntryRow}
    (hr : r ∈ entriesOf t.database account) :
    ∃ a ∈ Database.stored s.database.accounts, a.id = account ∧ ∃ b ∈ Database.stored s.database.bundles,
      b.id = r.entry.bundle ∧
      CreationTaken s.database a b r.entry.createdBy r.entry.createdReasonCode r.entry.createdComments := by
  obtain ⟨reference, a, b, event, made, hview, hentry⟩ := h.exists_view hr
  refine ⟨a, hview.accountRow.1, hview.accountRow.2, b, hview.bundleRow.1, ?_, ?_⟩
  · rw [← hentry]
    exact hview.bundleRow.2.2
  · rw [← hentry]
    exact hview.creation

end Refreshed

/-! ### Reports about two bundles -/

namespace LargePrice

/-- The transition of the second bundle is filed under another account. -/
def misfiled : Service :=
  { service with
    database :=
      { database with
        transitions := some ⟨[transition 2 1 "USD" 9950000,
          { transition 1 2 "EUR" 12345678123456 with account := .ofNat 8 }], by decide⟩ } }

/-- The bundles that are reported under a check once the account has been refreshed. -/
def reported (s : Service) (check : Check) : Option (List Uuid) :=
  match Service.refresh (.ofNat 9) none s with
  | (.ok _, t) =>
    (Reconciliation.run t.database (some (.ofNat 9)) none).outcome.toOption.map fun results ↦
      (results.filter fun r ↦ r.check = check).flatMap fun r ↦ r.findings.filterMap Finding.bundle?
  | (.error _, _) => none

/-- The second bundle is missing if its transition is misfiled, and the first bundle has two audit entries. -/
theorem reported_eq :
    reported misfiled .bundlesMissing = some [.ofNat 2] ∧ reported service .creationAudit = some [.ofNat 1] := by
  unfold reported Service.refresh Refresh.run Refresh.runWith Refresh.work Refresh.build Source.transitions
    Database.transitionsOf Source.context Source.latestBundle Database.latestBundle? Database.bundlesOf
    Database.bundleRowsOf Database.bundleOf Source.creationAudit Source.creationsOr Database.creationsOf
    Reconciliation.run
  simp only [Check.all, Reconciliation.runChecks, Finding.find, Finding.bundlesMissing,
    Finding.chargedThroughOf, Finding.firstBase?, Sorting.mergeSort_eq_insertionSort happensBefore_iff,
    Database.inOrder_eq_insertionSort, Refresh.byRank_eq_insertionSort]
  constructor
  · decide +kernel
  · decide +kernel

/-- A check that reports a bundle does not report nothing. -/
theorem exists_not_reports {s : Service} {check : Check} {id : Uuid} (h : reported s check = some [id]) :
    ∃ result t, Service.refresh (.ofNat 9) none s = (.ok result, t) ∧
      ¬Reconciliation.Reports t.database (some (.ofNat 9)) none check fun _ ↦ False := by
  unfold reported at h
  rcases hrefresh : Service.refresh (.ofNat 9) none s with ⟨failure | result, t⟩
  · simp [hrefresh] at h
  · rw [hrefresh] at h
    refine ⟨result, t, rfl, fun hreports ↦ ?_⟩
    cases hrun : (Reconciliation.run t.database (some (.ofNat 9)) none).outcome with
    | error fault => simp [hrun, Except.toOption] at h
    | ok results =>
      have hid : id ∈ (results.filter fun r ↦ r.check = check).flatMap fun r ↦
          r.findings.filterMap Finding.bundle? := by
        simp only [hrun, Except.toOption, Option.map_some, Option.some.injEq] at h
        rw [h]
        exact List.mem_cons_self
      obtain ⟨r, hr, hid⟩ := List.mem_flatMap.1 hid
      obtain ⟨finding, hfinding, -⟩ := List.mem_filterMap.1 hid
      obtain ⟨hr, hcheck⟩ := List.mem_filter.1 hr
      exact (hreports.exact_rows results r hrun hr (of_decide_eq_true hcheck) finding).1 hfinding

end LargePrice

/-! ### Bundles that are missing after a refresh -/

/-- Whether a finding is a bundle of an account that a transition of some account names on some base entitlement,
that had no base transition of the account before its refresh, and that has no record of another account after
it. -/
def IsOverlooked (before after : Database) (account : Uuid) (finding : Finding) : Prop :=
  ∃ b ∈ stored before.bundles, finding = .bundleMissing b ∧ b.account = account ∧
    HasEntitledTransition before b ∧
    (¬∃ event, IsBaseTransition before account event ∧ event.bundle = b.id) ∧
    ∀ r ∈ stored after.entries, r.entry.account ≠ account → r.entry.bundle ≠ b.id

/-- After a refresh those bundles of the account are reported as missing that the notions of the check and of the
refresh differ in. -/
theorem Service.reports_missing (account : Uuid) (given correlation : Option String) (s t : Service)
    (result : RefreshResult) (h : Service.refresh account given s = (.ok result, t)) :
    Reconciliation.Reports t.database (some account) correlation .bundlesMissing
      (IsOverlooked s.database t.database account) := by
  have hdone := Service.refreshed h
  refine .of_find fun findings hfind finding ↦ ?_
  have hselected : ∀ b, HasEntitledTransition t.database b ↔ HasEntitledTransition s.database b := by
    intro b
    rw [hdone.evolves.tables]
    exact Iff.rfl
  rw [Finding.mem_bundlesMissing_iff hfind, hdone.stored_bundles]
  refine exists_congr fun b ↦ and_congr_right fun hb ↦ and_congr_right fun _ ↦ ?_
  rw [Finding.inScope_some_iff, hselected b, ← hdone.exists_entry_iff b.id]
  refine and_congr_right fun _ ↦ and_congr_right fun _ ↦ ?_
  -- The records of all accounts are those of the account and those of the others.
  constructor
  · intro hnone
    refine ⟨?_, fun r hr _ ↦ hnone r hr⟩
    rintro ⟨r, hr, hbundle⟩
    exact hnone r (List.mem_filter.1 hr).1 hbundle
  · rintro ⟨hown, hothers⟩ r hr hbundle
    by_cases haccount : r.entry.account = account
    · exact hown ⟨r, List.mem_filter.2 ⟨hr, decide_eq_true haccount⟩, hbundle⟩
    · exact hothers r hr haccount hbundle

/-- A bundle whose transition is filed under another account is reported as missing. -/
theorem not_reports_missing_sample :
    ∃ result t, Service.refresh (.ofNat 9) none LargePrice.misfiled = (.ok result, t) ∧
      ¬Reconciliation.Reports t.database (some (.ofNat 9)) none .bundlesMissing fun _ ↦ False :=
  LargePrice.exists_not_reports LargePrice.reported_eq.1

theorem reports_missing_sample :
    ∃ result t, Service.refresh (.ofNat 9) none LargePrice.misfiled = (.ok result, t) ∧
      Reconciliation.Reports t.database (some (.ofNat 9)) none .bundlesMissing
        (IsOverlooked LargePrice.misfiled.database t.database (.ofNat 9)) := by
  obtain ⟨result, t, h, -⟩ := LargePrice.exists_not_reports LargePrice.reported_eq.1
  exact ⟨result, t, h, Service.reports_missing _ _ _ _ _ _ h⟩

/-! ### Creations that differ after a refresh -/

/-- Whether a finding is a record of an account with an audit entry of the creation of its bundle, under any
account, that differs from the creation that the refresh of the account took. -/
def IsOtherCreation (before after : Database) (account : Uuid) (finding : Finding) : Prop :=
  ∃ r ∈ entriesOf after account, ∃ a ∈ stored before.accounts, ∃ b ∈ stored before.bundles, ∃ c,
    finding = .creationAudit r c ∧ a.id = account ∧ b.id = r.entry.bundle ∧ IsInsertionOf before b c ∧
    ¬CreationTaken before a b c.createdBy c.reasonCode c.comments

/-- After a refresh those audit entries of creations are reported that differ from what the refresh took. -/
theorem Service.reports_creation (account : Uuid) (given correlation : Option String) (s t : Service)
    (result : RefreshResult) (h : Service.refresh account given s = (.ok result, t)) :
    Reconciliation.Reports t.database (some account) correlation .creationAudit
      (IsOtherCreation s.database t.database account) := by
  have hdone := Service.refreshed h
  have hinsertion : ∀ b c, IsInsertionOf t.database b c ↔ IsInsertionOf s.database b c := by
    intro b c
    rw [hdone.evolves.tables]
    exact Iff.rfl
  refine .of_find fun findings hfind finding ↦ ?_
  rw [Finding.mem_creationAudits_iff hfind, hdone.stored_bundles]
  constructor
  · rintro ⟨r, hr, b, hb, c, rfl, hscope, hid, hc, hdiffers⟩
    have hown : r ∈ entriesOf t.database account :=
      List.mem_filter.2 ⟨hr, decide_eq_true (Finding.inScope_some_iff.1 hscope)⟩
    obtain ⟨a, ha, haccount, b', hb', hid', htaken⟩ := hdone.creationTaken hown
    obtain rfl := eq_of_id_eq hb hb' (hid.trans hid'.symm)
    exact ⟨r, hown, a, ha, b, hb, c, rfl, haccount, hid, (hinsertion b c).1 hc,
      fun hsame ↦ hdiffers (htaken.unique hsame)⟩
  · rintro ⟨r, hown, a, ha, b, hb, c, rfl, haccount, hid, hc, hdiffers⟩
    obtain ⟨hr, hscope⟩ := List.mem_filter.1 hown
    obtain ⟨a', ha', haccount', b', hb', hid', htaken⟩ := hdone.creationTaken hown
    obtain rfl := eq_of_id_eq hb hb' (hid.trans hid'.symm)
    obtain rfl : a = a' := List.inj_on_of_nodup_map (Database.consistent_stored s.database.accounts).2 ha ha'
      (haccount.trans haccount'.symm)
    refine ⟨r, hr, b, hb, c, rfl, hscope, hid, (hinsertion b c).2 hc, ?_⟩
    rintro ⟨hcreatedBy, hreasonCode, hcomments⟩
    rw [hcreatedBy, hreasonCode, hcomments] at htaken
    exact hdiffers htaken

/-- A bundle with a second audit entry of its creation is reported. -/
theorem not_reports_creation_sample :
    ∃ result t, Service.refresh (.ofNat 9) none LargePrice.service = (.ok result, t) ∧
      ¬Reconciliation.Reports t.database (some (.ofNat 9)) none .creationAudit fun _ ↦ False :=
  LargePrice.exists_not_reports LargePrice.reported_eq.2

theorem reports_creation_sample :
    ∃ result t, Service.refresh (.ofNat 9) none LargePrice.service = (.ok result, t) ∧
      Reconciliation.Reports t.database (some (.ofNat 9)) none .creationAudit
        (IsOtherCreation LargePrice.service.database t.database (.ofNat 9)) := by
  obtain ⟨result, t, h, -⟩ := LargePrice.exists_not_reports LargePrice.reported_eq.2
  exact ⟨result, t, h, Service.reports_creation _ _ _ _ _ _ h⟩

end BundleLedger
