import BundleLedger.Proofs.Reconciliation.Refreshed
import BundleLedger.Proofs.Service.History

/-!
# The flags of latest bundles after refreshes

A refresh flags the records of its account alone, but the check counts the flags of all accounts. They agree since
every refresh finds the same newest bundle of an external key within a tenant: from no stored records, whatever
accounts have been refreshed, a record is flagged exactly if its bundle is the newest one
(`History.exists_newest`). So no key of a tenant has two flags, and those are reported, with no flag, whose newest
bundle has no record (`History.reports_latest`).
-/

set_option autoImplicit false

namespace BundleLedger

open Result
open Database (stored creationKey)

/-! ### The newest bundle of an external key -/

/-- Whether a bundle is the newest of an external key within a tenant: by its creation, then by its record
number. -/
structure IsNewest (db : Database) (key : String) (tenant : ℤ) (b : BundleRow) : Prop where
  mem : b ∈ stored db.bundles
  externalKey : b.externalKey = key
  tenantRecordId : b.tenantRecordId = tenant
  greatest : ∀ other ∈ stored db.bundles, other.externalKey = key → other.tenantRecordId = tenant →
    creationKey other ≤ creationKey b

theorem IsNewest.unique {db : Database} {key : String} {tenant : ℤ} {b b' : BundleRow}
    (h : IsNewest db key tenant b) (h' : IsNewest db key tenant b') : b = b' := by
  have hle := h'.greatest b h.mem h.externalKey h.tenantRecordId
  have hge := h.greatest b' h'.mem h'.externalKey h'.tenantRecordId
  have hsame : creationKey b = creationKey b' := le_antisymm hle hge
  exact eq_of_recordId_eq h.mem h'.mem (congrArg (fun key ↦ (ofLex key).2) hsame)

/-- A record of a reference list is flagged exactly if its bundle is the newest of its external key, of which
there is one. -/
theorem ReferenceOf.exists_newest {s : Service} {account : Uuid} {reference : List BundleRecord}
    (h : ReferenceOf s account reference) {r : BundleRecord} (hr : r ∈ reference) :
    ∃ b, IsNewest s.database r.bundleExternalKey r.tenantRecordId b ∧
      (r.latestForExternalKey = true ↔ r.bundle = b.id) := by
  obtain ⟨settings, transitions, -, -, bundles, converter, -, -, -, hdrawn⟩ := h
  obtain ⟨d, hd, hmade⟩ := hdrawn r hr
  obtain ⟨facts, hfacts, -, -, -, -, htenant, -⟩ := accountFields_eq hd hmade
  obtain ⟨latest, hlatest, hflag⟩ := hd.isLatest
  obtain ⟨newest, hnewest, rfl⟩ := map_eq_ok_iff.1 (mapError_eq_ok_iff.1 hlatest)
  obtain ⟨b, hb, hkey, hbtenant, hid, hgreatest⟩ := latestBundle_eq_ok hfacts hnewest
  rw [← hmade.bundleExternalKey] at hkey hgreatest
  rw [← htenant] at hbtenant hgreatest
  refine ⟨b, ⟨hb, hkey, hbtenant, hgreatest⟩, ?_⟩
  rw [hmade.latestForExternalKey, hflag, hid, eq_comm]

/-! ### Records after a history -/

namespace History

variable {s t : Service} {calls : List RefreshCall}

/-- When there were no stored records, every one is that of a record of a reference list. -/
theorem exists_reference (h : History s calls t) (hempty : stored s.database.entries = []) {r : EntryRow}
    (hr : r ∈ stored t.database.entries) :
    ∃ reference, ReferenceOf s r.entry.account reference ∧ ∃ made ∈ reference,
      Database.storedEntry made = r.entry := by
  have hown : r ∈ entriesOf t.database r.entry.account := List.mem_filter.2 ⟨hr, decide_eq_true rfl⟩
  rcases h.evolves.stored r.entry.account with hsame | ⟨reference, href, hstored⟩
  · rw [hsame, entriesOf, hempty] at hown
    simp at hown
  · exact ⟨reference, href, List.mem_map.1 (hstored.mem_iff.1 (List.mem_map_of_mem hown))⟩

/-- A stored record is flagged exactly if its bundle is the newest of its external key, of which there is one. -/
theorem exists_newest (h : History s calls t) (hempty : stored s.database.entries = []) {r : EntryRow}
    (hr : r ∈ stored t.database.entries) :
    ∃ b, IsNewest s.database r.entry.bundleExternalKey r.entry.tenantRecordId b ∧
      (r.entry.latestForExternalKey = true ↔ r.entry.bundle = b.id) := by
  obtain ⟨reference, href, made, hmade, hentry⟩ := h.exists_reference hempty hr
  rw [← hentry]
  exact href.exists_newest hmade

/-- Two records of one bundle are one record, since the bundle belongs to one account. -/
theorem eq_of_bundle_eq (h : History s calls t) (hempty : stored s.database.entries = []) {r r' : EntryRow}
    (hr : r ∈ stored t.database.entries) (hr' : r' ∈ stored t.database.entries)
    (hbundle : r.entry.bundle = r'.entry.bundle) : r = r' := by
  have hrow : ∀ x ∈ stored t.database.entries, ∃ b ∈ stored s.database.bundles,
      b.id = x.entry.bundle ∧ b.account = x.entry.account := by
    intro x hx
    obtain ⟨reference, href, made, hmade, hentry⟩ := h.exists_reference hempty hx
    obtain ⟨settings, -, hview⟩ := href.materialized
    obtain ⟨a, b, event, hrecord⟩ := hview.view made hmade
    refine ⟨b, hrecord.bundleRow.1, ?_, hrecord.bundleRow.2.1⟩
    rw [← hentry]
    exact hrecord.bundleRow.2.2
  obtain ⟨b, hb, hid, haccount⟩ := hrow r hr
  obtain ⟨b', hb', hid', haccount'⟩ := hrow r' hr'
  obtain rfl := eq_of_id_eq hb hb' (hid.trans (hbundle.trans hid'.symm))
  have hkey : r.key = r'.key := Prod.ext (haccount.symm.trans haccount') hbundle
  exact List.inj_on_of_nodup_map (Database.consistent_stored t.database.entries).2 hr hr' hkey

end History

/-! ### The report -/

namespace Finding

theorem count_latestSummary_eq_zero_iff {entries : List EntryRow} {key : String × ℤ} :
    (latestSummary entries key).count = 0 ↔
      ∀ r ∈ entries, keyOf r = key → r.entry.latestForExternalKey = false := by
  unfold latestSummary
  simp only [List.countP_eq_zero, Bool.and_eq_true, decide_eq_true_eq, not_and, Bool.not_eq_true]

/-- If any two flagged records of a group are one, then at most one is flagged. -/
theorem count_latestSummary_le_one {entries : List EntryRow} {key : String × ℤ} (hnodup : entries.Nodup)
    (h : ∀ r ∈ entries, ∀ r' ∈ entries, keyOf r = key → keyOf r' = key →
      r.entry.latestForExternalKey = true → r'.entry.latestForExternalKey = true → r = r') :
    (latestSummary entries key).count ≤ 1 := by
  unfold latestSummary
  dsimp only
  rw [List.countP_eq_length_filter]
  have hflagged := hnodup.filter fun r ↦ decide (keyOf r = key) && r.entry.latestForExternalKey
  have hmem : ∀ r ∈ entries.filter fun r ↦ decide (keyOf r = key) && r.entry.latestForExternalKey,
      r ∈ entries ∧ keyOf r = key ∧ r.entry.latestForExternalKey = true := by
    intro r hr
    simpa using hr
  revert hflagged hmem
  generalize entries.filter (fun r ↦ decide (keyOf r = key) && r.entry.latestForExternalKey) = flagged
  intro hflagged hmem
  match flagged with
  | [] => exact Nat.zero_le 1
  | [_] => exact le_refl 1
  | r :: r' :: rest =>
    obtain ⟨hr, hkey, hflag⟩ := hmem r List.mem_cons_self
    obtain ⟨hr', hkey', hflag'⟩ := hmem r' (List.mem_cons_of_mem _ List.mem_cons_self)
    have hsame := h r hr r' hr' hkey hkey' hflag hflag'
    simp [hsame] at hflagged

end Finding

/-- Whether a finding is a group of stored records, of one external key and tenant, whose newest bundle has no
record in the group; it is reported with no flag. -/
def IsUnflagged (before after : Database) (finding : Finding) : Prop :=
  ∃ r ∈ stored after.entries, finding = .latest ⟨r.entry.bundleExternalKey, r.entry.tenantRecordId, 0⟩ ∧
    ∃ b, IsNewest before r.entry.bundleExternalKey r.entry.tenantRecordId b ∧
      ∀ other ∈ stored after.entries, Finding.keyOf other = Finding.keyOf r → other.entry.bundle ≠ b.id

/-- Whether the check of latest bundles reports exactly the groups whose newest bundle has no record, and no group
has two flags. -/
structure ReportsLatest (before after : Database) (correlation : Option String) : Prop where
  reports : Reconciliation.Reports after none correlation .latestForExternalKey (IsUnflagged before after)
  atMostOne : ∀ key, (Finding.latestSummary (stored after.entries) key).count ≤ 1

namespace History

variable {s t : Service} {calls : List RefreshCall}

/-- No record of a group is flagged exactly if none is of the newest bundle. -/
theorem count_eq_zero_iff (h : History s calls t) (hempty : stored s.database.entries = []) {r : EntryRow}
    (hr : r ∈ stored t.database.entries) :
    (Finding.latestSummary (stored t.database.entries) (Finding.keyOf r)).count = 0 ↔
      ∃ b, IsNewest s.database r.entry.bundleExternalKey r.entry.tenantRecordId b ∧
        ∀ other ∈ stored t.database.entries, Finding.keyOf other = Finding.keyOf r →
          other.entry.bundle ≠ b.id := by
  obtain ⟨b, hnewest, -⟩ := h.exists_newest hempty hr
  -- The newest bundle that a record of the group is compared with is the one of the group.
  have hflag : ∀ other ∈ stored t.database.entries, Finding.keyOf other = Finding.keyOf r →
      (other.entry.latestForExternalKey = true ↔ other.entry.bundle = b.id) := by
    intro other hother hkey
    obtain ⟨b', hnewest', hiff⟩ := h.exists_newest hempty hother
    obtain ⟨hexternal, htenant⟩ := Prod.mk.inj hkey
    rw [hexternal, htenant] at hnewest'
    rw [hiff, hnewest'.unique hnewest]
  rw [Finding.count_latestSummary_eq_zero_iff]
  constructor
  · intro hnone
    refine ⟨b, hnewest, fun other hother hkey hbundle ↦ ?_⟩
    have hflagged := (hflag other hother hkey).2 hbundle
    simp [hnone other hother hkey] at hflagged
  · rintro ⟨b', hnewest', hnone⟩ other hother hkey
    obtain rfl := hnewest.unique hnewest'
    rw [← Bool.not_eq_true, hflag other hother hkey]
    exact hnone other hother hkey

theorem atMostOne (h : History s calls t) (hempty : stored s.database.entries = []) (key : String × ℤ) :
    (Finding.latestSummary (stored t.database.entries) key).count ≤ 1 := by
  have hnodup : (stored t.database.entries).Nodup :=
    List.Nodup.of_map EntryRow.key (Database.consistent_stored t.database.entries).2
  refine Finding.count_latestSummary_le_one hnodup fun r hr r' hr' hkey hkey' hflag hflag' ↦ ?_
  obtain ⟨b, hnewest, hiff⟩ := h.exists_newest hempty hr
  obtain ⟨b', hnewest', hiff'⟩ := h.exists_newest hempty hr'
  obtain ⟨hexternal, htenant⟩ := Prod.mk.inj (hkey.trans hkey'.symm)
  rw [hexternal, htenant] at hnewest
  obtain rfl := hnewest.unique hnewest'
  exact h.eq_of_bundle_eq hempty hr hr' ((hiff.1 hflag).trans (hiff'.1 hflag').symm)

/-- After refreshes of whatever accounts from no stored records, the groups are reported whose newest bundle has no
record, and no group has two flags. -/
theorem reports_latest (s t : Service) (calls : List RefreshCall) (correlation : Option String)
    (h : History s calls t) (hempty : stored s.database.entries = []) :
    ReportsLatest s.database t.database correlation where
  atMostOne := h.atMostOne hempty
  reports := by
    refine .of_find fun findings hfind finding ↦ ?_
    rw [Finding.mem_latestFlags_iff hfind]
    refine exists_congr fun r ↦ and_congr_right fun hr ↦ ?_
    have hone := h.atMostOne hempty (Finding.keyOf r)
    rw [← h.count_eq_zero_iff hempty hr]
    constructor
    · rintro ⟨rfl, -, hcount⟩
      have hzero : (Finding.latestSummary (stored t.database.entries) (Finding.keyOf r)).count = 0 := by omega
      refine ⟨?_, hzero⟩
      exact congrArg (fun count ↦ Finding.latest ⟨r.entry.bundleExternalKey, r.entry.tenantRecordId, count⟩) hzero
    · rintro ⟨rfl, hzero⟩
      refine ⟨?_, rfl, by omega⟩
      exact congrArg (fun count ↦ Finding.latest ⟨r.entry.bundleExternalKey, r.entry.tenantRecordId, count⟩)
        hzero.symm

end History

namespace LargePrice

/-- A refresh of the one account, whose second and newest bundle has its transition filed elsewhere. -/
def misfiledCall : RefreshCall := ⟨misfiled, .ofNat 9, none⟩

theorem returns_misfiledCall : misfiledCall.Returns := by
  obtain ⟨result, t, h, -⟩ := exists_not_reports reported_eq.1
  exact RefreshCall.returns_iff_exists.2 ⟨result, t, h⟩

/-- The record of the first bundle is stored without a flag. -/
theorem flags_misfiledCall :
    (stored misfiledCall.after.database.entries).map
        (fun r ↦ (Finding.keyOf r, r.entry.bundle.toNat, r.entry.latestForExternalKey)) =
      [(("bundle", 1), 1, false)] := by
  unfold RefreshCall.after Service.refresh Refresh.run Refresh.runWith Refresh.work Refresh.build
    Source.transitions Database.transitionsOf Source.context Source.latestBundle Database.latestBundle?
    Database.bundlesOf Database.bundleRowsOf Database.bundleOf Source.creationAudit Source.creationsOr
    Database.creationsOf
  simp only [Sorting.mergeSort_eq_insertionSort happensBefore_iff, Database.inOrder_eq_insertionSort,
    Refresh.byRank_eq_insertionSort]
  decide +kernel

end LargePrice

/-- The newest bundle has no record, so the group of the other one is reported. -/
theorem reports_latest_sample :
    History LargePrice.misfiled [LargePrice.misfiledCall] LargePrice.misfiledCall.after ∧
      LargePrice.misfiledCall.Returns ∧ stored LargePrice.misfiled.database.entries = [] ∧
      (stored LargePrice.misfiledCall.after.database.entries).map
          (fun r ↦ (Finding.keyOf r, r.entry.bundle.toNat, r.entry.latestForExternalKey)) =
        [(("bundle", 1), 1, false)] ∧
      ReportsLatest LargePrice.misfiled.database LargePrice.misfiledCall.after.database none := by
  have h : History LargePrice.misfiled [LargePrice.misfiledCall] LargePrice.misfiledCall.after :=
    .cons rfl rfl (.nil _)
  exact ⟨h, LargePrice.returns_misfiledCall, rfl, LargePrice.flags_misfiledCall,
    History.reports_latest _ _ _ _ h rfl⟩

end BundleLedger
