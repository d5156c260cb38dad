import BundleLedger.Proofs.FirstAppearance
import BundleLedger.Proofs.Reconciliation.Finding
import BundleLedger.Proofs.Reconciliation.Run
import Mathlib.Algebra.BigOperators.Group.Finset.Piecewise
import Mathlib.Algebra.Order.BigOperators.Group.Finset
import Mathlib.Data.Finset.Union

/-!
# Runs that are limited to one account

A check that is limited to an account finds those rows of the whole check that belong to the account
(`Finding.find_scoped`). A row belongs to the owner of its bundle or of its stored record, so the rows of the whole
check are those of all accounts together. The check of the flags of latest bundles is different: its rows are about
external keys within tenants, which several accounts may share, and it counts the flags of all accounts also when
it is limited to one. Its rows are the union of those of the accounts. So all checks pass exactly if they pass for
every account (`Reconciliation.run_by_account`).
-/

set_option autoImplicit false

namespace BundleLedger

open Result
open Database (stored)

theorem Database.isSome_of_rows {Row : Type} [Stored Row] {t : Option (Table Row)} {rs : List Row}
    (h : rows t = .ok rs) : t.isSome = true := by
  cases t with
  | none => simp [rows, existing, Except.map] at h
  | some table => rfl

/-! ### Rows of an account -/

/-- The accounts of the bundles and of the stored records. -/
def Database.accountsMentioned (db : Database) : Finset Uuid :=
  ((stored db.bundles).map (·.account) ++ (stored db.entries).map (·.entry.account)).toFinset

theorem Database.account_mem_of_bundle {db : Database} {b : BundleRow} (h : b ∈ stored db.bundles) :
    b.account ∈ db.accountsMentioned :=
  List.mem_toFinset.2 (List.mem_append_left _ (List.mem_map_of_mem h))

theorem Database.account_mem_of_entry {db : Database} {r : EntryRow} (h : r ∈ stored db.entries) :
    r.entry.account ∈ db.accountsMentioned :=
  List.mem_toFinset.2 (List.mem_append_right _ (List.mem_map_of_mem h))

namespace Finding

/-- The account that a row belongs to. A row about an external key belongs to none. -/
def account? : Finding → Option Uuid
  | .bundleMissing b => some b.account
  | .bundleOrphaned r | .bundleFields r _ | .accountFields r _ | .creationAudit r _
  | .chargedThrough r _ => some r.entry.account
  | .ranks s => some s.account
  | .latest _ => none

/-- The rows of an account. -/
def ofAccount (findings : List Finding) (account : Uuid) : List Finding :=
  findings.filter fun finding ↦ finding.account? = some account

variable {db : Database} {findings : List Finding} {account : Uuid}

/-- When each record gives rows of its own account, the records of an account give the rows of the account. -/
theorem ofAccount_flatMap {entries : List EntryRow} {f : EntryRow → List Finding}
    (h : ∀ r, ∀ finding ∈ f r, finding.account? = some r.entry.account) (account : Uuid) :
    ofAccount (entries.flatMap f) account =
      (entries.filter fun r ↦ inScope (some account) r.entry.account).flatMap f := by
  induction entries with
  | nil => rfl
  | cons r rest ih =>
    have hcons : ofAccount ((r :: rest).flatMap f) account =
        ofAccount (f r) account ++ ofAccount (rest.flatMap f) account := by
      unfold ofAccount
      rw [List.flatMap_cons, List.filter_append]
    rw [hcons, ih, List.filter_cons]
    by_cases hr : r.entry.account = account
    · have hall : ofAccount (f r) account = f r :=
        List.filter_eq_self.2 fun finding hf ↦ decide_eq_true ((h r finding hf).trans (congrArg some hr))
      rw [hall, if_pos (inScope_some_iff.2 hr), List.flatMap_cons]
    · have hnone : ofAccount (f r) account = [] :=
        List.filter_eq_nil_iff.2 fun finding hf hsame ↦
          hr (Option.some.inj ((h r finding hf).symm.trans (of_decide_eq_true hsame)))
      rw [hnone, if_neg (mt inScope_some_iff.1 hr), List.nil_append]

/-- Rows that are picked and turned into something else are given one by one. -/
theorem map_filter_eq_flatMap {α β : Type} (p : α → Bool) (g : α → β) (rows : List α) :
    (rows.filter p).map g = rows.flatMap fun row ↦ if p row then [g row] else [] := by
  induction rows with
  | nil => rfl
  | cons row rest ih =>
    rw [List.filter_cons, List.flatMap_cons, ← ih]
    split_ifs <;> rfl

/-- Whether a check goes through the stored records within its limits and finds rows for each of them, which belong
to the account of the record. -/
def GoesByRecord (db : Database) (check : Check) : Prop :=
  ∃ f : EntryRow → List Finding, (∀ r, ∀ finding ∈ f r, finding.account? = some r.entry.account) ∧
    ∀ scope, find db scope check =
      .ok (((stored db.entries).filter fun r ↦ inScope scope r.entry.account).flatMap f)

/-- Limited to an account, such a check finds its rows of the account. -/
theorem GoesByRecord.find_scoped {check : Check} (h : GoesByRecord db check) (account : Uuid) :
    find db (some account) check = (find db none check).map fun findings ↦ ofAccount findings account := by
  obtain ⟨f, hf, hfind⟩ := h
  have hall : ((stored db.entries).filter fun r ↦ inScope none r.entry.account) = stored db.entries :=
    List.filter_eq_self.2 fun _ _ ↦ rfl
  rw [hfind, hfind, hall, ← ofAccount_flatMap hf]
  rfl

theorem entriesIn_eq_ok (hdb : db.Checkable) (scope : Option Uuid) :
    entriesIn db scope = .ok ((stored db.entries).filter fun r ↦ inScope scope r.entry.account) := by
  rw [entriesIn, Database.rows_of_isSome hdb.entries]
  rfl

/-! ### The checks that go by record -/

theorem goesByRecord_bundlesOrphaned (hdb : db.Checkable) : GoesByRecord db .bundlesOrphaned := by
  refine ⟨fun r ↦ if !(stored db.bundles).any fun b ↦ b.id = r.entry.bundle then [.bundleOrphaned r] else [],
    fun r finding hfinding ↦ ?_, fun scope ↦ ?_⟩
  · dsimp only at hfinding
    split_ifs at hfinding
    · rw [List.mem_singleton.1 hfinding, account?]
    · simp at hfinding
  · rw [← map_filter_eq_flatMap]
    simp only [find, bundlesOrphaned, entriesIn_eq_ok hdb, Database.rows_of_isSome hdb.bundles]
    rfl

theorem goesByRecord_bundleFields (hdb : db.Checkable) : GoesByRecord db .bundleFields := by
  refine ⟨fun r ↦ ((stored db.bundles).filter fun b ↦ b.id = r.entry.bundle && bundleDiffers r.entry b).map
    (.bundleFields r), fun r finding hfinding ↦ ?_, fun scope ↦ ?_⟩
  · obtain ⟨b, -, rfl⟩ := List.mem_map.1 hfinding
    rfl
  · simp only [find, bundleFieldsOf, entriesIn_eq_ok hdb, Database.rows_of_isSome hdb.bundles, Except.map,
      Bind.bind, Except.bind, Pure.pure, Except.pure, List.map_flatMap, List.map_map]
    rfl

theorem goesByRecord_accountFields (hdb : db.Checkable) : GoesByRecord db .accountFields := by
  refine ⟨fun r ↦ ((stored db.accounts).filter fun a ↦ a.id = r.entry.account && accountDiffers r.entry a).map
    (.accountFields r), fun r finding hfinding ↦ ?_, fun scope ↦ ?_⟩
  · obtain ⟨a, -, rfl⟩ := List.mem_map.1 hfinding
    rfl
  · simp only [find, accountFieldsOf, entriesIn_eq_ok hdb, Database.rows_of_isSome hdb.accounts, Except.map,
      Bind.bind, Except.bind, Pure.pure, Except.pure, List.map_flatMap, List.map_map]
    rfl

theorem goesByRecord_creationAudit (hdb : db.Checkable) : GoesByRecord db .creationAudit := by
  refine ⟨fun r ↦ ((stored db.bundles).filter fun b ↦ b.id = r.entry.bundle).flatMap fun b ↦
    ((stored db.audits).filter fun a ↦
      a.targetRecordId = b.recordId && Database.isCreation a && auditDiffers r.entry a).map (.creationAudit r),
    fun r finding hfinding ↦ ?_, fun scope ↦ ?_⟩
  · obtain ⟨b, -, hfinding⟩ := List.mem_flatMap.1 hfinding
    obtain ⟨a, -, rfl⟩ := List.mem_map.1 hfinding
    rfl
  · simp only [find, creationAuditsOf, entriesIn_eq_ok hdb, Database.rows_of_isSome hdb.bundles,
      Database.rows_of_isSome hdb.audits, Except.map, Bind.bind, Except.bind, Pure.pure, Except.pure,
      List.map_flatMap, List.map_map]
    rfl

theorem goesByRecord_chargedThrough (hdb : db.Checkable) : GoesByRecord db .chargedThroughDate := by
  let expected (r : EntryRow) := (firstBase? (stored db.subscriptions) r.entry.bundle).bind (·.chargedThrough)
  refine ⟨fun r ↦ if decide (r.entry.chargedThrough ≠ expected r) then [.chargedThrough r (expected r)] else [],
    fun r finding hfinding ↦ ?_, fun scope ↦ ?_⟩
  · dsimp only at hfinding
    split_ifs at hfinding
    · rw [List.mem_singleton.1 hfinding, account?]
    · simp at hfinding
  · rw [← map_filter_eq_flatMap]
    simp only [find, chargedThroughOf, entriesIn_eq_ok hdb, Database.rows_of_isSome hdb.subscriptions, Except.map,
      Bind.bind, Except.bind, Pure.pure, Except.pure, List.filter_map, List.map_map]
    rfl

/-! ### The other checks -/

theorem bundlesMissing_scoped (hdb : db.Checkable) (account : Uuid) :
    find db (some account) .bundlesMissing =
      (find db none .bundlesMissing).map fun findings ↦ ofAccount findings account := by
  have hnodup := (Database.consistent_stored db.bundles).1
  simp only [find, bundlesMissing, Database.rows_of_isSome hdb.bundles, Database.rows_of_isSome hdb.transitions,
    Database.rows_of_isSome hdb.subscriptions, Database.rows_of_isSome hdb.entries, Except.map, Bind.bind,
    Except.bind, Pure.pure, Except.pure]
  rw [Database.inOrder_filter hnodup, Database.inOrder_filter hnodup, ofAccount, List.filter_map,
    List.filter_filter]
  refine congrArg (fun rows : List BundleRow ↦ Except.ok (rows.map bundleMissing))
    (List.filter_congr fun b _ ↦ ?_)
  simp [inScope, account?, Bool.and_assoc]

theorem sparseRanks_scoped (hdb : db.Checkable) (account : Uuid) :
    find db (some account) .rankDensity =
      (find db none .rankDensity).map fun findings ↦ ofAccount findings account := by
  simp only [find, sparseRanks, entriesIn_eq_ok hdb, Except.map, Bind.bind, Except.bind, Pure.pure, Except.pure]
  have hall : ((stored db.entries).filter fun r ↦ inScope none r.entry.account) = stored db.entries :=
    List.filter_eq_self.2 fun _ _ ↦ rfl
  -- The accounts of the records of one account are that account, if it has any.
  have hown : (((stored db.entries).filter fun r ↦ inScope (some account) r.entry.account).map
      (·.entry.account)).eraseDups =
        ((stored db.entries).map (·.entry.account)).eraseDups.filter (· = account) := by
    rw [← FirstAppearance.eraseDups_filter, List.filter_map]
    rfl
  -- For that account, the ranks of its records are summed up as among all.
  have hsame := ranks_inScope (stored db.entries) (inScope_some_iff.2 (rfl : account = account))
  rw [hall, hown, ofAccount, List.filter_map, List.filter_map, List.filter_filter, List.filter_filter]
  refine congrArg (fun rows : List RankSummary ↦ Except.ok (rows.map ranks)) ?_
  refine (congrArg _ (List.filter_congr fun a _ ↦ ?_)).trans (List.map_congr_left fun a ha ↦ ?_)
  · by_cases ha : a = account
    · simp [ha, hsame.2, account?, rankSummary]
    · simp [ha, account?, rankSummary]
  · obtain rfl : a = account := Option.some.inj (of_decide_eq_true (Bool.and_eq_true_iff.1 (List.mem_filter.1 ha).2).1)
    exact hsame.1

/-- Limited to an account, a check finds its rows of the account. -/
theorem find_scoped (hdb : db.Checkable) {check : Check} (hcheck : check ≠ .latestForExternalKey)
    (account : Uuid) :
    find db (some account) check = (find db none check).map fun findings ↦ ofAccount findings account := by
  cases check with
  | bundlesMissing => exact bundlesMissing_scoped hdb account
  | bundlesOrphaned => exact (goesByRecord_bundlesOrphaned hdb).find_scoped account
  | bundleFields => exact (goesByRecord_bundleFields hdb).find_scoped account
  | accountFields => exact (goesByRecord_accountFields hdb).find_scoped account
  | creationAudit => exact (goesByRecord_creationAudit hdb).find_scoped account
  | chargedThroughDate => exact (goesByRecord_chargedThrough hdb).find_scoped account
  | rankDensity => exact sparseRanks_scoped hdb account
  | latestForExternalKey => exact absurd rfl hcheck

/-- Every row but those about external keys belongs to an account of a bundle or of a stored record. -/
theorem account_mem {check : Check} (h : find db none check = .ok findings)
    (hcheck : check ≠ .latestForExternalKey) {finding : Finding} (hfinding : finding ∈ findings) :
    ∃ account ∈ db.accountsMentioned, finding.account? = some account := by
  cases check with
  | bundlesMissing =>
    obtain ⟨b, hb, rfl, -⟩ := (mem_bundlesMissing_iff h).1 hfinding
    exact ⟨b.account, Database.account_mem_of_bundle hb, rfl⟩
  | bundlesOrphaned =>
    obtain ⟨r, hr, rfl, -⟩ := (mem_bundlesOrphaned_iff h).1 hfinding
    exact ⟨r.entry.account, Database.account_mem_of_entry hr, rfl⟩
  | bundleFields =>
    obtain ⟨r, hr, b, -, rfl, -⟩ := (mem_bundleFields_iff h).1 hfinding
    exact ⟨r.entry.account, Database.account_mem_of_entry hr, rfl⟩
  | accountFields =>
    obtain ⟨r, hr, a, -, rfl, -⟩ := (mem_accountFields_iff h).1 hfinding
    exact ⟨r.entry.account, Database.account_mem_of_entry hr, rfl⟩
  | creationAudit =>
    obtain ⟨r, hr, b, -, c, rfl, -⟩ := (mem_creationAudits_iff h).1 hfinding
    exact ⟨r.entry.account, Database.account_mem_of_entry hr, rfl⟩
  | chargedThroughDate =>
    obtain ⟨r, hr, day, rfl, -⟩ := (mem_chargedThrough_iff h).1 hfinding
    exact ⟨r.entry.account, Database.account_mem_of_entry hr, rfl⟩
  | rankDensity =>
    obtain ⟨r, hr, rfl, -⟩ := (mem_sparseRanks_iff h).1 hfinding
    exact ⟨r.entry.account, Database.account_mem_of_entry hr, rfl⟩
  | latestForExternalKey => exact absurd rfl hcheck

/-- Rows that belong to some accounts are those of each of them together. -/
theorem coe_eq_sum {accounts : Finset Uuid}
    (h : ∀ finding ∈ findings, ∃ account ∈ accounts, finding.account? = some account) :
    (findings : Multiset Finding) = ∑ account ∈ accounts, (ofAccount findings account : Multiset Finding) := by
  refine Multiset.ext.2 fun finding ↦ ?_
  rw [Multiset.count_sum']
  -- A row counts for its own account only.
  have hcount : ∀ account, Multiset.count finding (ofAccount findings account : Multiset Finding) =
      if finding.account? = some account then findings.count finding else 0 := by
    intro account
    rw [Multiset.coe_count, ofAccount]
    split_ifs with hown
    · exact List.count_filter (decide_eq_true hown)
    · exact List.count_eq_zero.2 fun hmem ↦ hown (of_decide_eq_true (List.mem_filter.1 hmem).2)
  simp only [hcount, Multiset.coe_count]
  by_cases hmem : finding ∈ findings
  · obtain ⟨own, hown, haccount⟩ := h finding hmem
    simp only [haccount, Option.some.injEq]
    rw [Finset.sum_ite_eq, if_pos hown]
  · rw [List.count_eq_zero.2 hmem]
    simp

/-- A key within a tenant of which not exactly one record is flagged is found for the accounts of its records. -/
theorem exists_scoped_latest {limited : Uuid → List Finding}
    (h : find db none .latestForExternalKey = .ok findings)
    (hlimited : ∀ account, find db (some account) .latestForExternalKey = .ok (limited account))
    (finding : Finding) :
    finding ∈ findings ↔ ∃ account ∈ db.accountsMentioned, finding ∈ limited account := by
  constructor
  · intro hfinding
    obtain ⟨r, hr, rfl, -, hcount⟩ := (mem_latestFlags_iff h).1 hfinding
    refine ⟨r.entry.account, Database.account_mem_of_entry hr,
      (mem_latestFlags_iff (hlimited r.entry.account)).2 ⟨r, hr, rfl, ?_, hcount⟩⟩
    have hown : r ∈ (stored db.entries).filter fun other ↦ other.entry.account = r.entry.account :=
      List.mem_filter.2 ⟨hr, decide_eq_true rfl⟩
    exact Bool.and_eq_true_iff.2 ⟨List.any_eq_true.2 ⟨r, hown, decide_eq_true rfl⟩,
      List.any_eq_true.2 ⟨r, hown, decide_eq_true rfl⟩⟩
  · rintro ⟨account, -, hfinding⟩
    obtain ⟨r, hr, rfl, -, hcount⟩ := (mem_latestFlags_iff (hlimited account)).1 hfinding
    exact (mem_latestFlags_iff h).2 ⟨r, hr, rfl, rfl, hcount⟩

end Finding

/-! ### All checks, by account -/

namespace Reconciliation

variable {db : Database} {correlation : Option Uuid → Option String}

/-- A run returns exactly if the tables exist that the checks read, whatever it is limited to. -/
theorem exists_results_iff {scope : Option Uuid} {correlation : Option String} :
    (∃ results, (run db scope correlation).outcome = .ok results) ↔ db.Checkable := by
  refine ⟨?_, fun h ↦ exists_results h scope correlation⟩
  rintro ⟨results, hresults⟩
  have hfound : ∀ check, ∃ findings, Finding.find db scope check = .ok findings := by
    intro check
    obtain ⟨_, -, findings, hfind, -⟩ := Pairing.exists_mem_right (run_eq_ok_iff.1 hresults) check.mem_all
    exact ⟨findings, hfind⟩
  obtain ⟨_, hmissing⟩ := hfound .bundlesMissing
  obtain ⟨_, haccounts⟩ := hfound .accountFields
  obtain ⟨_, haudits⟩ := hfound .creationAudit
  simp only [Finding.find, Finding.bundlesMissing, Finding.accountFieldsOf, Finding.creationAuditsOf,
    map_eq_ok_iff, bind_eq_ok_iff] at hmissing haccounts haudits
  obtain ⟨_, ⟨_, hb, _, ht, _, hs, _, he, -⟩, -⟩ := hmissing
  obtain ⟨_, ⟨_, -, _, ha, -⟩, -⟩ := haccounts
  obtain ⟨_, ⟨_, -, _, -, _, hc, -⟩, -⟩ := haudits
  exact ⟨Database.isSome_of_rows ha, Database.isSome_of_rows hb, Database.isSome_of_rows hs,
    Database.isSome_of_rows hc, Database.isSome_of_rows ht, Database.isSome_of_rows he⟩

/-- Whether the results of the runs that are limited to each account agree with those of the run that is not. -/
structure AgreeByAccount (accounts : Finset Uuid) (found : Option Uuid → Check → List Finding) : Prop where
  /-- The rows of the accounts together, each as often as it occurs. -/
  sum : ∀ check, check ≠ .latestForExternalKey →
    (found none check : Multiset Finding) = ∑ account ∈ accounts, (found (some account) check : Multiset Finding)
  /-- The rows about external keys, with the same numbers of flags, for whichever accounts they are found. -/
  union : (found none .latestForExternalKey).toFinset =
    accounts.biUnion fun account ↦ (found (some account) .latestForExternalKey).toFinset

/-- What checks have found, as the results of a run. -/
def resultsOf (found : Check → List Finding) : List CheckResult :=
  Check.all.map fun check ↦ ⟨check, found check⟩

theorem passed_resultsOf {found : Check → List Finding} :
    passed (resultsOf found) = true ↔ ∀ check, found check = [] := by
  unfold passed resultsOf
  rw [List.all_map, List.all_eq_true]
  simp only [Function.comp_apply, List.isEmpty_iff, Check.mem_all, forall_const]

theorem AgreeByAccount.passed_iff {accounts : Finset Uuid} {found : Option Uuid → Check → List Finding}
    (h : AgreeByAccount accounts found) :
    passed (resultsOf (found none)) = true ↔
      ∀ account ∈ accounts, passed (resultsOf (found (some account))) = true := by
  have hcheck : ∀ check, found none check = [] ↔ ∀ account ∈ accounts, found (some account) check = [] := by
    intro check
    by_cases hlatest : check = .latestForExternalKey
    · subst hlatest
      simp only [← List.toFinset_eq_empty_iff, h.union, Finset.eq_empty_iff_forall_notMem, Finset.mem_biUnion,
        not_exists, not_and]
      exact ⟨fun hnone account haccount row hrow ↦ hnone row account haccount hrow,
        fun hnone row account haccount hrow ↦ hnone account haccount row hrow⟩
    · rw [← Multiset.coe_eq_zero, h.sum check hlatest, Finset.sum_eq_zero_iff]
      simp only [Multiset.coe_eq_zero]
  simp only [passed_resultsOf, hcheck]
  exact ⟨fun hall account haccount check ↦ hall check account haccount,
    fun hall check account haccount ↦ hall account haccount check⟩

/-- Runs of all checks agree with each other, whatever the tables hold: either a table has been dropped and no run
returns, or all do, and the rows of the run without limits are those of the runs that are limited to an account,
for all accounts that occur. So it passes exactly if they all do. -/
theorem run_by_account (db : Database) (correlation : Option Uuid → Option String) :
    (¬db.Checkable ∧ ∀ scope, ∃ fault, (run db scope (correlation scope)).outcome = .error fault) ∨
      ∃ found : Option Uuid → Check → List Finding,
        (∀ scope, (run db scope (correlation scope)).outcome = .ok (resultsOf (found scope))) ∧
        AgreeByAccount db.accountsMentioned found ∧
        (passed (resultsOf (found none)) = true ↔
          ∀ account ∈ db.accountsMentioned, passed (resultsOf (found (some account))) = true) := by
  by_cases hdb : db.Checkable
  · choose found hfound using Finding.exists_find hdb
    have hagree : AgreeByAccount db.accountsMentioned found := by
      refine ⟨fun check hcheck ↦ ?_, Finset.ext fun finding ↦ ?_⟩
      · rw [Finding.coe_eq_sum fun finding hf ↦ Finding.account_mem (hfound none check) hcheck hf]
        refine Finset.sum_congr rfl fun account _ ↦ congrArg _ ?_
        have hlimited := Finding.find_scoped hdb hcheck account
        rw [hfound, hfound] at hlimited
        exact (Except.ok.inj hlimited).symm
      · rw [List.mem_toFinset, Finset.mem_biUnion,
          Finding.exists_scoped_latest (hfound none _) (fun account ↦ hfound (some account) _) finding]
        simp only [List.mem_toFinset]
    refine .inr ⟨found, fun scope ↦ run_eq_ok_iff.2 ?_, hagree, hagree.passed_iff⟩
    rw [resultsOf, List.forall₂_map_right_iff, List.forall₂_same]
    exact fun check _ ↦ ⟨found scope check, hfound scope check, rfl⟩
  · refine .inl ⟨hdb, fun scope ↦ ?_⟩
    cases houtcome : (run db scope (correlation scope)).outcome with
    | error fault => exact ⟨fault, rfl⟩
    | ok results => exact absurd (exists_results_iff.1 ⟨results, houtcome⟩) hdb

end Reconciliation
end BundleLedger
