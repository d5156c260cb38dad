import BundleLedger.Proofs.Pairing
import BundleLedger.Proofs.Store.Query
import BundleLedger.Reconciliation.Run

/-!
# What a run of all checks returns

A run returns what each check finds, check by check in their order, and it returns whenever the tables exist that
the checks read (`Reconciliation.exists_results`). So a check reports certain rows (`Reconciliation.Reports`) as
soon as these are what it finds (`Reconciliation.Reports.of_find`), and so for its rows about one subject
(`Reconciliation.ReportsAbout.of_find`).
-/

set_option autoImplicit false

namespace BundleLedger

open Result
open Database (stored)

/-- Whether the tables exist that the checks read. -/
structure Database.Checkable (db : Database) : Prop where
  accounts : db.accounts.isSome = true
  bundles : db.bundles.isSome = true
  subscriptions : db.subscriptions.isSome = true
  audits : db.audits.isSome = true
  transitions : db.transitions.isSome = true
  entries : db.entries.isSome = true

theorem Database.rows_of_isSome {Row : Type} [Stored Row] {t : Option (Table Row)} (h : t.isSome = true) :
    rows t = .ok (stored t) := by
  obtain ⟨table, rfl⟩ := Option.isSome_iff_exists.1 h
  rfl

/-- Every check finds what it finds when its tables exist. -/
theorem Finding.exists_find {db : Database} (h : db.Checkable) (scope : Option Uuid) (check : Check) :
    ∃ findings, find db scope check = .ok findings := by
  have haccounts := Database.rows_of_isSome h.accounts
  have hbundles := Database.rows_of_isSome h.bundles
  have hsubscriptions := Database.rows_of_isSome h.subscriptions
  have haudits := Database.rows_of_isSome h.audits
  have htransitions := Database.rows_of_isSome h.transitions
  have hentries := Database.rows_of_isSome h.entries
  cases check <;>
    simp [find, bundlesMissing, bundlesOrphaned, bundleFieldsOf, accountFieldsOf, creationAuditsOf,
      chargedThroughOf, sparseRanks, latestFlags, entriesIn, haccounts, hbundles, hsubscriptions, haudits,
      htransitions, hentries, Except.map, Bind.bind, Except.bind, Pure.pure, Except.pure]

namespace Reconciliation

variable {db : Database} {scope : Option Uuid} {correlation : Option String} {results : List CheckResult}

/-- The checks in turn return what a list of them finds. -/
theorem outcome_runChecks (db : Database) (scope : Option Uuid) (correlation : Option String)
    (checks : List Check) :
    (runChecks db scope correlation checks).outcome =
      checks.mapM fun check ↦ (Finding.find db scope check).map (CheckResult.mk check) := by
  induction checks with
  | nil => rfl
  | cons check rest ih =>
    rw [List.mapM_cons, ← ih, runChecks]
    cases Finding.find db scope check with
    | error fault => rfl
    | ok findings => cases h : (runChecks db scope correlation rest).outcome <;> simp [h] <;> rfl

/-- A run returns one result for each check, in order, with what the check finds. -/
theorem run_eq_ok_iff :
    (run db scope correlation).outcome = .ok results ↔
      List.Forall₂ (fun check result ↦ ∃ findings, Finding.find db scope check = .ok findings ∧
        CheckResult.mk check findings = result) Check.all results := by
  rw [run, outcome_runChecks, mapM_eq_ok_iff]
  simp only [map_eq_ok_iff]

/-- A run returns when the tables exist that the checks read. -/
theorem exists_results (h : db.Checkable) (scope : Option Uuid) (correlation : Option String) :
    ∃ results, (run db scope correlation).outcome = .ok results := by
  choose findings hfindings using Finding.exists_find h scope
  refine ⟨Check.all.map fun check ↦ ⟨check, findings check⟩, run_eq_ok_iff.2 ?_⟩
  rw [List.forall₂_map_right_iff, List.forall₂_same]
  exact fun check _ ↦ ⟨findings check, hfindings check, rfl⟩

/-- Whether a run reports certain rows under a check: it returns if its tables exist, and its one result for the
check has these rows. -/
structure Reports (db : Database) (scope : Option Uuid) (correlation : Option String) (check : Check)
    (rows : Finding → Prop) : Prop where
  returns : db.Checkable → ∃ results, (run db scope correlation).outcome = .ok results
  reported : ∀ results, (run db scope correlation).outcome = .ok results →
    ∃! result, result ∈ results ∧ result.check = check
  exact_rows : ∀ results result, (run db scope correlation).outcome = .ok results → result ∈ results →
    result.check = check → ∀ finding, finding ∈ result.findings ↔ rows finding

/-- A check reports the rows that it finds. -/
theorem Reports.of_find {check : Check} {rows : Finding → Prop}
    (h : ∀ findings, Finding.find db scope check = .ok findings → ∀ finding, finding ∈ findings ↔ rows finding) :
    Reports db scope correlation check rows where
  returns hdb := exists_results hdb scope correlation
  reported results hresults := by
    have hall := run_eq_ok_iff.1 hresults
    obtain ⟨result, hresult, findings, hfind, rfl⟩ := Pairing.exists_mem_right hall check.mem_all
    refine ⟨⟨check, findings⟩, ⟨hresult, rfl⟩, ?_⟩
    rintro _ ⟨hother, hcheck⟩
    obtain ⟨other, -, others, hothers, rfl⟩ := Pairing.exists_mem_left hall hother
    obtain rfl : other = check := hcheck
    obtain rfl := Except.ok.inj (hfind.symm.trans hothers)
    rfl
  exact_rows results result hresults hresult hcheck := by
    obtain ⟨other, -, findings, hfind, rfl⟩ := Pairing.exists_mem_left (run_eq_ok_iff.1 hresults) hresult
    obtain rfl : other = check := hcheck
    exact h findings hfind

/-! ### Rows about one subject -/

/-- The rows of a run under a check. -/
def rowsOf (results : List CheckResult) (check : Check) : List Finding :=
  (results.filter fun r ↦ r.check = check).flatMap (·.findings)

/-- The rows of a run under a check are those that the check finds. -/
theorem find_eq_ok (h : (run db scope correlation).outcome = .ok results) (check : Check) :
    Finding.find db scope check = .ok (rowsOf results check) := by
  have hfound : ∀ other, ∃ findings, Finding.find db scope other = .ok findings := by
    intro other
    obtain ⟨_, -, findings, hfind, -⟩ := Pairing.exists_mem_right (run_eq_ok_iff.1 h) other.mem_all
    exact ⟨findings, hfind⟩
  choose found hfound using hfound
  have hresults : (run db scope correlation).outcome =
      .ok (Check.all.map fun other ↦ ⟨other, found other⟩) := by
    rw [run_eq_ok_iff, List.forall₂_map_right_iff, List.forall₂_same]
    exact fun other _ ↦ ⟨found other, hfound other, rfl⟩
  obtain rfl := Except.ok.inj (h.symm.trans hresults)
  rw [hfound]
  cases check <;> simp [rowsOf, Check.all]

/-- Whether a run has certain rows about one subject under a check: it returns if its tables exist, and of all its
rows under the check those about the subject are the given ones, each as often as it is given. -/
structure ReportsAbout (db : Database) (scope : Option Uuid) (correlation : Option String) (check : Check)
    (about : Finding → Prop) [DecidablePred about] (rows : List Finding) : Prop where
  returns : db.Checkable → ∃ results, (run db scope correlation).outcome = .ok results
  rows_eq : ∀ results, (run db scope correlation).outcome = .ok results →
    (rowsOf results check).filter about = rows

/-- A check reports the rows about a subject that it finds. -/
theorem ReportsAbout.of_find {check : Check} {about : Finding → Prop} [DecidablePred about] {rows : List Finding}
    (h : ∀ findings, Finding.find db scope check = .ok findings → findings.filter about = rows) :
    ReportsAbout db scope correlation check about rows where
  returns hdb := exists_results hdb scope correlation
  rows_eq _ hresults := h _ (find_eq_ok hresults check)

end Reconciliation
end BundleLedger
