import BundleLedger.Proofs.Service.Frame
import BundleLedger.Proofs.Store.Entries
import BundleLedger.Proofs.Store.Materialized

/-!
# What refreshes leave in the database

The source tables and the environment determine one reference list for each account (`ReferenceOf`). Whatever
runs leaves both as they are, and leaves the stored records of each account as they were or makes them those of
its reference list (`Service.Evolves`). So a refresh that returns has left its own records stored, even if
handlers of its event refresh the account once more (`Refresh.refreshed_of_run`).
-/

set_option autoImplicit false

namespace BundleLedger

open Result
open Database (storedEntry)

/-! ### The reference list of an account -/

/-- Whether a list is the reference list of an account under the settings of a system. -/
def ReferenceOf (s : Service) (account : Uuid) (reference : List BundleRecord) : Prop :=
  ∃ settings transitions, s.settings = .ok settings ∧
    (Source.fresh account settings.referenceCurrency).transitions s.database = .ok transitions ∧
    IsReference ((Source.fresh account settings.referenceCurrency).context s.database) transitions reference

namespace ReferenceOf

variable {s t : Service} {account : Uuid} {reference other : List BundleRecord}

theorem unique (h : ReferenceOf s account reference) (h' : ReferenceOf s account other) :
    reference = other := by
  obtain ⟨settings, transitions, hsettings, htransitions, href⟩ := h
  obtain ⟨settings', transitions', hsettings', htransitions', href'⟩ := h'
  obtain rfl : settings = settings' := by simpa [hsettings] using hsettings'
  obtain rfl : transitions = transitions' := by simpa [htransitions] using htransitions'
  exact href.unique href'

theorem materialized (h : ReferenceOf s account reference) :
    ∃ settings, s.settings = .ok settings ∧
      Materialized s.database settings.referenceCurrency account reference := by
  obtain ⟨settings, transitions, hsettings, htransitions, href⟩ := h
  exact ⟨settings, hsettings, materialized_of_isReference htransitions href⟩

theorem account_eq (h : ReferenceOf s account reference) {r : BundleRecord} (hr : r ∈ reference) :
    r.account = account := by
  obtain ⟨settings, -, hview⟩ := h.materialized
  obtain ⟨a, b, t, hrecord⟩ := hview.view r hr
  exact hrecord.account

end ReferenceOf

namespace Materialized

variable {db : Database} {currency : String} {account : Uuid} {records : List BundleRecord}

/-- The records of a view are in the order of their ranks. -/
theorem pairwise_rank (h : Materialized db currency account records) :
    records.Pairwise fun r r' ↦ r.rank < r'.rank := by
  have hranks : ((List.range records.length).map fun index : ℕ ↦ ((index + 1 : ℕ) : ℤ)).Pairwise (· < ·) := by
    refine List.pairwise_map.2 (List.pairwise_lt_range.imp fun hlt ↦ ?_)
    omega
  rw [← h.ranks] at hranks
  exact List.pairwise_map.1 hranks

end Materialized

/-! ### Records that are built and stored -/

/-- Whether the stored records of an account are those of a list, in any order. -/
def StoredAs (db : Database) (account : Uuid) (records : List BundleRecord) : Prop :=
  ((entriesOf db account).map (·.entry)).Perm (records.map storedEntry)

namespace Refresh

variable {settings : Settings} {account : Uuid} {s built : Service} {records reference : List BundleRecord}

/-- What is built for an account is its reference list in the order of completion. -/
theorem exists_referenceOf_of_build (hsettings : s.settings = .ok settings)
    (h : build settings account s = (.ok records, built)) :
    ∃ reference, ReferenceOf s account reference ∧ records.Perm reference := by
  unfold build at h
  dsimp only at h
  split at h
  · simp at h
  · simp at h
  · rename_i transitions schedule htransitions hschedule
    obtain ⟨hresult, -⟩ := Prod.mk.inj h
    obtain ⟨p, work, reference, hread, hcompletes, rfl⟩ :=
      Attempt.result_run_eq_ok_iff.1 (mapError_eq_ok_iff.1 hresult)
    exact ⟨reference, ⟨settings, transitions, hsettings, htransitions, hcompletes.isReference hread⟩,
      schedule.arrange_perm reference⟩

theorem byRank_eq_insertionSort (records : List BundleRecord) :
    byRank records = records.insertionSort fun r r' ↦ decide (r.rank ≤ r'.rank) = true :=
  Sorting.mergeSort_eq_insertionSort (fun _ _ ↦ decide_eq_true_iff) records

/-- Records in the order of their ranks are a reference list of which they are a permutation. -/
theorem byRank_eq (hperm : records.Perm reference)
    (hranks : reference.Pairwise fun r r' ↦ r.rank < r'.rank) : byRank records = reference := by
  have hsorted : (byRank records).Pairwise fun r r' ↦ r.rank ≤ r'.rank :=
    Sorting.pairwise_mergeSort (fun _ _ ↦ decide_eq_true_iff) records
  exact Sorting.eq_of_perm ((List.mergeSort_perm _ _).trans hperm) hsorted hranks

end Refresh

namespace Service

/-- What computations leave of a system: the source tables and the environment are as before, and the stored
records of each account are as before or those of its reference list. -/
structure Evolves (s t : Service) : Prop where
  tables : t.database = { s.database with entries := t.database.entries }
  environment : t.environment = s.environment
  kept : s.database.entries.isSome = true → t.database.entries.isSome = true
  stored : ∀ account, entriesOf t.database account = entriesOf s.database account ∨
    ∃ reference, ReferenceOf s account reference ∧ StoredAs t.database account reference

variable {s t u : Service} {account : Uuid} {reference : List BundleRecord}

theorem Evolves.referenceOf_iff (h : s.Evolves t) :
    ReferenceOf t account reference ↔ ReferenceOf s account reference := by
  unfold ReferenceOf settings
  rw [h.tables, h.environment]
  exact Iff.rfl

theorem Evolves.trans (h : s.Evolves t) (h' : t.Evolves u) : s.Evolves u where
  tables := by
    rw [h'.tables, h.tables]
  environment := h'.environment.trans h.environment
  kept hsome := h'.kept (h.kept hsome)
  stored account := by
    rcases h'.stored account with hsame | ⟨reference, href, hstored⟩
    · simp only [StoredAs, hsame]
      exact h.stored account
    · exact .inr ⟨reference, h.referenceOf_iff.1 href, hstored⟩

theorem Evolves.of_eq (hdatabase : t.database = s.database) (henvironment : t.environment = s.environment) :
    s.Evolves t := by
  refine ⟨?_, henvironment, ?_, fun account ↦ ?_⟩
  · rw [hdatabase]
  · rw [hdatabase]
    exact id
  · rw [hdatabase]
    exact .inl rfl

theorem Evolves.of_beside (h : s.Beside t) : s.Evolves t :=
  .of_eq h.database h.environment

theorem Evolves.of_replaced {settings : Settings} {records : List BundleRecord} {built : Service}
    {database : Database} (hsettings : s.settings = .ok settings)
    (hbuild : Refresh.build settings account s = (.ok records, built))
    (hreplaced : built.database.replaceRecords account built.now records = .ok database) :
    s.Evolves { built with database } := by
  have hbeside := Refresh.beside_build settings account s
  rw [hbuild] at hbeside
  rw [hbeside.database] at hreplaced
  obtain ⟨reference, href, hperm⟩ := Refresh.exists_referenceOf_of_build hsettings hbuild
  have haccount : ∀ r ∈ records, r.account = account := fun r hr ↦ href.account_eq (hperm.mem_iff.1 hr)
  obtain ⟨htables, -, hsome, -⟩ := replaceRecords_eq_ok hreplaced
  refine ⟨htables, hbeside.environment, fun _ ↦ hsome, fun other ↦ ?_⟩
  by_cases hother : other = account
  · subst hother
    refine .inr ⟨reference, href, ?_⟩
    unfold StoredAs
    rw [entriesOf_replaceRecords hreplaced haccount]
    exact hperm.map storedEntry
  · exact .inl (entriesOf_replaceRecords_ne hreplaced haccount hother)

theorem allows_evolves : Allows Evolves where
  trans _ _ _ h h' := h.trans h'
  beside := .of_beside
  replaced := .of_replaced

end Service

/-! ### A refresh that returns -/

/-- What a refresh that returns has done: its records are the reference list of the account, and they are
stored. -/
structure Refreshed (s : Service) (account : Uuid) (result : RefreshResult) (t : Service) : Prop where
  account_eq : result.account = account
  reference : ReferenceOf s account result.records
  stored : StoredAs t.database account result.records
  exists_entries : t.database.entries.isSome = true
  evolves : s.Evolves t

namespace Refresh

variable {publish : Publisher} {settings : Settings} {account : Uuid} {given : Option String}
  {s t : Service} {records : List BundleRecord} {result : RefreshResult}

/-- Once its records are stored, nothing that a refresh publishes changes them any more. -/
theorem refreshed_of_work (hpublish : ∀ e, (publish e).Within Service.Evolves)
    (hsettings : s.settings = .ok settings) (h : work publish settings account s = (.ok records, t)) :
    Refreshed s account ⟨account, byRank records⟩ t := by
  obtain ⟨built, database, hbuild, hreplaced, hpublished⟩ := work_eq_ok_iff.1 h
  -- The account's records as they are stored, before anything is published.
  obtain ⟨reference, href, hperm⟩ := exists_referenceOf_of_build hsettings hbuild
  obtain ⟨settings', -, hview⟩ := href.materialized
  rw [byRank_eq hperm hview.pairwise_rank]
  have hstored := Service.Evolves.of_replaced hsettings hbuild hreplaced
  have hcommitted : Service.Evolves { built with database }
      (committed account records.length built database) := .of_beside rfl
  have hbefore := hstored.trans hcommitted
  have hafter := hpublish (envelope account records.length built.correlation)
    (committed account records.length built database)
  rw [hpublished] at hafter
  obtain ⟨-, -, hsome, -⟩ := replaceRecords_eq_ok hreplaced
  refine ⟨rfl, href, ?_, hafter.kept hsome, hbefore.trans hafter⟩
  rcases hafter.stored account with hsame | ⟨other, hother, hlater⟩
  · unfold StoredAs
    rw [hsame]
    have haccount : ∀ r ∈ records, r.account = account :=
      fun r hr ↦ href.account_eq (hperm.mem_iff.1 hr)
    change ((entriesOf database account).map (·.entry)).Perm _
    rw [entriesOf_replaceRecords hreplaced haccount]
    exact hperm.map storedEntry
  · -- A handler refreshed the account again, to the same records.
    obtain rfl := href.unique (hbefore.referenceOf_iff.1 hother)
    exact hlater

theorem refreshed_of_run (hpublish : ∀ e, (publish e).Within Service.Evolves)
    (h : run publish account given s = (.ok result, t)) : Refreshed s account result t := by
  obtain ⟨settings, records, u, hsettings, hwork, rfl, rfl⟩ := run_eq_ok_iff.1 h
  have hinside : s.Evolves (inside account given s) := .of_beside rfl
  have hdone := refreshed_of_work (s := inside account given s) hpublish hsettings hwork
  have hend : u.Evolves (concluded account given s (.ok records : Except Failure (List BundleRecord)) u) :=
    .of_beside rfl
  exact ⟨rfl, hinside.referenceOf_iff.1 hdone.reference, hdone.stored, hdone.exists_entries,
    (hinside.trans hdone.evolves).trans hend⟩

end Refresh

/-- A refresh that returns has left its records stored. -/
theorem Service.refreshed {account : Uuid} {given : Option String} {s t : Service} {result : RefreshResult}
    (h : refresh account given s = (.ok result, t)) : Refreshed s account result t :=
  Refresh.refreshed_of_run (fun e ↦ Procedure.within_forget (allows_evolves.carries.publish e)) h

/-- A refresh whose records show something has returned. -/
theorem Service.exists_refresh {account : Uuid} {given : Option String} {s : Service} {α : Type}
    {f : RefreshResult → α} {x : α} (h : (refresh account given s).1.toOption.map f = some x) :
    ∃ result t, refresh account given s = (.ok result, t) ∧ f result = x := by
  obtain ⟨result, hresult, hx⟩ := Option.map_eq_some_iff.1 h
  exact ⟨result, _, Prod.ext (toOption_eq_some_iff.1 hresult) rfl, hx⟩

end BundleLedger
