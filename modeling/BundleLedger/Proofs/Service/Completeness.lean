import BundleLedger.Proofs.Service.Convergence
import BundleLedger.Proofs.Service.Interruption
import BundleLedger.Proofs.Store.Readable

/-!
# Refreshes that cannot fail

If the source tables are sound for an account, the pool works, and no handler of the event of stored records fails,
then a refresh of the account returns, whatever its stored records were (`RefreshCall.succeeds`). Not only is there
no failure at the end: no point of the refresh fails, so none of the errors of lookups, builds, amounts and the table
of stored records can be reached.
-/

set_option autoImplicit false

namespace BundleLedger

open Result
open Database (stored)

/-- Whether a pool has a worker and completes all that is submitted to it, in some order. -/
inductive Pool.Works (workers : Int) : Pool → Prop where
  | given (order : List ℕ) : Works workers (.given { order })
  | own (order : List ℕ) (h : 0 < workers) : Works workers (.own order)

theorem Pool.Works.exists_schedule {workers : Int} {pool : Pool} (h : pool.Works workers) :
    ∃ order, pool.schedule workers = .ok { order } := by
  cases h with
  | given order => exact ⟨order, rfl⟩
  | own order h => exact ⟨order, if_neg (Int.not_le.2 h)⟩

/-- There are records by sound source tables. -/
theorem Database.Sound.exists_recordsBy {s : Service} {settings : Settings} {account : Uuid}
    (h : s.database.Sound account) (hsettings : s.settings = .ok settings) :
    ∃ records, recordsBy s.database.source s.environment account = some records := by
  obtain ⟨transitions, htransitions⟩ := h.exists_transitions settings.referenceCurrency
  obtain ⟨records, hrecords⟩ := h.exists_reference htransitions
  exact ⟨records, recordsBy_eq_some_iff.2 ⟨settings, transitions, hsettings, htransitions, h.exists_reads, hrecords⟩⟩

/-- A refresh commits exactly when it stores its records, if nothing strikes it. -/
theorem Refresh.commits_none_iff {settings : Settings} {account : Uuid} {s : Service} :
    Commits .none settings account s ↔ Stores settings account s := by
  unfold Commits Stores
  rw [buildUnder_none, show Faults.none.statement = fun _ ↦ none from rfl]
  simp only [Database.interrupted_none, Database.perform_statements]

/-- The publication of the event of stored records. -/
def Refresh.publication (account : Uuid) (count : ℕ) (s : Service) (database : Database) : Publication where
  before := committed account count s database
  envelope := envelope account count s.correlation
  name := "analytics.bundles.refreshed"
  named := rfl

namespace RefreshCall

variable {call : RefreshCall}

/-- Whether no handler fails that runs for the event of the stored records of a call. -/
def Unopposed (call : RefreshCall) : Prop :=
  ∀ settings records built database, call.before.settings = .ok settings →
    Refresh.build settings call.account (Refresh.inside call.account call.given call.before) = (.ok records, built) →
    built.database.replaceRecords call.account built.now records = .ok database →
    ∀ run ∈ (Refresh.publication call.account records.length built database).runs, run.outcome = .ok ()

/-- The event of a call is delivered exactly when no handler fails. -/
theorem delivered_iff_unopposed : call.Delivered ↔ call.Unopposed := by
  constructor
  · intro h settings records built database hsettings hbuild hreplaced
    exact (Refresh.publication call.account records.length built database).exists_forget_iff.1
      (h settings hsettings records built database hbuild hreplaced)
  · intro h settings hsettings records built database hbuild hreplaced
    exact (Refresh.publication call.account records.length built database).exists_forget_iff.2
      (h settings records built database hsettings hbuild hreplaced)

/-- Whether a call cannot fail: it returns, and no point of its refresh fails. -/
structure Succeeds (call : RefreshCall) : Prop where
  returns : call.Returns
  unfailing : ∀ settings, call.before.settings = .ok settings → ∀ cause,
    ¬Refresh.Fails .none settings call.account (Refresh.inside call.account call.given call.before) cause

/-- What returns had no point that fails. -/
theorem Succeeds.of_returns (h : call.Returns) : call.Succeeds where
  returns := h
  unfailing settings hsettings := by
    obtain ⟨⟨settings', hsettings', hstores⟩, -⟩ := returns_iff_stores.1 h
    obtain rfl : settings' = settings := Except.ok.inj (hsettings'.symm.trans hsettings)
    exact Refresh.commits_iff.1 (Refresh.commits_none_iff.2 hstores)

/-- A call on an account for which the source tables are sound cannot fail. -/
theorem succeeds (call : RefreshCall) (settings : Settings) (hsettings : call.before.settings = .ok settings)
    (hsound : call.before.database.Sound call.account) (hentries : call.before.database.entries.isSome = true)
    (hpool : call.before.pool.Works settings.refreshWorkers) (hunopposed : call.Unopposed) : call.Succeeds := by
  have hundisturbed : call.Undisturbed := by
    refine ⟨fun settings' hsettings' ↦ ?_, delivered_iff_unopposed.2 hunopposed⟩
    obtain rfl : settings = settings' := Except.ok.inj (hsettings.symm.trans hsettings')
    exact hpool.exists_schedule
  obtain ⟨records, hrecords⟩ := hsound.exists_recordsBy hsettings
  exact .of_returns ((call.returns_iff hundisturbed hentries).2 (Option.isSome_iff_exists.2 ⟨records, hrecords⟩))

end RefreshCall

namespace LargePrice

theorem sound_database : database.Sound (.ofNat 9) where
  accounts := rfl
  tags := rfl
  bundles := rfl
  subscriptions := rfl
  audits := rfl
  transitions := rfl
  rates := rfl
  account_mem := ⟨account, List.mem_singleton_self _, rfl⟩
  transition_known := by
    unfold ProductCategory.IsKnown
    decide +kernel
  subscription_known := by
    unfold ProductCategory.IsKnown
    decide +kernel
  bundle_own := by
    rintro t ⟨ht, -, -⟩
    revert t
    decide +kernel
  tenant_own := by decide +kernel
  price_fits := by decide +kernel
  mrr_fits := by decide +kernel
  rate_fits := by decide +kernel

/-- A call with a pool that the refresh makes for itself, and a handler that notes the event. -/
def ownCall : RefreshCall :=
  ⟨{ service with
      pool := .own [1, 0], bus := Bus.empty.subscribe "analytics.bundles.refreshed" (.script "noting")
      scripts := [("noting", [.set "noted" (.bool true)])] }, .ofNat 9, none⟩

theorem unopposed_ownCall : ownCall.Unopposed := by
  have hpassive : ownCall.Passive := by
    unfold RefreshCall.Passive Handler.IsPassive
    decide +kernel
  refine RefreshCall.delivered_iff_unopposed.1 ((RefreshCall.delivered_iff hpassive).2 fun _ ↦ ?_)
  decide +kernel

end LargePrice

/-- The call on the account cannot fail, whether the pool is a given one or its own. -/
theorem RefreshCall.succeeds_sample :
    LargePrice.database.Sound (.ofNat 9) ∧ (LargePrice.callOn LargePrice.database 9 [1, 0]).Succeeds ∧
      LargePrice.ownCall.Succeeds := by
  obtain ⟨settings, hsettings⟩ : ∃ settings, LargePrice.service.settings = .ok settings := ⟨_, rfl⟩
  have hworkers : 0 < settings.refreshWorkers := by
    obtain rfl := Except.ok.inj hsettings
    decide
  refine ⟨LargePrice.sound_database, ?_, ?_⟩
  · exact succeeds _ settings hsettings LargePrice.sound_database rfl (.given [1, 0])
      (delivered_iff_unopposed.1 (LargePrice.undisturbed_callOn LargePrice.database 9 [1, 0]).delivered)
  · exact succeeds _ settings hsettings LargePrice.sound_database rfl (.own [1, 0] hworkers)
      LargePrice.unopposed_ownCall

end BundleLedger
