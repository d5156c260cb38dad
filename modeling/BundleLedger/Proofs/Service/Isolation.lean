import BundleLedger.Proofs.Reconciliation.Account
import BundleLedger.Proofs.Service.Call
import BundleLedger.Proofs.Store.Scope

/-!
# Refreshes are isolated from what they cannot see

Two calls on an account are compared that are made with databases that agree for it, in the same environment and
with the same pool. The records of the account by the source are the same in both (`Database.AgreeFor.recordsBy_eq`).
So whatever the rows out of sight and the stored records are, both calls store the same records or none does, they
return alike if their events are delivered alike, and what they return and leave is the same
(`RefreshCall.isolated`).
-/

set_option autoImplicit false

namespace BundleLedger

open Result
open Database (stored)

/-- The records of an account by the source are the same where databases agree for it. -/
theorem Database.AgreeFor.recordsBy_eq {account : Uuid} {s s' : Service}
    (h : AgreeFor account s.database s'.database) (henvironment : s'.environment = s.environment) :
    recordsBy s'.database.source s'.environment account = recordsBy s.database.source s.environment account := by
  refine Option.ext fun records ↦ ?_
  rw [recordsBy_eq_some_iff (s := s'), recordsBy_eq_some_iff (s := s)]
  refine exists_congr fun settings ↦ exists_congr fun transitions ↦ ?_
  rw [Service.settings_eq henvironment, h.transitions_eq, (h.sameAnswers _).reads_and_isReference_iff]

/-- What two calls on an account have in common. Both store their records or none does. They return alike if their
events are delivered alike, as they are by the same passive handlers. What they return is the same, and so are the
records that they leave stored. -/
structure Isolated (call call' : RefreshCall) : Prop where
  stores : call'.Stores ↔ call.Stores
  returns : (call'.Delivered ↔ call.Delivered) → (call'.Returns ↔ call.Returns)
  passive : call.Passive → call'.handlers = call.handlers → call'.before.scripts = call.before.scripts →
    (call'.Returns ↔ call.Returns)
  result : ∀ result result',
    Service.refresh call.account call.given call.before = (.ok result, call.after) →
    Service.refresh call'.account call'.given call'.before = (.ok result', call'.after) → result' = result
  entries : call.Returns → call'.Returns → SameEntries call'.after.database call.after.database call.account

namespace RefreshCall

variable {call call' : RefreshCall}

/-- Calls on an account are isolated from all rows that are not in sight of it, and from all stored records. -/
theorem isolated (call call' : RefreshCall) (haccount : call'.account = call.account)
    (henvironment : call'.before.environment = call.before.environment) (hpool : call'.before.pool = call.before.pool)
    (hagree : call.before.database.AgreeFor call.account call'.before.database) : Isolated call call' := by
  have hrecords : recordsBy call'.before.database.source call'.before.environment call'.account =
      recordsBy call.before.database.source call.before.environment call.account := by
    rw [haccount]
    exact hagree.recordsBy_eq henvironment
  have hstores : call'.Stores ↔ call.Stores := by
    rw [stores_iff, stores_iff, hagree.entries, Service.settings_eq henvironment, hpool, hrecords]
  have hreturns : (call'.Delivered ↔ call.Delivered) → (call'.Returns ↔ call.Returns) := by
    intro hdelivered
    rw [returns_iff_stores, returns_iff_stores, hstores, hdelivered]
  refine
    { stores := hstores, returns := hreturns, passive := fun hpassive hhandlers hscripts ↦ hreturns ?_,
      result := fun result result' h h' ↦ ?_, entries := fun h h' ↦ ?_ }
  · have hpassive' : call'.Passive := by
      unfold Passive
      rw [hhandlers, hscripts]
      exact hpassive
    rw [delivered_iff hpassive, delivered_iff hpassive', hstores, hhandlers, hscripts]
  · have hresult := recordsBy_eq_of_refresh h
    rw [← hrecords, recordsBy_eq_of_refresh h', Option.some.injEq] at hresult
    obtain ⟨account, records⟩ := result
    obtain ⟨account', records'⟩ := result'
    obtain rfl : account = call.account := (Service.refreshed h).account_eq
    obtain rfl : account' = call'.account := (Service.refreshed h').account_eq
    exact congrArg₂ RefreshResult.mk haccount hresult
  · obtain ⟨records, hby, hstored⟩ := exists_stored h
    obtain ⟨records', hby', hstored'⟩ := exists_stored h'
    rw [hrecords, hby, Option.some.injEq] at hby'
    rw [haccount, ← hby'] at hstored'
    exact .of_stored hstored' hstored

end RefreshCall

/-! ### A database with rows out of sight -/

namespace LargePrice

/-- An account of another tenant. -/
def stranger : AccountRow := ⟨2, .ofNat 8, "stranger", none, some "USD", 2, .epoch⟩

/-- The database with an account of another tenant, the test tag and a bundle of that account, with the external key
of the bundles in sight, a subscription, a transition and a creation, and with outdated records. -/
def crowded : Database :=
  { database with
    accounts := some ⟨[stranger, account], by decide⟩
    tags := some ⟨[⟨1, .ofNat 8, "TEST"⟩], by decide⟩
    bundles := some ⟨[{ bundle 3 with account := .ofNat 8, tenantRecordId := 2 }, bundle 1, bundle 2], by decide⟩
    subscriptions := some ⟨[subscription 3, subscription 1, subscription 2], by decide⟩
    audits := some ⟨[{ audit 3 1 "stranger" with accountRecordId := 2 }, audit 2 1 "later", audit 1 1 "first"],
      by decide⟩
    transitions := some ⟨[{ transition 3 1 "USD" 1 with account := .ofNat 8 }, transition 2 1 "USD" 9950000,
      transition 1 2 "EUR" 12345678123456], by decide⟩
    entries := withOutdated.database.entries }

theorem agreeFor_crowded : service.database.AgreeFor (.ofNat 9) crowded where
  accounts := .of_added [_] rfl rfl (by decide)
  tags := .of_added [_] rfl rfl (by decide)
  bundles := .of_added [_] rfl rfl (by decide)
  subscriptions := .of_added [_] rfl rfl (by decide)
  transitions := .of_added [_] rfl rfl (by decide)
  audits := .of_added [_] rfl rfl (by decide)
  rates := .of_added [] rfl rfl (by decide)
  entries := rfl

def plainCall : RefreshCall := ⟨service, .ofNat 9, none⟩

def crowdedCall : RefreshCall := ⟨{ service with database := crowded }, .ofNat 9, none⟩

theorem returns_plainCall : plainCall.Returns := by
  obtain ⟨result, t, rows, h, -⟩ := exists_refresh
  exact RefreshCall.returns_iff_exists.2 ⟨result, t, h⟩

end LargePrice

/-- The call returns with rows of another tenant and outdated records as it does without, and leaves the same. -/
theorem isolated_sample :
    LargePrice.service.database.AgreeFor (.ofNat 9) LargePrice.crowded ∧ LargePrice.plainCall.Returns ∧
      LargePrice.crowdedCall.Returns ∧ Isolated LargePrice.plainCall LargePrice.crowdedCall := by
  have h := RefreshCall.isolated LargePrice.plainCall LargePrice.crowdedCall rfl rfl rfl LargePrice.agreeFor_crowded
  have hreturns := LargePrice.returns_plainCall
  have hpassive : LargePrice.plainCall.Passive := fun _ hhandler ↦ absurd hhandler List.not_mem_nil
  exact ⟨LargePrice.agreeFor_crowded, hreturns, (h.passive hpassive rfl rfl).2 hreturns, h⟩

end BundleLedger
