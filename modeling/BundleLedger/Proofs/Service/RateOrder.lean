import BundleLedger.Proofs.Currency.Arrangement
import BundleLedger.Proofs.Service.Materialization
import BundleLedger.Proofs.Service.Recoding

/-!
# Refreshes and the order of the rates

The query of the rates states no order, so the order in which it finds them is that of their record numbers at most.
Two databases are compared that have the same rates in any order and under any record numbers
(`Database.Reordered`). The rates that start last on some day decide: as long as they agree about the amounts of the
transitions of an account, its records are the same (`RefreshCall.result_eq_of_reordered`). They need not agree when
two rates of one currency start on the same day, and then the record numbers show in the result.
-/

set_option autoImplicit false

namespace BundleLedger

open Result
open Database (stored inOrder)

/-- A row of a rate without its record number. -/
def RateRow.unnumbered (r : RateRow) : RateRow :=
  { r with recordId := 0 }

/-! ### Databases with reordered rates -/

/-- Whether two databases have the same rates, in any order and under any record numbers, and all else the same. -/
structure Database.Reordered (db db' : Database) : Prop where
  beside : db' = { db with rates := db'.rates }
  dropped : db'.rates.isSome = db.rates.isSome
  rows : ((stored db'.rates).map RateRow.unnumbered).Perm ((stored db.rates).map RateRow.unnumbered)

namespace Database.Reordered

variable {db db' : Database}

theorem symm (h : Reordered db db') : Reordered db' db where
  beside := by
    rw [h.beside]
  dropped := h.dropped.symm
  rows := h.rows.symm

/-- The rates that the query finds, but for their order. -/
theorem exists_ratesInto (h : Reordered db db') {reference : String} {rates : List Rate}
    (hrates : db.ratesInto reference = .ok rates) :
    ∃ rates', db'.ratesInto reference = .ok rates' ∧ rates'.Perm rates := by
  obtain ⟨hsome, rfl⟩ := ratesInto_eq_ok_iff.1 hrates
  refine ⟨_, ratesInto_eq_ok_iff.2 ⟨h.dropped.trans hsome, rfl⟩, ?_⟩
  have hfound : ∀ rows : List RateRow,
      ((inOrder (rows.filter fun r ↦ r.reference = reference)).map RateRow.snapshot).Perm
        (((rows.map RateRow.unnumbered).filter fun r ↦ r.reference = reference).map RateRow.snapshot) := by
    intro rows
    rw [List.filter_map, List.map_map]
    exact (List.mergeSort_perm _ _).map _
  exact (hfound _).trans (((h.rows.filter _).map _).trans (hfound _).symm)

theorem transitionsOf_eq (h : Reordered db db') (account : Uuid) :
    db'.transitionsOf account = db.transitionsOf account := by
  rw [h.beside]
  rfl

end Database.Reordered

/-! ### Calls with reordered rates -/

/-- Whether a call is another one with reordered rates. -/
structure RefreshCall.Reordered (call call' : RefreshCall) : Prop where
  account : call'.account = call.account
  given : call'.given = call.given
  before : call'.before = { call.before with database := call'.before.database }
  database : call.before.database.Reordered call'.before.database

/-- Whether the rates into the reference currency that start last agree about the amounts of the transitions of an
account. -/
def RefreshCall.Unambiguous (call : RefreshCall) (account : Uuid) : Prop :=
  ∀ settings rates, call.before.settings = .ok settings →
    call.before.database.ratesInto settings.referenceCurrency = .ok rates →
    ∀ ts, call.before.database.transitionsOf account = .ok ts → ∀ t ∈ ts,
      Converter.Unambiguous settings.referenceCurrency rates t.next.price t.next.currency t.next.start ∧
        Converter.Unambiguous settings.referenceCurrency rates t.next.mrr t.next.currency t.next.start

namespace RefreshCall

variable {call call' : RefreshCall}

theorem Reordered.settings_eq (h : Reordered call call') : call'.before.settings = call.before.settings := by
  rw [h.before]
  rfl

theorem Reordered.symm (h : Reordered call call') : Reordered call' call where
  account := h.account.symm
  given := h.given.symm
  before := by
    rw [h.before]
  database := h.database.symm

theorem Unambiguous.reordered {account : Uuid} (hagree : call.Unambiguous account) (h : Reordered call call') :
    call'.Unambiguous account := by
  intro settings rates' hsettings hrates' ts hts t ht
  obtain ⟨rates, hrates, hperm⟩ := h.symm.database.exists_ratesInto hrates'
  rw [h.settings_eq] at hsettings
  rw [h.database.transitionsOf_eq] at hts
  obtain ⟨hprice, hmrr⟩ := hagree settings rates hsettings hrates ts hts t ht
  exact ⟨hprice.perm hperm.symm, hmrr.perm hperm.symm⟩

theorem Reordered.convertsAlike (h : Reordered call call') {account : Uuid} (hagree : call.Unambiguous account) :
    call.before.ConvertsAlike Eq call'.before account where
  plan := by
    unfold Service.plan
    rw [h.settings_eq]
  database := by
    rw [h.database.beside]
  transitions ts hts := by
    refine ⟨ts, (h.database.transitionsOf_eq account).trans hts, fun settings settings' rates hsettings hsettings'
      hrates ↦ ?_⟩
    obtain rfl : settings = settings' := Except.ok.inj (hsettings.symm.trans (h.settings_eq ▸ hsettings'))
    obtain ⟨rates', hrates', hperm⟩ := h.database.exists_ratesInto hrates
    refine ⟨rates', hrates', rfl, List.forall₂_same.2 fun t ht ↦ ?_⟩
    obtain ⟨hprice, hmrr⟩ := hagree settings rates hsettings hrates ts hts t ht
    exact ⟨rfl, rfl, Converter.convert_eq_of_perm hprice hperm, Converter.convert_eq_of_perm hmrr hperm⟩

theorem Reordered.setUpAlike (h : Reordered call call') : call.before.SetUpAlike call'.before := by
  constructor <;> rw [h.before]

end RefreshCall

theorem BundleRecord.Recodes.eq_of_eq {r r' : BundleRecord} (h : BundleRecord.Recodes Eq r r') : r = r' := by
  have heq := h.eq
  rw [← h.code] at heq
  exact heq.symm

/-- A conversion is the same for all orders of the rates exactly when the rates that start last agree. A refresh of
an account about which they agree has the same result for all orders of the rates. It returns for all or for none if
they agree about all accounts, as handlers of its event may refresh other ones. -/
theorem RefreshCall.result_eq_of_reordered (reference : String) (rates : List Rate) (amount : Option Decimal)
    (currency : Option String) (day : Option Date) :
    ((∀ rates', rates'.Perm rates → (Converter.of reference rates').convert amount currency day =
      (Converter.of reference rates).convert amount currency day) ↔
        Converter.Unambiguous reference rates amount currency day) ∧
      ∀ call call' : RefreshCall, call.Reordered call' →
        ((∀ account, call.Unambiguous account) → (call'.Returns ↔ call.Returns)) ∧
          (call.Unambiguous call.account → ∀ result result',
            Service.refresh call.account call.given call.before = (.ok result, call.after) →
            Service.refresh call'.account call'.given call'.before = (.ok result', call'.after) →
            result' = result) := by
  refine ⟨Converter.forall_perm_convert_eq_iff, fun call call' h ↦ ⟨fun hagree ↦ ?_, fun hagree ↦ ?_⟩⟩
  · exact RefreshCall.returns_iff_of_convertsAlike h.account h.given (fun account ↦ h.convertsAlike (hagree account))
      (fun account ↦ h.symm.convertsAlike ((hagree account).reordered h)) h.setUpAlike
  · intro result result' hrefresh hrefresh'
    obtain ⟨haccount, hrecords⟩ := RefreshCall.recodes h.account (h.convertsAlike hagree) hrefresh hrefresh'
    obtain ⟨account, records⟩ := result
    obtain ⟨account', records'⟩ := result'
    have heq : records = records' := List.forall₂_eq_eq_eq ▸ hrecords.imp fun _ _ hpair ↦ hpair.eq_of_eq
    exact congrArg₂ RefreshResult.mk haccount heq.symm

namespace LargePrice

/-- A rate of a third currency. -/
def pound : RateRow :=
  { rate with recordId := 2, currency := "GBP", rate := (Fixed.ofDecimal? (.finite false 2000 0)).getD default }

/-- A call on the account with some rates. -/
def callWith (rates : Table RateRow) : RefreshCall :=
  ⟨{ service with database := { database with rates := some rates } }, .ofNat 9, none⟩

/-- The two rates, and the same under exchanged record numbers. -/
def ratesInOrder : Table RateRow := ⟨[rate, pound], by decide⟩

def ratesExchanged : Table RateRow := ⟨[{ pound with recordId := 1 }, { rate with recordId := 2 }], by decide⟩

theorem reordered_callWith : (callWith ratesInOrder).Reordered (callWith ratesExchanged) where
  account := rfl
  given := rfl
  before := rfl
  database := ⟨rfl, rfl, List.Perm.swap _ _ _⟩

/-- The two rates are not of one currency. -/
theorem unique_rates : ∀ r ∈ [rate.snapshot, pound.snapshot], ∀ s ∈ [rate.snapshot, pound.snapshot],
    Text.upper r.currency = Text.upper s.currency → r.start = s.start → r.rate = s.rate := by
  decide +kernel

theorem unambiguous_callWith (account : Uuid) : (callWith ratesInOrder).Unambiguous account := by
  intro settings rates _ hrates ts _ t _
  obtain ⟨-, rfl⟩ := Database.ratesInto_eq_ok_iff.1 hrates
  have hmem : ∀ r ∈ (inOrder ((stored (callWith ratesInOrder).before.database.rates).filter fun r ↦
      r.reference = settings.referenceCurrency)).map RateRow.snapshot, r ∈ [rate.snapshot, pound.snapshot] := by
    intro r hr
    obtain ⟨row, hrow, rfl⟩ := List.mem_map.1 hr
    have hstored : row ∈ [rate, pound] := (List.mem_filter.1 (Database.mem_inOrder.1 hrow)).1
    exact List.mem_map_of_mem hstored
  constructor
  · exact Converter.unambiguous_of_unique fun r hr s hs ↦ unique_rates r (hmem r hr) s (hmem s hs)
  · exact Converter.unambiguous_of_unique fun r hr s hs ↦ unique_rates r (hmem r hr) s (hmem s hs)

theorem returns_callWith : (callWith ratesInOrder).Returns := by
  have hevaluated : (Service.refresh (.ofNat 9) none (callWith ratesInOrder).before).1.toOption.isSome = true := by
    unfold Service.refresh Refresh.run Refresh.runWith Refresh.work Refresh.build Source.transitions
      Database.transitionsOf Source.context Source.converter Database.ratesInto Source.latestBundle
      Database.latestBundle? Database.bundlesOf Database.bundleRowsOf Database.bundleOf Source.creationAudit
      Source.creationsOr Database.creationsOf
    simp only [Sorting.mergeSort_eq_insertionSort happensBefore_iff, Database.inOrder_eq_insertionSort,
      Refresh.byRank_eq_insertionSort]
    decide +kernel
  obtain ⟨result, hresult⟩ := Option.isSome_iff_exists.1 hevaluated
  exact RefreshCall.returns_iff_exists.2 ⟨result, _, Prod.ext (toOption_eq_some_iff.1 hresult) rfl⟩

end LargePrice

/-- An amount has one value in all orders of the two rates, and the refresh returns under both numberings of them
with the same result. -/
theorem result_eq_of_reordered_sample :
    (∀ rates', rates'.Perm [LargePrice.rate.snapshot, LargePrice.pound.snapshot] →
      (Converter.of "USD" rates').convert (some (.finite false 1 0)) (some "eur") (some default) =
        (Converter.of "USD" [LargePrice.rate.snapshot, LargePrice.pound.snapshot]).convert
          (some (.finite false 1 0)) (some "eur") (some default)) ∧
      (LargePrice.callWith LargePrice.ratesInOrder).Reordered (LargePrice.callWith LargePrice.ratesExchanged) ∧
      (∀ account, (LargePrice.callWith LargePrice.ratesInOrder).Unambiguous account) ∧ ∃ result,
        Service.refresh (.ofNat 9) none (LargePrice.callWith LargePrice.ratesInOrder).before =
          (.ok result, (LargePrice.callWith LargePrice.ratesInOrder).after) ∧
        Service.refresh (.ofNat 9) none (LargePrice.callWith LargePrice.ratesExchanged).before =
          (.ok result, (LargePrice.callWith LargePrice.ratesExchanged).after) := by
  obtain ⟨horders, hcalls⟩ := RefreshCall.result_eq_of_reordered "USD"
    [LargePrice.rate.snapshot, LargePrice.pound.snapshot] (some (.finite false 1 0)) (some "eur") (some default)
  obtain ⟨hreturns, hresult⟩ := hcalls _ _ LargePrice.reordered_callWith
  obtain ⟨result, h⟩ := LargePrice.returns_callWith
  obtain ⟨result', h'⟩ := (hreturns LargePrice.unambiguous_callWith).2 ⟨result, h⟩
  obtain rfl := hresult (LargePrice.unambiguous_callWith _) result result' h h'
  exact ⟨horders.2 (Converter.unambiguous_of_unique LargePrice.unique_rates), LargePrice.reordered_callWith,
    LargePrice.unambiguous_callWith, _, h, h'⟩

/-- Of two rates that start on the same day the one given last applies. -/
theorem not_order_free_sample :
    ¬ ∀ reference rates rates' amount currency day, rates'.Perm rates →
      (Converter.of reference rates').convert amount currency day =
        (Converter.of reference rates).convert amount currency day := by
  intro h
  let double : Rate := ⟨"EUR", default, default, .finite false 2 0⟩
  let triple : Rate := ⟨"EUR", default, default, .finite false 3 0⟩
  have hagree := Converter.forall_perm_convert_eq_iff.1 fun rates' ↦ h "USD" [double, triple] rates'
    (some (.finite false 1 0)) (some "EUR") (some default)
  have hvalue := hagree _ rfl _ rfl (by decide +kernel) _ rfl double triple
    (by unfold Rate.StartsLast Rate.IsFor; decide +kernel) (by unfold Rate.StartsLast Rate.IsFor; decide +kernel)
  exact absurd hvalue (by decide +kernel)

end BundleLedger
