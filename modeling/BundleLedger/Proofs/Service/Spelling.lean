import BundleLedger.Proofs.Currency.Arrangement
import BundleLedger.Proofs.Service.Isolation
import BundleLedger.Proofs.Service.Recoding

/-!
# Refreshes and the case of currency codes

A system is another one respelled when both are the same once the codes of the reference currency, the rates and the
transitions are brought to upper case (`Service.Respelled`). All codes are compared in upper case but one: the query
of the rates takes the rows whose reference currency is spelled as in the settings. So respelled systems convert
alike as long as that query finds the same rows in both (`Service.SelectsAlike`), which it does if the settings and
the reference currencies of the rates keep their spelling (`Service.selectsAlike_of_eq`). Then refreshes return alike,
and their records differ in the codes of their plans only (`RefreshCall.recoded_of_respelled`). If the settings alone
are respelled, the rates are lost and amounts have no value (`not_case_blind_sample`).
-/

set_option autoImplicit false

namespace BundleLedger

open Result
open Database (stored inOrder)

/-! ### Codes in upper case -/

/-- Whether two codes agree in upper case. -/
def SameCode (code code' : Option String) : Prop :=
  code'.map Text.upper = code.map Text.upper

/-- A row of a rate with its codes in upper case. -/
def RateRow.inUpper (r : RateRow) : RateRow :=
  { r with currency := Text.upper r.currency, reference := Text.upper r.reference }

/-- A row of a transition with its code in upper case. -/
def TransitionRow.inUpper (r : TransitionRow) : TransitionRow :=
  { r with next := { r.next with currency := r.next.currency.map Text.upper } }

/-- Settings with the reference currency in upper case. -/
def Settings.inUpper (settings : Settings) : Settings :=
  { settings with referenceCurrency := Text.upper settings.referenceCurrency }

theorem RateRow.recordId_eq_of_inUpper_eq {r r' : RateRow} (h : r'.inUpper = r.inUpper) :
    r'.recordId = r.recordId :=
  (RateRow.mk.inj h).1

theorem RateRow.respelled_snapshot {r r' : RateRow} (h : r'.inUpper = r.inUpper) :
    r.snapshot.Respelled r'.snapshot := by
  obtain ⟨recordId, currency, start, finish, rate, reference⟩ := r
  obtain ⟨recordId', currency', start', finish', rate', reference'⟩ := r'
  simp only [inUpper, RateRow.mk.injEq] at h
  obtain ⟨-, hcurrency, rfl, rfl, rfl, -⟩ := h
  exact ⟨rfl, hcurrency⟩

theorem TransitionRow.eq_of_inUpper_eq {r r' : TransitionRow} (h : r'.inUpper = r.inUpper) :
    r' = { r with next := { r.next with currency := r'.next.currency } } := by
  have hcode (s : TransitionRow) :
      s = { s.inUpper with next := { s.inUpper.next with currency := s.next.currency } } := rfl
  exact (hcode r').trans (by rw [h]; rfl)

/-- A transition under another code is read as before, but for that code. -/
theorem TransitionRow.snapshot_eq_ok_of_inUpper_eq {r r' : TransitionRow} (h : r'.inUpper = r.inUpper)
    {t : Transition} (ht : r.snapshot = .ok t) : r'.snapshot = .ok (t.recoded r'.next.currency) ∧
      SameCode t.next.currency r'.next.currency := by
  constructor
  · have hsnapshot (code : Option String) :
        TransitionRow.snapshot { r with next := { r.next with currency := code } } =
          r.snapshot.map fun t ↦ t.recoded code := by
      unfold snapshot
      cases ProductCategory.ofStored "next_product_category" r.next.productCategory with
      | error e => rfl
      | ok category =>
        cases Amount.ofStored "next_price" r.next.price with
        | error e => rfl
        | ok price => cases Amount.ofStored "next_mrr" r.next.mrr <;> rfl
    rw [eq_of_inUpper_eq h, hsnapshot, ht]
    rfl
  · have hcurrency : t.next.currency = r.next.currency := by
      rw [(transition_eq_ok ht).2.2.1]
    rw [hcurrency]
    exact congrArg (fun row ↦ row.next.currency) h

/-! ### Respelled databases -/

namespace Database

/-- Which rows of rates the query of those into a currency finds. -/
def found (db : Database) (reference : String) : List Bool :=
  (stored db.rates).map fun r ↦ r.reference = reference

/-- Whether two databases are the same once the codes of their rates and transitions are brought to upper case. -/
structure Respelled (db db' : Database) : Prop where
  beside : db' = { db with rates := db'.rates, transitions := db'.transitions }
  rates : db'.rates.isSome = db.rates.isSome
  rateRows : (stored db'.rates).map RateRow.inUpper = (stored db.rates).map RateRow.inUpper
  transitions : db'.transitions.isSome = db.transitions.isSome
  transitionRows :
    (stored db'.transitions).map TransitionRow.inUpper = (stored db.transitions).map TransitionRow.inUpper

namespace Respelled

variable {db db' : Database}

theorem symm (h : Respelled db db') : Respelled db' db where
  beside := by
    rw [h.beside]
  rates := h.rates.symm
  rateRows := h.rateRows.symm
  transitions := h.transitions.symm
  transitionRows := h.transitionRows.symm

/-- The rates that the query finds are respelled ones if it finds the same rows. -/
theorem exists_ratesInto (h : Respelled db db') {reference reference' : String}
    (hfound : db'.found reference' = db.found reference) {rates : List Rate}
    (hrates : db.ratesInto reference = .ok rates) :
    ∃ rates', db'.ratesInto reference' = .ok rates' ∧ List.Forall₂ Rate.Respelled rates rates' := by
  obtain ⟨hsome, rfl⟩ := ratesInto_eq_ok_iff.1 hrates
  refine ⟨_, ratesInto_eq_ok_iff.2 ⟨h.rates.trans hsome, rfl⟩, ?_⟩
  -- Partners agree in their codes and in whether the query finds them, so both are said of the lists at once.
  have hrows : List.Forall₂ (fun r r' ↦ (RateRow.inUpper r', decide (r'.reference = reference')) =
      (RateRow.inUpper r, decide (r.reference = reference))) (stored db.rates) (stored db'.rates) := by
    refine (Pairing.map_eq_map_iff.1 ?_).flip
    rw [← List.zip_map', ← List.zip_map', h.rateRows]
    exact congrArg _ hfound
  have hkept : List.Forall₂ (fun r r' ↦ RateRow.inUpper r' = RateRow.inUpper r)
      ((stored db.rates).filter fun r ↦ r.reference = reference)
      ((stored db'.rates).filter fun r ↦ r.reference = reference') :=
    (List.rel_filter (fun _ _ hpair ↦ (Bool.eq_iff_iff.1 (Prod.mk.inj hpair).2).symm) hrows).imp
      fun _ _ hpair ↦ (Prod.mk.inj hpair).1
  have hsorted : List.Forall₂ (fun r r' ↦ RateRow.inUpper r' = RateRow.inUpper r)
      (inOrder ((stored db.rates).filter fun r ↦ r.reference = reference))
      (inOrder ((stored db'.rates).filter fun r ↦ r.reference = reference')) := by
    refine Pairing.mergeSort hkept fun r r' s s' hr hs ↦ ?_
    change decide (r.recordId ≤ s.recordId) = decide (r'.recordId ≤ s'.recordId)
    rw [RateRow.recordId_eq_of_inUpper_eq hr, RateRow.recordId_eq_of_inUpper_eq hs]
  rw [List.forall₂_map_left_iff, List.forall₂_map_right_iff]
  exact hsorted.imp fun _ _ ↦ RateRow.respelled_snapshot

/-- The transitions of an account are read as before, but for their codes. -/
theorem exists_transitionsOf (h : Respelled db db') {account : Uuid} {ts : List Transition}
    (hts : db.transitionsOf account = .ok ts) : ∃ ts', db'.transitionsOf account = .ok ts' ∧
      List.Forall₂ (fun t t' ↦ t' = t.recoded t'.next.currency ∧ SameCode t.next.currency t'.next.currency)
        ts ts' := by
  obtain ⟨hsome, hread⟩ := transitionsOf_eq_ok_iff.1 hts
  have hrows : List.Forall₂ (fun r r' ↦ TransitionRow.inUpper r' = TransitionRow.inUpper r)
      (stored db.transitions) (stored db'.transitions) :=
    (Pairing.map_eq_map_iff.1 h.transitionRows).flip
  have hown : List.Forall₂ (fun r r' ↦ TransitionRow.inUpper r' = TransitionRow.inUpper r)
      ((stored db.transitions).filter fun r ↦ r.account = account)
      ((stored db'.transitions).filter fun r ↦ r.account = account) := by
    refine List.rel_filter (fun r r' hpair ↦ ?_) hrows
    dsimp only
    rw [TransitionRow.eq_of_inUpper_eq hpair]
  have hsorted : List.Forall₂ (fun r r' ↦ TransitionRow.inUpper r' = TransitionRow.inUpper r)
      (((stored db.transitions).filter fun r ↦ r.account = account).mergeSort happensBefore)
      (((stored db'.transitions).filter fun r ↦ r.account = account).mergeSort happensBefore) := by
    refine Pairing.mergeSort hown fun r r' s s' hr hs ↦ ?_
    rw [TransitionRow.eq_of_inUpper_eq hr, TransitionRow.eq_of_inUpper_eq hs]
    rfl
  have hsnapshots : List.Forall₂ (fun t r' ↦ ∃ t', (t' = Transition.recoded t t'.next.currency ∧
      SameCode t.next.currency t'.next.currency) ∧ TransitionRow.snapshot r' = .ok t') ts
      (((stored db'.transitions).filter fun r ↦ r.account = account).mergeSort happensBefore) := by
    refine (Pairing.comp hread.flip hsorted).imp ?_
    rintro t r' ⟨r, hr, hpair⟩
    obtain ⟨hr', hcode⟩ := TransitionRow.snapshot_eq_ok_of_inUpper_eq hpair hr
    exact ⟨t.recoded r'.next.currency, ⟨rfl, hcode⟩, hr'⟩
  obtain ⟨ts', hpairs, hread'⟩ := Pairing.exists_between hsnapshots
  exact ⟨ts', transitionsOf_eq_ok_iff.2 ⟨h.transitions.trans hsome, hread'.flip⟩, hpairs⟩

end Respelled
end Database

/-! ### Respelled systems -/

namespace Service

/-- Whether two systems are the same once the codes of their settings, rates and transitions are brought to upper
case. -/
structure Respelled (s s' : Service) : Prop where
  beside : s' = { s with database := s'.database, environment := s'.environment }
  settings : s'.settings.map Settings.inUpper = s.settings.map Settings.inUpper
  database : s.database.Respelled s'.database

/-- Whether the query of the rates into the currency of the settings finds the same rows in two systems. -/
def SelectsAlike (s s' : Service) : Prop :=
  ∀ settings settings', s.settings = .ok settings → s'.settings = .ok settings' →
    s'.database.found settings'.referenceCurrency = s.database.found settings.referenceCurrency

variable {s s' : Service}

theorem SelectsAlike.symm (h : SelectsAlike s s') : SelectsAlike s' s :=
  fun settings' settings hsettings' hsettings ↦ (h settings settings' hsettings hsettings').symm

/-- The query finds the same rows if no reference currency is respelled. -/
theorem selectsAlike_of_eq (hsettings : s'.settings = s.settings)
    (hreferences : (stored s'.database.rates).map RateRow.reference =
      (stored s.database.rates).map RateRow.reference) : SelectsAlike s s' := by
  intro settings settings' hread hread'
  obtain rfl : settings = settings' := Except.ok.inj (hread.symm.trans (hsettings.symm.trans hread'))
  have hfound (db : Database) : db.found settings.referenceCurrency =
      ((stored db.rates).map RateRow.reference).map fun code ↦ decide (code = settings.referenceCurrency) := by
    rw [List.map_map]
    rfl
  rw [hfound, hfound, hreferences]

namespace Respelled

theorem symm (h : Respelled s s') : Respelled s' s where
  beside := by
    rw [h.beside]
  settings := h.settings.symm
  database := h.database.symm

theorem plan_eq (h : Respelled s s') : s'.plan = s.plan := by
  have hplan (s : Service) : s.plan =
      (s.settings.map Settings.inUpper).toOption.map fun settings ↦
        (settings.refreshWorkers, settings.autoRefresh) := by
    unfold plan
    cases s.settings <;> rfl
  rw [hplan, hplan, h.settings]

theorem upper_eq (h : Respelled s s') {settings settings' : Settings} (hread : s.settings = .ok settings)
    (hread' : s'.settings = .ok settings') :
    Text.upper settings'.referenceCurrency = Text.upper settings.referenceCurrency := by
  have heq := h.settings
  rw [hread, hread'] at heq
  exact congrArg Settings.referenceCurrency (Except.ok.inj heq)

theorem convertsAlike (h : Respelled s s') (hselects : SelectsAlike s s') (account : Uuid) :
    ConvertsAlike SameCode s s' account where
  plan := h.plan_eq
  database := h.database.beside
  transitions ts hts := by
    obtain ⟨ts', hts', hpairs⟩ := h.database.exists_transitionsOf hts
    refine ⟨ts', hts', fun settings settings' rates hread hread' hrates ↦ ?_⟩
    obtain ⟨rates', hrates', hrespelled⟩ :=
      h.database.exists_ratesInto (hselects settings settings' hread hread') hrates
    have hupper := h.upper_eq hread hread'
    refine ⟨rates', hrates', hupper, hpairs.imp fun t t' ⟨heq, hcode⟩ ↦ ⟨heq, hcode, ?_, ?_⟩⟩
    · exact Converter.convert_respelled hupper hrespelled hcode _ _
    · exact Converter.convert_respelled hupper hrespelled hcode _ _

theorem setUpAlike (h : Respelled s s') : SetUpAlike s s' := by
  constructor <;> rw [h.beside]

end Respelled
end Service

/-- Whether a call is another one in a respelled system. -/
structure RefreshCall.Respelled (call call' : RefreshCall) : Prop where
  account : call'.account = call.account
  given : call'.given = call.given
  before : call.before.Respelled call'.before

/-- Refreshes in respelled systems return alike if the query of the rates finds the same rows, and their records
differ in nothing but the spelling of the codes of their plans. -/
theorem RefreshCall.recoded_of_respelled (call call' : RefreshCall) (h : call.Respelled call')
    (hselects : call.before.SelectsAlike call'.before) :
    (call'.Returns ↔ call.Returns) ∧ ∀ result result',
      Service.refresh call.account call.given call.before = (.ok result, call.after) →
      Service.refresh call'.account call'.given call'.before = (.ok result', call'.after) →
      result'.account = result.account ∧
        List.Forall₂ (BundleRecord.Recodes SameCode) result.records result'.records := by
  have hconverts := h.before.convertsAlike hselects
  constructor
  · exact RefreshCall.returns_iff_of_convertsAlike h.account h.given hconverts
      (h.before.symm.convertsAlike hselects.symm) h.before.setUpAlike
  · exact fun result result' hresult hresult' ↦ RefreshCall.recodes h.account (hconverts _) hresult hresult'

namespace LargePrice

/-- The settings with the code of the reference currency in lower case. -/
def lowerSettings : Environment :=
  [("ANALYTICS_REFERENCE_CURRENCY", "usd")]

/-- A call on the account with all codes in lower case. -/
def lowerCall : RefreshCall :=
  ⟨{ service with
      environment := lowerSettings
      database := { database with
        transitions := some ⟨[transition 2 1 "usd" 9950000, transition 1 2 "eur" 12345678123456], by decide⟩
        rates := some ⟨[{ rate with currency := "eur", reference := "usd" }], by decide⟩ } }, .ofNat 9, none⟩

/-- A call on the account with the code of the settings in lower case and all others in upper case. -/
def mixedCall : RefreshCall :=
  ⟨{ service with environment := lowerSettings }, .ofNat 9, none⟩

theorem respelled_lowerCall : plainCall.Respelled lowerCall where
  account := rfl
  given := rfl
  before := ⟨rfl, by decide +kernel, ⟨rfl, rfl, by decide +kernel, rfl, by decide +kernel⟩⟩

theorem respelled_mixedCall : plainCall.Respelled mixedCall where
  account := rfl
  given := rfl
  before := ⟨rfl, by decide +kernel, ⟨rfl, rfl, rfl, rfl, rfl⟩⟩

/-- The rate is spelled as the settings in both calls. -/
theorem selectsAlike_lowerCall : plainCall.before.SelectsAlike lowerCall.before := by
  have hplain : plainCall.before.settings.map (·.referenceCurrency) = .ok "USD" := by decide +kernel
  have hlower : lowerCall.before.settings.map (·.referenceCurrency) = .ok "usd" := by decide +kernel
  intro settings settings' hsettings hsettings'
  rw [hsettings] at hplain
  rw [hsettings'] at hlower
  rw [show settings.referenceCurrency = "USD" from Except.ok.inj hplain,
    show settings'.referenceCurrency = "usd" from Except.ok.inj hlower]
  decide +kernel

/-- Without the rate the price in the other currency has no value. -/
theorem shown_mixedCall :
    (Service.refresh (.ofNat 9) none mixedCall.before).1.toOption.map (fun result ↦ result.records.map shown) =
      some [(2, 1, none, none), (1, 2, some "first", some (.finite false 9950000 (-6)))] := by
  unfold Service.refresh Refresh.run Refresh.runWith Refresh.work Refresh.build Source.transitions
    Database.transitionsOf Source.context Source.latestBundle Database.latestBundle? Database.bundlesOf
    Database.bundleRowsOf Database.bundleOf Source.creationAudit Source.creationsOr Database.creationsOf
  simp only [Sorting.mergeSort_eq_insertionSort happensBefore_iff, Database.inOrder_eq_insertionSort,
    Refresh.byRank_eq_insertionSort]
  decide +kernel

end LargePrice

/-- The refresh returns with all codes in lower case as it does with all in upper case. -/
theorem recoded_of_respelled_sample :
    LargePrice.plainCall.Respelled LargePrice.lowerCall ∧
      LargePrice.plainCall.before.SelectsAlike LargePrice.lowerCall.before ∧ ∃ result result',
        Service.refresh (.ofNat 9) none LargePrice.plainCall.before = (.ok result, LargePrice.plainCall.after) ∧
        Service.refresh (.ofNat 9) none LargePrice.lowerCall.before = (.ok result', LargePrice.lowerCall.after) ∧
        result'.account = result.account ∧
        List.Forall₂ (BundleRecord.Recodes SameCode) result.records result'.records := by
  obtain ⟨hreturns, hresult⟩ := RefreshCall.recoded_of_respelled _ _ LargePrice.respelled_lowerCall
    LargePrice.selectsAlike_lowerCall
  obtain ⟨result, h⟩ := LargePrice.returns_plainCall
  obtain ⟨result', h'⟩ := hreturns.2 ⟨result, h⟩
  exact ⟨LargePrice.respelled_lowerCall, LargePrice.selectsAlike_lowerCall, result, result', h, h',
    hresult result result' h h'⟩

/-- With the settings respelled alone the refresh returns, and a price loses its value. -/
theorem not_case_blind_sample :
    ¬ ∀ call call' : RefreshCall, call.Respelled call' → (call'.Returns ↔ call.Returns) ∧ ∀ result result',
      Service.refresh call.account call.given call.before = (.ok result, call.after) →
      Service.refresh call'.account call'.given call'.before = (.ok result', call'.after) →
      List.Forall₂ (fun r r' ↦ r'.convertedPrice = r.convertedPrice ∧ r'.convertedMrr = r.convertedMrr ∧
        r'.convertedCurrency = r.convertedCurrency) result.records result'.records := by
  intro hblind
  obtain ⟨result, t, -, h, -, hshown, -⟩ := LargePrice.exists_refresh
  obtain ⟨result', h', hshown'⟩ := Option.map_eq_some_iff.1 LargePrice.shown_mixedCall
  have hplain : Service.refresh (.ofNat 9) none LargePrice.service = (.ok result, LargePrice.plainCall.after) :=
    Prod.ext (congrArg (fun ended ↦ ended.1) h) rfl
  have hmixed : Service.refresh (.ofNat 9) none LargePrice.mixedCall.before =
      (.ok result', LargePrice.mixedCall.after) :=
    Prod.ext (toOption_eq_some_iff.1 h') rfl
  obtain ⟨-, hresult⟩ := hblind _ _ LargePrice.respelled_mixedCall
  have hprices : result.records.map (·.convertedPrice) = result'.records.map (·.convertedPrice) :=
    Pairing.map_eq_map ((hresult result result' hplain hmixed).imp fun _ _ hsame ↦ hsame.1.symm)
  have hpriceOf (records : List BundleRecord) : records.map (·.convertedPrice) =
      (records.map LargePrice.shown).map fun shown ↦ shown.2.2.2 := by
    rw [List.map_map]
    rfl
  rw [hpriceOf, hpriceOf, hshown, hshown'] at hprices
  exact absurd hprices (by decide)

end BundleLedger
