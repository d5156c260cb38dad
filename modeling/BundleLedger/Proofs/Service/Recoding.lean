import BundleLedger.Proofs.Bundle.Recoding
import BundleLedger.Proofs.Service.Twins

/-!
# Refreshes that convert alike

Two systems are compared whose settings agree about refreshes and whose databases differ in their rates and
transitions only. They convert alike for an account when its transitions differ in their currency codes only and are
worth the same by the rates of each system (`Service.ConvertsAlike`). Then its records differ in the currency codes of
their plans only (`RefreshCall.recodes`). When each system converts like the other for all accounts, they are twins,
so a refresh returns in both or in neither (`RefreshCall.returns_iff_of_convertsAlike`).
-/

set_option autoImplicit false

namespace BundleLedger

open Result

/-- The answers of a source do not depend on the rates and the transitions but for its converter. -/
theorem Source.context_eq {db db' : Database} {c' : Converter}
    (hdatabase : db' = { db with rates := db'.rates, transitions := db'.transitions }) (account : Uuid)
    (reference reference' : String)
    (hconverter : (Source.fresh account reference').converter db' = .ok c') :
    (Source.fresh account reference').context db' =
      { (Source.fresh account reference).context db with converter := .ok c' } := by
  have hanswer : ((Source.fresh account reference').context db').converter = .ok c' := by
    change answer _ = _
    rw [hconverter]
    rfl
  rw [← hanswer]
  generalize db'.rates = rates at hdatabase
  generalize db'.transitions = transitions at hdatabase
  subst hdatabase
  rfl

/-- A source has a converter when the rates can be read. -/
theorem Source.converter_eq_ok_iff {account : Uuid} {reference : String} {db : Database} {c : Converter} :
    (Source.fresh account reference).converter db = .ok c ↔
      ∃ rates, db.ratesInto reference = .ok rates ∧ Converter.of reference rates = c := by
  simp only [converter, load, map_eq_ok_iff, mapError_eq_ok_iff, fresh]

namespace Service

variable {S : Option String → Option String → Prop} {s s' : Service}

/-- Whether the transitions of an account can be read in a system as in another one, but for their currency codes, and
are worth the same by the rates into the currencies of the settings. -/
structure ConvertsAlike (S : Option String → Option String → Prop) (s s' : Service) (account : Uuid) : Prop where
  plan : s'.plan = s.plan
  database : s'.database =
    { s.database with rates := s'.database.rates, transitions := s'.database.transitions }
  transitions : ∀ ts, s.database.transitionsOf account = .ok ts →
    ∃ ts', s'.database.transitionsOf account = .ok ts' ∧
      ∀ settings settings' rates, s.settings = .ok settings → s'.settings = .ok settings' →
        s.database.ratesInto settings.referenceCurrency = .ok rates →
        ∃ rates', s'.database.ratesInto settings'.referenceCurrency = .ok rates' ∧
          Text.upper settings'.referenceCurrency = Text.upper settings.referenceCurrency ∧
          List.Forall₂ (Transition.Recodes S (Converter.of settings.referenceCurrency rates)
            (Converter.of settings'.referenceCurrency rates')) ts ts'

/-- The records by the source differ in the currency codes of their plans only. -/
theorem ConvertsAlike.exists_recordsBy {account : Uuid} (h : ConvertsAlike S s s' account) {records : List BundleRecord}
    (hrecords : recordsBy s.database.source s.environment account = some records) :
    ∃ records', recordsBy s'.database.source s'.environment account = some records' ∧
      List.Forall₂ (BundleRecord.Recodes S) records records' := by
  obtain ⟨settings, ts, hsettings, htransitions, ⟨p, hp⟩, href⟩ := recordsBy_eq_some_iff.1 hrecords
  obtain ⟨settings', hsettings', -⟩ := exists_settings_of_plan h.plan hsettings
  obtain ⟨rates, hrates, hp'⟩ := Source.converter_eq_ok_iff.1 (mapError_eq_ok_iff.1 hp.converter)
  rw [Source.transitions, Source.load, mapError_eq_ok_iff] at htransitions
  obtain ⟨ts', htransitions', hrecodes⟩ := h.transitions ts htransitions
  obtain ⟨rates', hrates', hupper, hts⟩ := hrecodes settings settings' rates hsettings hsettings' hrates
  have hcontext := Source.context_eq h.database account settings.referenceCurrency
    settings'.referenceCurrency (Source.converter_eq_ok_iff.2 ⟨rates', hrates', rfl⟩)
  obtain ⟨records', href', hpairs⟩ := href.recoded (hp' ▸ hp.converter) hts hupper
  refine ⟨records', recordsBy_eq_some_iff.2 ⟨settings', ts', hsettings', ?_, ?_, ?_⟩, hpairs⟩
  · rw [Source.transitions, Source.load, mapError_eq_ok_iff]
    exact htransitions'
  · rw [hcontext]
    exact ⟨{ p with converter := Converter.of settings'.referenceCurrency rates' }, hp.account, hp.accountRecordId,
      hp.tenantRecordId, hp.reportGroup, rfl, hp.bundles, hp.stream⟩
  · rw [hcontext]
    exact href'

/-- Whether two systems are set up alike: with the same bus, scripts, pool and correlation id. -/
structure SetUpAlike (s s' : Service) : Prop where
  bus : s'.bus = s.bus
  scripts : s'.scripts = s.scripts
  pool : s'.pool = s.pool
  correlation : s'.correlation = s.correlation

/-- Systems that convert like each other for all accounts are twins. -/
theorem twins_of_convertsAlike {S' : Option String → Option String → Prop} (h : ∀ account, ConvertsAlike S s s' account)
    (h' : ∀ account, ConvertsAlike S' s' s account) (hsetup : SetUpAlike s s') : Twins s s' where
  plan := (h default).plan
  readable account := by
    constructor
    · rintro ⟨ts, hts⟩
      obtain ⟨ts', hts', -⟩ := (h' account).transitions ts hts
      exact ⟨ts', hts'⟩
    · rintro ⟨ts, hts⟩
      obtain ⟨ts', hts', -⟩ := (h account).transitions ts hts
      exact ⟨ts', hts'⟩
  counts account := by
    cases hrecords : recordsBy s.database.source s.environment account with
    | some records =>
      obtain ⟨records', hrecords', hpairs⟩ := (h account).exists_recordsBy hrecords
      rw [hrecords', Option.map_some, Option.map_some, hpairs.length_eq]
    | none =>
      cases hrecords' : recordsBy s'.database.source s'.environment account with
      | none => rfl
      | some records' =>
        obtain ⟨records, hsome, -⟩ := (h' account).exists_recordsBy hrecords'
        simp [hrecords] at hsome
  entries := by
    rw [(h default).database]
  bus := hsetup.bus
  scripts := hsetup.scripts
  pool := hsetup.pool
  correlation := hsetup.correlation

end Service

namespace RefreshCall

variable {S S' : Option String → Option String → Prop} {call call' : RefreshCall}

/-- Calls on an account in systems that convert like each other return alike. -/
theorem returns_iff_of_convertsAlike (haccount : call'.account = call.account) (hgiven : call'.given = call.given)
    (h : ∀ account, call.before.ConvertsAlike S call'.before account)
    (h' : ∀ account, call'.before.ConvertsAlike S' call.before account)
    (hsetup : call.before.SetUpAlike call'.before) : call'.Returns ↔ call.Returns :=
  (Service.twins_of_convertsAlike h h' hsetup).returns_iff haccount hgiven

/-- The records of calls that return differ in the currency codes of their plans only. -/
theorem recodes (haccount : call'.account = call.account)
    (h : call.before.ConvertsAlike S call'.before call.account) {result result' : RefreshResult}
    (hresult : Service.refresh call.account call.given call.before = (.ok result, call.after))
    (hresult' : Service.refresh call'.account call'.given call'.before = (.ok result', call'.after)) :
    result'.account = result.account ∧ List.Forall₂ (BundleRecord.Recodes S) result.records result'.records := by
  constructor
  · rw [(Service.refreshed hresult).account_eq, (Service.refreshed hresult').account_eq, haccount]
  · obtain ⟨records', hrecords', hpairs⟩ := h.exists_recordsBy (recordsBy_eq_of_refresh hresult)
    have hby' := recordsBy_eq_of_refresh hresult'
    rw [haccount, hrecords', Option.some.injEq] at hby'
    exact hby' ▸ hpairs

end RefreshCall
end BundleLedger
