import BundleLedger.Proofs.Service.Call

/-!
# Refreshes of twin systems

Two systems are twins when no refresh can tell them apart by whether it succeeds: the settings ask for as many
workers and the same automatic refreshes, the transitions of every account can be read in both or in neither, every
account has as many records by the source, and the bus, the scripts and the pool are the same (`Service.Twins`).
The values of the records may differ. A computation mirrors itself in twins when it leaves twins and ends alike in
both (`Procedure.Mirrors`). Builds do (`Refresh.ending_build`), and so do refreshes, handlers and, by induction on
the depth to which deliveries nest, publications (`Service.mirrors_publishWithin`). So a refresh of an account
returns in both systems or in neither (`Service.Twins.returns_iff`).
-/

set_option autoImplicit false

namespace BundleLedger

open Result

/-! ### Endings -/

/-- How a computation ends: with a value, with an error of a refresh, or with another failure. -/
inductive Ending where
  | returned | refused | broken
deriving DecidableEq

namespace Ending

variable {α β : Type}

/-- How an outcome ends. -/
def of : Except Failure α → Ending
  | .ok _ => .returned
  | .error (.refresh _) => .refused
  | .error (.cause _) => .broken

theorem of_map (f : α → β) (x : Except Failure α) : of (x.map f) = of x := by
  rcases x with (e | cause) | value <;> rfl

theorem of_eq_returned_iff {x : Except Failure α} : of x = .returned ↔ ∃ value, x = .ok value := by
  rcases x with (e | cause) | value <;> simp [of]

/-- Outcomes that are values together and bare failures together end alike. -/
theorem of_eq_of {x : Except Failure α} {y : Except Failure β}
    (hreturned : (∃ value, y = .ok value) ↔ ∃ value, x = .ok value)
    (hbroken : (∃ cause, y = .error (.cause cause)) ↔ ∃ cause, x = .error (.cause cause)) : of y = of x := by
  rcases x with (e | cause) | value <;> rcases y with (e' | cause') | value' <;> simp_all [of]

end Ending

/-! ### Twins -/

namespace Service

/-- What the settings say about refreshes; none if they are invalid. -/
def plan (s : Service) : Option (ℤ × Bool) :=
  s.settings.toOption.map fun settings ↦ (settings.refreshWorkers, settings.autoRefresh)

/-- Settings of one plan are valid together, and say the same about refreshes. -/
theorem exists_settings_of_plan {s s' : Service} (hplan : s'.plan = s.plan) {settings : Settings}
    (hsettings : s.settings = .ok settings) : ∃ settings', s'.settings = .ok settings' ∧
      settings'.refreshWorkers = settings.refreshWorkers ∧ settings'.autoRefresh = settings.autoRefresh := by
  unfold plan at hplan
  rw [hsettings] at hplan
  obtain ⟨settings', hsettings', heq⟩ := Option.map_eq_some_iff.1 hplan
  obtain ⟨hworkers, hauto⟩ := Prod.mk.inj heq
  exact ⟨settings', toOption_eq_some_iff.1 hsettings', hworkers, hauto⟩

/-- Whether two systems are alike as far as whether refreshes succeed depends on it. -/
structure Twins (s s' : Service) : Prop where
  plan : s'.plan = s.plan
  readable : ∀ account, (∃ ts, s'.database.transitionsOf account = .ok ts) ↔
    ∃ ts, s.database.transitionsOf account = .ok ts
  counts : ∀ account, (recordsBy s'.database.source s'.environment account).map List.length =
    (recordsBy s.database.source s.environment account).map List.length
  entries : s'.database.entries.isSome = s.database.entries.isSome
  bus : s'.bus = s.bus
  scripts : s'.scripts = s.scripts
  pool : s'.pool = s.pool
  correlation : s'.correlation = s.correlation

namespace Twins

variable {s s' : Service}

theorem symm (h : Twins s s') : Twins s' s where
  plan := h.plan.symm
  readable account := (h.readable account).symm
  counts account := (h.counts account).symm
  entries := h.entries.symm
  bus := h.bus.symm
  scripts := h.scripts.symm
  pool := h.pool.symm
  correlation := h.correlation.symm

theorem observe (h : Twins s s') (u u' : Telemetry) : Twins (s.observe u) (s'.observe u') :=
  ⟨h.plan, h.readable, h.counts, h.entries, h.bus, h.scripts, h.pool, h.correlation⟩

/-- The bus may change, in both in the same way. -/
theorem rebus (h : Twins s s') (b : Bus) : Twins { s with bus := b } { s' with bus := b } :=
  ⟨h.plan, h.readable, h.counts, h.entries, rfl, h.scripts, h.pool, h.correlation⟩

theorem correlated (h : Twins s s') (correlation : Option String) (span span' : Option SpanKind) :
    Twins { s with correlation, span } { s' with correlation, span := span' } :=
  ⟨h.plan, h.readable, h.counts, h.entries, h.bus, h.scripts, h.pool, rfl⟩

theorem noted (h : Twins s s') (name : String) (event : Event) :
    Twins (Handler.noted name event s) (Handler.noted name event s') :=
  ⟨h.plan, h.readable, h.counts, h.entries, h.bus, h.scripts, h.pool, h.correlation⟩

/-- Stored records may be replaced, since the records by the source do not depend on them. -/
theorem replaced (h : Twins s s') {account account' : Uuid} {refreshed refreshed' : Moment}
    {records records' : List BundleRecord} {database database' : Database}
    (hreplaced : s.database.replaceRecords account refreshed records = .ok database)
    (hreplaced' : s'.database.replaceRecords account' refreshed' records' = .ok database') :
    Twins { s with database } { s' with database := database' } := by
  obtain ⟨hdatabase, -, hsome, -⟩ := replaceRecords_eq_ok hreplaced
  obtain ⟨hdatabase', -, hsome', -⟩ := replaceRecords_eq_ok hreplaced'
  refine ⟨h.plan, fun account ↦ ?_, fun account ↦ ?_, hsome'.trans hsome.symm, h.bus, h.scripts, h.pool,
    h.correlation⟩
  · rw [hdatabase, hdatabase']
    exact h.readable account
  · rw [hdatabase, hdatabase']
    exact h.counts account

end Twins
end Service

/-! ### Computations that mirror themselves -/

open Service (Twins exists_settings_of_plan)

namespace Procedure

variable {α : Type}

/-- Whether a computation leaves twins as twins and ends alike in both. -/
def Mirrors (p : Procedure α) : Prop :=
  ∀ ⦃s s'⦄, Twins s s' → Twins (p s).2 (p s').2 ∧ Ending.of (p s').1 = Ending.of (p s).1

theorem mirrors_forget {p : Procedure α} (hp : Mirrors p) : Mirrors (forget p) := by
  intro s s' h
  obtain ⟨hafter, hending⟩ := hp h
  exact ⟨hafter, (Ending.of_map _ _).trans (hending.trans (Ending.of_map _ _).symm)⟩

theorem mirrors_bind {p : Procedure Unit} {f : Unit → Procedure Unit} (hp : Mirrors p) (hf : Mirrors (f ())) :
    Mirrors (bind p f) := by
  intro s s' h
  obtain ⟨hafter, hending⟩ := hp h
  rcases hs : p s with ⟨failure | _, t⟩
  · rcases hs' : p s' with ⟨failure' | _, t'⟩
    · rw [hs, hs'] at hafter hending
      rw [run_bind_of_error hs, run_bind_of_error hs']
      exact ⟨hafter, hending⟩
    · rw [hs, hs'] at hending
      cases failure <;> simp [Ending.of] at hending
  · rcases hs' : p s' with ⟨failure' | _, t'⟩
    · rw [hs, hs'] at hending
      cases failure' <;> simp [Ending.of] at hending
    · rw [hs, hs'] at hafter
      rw [run_bind_of_ok hs, run_bind_of_ok hs']
      exact hf hafter

theorem mirrors_each {f : α → Procedure Unit} (hf : ∀ item, Mirrors (f item)) (items : List α) :
    Mirrors (each f items) := by
  induction items with
  | nil => exact fun s s' h ↦ ⟨h, rfl⟩
  | cons item rest ih => exact mirrors_bind (hf item) ih

theorem mirrors_log (notice : Notice) : Mirrors (log notice) := by
  intro s s' h
  exact ⟨h.observe _ _, rfl⟩

/-- A change of the bus that depends on nothing but the bus. -/
theorem mirrors_rebus (f : Bus → Bus) : Mirrors (modify fun s ↦ { s with bus := f s.bus }) := by
  intro s s' h
  refine ⟨?_, rfl⟩
  change Twins { s with bus := f s.bus } { s' with bus := f s'.bus }
  rw [h.bus]
  exact h.rebus _

end Procedure

/-! ### Refreshes -/

namespace Refresh

variable {settings settings' : Settings} {publish : Publisher} {s s' : Service}

/-- Builds have as many records in twins. -/
theorem exists_build_of_twins (h : Twins s s') (hsettings : s.settings = .ok settings)
    (hsettings' : s'.settings = .ok settings') (hworkers : settings'.refreshWorkers = settings.refreshWorkers)
    {account : Uuid} {records : List BundleRecord} (hbuild : (build settings account s).1 = .ok records) :
    ∃ records', (build settings' account s').1 = .ok records' ∧ records'.length = records.length := by
  obtain ⟨schedule, reference, hschedule, hrecords, hlets, rfl⟩ := (build_eq_ok_iff hsettings).1 hbuild
  have hcount := h.counts account
  rw [hrecords] at hcount
  obtain ⟨reference', hrecords', hlength⟩ := Option.map_eq_some_iff.1 hcount
  rw [← hworkers, ← h.pool] at hschedule
  refine ⟨schedule.arrange reference',
    (build_eq_ok_iff hsettings').2 ⟨schedule, reference', hschedule, hrecords', hlength ▸ hlets, rfl⟩, ?_⟩
  rw [(schedule.arrange_perm reference').length_eq, hlength, (schedule.arrange_perm reference).length_eq]

theorem ending_build (h : Twins s s') (hsettings : s.settings = .ok settings)
    (hsettings' : s'.settings = .ok settings') (hworkers : settings'.refreshWorkers = settings.refreshWorkers)
    (account : Uuid) : Ending.of (build settings' account s').1 = Ending.of (build settings account s).1 := by
  refine Ending.of_eq_of ⟨?_, ?_⟩ ?_
  · rintro ⟨records', hbuild'⟩
    obtain ⟨records, hbuild, -⟩ := exists_build_of_twins h.symm hsettings' hsettings hworkers.symm hbuild'
    exact ⟨records, hbuild⟩
  · rintro ⟨records, hbuild⟩
    obtain ⟨records', hbuild', -⟩ := exists_build_of_twins h hsettings hsettings' hworkers hbuild
    exact ⟨records', hbuild'⟩
  · simp only [build_eq_error_cause_iff, Source.transitions, Source.load, mapError_eq_ok_iff, Source.fresh, h.readable,
      h.pool, hworkers]

theorem twins_build (h : Twins s s') (settings settings' : Settings) (account : Uuid) :
    Twins (build settings account s).2 (build settings' account s').2 := by
  obtain ⟨u, hbuilt, -⟩ := exists_observe_build settings account s
  obtain ⟨u', hbuilt', -⟩ := exists_observe_build settings' account s'
  rw [hbuilt, hbuilt']
  exact h.observe u u'

theorem mirrors_work (hpublish : ∀ e, (publish e).Mirrors) (h : Twins s s') (hsettings : s.settings = .ok settings)
    (hsettings' : s'.settings = .ok settings') (hworkers : settings'.refreshWorkers = settings.refreshWorkers)
    (account : Uuid) :
    Twins (work publish settings account s).2 (work publish settings' account s').2 ∧
      Ending.of (work publish settings' account s').1 = Ending.of (work publish settings account s).1 := by
  have hafter := twins_build h settings settings' account
  have hending := ending_build h hsettings hsettings' hworkers account
  rcases hbuild : build settings account s with ⟨failure | records, built⟩
  · rcases hbuild' : build settings' account s' with ⟨failure' | records', built'⟩
    · rw [hbuild, hbuild'] at hafter hending
      rw [work_of_build_error publish hbuild, work_of_build_error publish hbuild']
      exact ⟨hafter, hending⟩
    · rw [hbuild, hbuild'] at hending
      cases failure <;> simp [Ending.of] at hending
  · obtain ⟨records', hrecords', hlength⟩ := exists_build_of_twins h hsettings hsettings' hworkers
      (congrArg Prod.fst hbuild)
    obtain ⟨built', hbuild'⟩ : ∃ built', build settings' account s' = (.ok records', built') :=
      ⟨_, Prod.ext hrecords' rfl⟩
    rw [hbuild, hbuild'] at hafter
    have hreplaced_iff := exists_replaced_iff hsettings hbuild
    have hreplaced_iff' := exists_replaced_iff hsettings' hbuild'
    rw [h.entries, ← hreplaced_iff] at hreplaced_iff'
    cases hreplaced : built.database.replaceRecords account built.now records with
    | error fault =>
      cases hreplaced' : built'.database.replaceRecords account built'.now records' with
      | error fault' =>
        rw [work_of_replace_error publish hbuild hreplaced, work_of_replace_error publish hbuild' hreplaced']
        exact ⟨hafter, rfl⟩
      | ok database' => simp [hreplaced, hreplaced'] at hreplaced_iff'
    | ok database =>
      obtain ⟨database', hreplaced'⟩ := hreplaced_iff'.2 ⟨database, hreplaced⟩
      rw [work_of_replaced publish hbuild hreplaced, work_of_replaced publish hbuild' hreplaced', hlength,
        hafter.correlation]
      have hcommitted : Twins (committed account records.length built database)
          (committed account records.length built' database') :=
        (hafter.replaced hreplaced hreplaced').observe _ _
      obtain ⟨hpublished, hend⟩ := hpublish _ hcommitted
      exact ⟨hpublished, (Ending.of_map _ _).trans (hend.trans (Ending.of_map _ _).symm)⟩

/-- Refreshes mirror themselves when the publication of their event does. -/
theorem mirrors_run (hpublish : ∀ e, (publish e).Mirrors) (account : Uuid) (given : Option String) :
    (run publish account given).Mirrors := by
  intro s s' h
  cases hsettings : s.settings with
  | error cause =>
    cases hsettings' : s'.settings with
    | error cause' =>
      rw [run_of_settings_error hsettings, run_of_settings_error hsettings']
      exact ⟨h, rfl⟩
    | ok settings' =>
      obtain ⟨settings, hvalid, -⟩ := exists_settings_of_plan h.symm.plan hsettings'
      simp [hsettings] at hvalid
  | ok settings =>
    obtain ⟨settings', hsettings', hworkers, -⟩ := exists_settings_of_plan h.plan hsettings
    rw [run_of_settings hsettings, run_of_settings hsettings', runWith_eq, runWith_eq]
    have hinside : Twins (inside account given s) (inside account given s') := by
      unfold inside
      rw [h.correlation]
      exact (h.correlated _ _ _).observe _ _
    obtain ⟨hafter, hending⟩ := mirrors_work hpublish hinside hsettings hsettings' hworkers account
    refine ⟨?_, (Ending.of_map _ _).trans (hending.trans (Ending.of_map _ _).symm)⟩
    unfold concluded
    rw [h.correlation]
    exact (hafter.observe _ _).correlated _ _ _

end Refresh

/-! ### Handlers and publications -/

namespace Handler

variable {publish : Publisher}

theorem mirrors_refreshAfter (hpublish : ∀ e, (publish e).Mirrors) (event : Event) (raw : String) (account : Uuid)
    (correlation : Option String) : (refreshAfter publish event raw account correlation).Mirrors := by
  intro s s' h
  obtain ⟨hafter, hending⟩ := Refresh.mirrors_run hpublish account correlation h
  unfold refreshAfter
  rcases hs : Refresh.run publish account correlation s with ⟨(e | cause) | result, t⟩ <;>
    rcases hs' : Refresh.run publish account correlation s' with ⟨(e' | cause') | result', t'⟩ <;>
    rw [hs, hs'] at hafter hending <;> simp only [Ending.of, reduceCtorEq] at hending
  · exact ⟨hafter.observe _ _, rfl⟩
  · exact ⟨hafter, rfl⟩
  · exact ⟨hafter, rfl⟩

theorem mirrors_refreshOnChange (hpublish : ∀ e, (publish e).Mirrors) (event : Event) :
    (refreshOnChange publish event).Mirrors := by
  intro s s' h
  unfold refreshOnChange
  cases hsettings : s.settings with
  | error cause =>
    cases hsettings' : s'.settings with
    | error cause' => exact ⟨h, rfl⟩
    | ok settings' =>
      obtain ⟨settings, hvalid, -⟩ := exists_settings_of_plan h.symm.plan hsettings'
      simp [hsettings] at hvalid
  | ok settings =>
    obtain ⟨settings', hsettings', -, hauto⟩ := exists_settings_of_plan h.plan hsettings
    rw [hsettings']
    dsimp only
    rw [h.bus, hauto]
    split
    · split
      · exact ⟨h.observe _ _, rfl⟩
      · exact mirrors_refreshAfter hpublish _ _ _ _ h
    · exact ⟨h, rfl⟩

theorem mirrors_act (hpublish : ∀ e, (publish e).Mirrors) (event : Event) (action : Action) :
    (act publish event action).Mirrors := by
  cases action with
  | subscribe name handler => exact Procedure.mirrors_rebus fun b ↦ b.subscribe name handler
  | unsubscribe name handler => exact Procedure.mirrors_rebus fun b ↦ b.unsubscribe name handler
  | publish envelope => exact hpublish envelope
  | set key value => exact Procedure.mirrors_rebus fun b ↦ b.set event key value
  | fail failure => exact fun s s' h ↦ ⟨h, rfl⟩

theorem mirrors_runScript (hpublish : ∀ e, (publish e).Mirrors) (name : String) (event : Event) :
    (runScript publish name event).Mirrors := by
  intro s s' h
  unfold runScript
  rw [h.scripts]
  exact Procedure.mirrors_each (mirrors_act hpublish event) _ (h.noted name event)

theorem mirrors_run (hpublish : ∀ e, (publish e).Mirrors) (event : Event) (handler : Handler) :
    (handler.run publish event).Mirrors := by
  cases handler with
  | announceStart => exact Procedure.mirrors_log _
  | refreshAccount => exact mirrors_refreshOnChange hpublish event
  | script name => exact mirrors_runScript hpublish name event

end Handler

namespace Service

/-- By induction on the depth to which deliveries nest: each handler publishes one level further down. -/
theorem mirrors_publishWithin (depth : ℕ) (envelope : Envelope) : (publishWithin depth envelope).Mirrors := by
  induction depth generalizing envelope with
  | zero => exact fun s s' h ↦ ⟨h, rfl⟩
  | succ depth ih =>
    intro s s' h
    unfold publishWithin
    have hstamped : Bus.stamped s'.correlation envelope = Bus.stamped s.correlation envelope := by rw [h.correlation]
    rw [h.bus, hstamped]
    split
    · exact ⟨h, rfl⟩
    · obtain ⟨hafter, hending⟩ := Procedure.mirrors_each
        (Handler.mirrors_run (fun e ↦ Procedure.mirrors_forget (ih e)) _) _ (h.rebus _)
      refine ⟨hafter, ?_⟩
      change Ending.of (Except.map _ _) = Ending.of (Except.map _ _)
      rw [Ending.of_map, Ending.of_map]
      exact hending

theorem mirrors_refresh (account : Uuid) (given : Option String) : (refresh account given).Mirrors :=
  Refresh.mirrors_run (fun e ↦ Procedure.mirrors_forget (mirrors_publishWithin maxDepth e)) account given

end Service

theorem RefreshCall.returns_iff_ending {call : RefreshCall} :
    call.Returns ↔ Ending.of (Service.refresh call.account call.given call.before).1 = .returned := by
  rw [Ending.of_eq_returned_iff]
  constructor
  · rintro ⟨result, h⟩
    exact ⟨result, congrArg Prod.fst h⟩
  · rintro ⟨result, h⟩
    exact ⟨result, Prod.ext h rfl⟩

/-- A call returns exactly when the same call to a twin of its system does. -/
theorem Service.Twins.returns_iff {call call' : RefreshCall} (h : Twins call.before call'.before)
    (haccount : call'.account = call.account) (hgiven : call'.given = call.given) :
    call'.Returns ↔ call.Returns := by
  obtain ⟨-, hending⟩ := mirrors_refresh call.account call.given h
  rw [RefreshCall.returns_iff_ending, RefreshCall.returns_iff_ending, haccount, hgiven, hending]

end BundleLedger
