import BundleLedger.Proofs.Result
import BundleLedger.Service.Delivery
import Mathlib.Tactic.Common

/-!
# What a computation may change

A relation between the systems before and after a computation (`Procedure.Within`) goes through sequences,
lists of computations, scripts and handlers. Deliveries change the bus, note themselves, log, and run
refreshes. A relation that goes through these (`Service.Conveys`) holds between the systems before and after a
publication, however deep the deliveries nest (`Service.Conveys.publishWithin`). Some go through any change of the
bus (`Service.Carries`). One such kind of relation allows all changes beside the database, the environment and the
pool, and the replacement of an account's records by records that were just built (`Service.Allows`).
-/

set_option autoImplicit false

namespace BundleLedger

open Result

/-! ### Relations through computations -/

namespace Procedure

variable {α β : Type} {R : Service → Service → Prop}

/-- Whether a relation holds between the systems before and after every run of a computation. -/
def Within (R : Service → Service → Prop) (p : Procedure α) : Prop :=
  ∀ s, R s (p s).2

theorem within_bind (htrans : ∀ ⦃s t u⦄, R s t → R t u → R s u) {p : Procedure α} {f : α → Procedure β}
    (hp : Within R p) (hf : ∀ value, Within R (f value)) : Within R (bind p f) := by
  intro s
  have hfirst := hp s
  rcases h : p s with ⟨failure | value, t⟩
  · rw [run_bind_of_error h]
    rwa [h] at hfirst
  · rw [run_bind_of_ok h]
    rw [h] at hfirst
    exact htrans hfirst (hf value t)

theorem within_each (hrefl : ∀ s, R s s) (htrans : ∀ ⦃s t u⦄, R s t → R t u → R s u)
    {f : α → Procedure Unit} (hf : ∀ item, Within R (f item)) (items : List α) :
    Within R (each f items) := by
  induction items with
  | nil => exact hrefl
  | cons item rest ih => exact within_bind htrans (hf item) fun _ ↦ ih

theorem within_forget {p : Procedure α} (hp : Within R p) : Within R (forget p) :=
  hp

end Procedure

theorem Service.observe_none (s : Service) : s.observe .none = s := by
  unfold observe
  rw [Telemetry.append_none]

/-! ### The work of a refresh -/

/-- A pool cannot be made only if the refresh makes it itself, and of no workers. -/
theorem Pool.schedule_eq_error_iff {workers : Int} {pool : Pool} {cause : Cause} :
    pool.schedule workers = .error cause ↔
      pool.isOwn = true ∧ workers ≤ 0 ∧ cause = .fault .value "max_workers must be greater than 0" := by
  cases pool with
  | given schedule => simp [Pool.schedule, isOwn]
  | own order =>
    unfold schedule
    split_ifs with h
    · simp [h, isOwn, eq_comm]
    · simp [h]

namespace Refresh

variable {publish : Publisher} {settings : Settings} {account : Uuid} {given : Option String}
  {s t : Service}

/-- The system once the database has changed and the success of a refresh has been logged. -/
def committed (account : Uuid) (count : ℕ) (s : Service) (database : Database) : Service :=
  { s with database }.log (.refreshSucceeded account count)

/-- What follows once records are stored: the success is logged and published. -/
def announce (publish : Publisher) (account : Uuid) (records : List BundleRecord) :
    Procedure (List BundleRecord) := do
  Procedure.log (.refreshSucceeded account records.length)
  let s ← Procedure.get
  publish (envelope account records.length s.correlation)
  return records

theorem work_eq (publish : Publisher) (settings : Settings) (account : Uuid) :
    work publish settings account = Procedure.bind (build settings account) fun records ↦
      Procedure.bind (store account records) fun _ ↦ announce publish account records := rfl

theorem announce_eq (publish : Publisher) (account : Uuid) (records : List BundleRecord) (s : Service) :
    announce publish account records s =
      ((publish (envelope account records.length s.correlation)
          (s.log (.refreshSucceeded account records.length))).1.map fun _ ↦ records,
        (publish (envelope account records.length s.correlation)
          (s.log (.refreshSucceeded account records.length))).2) := by
  change Procedure.bind (publish (envelope account records.length s.correlation))
    (fun _ ↦ Procedure.pure records) (s.log (.refreshSucceeded account records.length)) = _
  rcases h : publish (envelope account records.length s.correlation)
      (s.log (.refreshSucceeded account records.length)) with ⟨failure | _, t⟩
  · exact Procedure.run_bind_of_error h
  · exact Procedure.run_bind_of_ok h

theorem work_of_build_error (publish : Publisher) {failure : Failure} {built : Service}
    (h : build settings account s = (.error failure, built)) :
    work publish settings account s = (.error failure, built) := by
  rw [work_eq]
  exact Procedure.run_bind_of_error h

theorem work_of_replace_error (publish : Publisher) {records : List BundleRecord} {built : Service}
    {fault : DatabaseFault} (h : build settings account s = (.ok records, built))
    (hreplaced : built.database.replaceRecords account built.now records = .error fault) :
    work publish settings account s = (.error (.refresh (unableToStore account fault)), built) := by
  have hstore : store account records built = (.error (.refresh (unableToStore account fault)), built) := by
    simp only [store, hreplaced]
  rw [work_eq, Procedure.run_bind_of_ok h]
  exact Procedure.run_bind_of_error hstore

theorem work_of_replaced (publish : Publisher) {records : List BundleRecord} {built : Service}
    {database : Database} (h : build settings account s = (.ok records, built))
    (hreplaced : built.database.replaceRecords account built.now records = .ok database) :
    work publish settings account s =
      ((publish (envelope account records.length built.correlation)
          (committed account records.length built database)).1.map fun _ ↦ records,
        (publish (envelope account records.length built.correlation)
          (committed account records.length built database)).2) := by
  have hstore : store account records built = (.ok (), { built with database }) := by
    simp only [store, hreplaced]
  rw [work_eq, Procedure.run_bind_of_ok h, Procedure.run_bind_of_ok hstore, announce_eq]
  rfl

/-- The work of a refresh ends when nothing could be built, when the records could not be stored, or with the
publication that follows. -/
theorem work_cases (publish : Publisher) (settings : Settings) (account : Uuid) (s : Service) :
    (∃ failure built, build settings account s = (.error failure, built) ∧
      work publish settings account s = (.error failure, built)) ∨
    (∃ records built fault, build settings account s = (.ok records, built) ∧
      built.database.replaceRecords account built.now records = .error fault ∧
      work publish settings account s = (.error (.refresh (unableToStore account fault)), built)) ∨
    ∃ records built database, build settings account s = (.ok records, built) ∧
      built.database.replaceRecords account built.now records = .ok database ∧
      work publish settings account s =
        ((publish (envelope account records.length built.correlation)
            (committed account records.length built database)).1.map fun _ ↦ records,
          (publish (envelope account records.length built.correlation)
            (committed account records.length built database)).2) := by
  rcases hbuild : build settings account s with ⟨failure | records, built⟩
  · exact .inl ⟨failure, built, rfl, work_of_build_error publish hbuild⟩
  · right
    cases hreplaced : built.database.replaceRecords account built.now records with
    | error fault =>
      exact .inl ⟨records, built, fault, rfl, hreplaced, work_of_replace_error publish hbuild hreplaced⟩
    | ok database =>
      exact .inr ⟨records, built, database, rfl, hreplaced, work_of_replaced publish hbuild hreplaced⟩

/-- The work of a refresh returns when the records are built, stored and announced. -/
theorem work_eq_ok_iff {records : List BundleRecord} :
    work publish settings account s = (.ok records, t) ↔
      ∃ built database, build settings account s = (.ok records, built) ∧
        built.database.replaceRecords account built.now records = .ok database ∧
        publish (envelope account records.length built.correlation)
          (committed account records.length built database) = (.ok (), t) := by
  constructor
  · intro h
    rcases work_cases publish settings account s with
      ⟨failure, built, -, hwork⟩ | ⟨_, built, fault, -, -, hwork⟩ |
        ⟨_, built, database, hbuild, hreplaced, hwork⟩
    · simp [hwork] at h
    · simp [hwork] at h
    · rw [hwork] at h
      obtain ⟨hresult, rfl⟩ := Prod.mk.inj h
      obtain ⟨_, hpublished, rfl⟩ := map_eq_ok_iff.1 hresult
      exact ⟨built, database, hbuild, hreplaced, Prod.ext hpublished rfl⟩
  · rintro ⟨built, database, hbuild, hreplaced, hpublished⟩
    rw [work_of_replaced publish hbuild hreplaced, hpublished]
    rfl

/-- The system in which the work of a refresh begins. -/
def inside (account : Uuid) (given : Option String) (s : Service) : Service :=
  { s with correlation := effective given s.correlation, span := some .refresh }.log
    (.refreshStarted account)

/-- The system once a refresh has ended with an outcome. -/
def concluded (account : Uuid) (given : Option String) (s : Service) {α : Type}
    (outcome : Except Failure α) (t : Service) : Service :=
  { t.observe (conclusion account t.correlation (effective given s.correlation) s.span outcome) with
    correlation := s.correlation, span := s.span }

theorem runWith_eq (publish : Publisher) (settings : Settings) (account : Uuid) (given : Option String)
    (s : Service) :
    runWith publish settings account given s =
      ((work publish settings account (inside account given s)).1.map fun records ↦
          ⟨account, byRank records⟩,
        concluded account given s (work publish settings account (inside account given s)).1
          (work publish settings account (inside account given s)).2) := rfl

theorem run_of_settings (h : s.settings = .ok settings) :
    run publish account given s = runWith publish settings account given s := by
  unfold run
  rw [h]

theorem run_of_settings_error {cause : Cause} (h : s.settings = .error cause) :
    run publish account given s = (.error (.cause cause), s) := by
  unfold run
  rw [h]

/-- A refresh returns when its settings are valid and its work returns. -/
theorem run_eq_ok_iff {result : RefreshResult} :
    run publish account given s = (.ok result, t) ↔
      ∃ settings records u, s.settings = .ok settings ∧
        work publish settings account (inside account given s) = (.ok records, u) ∧
        result = ⟨account, byRank records⟩ ∧
        t = concluded account given s (.ok records : Except Failure (List BundleRecord)) u := by
  cases hsettings : s.settings with
  | error cause => simp [run_of_settings_error hsettings]
  | ok settings =>
    rw [run_of_settings hsettings, runWith_eq]
    simp only [Except.ok.injEq, exists_and_left, exists_eq_left']
    constructor
    · intro h
      obtain ⟨hresult, rfl⟩ := Prod.mk.inj h
      obtain ⟨records, hrecords, rfl⟩ := map_eq_ok_iff.1 hresult
      exact ⟨records, _, Prod.ext hrecords rfl, rfl, by rw [hrecords]⟩
    · rintro ⟨records, u, hwork, rfl, rfl⟩
      rw [hwork]
      rfl

end Refresh

/-! ### Relations that go through deliveries -/

namespace Service

/-- Whether one system comes from another by a change of its bus, or by noting a delivery. -/
inductive Touches (s : Service) : Service → Prop
  | subscribed (name : String) (handler : Handler) : Touches s { s with bus := s.bus.subscribe name handler }
  | unsubscribed (name : String) (handler : Handler) : Touches s { s with bus := s.bus.unsubscribe name handler }
  | set (event : Event) (key : String) (value : Datum) : Touches s { s with bus := s.bus.set event key value }
  | kept (name : String) (envelope : Envelope) : Touches s { s with bus := (s.bus.keep name envelope).2 }
  | noted (name : String) (event : Event) : Touches s (Handler.noted name event s)

/-- A relation between systems that goes through deliveries: through what they do to the bus, through notices that
handlers log, none of which tells of the end of a refresh, and through the refreshes that they run. -/
structure Conveys (R : Service → Service → Prop) : Prop where
  refl : ∀ s, R s s
  trans : ∀ ⦃s t u⦄, R s t → R t u → R s u
  touched : ∀ {s t}, s.Touches t → R s t
  logged : ∀ s notice, notice.message ≠ "bundles.refresh.finished" → R s (s.log notice)
  refreshed : ∀ {deliver : Publisher}, (∀ e, (deliver e).Within R) →
    ∀ account given, (Refresh.run deliver account given).Within R

namespace Conveys

variable {R : Service → Service → Prop} {deliver : Publisher}

theorem refreshAfter (h : Conveys R) (hdeliver : ∀ e, (deliver e).Within R) (event : Event) (raw : String)
    (account : Uuid) (correlation : Option String) :
    (Handler.refreshAfter deliver event raw account correlation).Within R := by
  intro s
  have hrun := h.refreshed hdeliver account correlation s
  unfold Handler.refreshAfter
  split
  · rename_i t hok
    rwa [hok] at hrun
  · rename_i e t herror
    rw [herror] at hrun
    exact h.trans hrun (h.logged t _ (by simp [Notice.message]))
  · rename_i failure t _ herror
    rwa [herror] at hrun

theorem refreshOnChange (h : Conveys R) (hdeliver : ∀ e, (deliver e).Within R) (event : Event) :
    (Handler.refreshOnChange deliver event).Within R := by
  intro s
  unfold Handler.refreshOnChange
  split
  · exact h.refl s
  · dsimp only
    split
    · split
      · exact h.logged s _ (by simp [Notice.message])
      · exact h.refreshAfter hdeliver _ _ _ _ s
    · exact h.refl s

theorem act (h : Conveys R) (hdeliver : ∀ e, (deliver e).Within R) (event : Event) (action : Action) :
    (Handler.act deliver event action).Within R := by
  intro s
  cases action with
  | subscribe name handler => exact h.touched (.subscribed name handler)
  | unsubscribe name handler => exact h.touched (.unsubscribed name handler)
  | publish envelope => exact hdeliver envelope s
  | set key value => exact h.touched (.set event key value)
  | fail failure => exact h.refl s

theorem runScript (h : Conveys R) (hdeliver : ∀ e, (deliver e).Within R) (name : String) (event : Event) :
    (Handler.runScript deliver name event).Within R := by
  intro s
  exact h.trans (h.touched (.noted name event)) (Procedure.within_each h.refl h.trans (h.act hdeliver event) _ _)

theorem handler (h : Conveys R) (hdeliver : ∀ e, (deliver e).Within R) (event : Event) (handler : Handler) :
    (handler.run deliver event).Within R := by
  cases handler with
  | announceStart => exact fun s ↦ h.logged s _ (by simp [Notice.message])
  | refreshAccount => exact h.refreshOnChange hdeliver event
  | script name => exact h.runScript hdeliver name event

/-- By induction on the depth to which deliveries nest: each handler publishes one level further down. -/
theorem publishWithin (h : Conveys R) (depth : ℕ) (envelope : Envelope) :
    (Service.publishWithin depth envelope).Within R := by
  induction depth generalizing envelope with
  | zero => exact h.refl
  | succ depth ih =>
    intro s
    unfold Service.publishWithin
    split
    · exact h.refl s
    · rename_i name _
      refine h.trans (h.touched (.kept name (Bus.stamped s.correlation envelope))) ?_
      exact Procedure.within_each h.refl h.trans (h.handler (fun e ↦ Procedure.within_forget (ih e)) _) _ _

end Conveys

/-- Whether two systems are the same but for their bus and the deliveries that were noted. -/
def Relays (s t : Service) : Prop :=
  t = { s with bus := t.bus, deliveries := t.deliveries }

theorem Touches.relays {s t : Service} (h : s.Touches t) : s.Relays t := by
  cases h <;> rfl

/-- A relation between systems that goes through deliveries, whatever these do to the bus. -/
structure Carries (R : Service → Service → Prop) : Prop where
  refl : ∀ s, R s s
  trans : ∀ ⦃s t u⦄, R s t → R t u → R s u
  relayed : ∀ {s t}, s.Relays t → R s t
  logged : ∀ s notice, notice.message ≠ "bundles.refresh.finished" → R s (s.log notice)
  refreshed : ∀ {deliver : Publisher}, (∀ e, (deliver e).Within R) →
    ∀ account given, (Refresh.run deliver account given).Within R

namespace Carries

variable {R : Service → Service → Prop} {deliver : Publisher}

theorem conveys (h : Carries R) : Conveys R where
  refl := h.refl
  trans := h.trans
  touched htouched := h.relayed htouched.relays
  logged := h.logged
  refreshed := h.refreshed

theorem handler (h : Carries R) (hdeliver : ∀ e, (deliver e).Within R) (event : Event) (handler : Handler) :
    (handler.run deliver event).Within R :=
  h.conveys.handler hdeliver event handler

theorem publishWithin (h : Carries R) (depth : ℕ) (envelope : Envelope) :
    (Service.publishWithin depth envelope).Within R :=
  h.conveys.publishWithin depth envelope

theorem publish (h : Carries R) (envelope : Envelope) : (Service.publish envelope).Within R :=
  h.publishWithin maxDepth envelope

theorem refresh (h : Carries R) (account : Uuid) (given : Option String) :
    (Service.refresh account given).Within R :=
  h.refreshed (fun e ↦ Procedure.within_forget (h.publish e)) account given

end Carries

/-! ### Relations that allow what computations do -/

/-- Whether two systems have the same database, environment, pool, scripts and clock. -/
def Beside (s t : Service) : Prop :=
  t = { s with
    bus := t.bus, deliveries := t.deliveries, correlation := t.correlation, span := t.span
    telemetry := t.telemetry }

theorem Beside.database {s t : Service} (h : s.Beside t) : t.database = s.database := by
  unfold Beside at h
  rw [h]

theorem Beside.environment {s t : Service} (h : s.Beside t) : t.environment = s.environment := by
  unfold Beside at h
  rw [h]

theorem Beside.scripts {s t : Service} (h : s.Beside t) : t.scripts = s.scripts := by
  unfold Beside at h
  rw [h]

theorem Beside.pool {s t : Service} (h : s.Beside t) : t.pool = s.pool := by
  unfold Beside at h
  rw [h]

theorem Beside.trans {s t u : Service} (h : s.Beside t) (h' : t.Beside u) : s.Beside u := by
  unfold Beside at h h' ⊢
  rw [h', h]

theorem Relays.beside {s t : Service} (h : s.Relays t) : s.Beside t := by
  unfold Relays at h
  rw [h]
  rfl

/-- A transitive relation between systems that allows every change beside the database, and the replacement of
the records of an account by records that were just built. -/
structure Allows (R : Service → Service → Prop) : Prop where
  trans : ∀ ⦃s t u⦄, R s t → R t u → R s u
  beside : ∀ {s t}, s.Beside t → R s t
  replaced : ∀ {s settings account records built database}, s.settings = .ok settings →
    Refresh.build settings account s = (.ok records, built) →
    built.database.replaceRecords account built.now records = .ok database →
    R s { built with database }

end Service

theorem Refresh.beside_build (settings : Settings) (account : Uuid) (s : Service) :
    s.Beside (build settings account s).2 := by
  unfold build
  dsimp only
  split <;> rfl

namespace Service.Allows

variable {R : Service → Service → Prop} {deliver : Publisher}

theorem refl (h : Allows R) (s : Service) : R s s :=
  h.beside rfl

theorem work (h : Allows R) (hdeliver : ∀ e, (deliver e).Within R) {settings : Settings} {account : Uuid}
    {s : Service} (hsettings : s.settings = .ok settings) :
    R s (Refresh.work deliver settings account s).2 := by
  have hbeside := Refresh.beside_build settings account s
  rcases Refresh.work_cases deliver settings account s with
    ⟨failure, built, hbuild, hwork⟩ | ⟨records, built, fault, hbuild, -, hwork⟩ |
      ⟨records, built, database, hbuild, hreplaced, hwork⟩
  · rw [hwork]
    rw [hbuild] at hbeside
    exact h.beside hbeside
  · rw [hwork]
    rw [hbuild] at hbeside
    exact h.beside hbeside
  · rw [hwork]
    have hcommitted : R { built with database } (Refresh.committed account records.length built database) :=
      h.beside rfl
    exact h.trans (h.trans (h.replaced hsettings hbuild hreplaced) hcommitted) (hdeliver _ _)

theorem refreshRun (h : Allows R) (hdeliver : ∀ e, (deliver e).Within R) (account : Uuid)
    (given : Option String) : (Refresh.run deliver account given).Within R := by
  intro s
  cases hsettings : s.settings with
  | error cause =>
    rw [Refresh.run_of_settings_error hsettings]
    exact h.refl s
  | ok settings =>
    rw [Refresh.run_of_settings hsettings, Refresh.runWith_eq]
    have hinside : R s (Refresh.inside account given s) := h.beside rfl
    exact h.trans (h.trans hinside (h.work hdeliver hsettings)) (h.beside rfl)

theorem carries (h : Allows R) : Carries R where
  refl := h.refl
  trans := h.trans
  relayed hrelays := h.beside hrelays.beside
  logged _ _ _ := h.beside rfl
  refreshed := h.refreshRun

end Service.Allows
end BundleLedger
