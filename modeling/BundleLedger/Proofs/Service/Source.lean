import BundleLedger.Proofs.Bundle.Complete
import BundleLedger.Proofs.Service.Stored

/-!
# The records of an account by the source

The records of an account are a function of the source tables, the environment and the account (`recordsBy`). A
build has them, in the order of completion, exactly when its pool lets it (`Refresh.build_eq_ok_iff`). They can
always be stored, whatever the stored records were, so a refresh returns exactly when there are such records, the
pool lets them be built, and the event of the refresh is delivered (`Refresh.returns_iff`).
-/

set_option autoImplicit false

namespace BundleLedger

open Result

/-! ### The records of an account by the source -/

/-- The source tables: the database without its stored records. -/
def Database.source (db : Database) : Database :=
  { db with entries := none }

/-- The attempt to build the records of an account from the tables, with builds that complete in the order of
submission. -/
def attemptOf (db : Database) (settings : Settings) (account : Uuid) (transitions : List Transition) : Attempt where
  context := (Source.fresh account settings.referenceCurrency).context db
  stream := .ofList transitions

/-- The records of an account by the source tables and the environment; none if they cannot be built. -/
def recordsBy (source : Database) (environment : Environment) (account : Uuid) : Option (List BundleRecord) := do
  let settings ← environment.settings.orCause.toOption
  let transitions ← ((Source.fresh account settings.referenceCurrency).transitions source).toOption
  (attemptOf source settings account transitions).run.result.toOption

theorem result_attemptOf_eq_ok_iff {db : Database} {settings : Settings} {account : Uuid}
    {transitions : List Transition} {records : List BundleRecord} :
    (attemptOf db settings account transitions).run.result = .ok records ↔
      (∃ p, Prefetch.Reads ((Source.fresh account settings.referenceCurrency).context db)
        (.ofList transitions) p) ∧
        IsReference ((Source.fresh account settings.referenceCurrency).context db) transitions records := by
  rw [Attempt.result_run_eq_ok_iff_isReference fun _ ↦ rfl]
  refine and_congr_right fun _ ↦ ⟨?_, fun href ↦ ?_⟩
  · rintro ⟨reference, href, -, rfl⟩
    exact (Schedule.arrange_fifo reference).symm ▸ href
  · exact ⟨records, href, Schedule.lets_of_order [] _, (Schedule.arrange_fifo records).symm⟩

theorem recordsBy_eq_some_iff {s : Service} {account : Uuid} {records : List BundleRecord} :
    recordsBy s.database.source s.environment account = some records ↔
      ∃ settings transitions, s.settings = .ok settings ∧
        (Source.fresh account settings.referenceCurrency).transitions s.database = .ok transitions ∧
        (∃ p, Prefetch.Reads ((Source.fresh account settings.referenceCurrency).context s.database)
          (.ofList transitions) p) ∧
        IsReference ((Source.fresh account settings.referenceCurrency).context s.database) transitions records := by
  unfold recordsBy
  simp only [Option.bind_eq_bind, Option.bind_eq_some_iff, toOption_eq_some_iff, result_attemptOf_eq_ok_iff,
    exists_and_left]
  exact Iff.rfl

theorem ReferenceOf.of_recordsBy {s : Service} {account : Uuid} {records : List BundleRecord}
    (h : recordsBy s.database.source s.environment account = some records) : ReferenceOf s account records := by
  obtain ⟨settings, transitions, hsettings, htransitions, -, href⟩ := recordsBy_eq_some_iff.1 h
  exact ⟨settings, transitions, hsettings, htransitions, href⟩

theorem Service.settings_eq {s t : Service} (h : t.environment = s.environment) : t.settings = s.settings := by
  unfold settings
  rw [h]

theorem Service.Evolves.source_eq {s t : Service} (h : s.Evolves t) : t.database.source = s.database.source := by
  rw [h.tables]
  rfl

namespace Refresh

variable {settings : Settings} {account : Uuid} {s : Service} {records : List BundleRecord}

/-- A build has records exactly when there are records by the source and the pool lets so many builds complete. -/
theorem build_eq_ok_iff (hsettings : s.settings = .ok settings) :
    (build settings account s).1 = .ok records ↔
      ∃ schedule reference, s.pool.schedule settings.refreshWorkers = .ok schedule ∧
        recordsBy s.database.source s.environment account = some reference ∧
        schedule.Lets reference.length ∧ records = schedule.arrange reference := by
  simp only [recordsBy_eq_some_iff, hsettings, Except.ok.injEq]
  unfold build
  dsimp only
  split
  · rename_i e htransitions
    simp [htransitions]
  · rename_i transitions cause htransitions hschedule
    simp [hschedule]
  · rename_i transitions schedule htransitions hschedule
    rw [mapError_eq_ok_iff, Attempt.result_run_eq_ok_iff_isReference fun _ ↦ rfl]
    constructor
    · rintro ⟨hreads, reference, href, hlets, rfl⟩
      exact ⟨schedule, reference, hschedule, ⟨settings, transitions, rfl, htransitions, hreads, href⟩, hlets, rfl⟩
    · rintro ⟨schedule', reference, hschedule', ⟨settings', transitions', rfl, htransitions', hreads, href⟩, hlets,
        rfl⟩
      obtain rfl : schedule = schedule' := Except.ok.inj (hschedule.symm.trans hschedule')
      obtain rfl : transitions = transitions' := Except.ok.inj (htransitions.symm.trans htransitions')
      exact ⟨hreads, reference, href, hlets, rfl⟩

/-- Records that are built can be stored exactly when the table of stored records exists. -/
theorem exists_replaced_iff {built : Service} (hsettings : s.settings = .ok settings)
    (hbuild : build settings account s = (.ok records, built)) :
    (∃ database, built.database.replaceRecords account built.now records = .ok database) ↔
      s.database.entries.isSome = true := by
  have hbeside := beside_build settings account s
  rw [hbuild] at hbeside
  rw [← hbeside.database]
  constructor
  · rintro ⟨database, hreplaced⟩
    obtain ⟨-, hsome, -⟩ := replaceRecords_eq_ok hreplaced
    exact hsome
  · intro hsome
    obtain ⟨schedule, reference, -, hrecords, -, rfl⟩ := (build_eq_ok_iff hsettings).1 (congrArg Prod.fst hbuild)
    have hperm := schedule.arrange_perm reference
    have href := ReferenceOf.of_recordsBy hrecords
    obtain ⟨_, -, hview⟩ := href.materialized
    exact exists_replaceRecords hsome (fun r hr ↦ href.account_eq (hperm.mem_iff.1 hr))
      ((hperm.map _).nodup_iff.2 hview.nodup) built.now

/-- Whether records that are built can be stored. -/
def Stores (settings : Settings) (account : Uuid) (s : Service) : Prop :=
  ∃ records built database, build settings account s = (.ok records, built) ∧
    built.database.replaceRecords account built.now records = .ok database

/-- Whether the event of records that are built and stored is delivered. -/
def Delivers (publish : Publisher) (settings : Settings) (account : Uuid) (s : Service) : Prop :=
  ∀ records built database, build settings account s = (.ok records, built) →
    built.database.replaceRecords account built.now records = .ok database →
    ∃ t, publish (envelope account records.length built.correlation)
      (committed account records.length built database) = (.ok (), t)

/-- Records are built and stored exactly when there are records by the source, the pool lets so many builds
complete, and the table of stored records exists. -/
theorem stores_iff (hsettings : s.settings = .ok settings) :
    Stores settings account s ↔
      s.database.entries.isSome = true ∧ ∃ schedule reference,
        s.pool.schedule settings.refreshWorkers = .ok schedule ∧
        recordsBy s.database.source s.environment account = some reference ∧ schedule.Lets reference.length := by
  constructor
  · rintro ⟨records, built, database, hbuild, hreplaced⟩
    obtain ⟨schedule, reference, hschedule, hrecords, hlets, -⟩ :=
      (build_eq_ok_iff hsettings).1 (congrArg Prod.fst hbuild)
    have hsome := (exists_replaced_iff hsettings hbuild).1 ⟨database, hreplaced⟩
    exact ⟨hsome, schedule, reference, hschedule, hrecords, hlets⟩
  · rintro ⟨hsome, schedule, reference, hschedule, hrecords, hlets⟩
    have hbuild := (build_eq_ok_iff hsettings).2 ⟨schedule, reference, hschedule, hrecords, hlets, rfl⟩
    obtain ⟨database, hreplaced⟩ := (exists_replaced_iff hsettings (Prod.ext hbuild rfl)).2 hsome
    exact ⟨_, _, database, Prod.ext hbuild rfl, hreplaced⟩

/-- A refresh returns exactly when its records are built and stored, and the event of that is delivered. -/
theorem returns_iff {publish : Publisher} {given : Option String} (hsettings : s.settings = .ok settings) :
    (∃ result t, run publish account given s = (.ok result, t)) ↔
      Stores settings account (inside account given s) ∧
        Delivers publish settings account (inside account given s) := by
  constructor
  · rintro ⟨result, t, h⟩
    obtain ⟨settings', records, u, hsettings', hwork, -⟩ := run_eq_ok_iff.1 h
    obtain rfl : settings = settings' := Except.ok.inj (hsettings.symm.trans hsettings')
    obtain ⟨built, database, hbuild, hreplaced, hpublished⟩ := work_eq_ok_iff.1 hwork
    refine ⟨⟨records, built, database, hbuild, hreplaced⟩, fun records' built' database' hbuild' hreplaced' ↦ ?_⟩
    obtain ⟨hrecords, rfl⟩ := Prod.mk.inj (hbuild.symm.trans hbuild')
    obtain rfl := Except.ok.inj hrecords
    obtain rfl := Except.ok.inj (hreplaced.symm.trans hreplaced')
    exact ⟨u, hpublished⟩
  · rintro ⟨⟨records, built, database, hbuild, hreplaced⟩, hdelivers⟩
    obtain ⟨u, hpublished⟩ := hdelivers records built database hbuild hreplaced
    have hwork := work_eq_ok_iff.2 ⟨built, database, hbuild, hreplaced, hpublished⟩
    exact ⟨_, _, run_eq_ok_iff.2 ⟨settings, records, u, hsettings, hwork, rfl, rfl⟩⟩

end Refresh
end BundleLedger
