import BundleLedger.Proofs.Service.Materialization

/-!
# Whether a refresh reports what it did

A refresh signals its outcome four times: it returns or fails, it logs that it has finished, it counts itself,
and it replaces the stored records or leaves them. Handlers of its event may run further refreshes, so what is
observed during a refresh is divided into what the refresh observes itself (`Refresh.own`) and what is observed
while its event is delivered (`Refresh.exists_delivered`).

The four signals agree exactly when the settings are valid, no pool without workers is made, and the event of
stored records is delivered without a failure (`Refresh.agrees_iff`). Without workers the refresh fails and no
end is logged; a handler that fails makes a refresh fail whose success has been logged and whose records have
been stored (`not_agrees_sample`).
-/

set_option autoImplicit false

namespace BundleLedger

open Result

/-! ### What is observed -/

namespace Telemetry

/-- What has been observed since an earlier time. -/
def since (t earlier : Telemetry) : Telemetry where
  logs := t.logs.drop earlier.logs.length
  increments := t.increments.drop earlier.increments.length
  spans := t.spans.drop earlier.spans.length

theorem since_append (a b : Telemetry) : (a ++ b).since a = b := by
  simp only [since, logs_append, increments_append, spans_append, List.drop_left]

theorem since_self (t : Telemetry) : t.since t = none := by
  simp only [since, List.drop_length, none]

/-- The notices of a message. -/
def logged (message : String) (t : Telemetry) : List Notice :=
  (t.logs.map (·.notice)).filter fun notice ↦ notice.message = message

@[simp] theorem logged_append (message : String) (a b : Telemetry) :
    (a ++ b).logged message = a.logged message ++ b.logged message := by
  simp only [logged, logs_append, List.map_append, List.filter_append]

/-- What was added to the counters of refreshes. -/
def refreshCounts (t : Telemetry) : List Increment :=
  t.increments.filter fun increment ↦ increment.counter matches .refreshes _

@[simp] theorem refreshCounts_append (a b : Telemetry) :
    (a ++ b).refreshCounts = a.refreshCounts ++ b.refreshCounts := by
  simp only [refreshCounts, increments_append, List.filter_append]

/-- Whether nothing observed tells that a refresh started or how one ended. -/
structure Quiet (t : Telemetry) : Prop where
  started : t.logged "bundles.refresh.started" = []
  finished : t.logged "bundles.refresh.finished" = []
  counted : t.refreshCounts = []

end Telemetry

/-- The status that a notice states. -/
def Notice.status? (notice : Notice) : Option String :=
  (Datum.lookup notice.fields "status").bind Datum.text?

theorem Notice.status?_refreshSucceeded_ne (account : Uuid) (count : Nat) :
    (refreshSucceeded account count).status? ≠ some RefreshStatus.failed.text := by
  have hstatus : (refreshSucceeded account count).status? = some RefreshStatus.succeeded.text := rfl
  rw [hstatus]
  decide

/-! ### Building is quiet -/

namespace Aggregation

theorem message_of_mem_notices {account : Uuid} {errors : List RefreshError} {notice : Notice}
    (h : notice ∈ notices account errors) :
    notice.message = "bundles.build.failed" ∨ notice.message = "bundles.build.suppressed_error" := by
  cases errors with
  | nil => simp [notices] at h
  | cons first others =>
    rcases List.mem_cons.1 h with rfl | hother
    · exact .inl rfl
    · obtain ⟨e, -, rfl⟩ := List.mem_map.1 hother
      exact .inr rfl

theorem counter_of_mem_builtIncrement {result : Except RefreshError (List BundleRecord)}
    {increment : Increment} (h : increment ∈ builtIncrement result) : increment.counter = .recordsBuilt := by
  cases result with
  | error e => simp [builtIncrement] at h
  | ok records =>
    dsimp only [builtIncrement] at h
    split_ifs at h
    · simp at h
    · rw [List.mem_singleton.1 h]

end Aggregation

/-- A build logs nothing but failed and suppressed builds. -/
theorem Attempt.logged_run (a : Attempt) {message : String} (hfailed : message ≠ "bundles.build.failed")
    (hsuppressed : message ≠ "bundles.build.suppressed_error") : a.run.telemetry.logged message = [] := by
  unfold run
  dsimp only
  split
  · rfl
  · rw [Telemetry.logged, List.filter_eq_nil_iff]
    intro notice hnotice
    obtain ⟨entry, hentry, rfl⟩ := List.mem_map.1 hnotice
    obtain ⟨notice, hmem, rfl⟩ := List.mem_map.1 hentry
    rw [decide_eq_true_eq]
    rintro rfl
    exact (Aggregation.message_of_mem_notices hmem).elim hfailed hsuppressed

theorem Attempt.refreshCounts_run (a : Attempt) : a.run.telemetry.refreshCounts = [] := by
  unfold run
  dsimp only
  split
  · rfl
  · rw [Telemetry.refreshCounts, List.filter_eq_nil_iff]
    intro increment hincrement
    rcases List.mem_append.1 hincrement with hfailure | hbuilt
    · obtain ⟨e, -, rfl⟩ := List.mem_map.1 hfailure
      simp
    · rw [Aggregation.counter_of_mem_builtIncrement hbuilt]
      simp

namespace Refresh

variable {publish : Publisher} {settings : Settings} {account : Uuid} {given : Option String}
  {s : Service}

theorem exists_observe_build (settings : Settings) (account : Uuid) (s : Service) :
    ∃ u : Telemetry, (build settings account s).2 = s.observe u ∧ u.refreshCounts = [] ∧
      ∀ message, message ≠ "bundles.build.failed" → message ≠ "bundles.build.suppressed_error" →
        u.logged message = [] := by
  unfold build
  dsimp only
  split
  · exact ⟨.none, s.observe_none.symm, rfl, fun _ _ _ ↦ rfl⟩
  · exact ⟨.none, s.observe_none.symm, rfl, fun _ _ _ ↦ rfl⟩
  · exact ⟨_, rfl, Attempt.refreshCounts_run _, fun _ ↦ Attempt.logged_run _⟩

theorem exists_quiet_build (settings : Settings) (account : Uuid) (s : Service) :
    ∃ u : Telemetry, u.Quiet ∧ (build settings account s).2 = s.observe u := by
  obtain ⟨u, hbuilt, hcounted, hlogged⟩ := exists_observe_build settings account s
  exact ⟨u, ⟨hlogged _ (by decide) (by decide), hlogged _ (by decide) (by decide), hcounted⟩, hbuilt⟩

/-- The one failure of a build that is no error of a refresh is that of making the pool. -/
theorem build_eq_error_cause_iff {cause : Cause} :
    (build settings account s).1 = .error (.cause cause) ↔
      (∃ transitions, (Source.fresh account settings.referenceCurrency).transitions s.database =
        .ok transitions) ∧ s.pool.schedule settings.refreshWorkers = .error cause := by
  unfold build
  dsimp only
  split
  · rename_i e htransitions
    simp [htransitions]
  · rename_i transitions other htransitions hschedule
    simp [htransitions, hschedule]
  · rename_i transitions schedule htransitions hschedule
    simp [hschedule, mapError_eq_error_iff]

end Refresh

/-- A build fails with nothing but errors of the refresh exactly when a pool that it makes has workers. -/
theorem Refresh.forall_build_ne_cause_iff {settings : Settings} {account : Uuid} {s : Service} :
    (∀ cause, (build settings account s).1 ≠ .error (.cause cause)) ↔
      (s.pool.isOwn = true → (∃ transitions, (Source.fresh account settings.referenceCurrency).transitions
        s.database = .ok transitions) → 0 < settings.refreshWorkers) := by
  simp only [ne_eq, build_eq_error_cause_iff, Pool.schedule_eq_error_iff]
  constructor
  · intro h hown hread
    by_contra hworkers
    exact h _ ⟨hread, hown, Int.not_lt.1 hworkers, rfl⟩
  · rintro h cause ⟨hread, hown, hworkers, -⟩
    exact absurd (h hown hread) (Int.not_lt.2 hworkers)

/-! ### What a refresh observes itself -/

/-- A computation of which nothing is observed. -/
def Procedure.unobserved {α : Type} (p : Procedure α) : Procedure α := fun s ↦
  ((p s).1, { (p s).2 with telemetry := s.telemetry })

namespace Refresh

variable {publish : Publisher} {settings : Settings} {account : Uuid} {given : Option String}
  {s t : Service} {outcome : Except Failure (List BundleRecord)} {m : Telemetry}

/-- What a refresh observes itself, without what is observed while its event is delivered. -/
def own (publish : Publisher) (account : Uuid) (given : Option String) (s : Service) : Telemetry :=
  (run (fun e ↦ (publish e).unobserved) account given s).2.telemetry.since s.telemetry

/-- What is observed when a refresh begins. -/
def beginning (account : Uuid) (correlation : Option String) : Telemetry :=
  ⟨[⟨.refreshStarted account, correlation⟩], [], []⟩

/-- What is observed when records have been stored. -/
def success (account : Uuid) (count : ℕ) (correlation : Option String) : Telemetry :=
  ⟨[⟨.refreshSucceeded account count, correlation⟩], [], []⟩

theorem own_eq (hsettings : s.settings = .ok settings)
    (hwork : work (fun e ↦ (publish e).unobserved) settings account (inside account given s) = (outcome, t))
    (hobserved : t.telemetry = (inside account given s).telemetry ++ m) :
    own publish account given s = beginning account (effective given s.correlation) ++ m ++
      conclusion account t.correlation (effective given s.correlation) s.span outcome := by
  unfold own
  rw [run_of_settings hsettings, runWith_eq, hwork]
  change (t.telemetry ++ _).since s.telemetry = _
  have hinside : (inside account given s).telemetry =
      s.telemetry ++ beginning account (effective given s.correlation) := rfl
  rw [hobserved, hinside, Telemetry.append_assoc, Telemetry.append_assoc, Telemetry.since_append,
    Telemetry.append_assoc]

/-- What a refresh has observed that ends with its build. -/
theorem concluded_observe (account : Uuid) (given : Option String) (s : Service)
    (outcome : Except Failure (List BundleRecord)) (u : Telemetry) :
    concluded account given s outcome ((inside account given s).observe u) =
      s.observe (beginning account (effective given s.correlation) ++ u ++
        conclusion account (effective given s.correlation) (effective given s.correlation) s.span outcome) := by
  unfold Service.observe
  rw [← Telemetry.append_assoc, ← Telemetry.append_assoc]
  rfl

theorem logged_conclusion (account : Uuid) (current correlation : Option String) (parent : Option SpanKind)
    (outcome : Except Failure (List BundleRecord)) :
    (conclusion account current correlation parent outcome).logged "bundles.refresh.started" = [] ∧
      (conclusion account current correlation parent outcome).logged "bundles.refresh.finished" =
        failureNotices account outcome := by
  rcases outcome with (e | cause) | records
  · exact ⟨rfl, rfl⟩
  · exact ⟨rfl, rfl⟩
  · exact ⟨rfl, rfl⟩

/-- What a refresh tells of itself: its beginning, whatever its work tells, a failure of its own, and one count
of how it ended. -/
theorem told_own (publish : Publisher) (hsettings : s.settings = .ok settings)
    (hwork : work (fun e ↦ (publish e).unobserved) settings account (inside account given s) = (outcome, t))
    (hobserved : t.telemetry = (inside account given s).telemetry ++ m)
    (hstarted : m.logged "bundles.refresh.started" = []) (hcounted : m.refreshCounts = []) :
    (own publish account given s).logged "bundles.refresh.started" = [.refreshStarted account] ∧
      (own publish account given s).logged "bundles.refresh.finished" =
        m.logged "bundles.refresh.finished" ++ failureNotices account outcome ∧
      (own publish account given s).refreshCounts = [⟨.refreshes (status outcome), 1⟩] := by
  have hconclusion := logged_conclusion account t.correlation (effective given s.correlation) s.span outcome
  rw [own_eq hsettings hwork hobserved]
  simp only [Telemetry.logged_append, Telemetry.refreshCounts_append, hstarted, hcounted, hconclusion]
  exact ⟨rfl, rfl, rfl⟩

theorem status_map {α β : Type} (f : α → β) (x : Except Failure α) : status (x.map f) = status x := by
  cases x <;> rfl

/-! ### Agreement -/

/-- Whether the log, the counter and the stored records agree with the outcome of a refresh: one beginning and
one end are logged, the end with the status of the outcome; one refresh of that status is counted; and a
failure leaves the stored records as they were. -/
structure Agrees (publish : Publisher) (account : Uuid) (given : Option String) (s : Service) : Prop where
  started : (own publish account given s).logged "bundles.refresh.started" = [.refreshStarted account]
  finished : ∃ notice, (own publish account given s).logged "bundles.refresh.finished" = [notice] ∧
    notice.status? = some (status (run publish account given s).1).text
  counted : (own publish account given s).refreshCounts =
    [⟨.refreshes (status (run publish account given s).1), 1⟩]
  untouched : ∀ failure, (run publish account given s).1 = .error failure →
    (run publish account given s).2.database.entries = s.database.entries

/-- Whether nothing fails of which a refresh does not tell as of a failure: if it makes a pool, there are
workers, and the event of stored records is delivered. -/
structure Dependable (publish : Publisher) (settings : Settings) (account : Uuid) (s : Service) : Prop where
  workers : s.pool.isOwn = true → (∃ transitions,
    (Source.fresh account settings.referenceCurrency).transitions s.database = .ok transitions) →
    0 < settings.refreshWorkers
  delivered : ∀ records built database, build settings account s = (.ok records, built) →
    built.database.replaceRecords account built.now records = .ok database →
    ∃ t, publish (envelope account records.length built.correlation)
      (committed account records.length built database) = (.ok (), t)

namespace Dependable

variable {records : List BundleRecord} {built : Service}

theorem iff_of_build_error {failure : Failure} (hbuild : build settings account s = (.error failure, built)) :
    Dependable publish settings account s ↔ ∃ e, failure = .refresh e := by
  constructor
  · intro h
    cases failure with
    | refresh e => exact ⟨e, rfl⟩
    | cause cause =>
      exact absurd (congrArg Prod.fst hbuild) (forall_build_ne_cause_iff.2 h.workers cause)
  · rintro ⟨e, rfl⟩
    refine ⟨forall_build_ne_cause_iff.1 fun cause ↦ ?_, fun records other database hother ↦ ?_⟩
    · simp [hbuild]
    · simp [hbuild] at hother

theorem workers_of_build (hbuild : build settings account s = (.ok records, built)) :
    s.pool.isOwn = true → (∃ transitions,
      (Source.fresh account settings.referenceCurrency).transitions s.database = .ok transitions) →
      0 < settings.refreshWorkers := by
  refine forall_build_ne_cause_iff.1 fun cause ↦ ?_
  simp [hbuild]

theorem of_replace_error {fault : DatabaseFault} (hbuild : build settings account s = (.ok records, built))
    (hreplaced : built.database.replaceRecords account built.now records = .error fault) :
    Dependable publish settings account s := by
  refine ⟨workers_of_build hbuild, fun records' built' database hother hstored ↦ ?_⟩
  obtain ⟨hrecords, rfl⟩ := Prod.mk.inj (hbuild.symm.trans hother)
  obtain rfl := Except.ok.inj hrecords
  simp [hreplaced] at hstored

theorem iff_of_replaced {database : Database} (hbuild : build settings account s = (.ok records, built))
    (hreplaced : built.database.replaceRecords account built.now records = .ok database) :
    Dependable publish settings account s ↔
      ∃ t, publish (envelope account records.length built.correlation)
        (committed account records.length built database) = (.ok (), t) := by
  refine ⟨fun h ↦ h.delivered records built database hbuild hreplaced, fun hdelivered ↦ ?_⟩
  refine ⟨workers_of_build hbuild, fun records' built' database' hother hstored ↦ ?_⟩
  obtain ⟨hrecords, rfl⟩ := Prod.mk.inj (hbuild.symm.trans hother)
  obtain rfl := Except.ok.inj hrecords
  obtain rfl := Except.ok.inj (hreplaced.symm.trans hstored)
  exact hdelivered

end Dependable

theorem not_agrees_of_settings_error {cause : Cause} (h : s.settings = .error cause) :
    ¬Agrees publish account given s := by
  intro hagrees
  have hown : own publish account given s = .none := by
    unfold own
    rw [run_of_settings_error h]
    exact Telemetry.since_self _
  have hstarted := hagrees.started
  rw [hown] at hstarted
  exact absurd hstarted (by simp [Telemetry.logged, Telemetry.none])

/-- A refresh that ends before its records are stored agrees with its signals exactly when it fails by an error
of its own. -/
theorem agrees_iff_of_unstored {failure : Failure} {built : Service} {u : Telemetry}
    (hsettings : s.settings = .ok settings) (hquiet : u.Quiet)
    (hbuilt : built = (inside account given s).observe u)
    (hwork : ∀ deliver, work deliver settings account (inside account given s) = (.error failure, built)) :
    Agrees publish account given s ↔ ∃ e, failure = .refresh e := by
  obtain ⟨hstarted, hfinished, hcounted⟩ :=
    told_own publish hsettings (hwork _) (congrArg Service.telemetry hbuilt)
      hquiet.started hquiet.counted
  rw [hquiet.finished, List.nil_append] at hfinished
  have hrun : run publish account given s =
      (.error failure, concluded account given s (.error failure : Except Failure (List BundleRecord)) built) := by
    rw [run_of_settings hsettings, runWith_eq, hwork]
    rfl
  constructor
  · intro h
    obtain ⟨notice, hnotice, -⟩ := h.finished
    rw [hfinished] at hnotice
    cases failure with
    | refresh e => exact ⟨e, rfl⟩
    | cause c => simp [failureNotices] at hnotice
  · rintro ⟨e, rfl⟩
    refine ⟨hstarted, ⟨.refreshFailed account e, hfinished, ?_⟩, ?_, ?_⟩
    · rw [hrun]
      rfl
    · rw [hcounted, hrun]
      rfl
    · rw [hrun, hbuilt]
      exact fun _ _ ↦ rfl

/-- A refresh whose records are stored agrees with its signals exactly when its event is delivered. -/
theorem agrees_iff_of_stored {records : List BundleRecord} {built : Service} {database : Database}
    {u : Telemetry} (hsettings : s.settings = .ok settings) (hquiet : u.Quiet)
    (hbuilt : built = (inside account given s).observe u)
    (hbuild : build settings account (inside account given s) = (.ok records, built))
    (hreplaced : built.database.replaceRecords account built.now records = .ok database) :
    Agrees publish account given s ↔
      ∃ t, publish (envelope account records.length built.correlation)
        (committed account records.length built database) = (.ok (), t) := by
  have hobserved : (committed account records.length built database).telemetry =
      (inside account given s).telemetry ++ (u ++ success account records.length built.correlation) := by
    rw [← Telemetry.append_assoc]
    change built.telemetry ++ _ = _
    rw [hbuilt]
    rfl
  have hstarted : (u ++ success account records.length built.correlation).logged
      "bundles.refresh.started" = [] := by
    rw [Telemetry.logged_append, hquiet.started]
    rfl
  have hcounted : (u ++ success account records.length built.correlation).refreshCounts = [] := by
    rw [Telemetry.refreshCounts_append, hquiet.counted]
    rfl
  have htold := told_own publish hsettings
    (work_of_replaced (fun e ↦ (publish e).unobserved) hbuild hreplaced) hobserved hstarted hcounted
  rw [Telemetry.logged_append, hquiet.finished, List.nil_append] at htold
  have hstatus : status (run publish account given s).1 =
      status (publish (envelope account records.length built.correlation)
        (committed account records.length built database)).1 := by
    rw [run_of_settings hsettings, runWith_eq, work_of_replaced publish hbuild hreplaced]
    simp only [status_map]
  rw [status_map] at htold
  obtain ⟨hbeginning, hend, hcount⟩ := htold
  rcases hpublished : publish (envelope account records.length built.correlation)
    (committed account records.length built database) with ⟨failure | _, t⟩
  · -- The success has been logged before the delivery failed.
    simp only [Procedure.unobserved, hpublished] at hend hstatus
    refine iff_of_false (fun h ↦ ?_) fun ⟨t', h⟩ ↦ by simp at h
    obtain ⟨notice, hnotice, hfailed⟩ := h.finished
    rw [hend] at hnotice
    obtain rfl : Notice.refreshSucceeded account records.length = notice := (List.cons.inj hnotice).1
    rw [hstatus] at hfailed
    exact Notice.status?_refreshSucceeded_ne account records.length hfailed
  · simp only [Procedure.unobserved, hpublished] at hend hcount hstatus
    refine iff_of_true ⟨hbeginning, ⟨_, hend, ?_⟩, ?_, ?_⟩ ⟨t, rfl⟩
    · rw [hstatus]
      rfl
    · rw [hcount, hstatus]
    · intro failure hfailure
      rw [hfailure] at hstatus
      exact absurd hstatus RefreshStatus.noConfusion

/-- The log, the counter and the stored records agree with the outcome of a refresh exactly when its settings
are valid and nothing fails of which it does not tell. -/
theorem agrees_iff (publish : Publisher) (account : Uuid) (given : Option String) (s : Service) :
    Agrees publish account given s ↔
      ∃ settings, s.settings = .ok settings ∧ Dependable publish settings account (inside account given s) := by
  cases hsettings : s.settings with
  | error cause =>
    exact iff_of_false (not_agrees_of_settings_error hsettings) fun ⟨settings, h, _⟩ ↦ by simp at h
  | ok settings =>
    simp only [Except.ok.injEq, exists_eq_left']
    obtain ⟨u, hquiet, hbuilt⟩ := exists_quiet_build settings account (inside account given s)
    rcases hbuild : build settings account (inside account given s) with ⟨failure | records, built⟩
    · rw [hbuild] at hbuilt
      rw [Dependable.iff_of_build_error hbuild]
      exact agrees_iff_of_unstored hsettings hquiet hbuilt fun deliver ↦ work_of_build_error deliver hbuild
    · rw [hbuild] at hbuilt
      cases hreplaced : built.database.replaceRecords account built.now records with
      | error fault =>
        refine iff_of_true ?_ (Dependable.of_replace_error hbuild hreplaced)
        exact (agrees_iff_of_unstored hsettings hquiet hbuilt fun deliver ↦
          work_of_replace_error deliver hbuild hreplaced).2 ⟨_, rfl⟩
      | ok database =>
        rw [Dependable.iff_of_replaced hbuild hreplaced]
        exact agrees_iff_of_stored hsettings hquiet hbuilt hbuild hreplaced

end Refresh

/-! ### What is observed while an event is delivered -/

/-- Whether a system has observed more, and has forgotten nothing. -/
def Service.Grows (s t : Service) : Prop :=
  ∃ u, t.telemetry = s.telemetry ++ u

namespace Refresh

variable {publish : Publisher} {account : Uuid} {given : Option String} {s : Service}

/-- The work of a refresh has the same outcome when nothing is observed of the delivery, and leaves that out of
what is observed. -/
theorem exists_delivered_of_work (hpublish : ∀ e, (publish e).Within Service.Grows) (settings : Settings)
    (account : Uuid) (s : Service) :
    ∃ m delivered t, work (fun e ↦ (publish e).unobserved) settings account s =
        ((work publish settings account s).1, t) ∧
      t.telemetry = s.telemetry ++ m ∧ t.correlation = (work publish settings account s).2.correlation ∧
      (work publish settings account s).2.telemetry = s.telemetry ++ m ++ delivered := by
  obtain ⟨u, -, hbuilt⟩ := exists_quiet_build settings account s
  rcases work_cases publish settings account s with
    ⟨failure, built, hbuild, hwork⟩ | ⟨records, built, fault, hbuild, hreplaced, hwork⟩ |
      ⟨records, built, database, hbuild, hreplaced, hwork⟩
  all_goals
    rw [hwork]
    obtain rfl : built = s.observe u := by rwa [hbuild] at hbuilt
  · exact ⟨u, .none, _, work_of_build_error _ hbuild, rfl, rfl, (Telemetry.append_none _).symm⟩
  · exact ⟨u, .none, _, work_of_replace_error _ hbuild hreplaced, rfl, rfl, (Telemetry.append_none _).symm⟩
  · obtain ⟨delivered, hdelivered⟩ := hpublish (envelope account records.length s.correlation)
      (committed account records.length (s.observe u) database)
    have hcommitted : (committed account records.length (s.observe u) database).telemetry =
        s.telemetry ++ (u ++ success account records.length s.correlation) :=
      Telemetry.append_assoc ..
    rw [hcommitted] at hdelivered
    exact ⟨_, delivered, _, work_of_replaced _ hbuild hreplaced, hcommitted, rfl, hdelivered⟩

/-- What is observed during a refresh is what the refresh observes itself, and in between what is observed while
its event is delivered. -/
theorem exists_delivered (hpublish : ∀ e, (publish e).Within Service.Grows) (account : Uuid)
    (given : Option String) (s : Service) :
    ∃ before delivered after, own publish account given s = before ++ after ∧
      (run publish account given s).2.telemetry = s.telemetry ++ before ++ delivered ++ after := by
  cases hsettings : s.settings with
  | error cause =>
    refine ⟨.none, .none, .none, ?_, ?_⟩
    · unfold own
      rw [run_of_settings_error hsettings]
      exact Telemetry.since_self _
    · rw [run_of_settings_error hsettings]
      simp only [Telemetry.append_none]
  | ok settings =>
    obtain ⟨m, delivered, t, hsilent, ht, hid, hobserved⟩ :=
      exists_delivered_of_work hpublish settings account (inside account given s)
    refine ⟨_, delivered, _, own_eq hsettings hsilent ht, ?_⟩
    rw [run_of_settings hsettings, runWith_eq, ← Telemetry.append_assoc, hid]
    exact congrArg (· ++ conclusion account (work publish settings account (inside account given s)).2.correlation
      (effective given s.correlation) s.span (work publish settings account (inside account given s)).1) hobserved

end Refresh

namespace Service

theorem carries_grows : Carries Grows where
  refl s := ⟨.none, (Telemetry.append_none _).symm⟩
  trans := by
    rintro s t u ⟨first, ht⟩ ⟨next, hu⟩
    exact ⟨first ++ next, by rw [hu, ht, Telemetry.append_assoc]⟩
  relayed := by
    intro s t h
    refine ⟨.none, ?_⟩
    unfold Relays at h
    rw [h, Telemetry.append_none]
  logged s notice _ := ⟨_, rfl⟩
  refreshed := by
    intro deliver hdeliver account given s
    obtain ⟨before, delivered, after, -, h⟩ := Refresh.exists_delivered hdeliver account given s
    exact ⟨before ++ delivered ++ after, by rw [h]; simp only [Telemetry.append_assoc]⟩

end Service

/-! ### Two refreshes that do not report what they did -/

namespace LargePrice

/-- The system makes pools of no workers. -/
def withoutWorkers : Service :=
  { service with environment := [("ANALYTICS_REFRESH_WORKERS", "0")], pool := .own [] }

/-- A handler of the event of a refresh fails. -/
def withFailingHandler : Service :=
  { service with
    bus := Bus.empty.subscribe "analytics.bundles.refreshed" (.script "failing")
    scripts := [("failing", [.fail (.cause (.fault .runtime "handler failed"))])] }

theorem finished_withoutWorkers :
    (Refresh.own (fun e ↦ (Service.publish e).forget) (.ofNat 9) none withoutWorkers).logged
      "bundles.refresh.finished" = [] := by
  unfold Refresh.own Refresh.run Refresh.runWith Refresh.work Refresh.build Source.transitions
    Database.transitionsOf
  simp only [Sorting.mergeSort_eq_insertionSort happensBefore_iff]
  decide +kernel

/-- The refresh has logged its success and fails. -/
theorem finished_withFailingHandler :
    (Refresh.own (fun e ↦ (Service.publish e).forget) (.ofNat 9) none withFailingHandler).logged
        "bundles.refresh.finished" = [.refreshSucceeded (.ofNat 9) 2] ∧
      Refresh.status (Service.refresh (.ofNat 9) none withFailingHandler).1 = .failed := by
  unfold Service.refresh Refresh.own Refresh.run Refresh.runWith Refresh.work Refresh.build
    Source.transitions Database.transitionsOf Source.context Source.latestBundle Database.latestBundle?
    Database.bundlesOf Database.bundleRowsOf Database.bundleOf Source.creationAudit Source.creationsOr
    Database.creationsOf
  simp only [Sorting.mergeSort_eq_insertionSort happensBefore_iff, Database.inOrder_eq_insertionSort,
    Refresh.byRank_eq_insertionSort]
  constructor
  · decide +kernel
  · decide +kernel

end LargePrice

/-- Without workers no end of the refresh is logged, and with a failing handler it has the wrong status. -/
theorem not_agrees_sample :
    ¬Refresh.Agrees (fun e ↦ (Service.publish e).forget) (.ofNat 9) none LargePrice.withoutWorkers ∧
      ¬Refresh.Agrees (fun e ↦ (Service.publish e).forget) (.ofNat 9) none LargePrice.withFailingHandler := by
  constructor
  · intro h
    obtain ⟨notice, hnotice, -⟩ := h.finished
    simp [LargePrice.finished_withoutWorkers] at hnotice
  · intro h
    obtain ⟨hfinished, hfailed⟩ := LargePrice.finished_withFailingHandler
    obtain ⟨notice, hnotice, hstatus⟩ := h.finished
    rw [hfinished] at hnotice
    obtain rfl : Notice.refreshSucceeded (.ofNat 9) 2 = notice := (List.cons.inj hnotice).1
    change Refresh.status (Refresh.run _ (.ofNat 9) none LargePrice.withFailingHandler).1 = _ at hfailed
    rw [hfailed] at hstatus
    exact Notice.status?_refreshSucceeded_ne (.ofNat 9) 2 hstatus

end BundleLedger
