import BundleLedger.Proofs.Bundle.Trace
import BundleLedger.Proofs.Service.Interruption
import BundleLedger.Proofs.Service.Occasion

/-!
# Correlation ids

A refresh runs under one correlation id: the given one if it is not empty, and otherwise that of its caller
(`Occasion.id`). What it logs, the builds that it starts, its span and the envelope that it publishes bear this id, and
so do the calls that are made while its event is delivered, until a refresh among them runs under an id of its own.
However a call ends, its caller has the id that it had before. Main statement: this holds for every call, at whatever
depth it is made, and whatever strikes a refresh before its records are committed (`Occasion.keepsId`).
-/

set_option autoImplicit false

namespace BundleLedger

/-! ### What is observed under an id -/

/-- Whether everything that was logged bears a correlation id, and every span of a refresh shows it unless it is
empty. -/
structure Telemetry.Under (id : Option String) (t : Telemetry) : Prop where
  logs : ∀ entry ∈ t.logs, entry.correlation = id
  spans : ∀ span ∈ t.spans, span.scope.kind = .refresh →
    Datum.lookup span.scope.attributes "correlation_id" = (id.filter (· ≠ "")).map .text

namespace Telemetry.Under

variable {id : Option String} {t u : Telemetry}

theorem empty (id : Option String) : Under id .none :=
  ⟨List.forall_mem_nil _, List.forall_mem_nil _⟩

theorem append (ht : t.Under id) (hu : u.Under id) : (t ++ u).Under id := by
  constructor
  · intro entry hentry
    exact (List.mem_append.1 hentry).elim (ht.logs entry) (hu.logs entry)
  · intro span hspan
    exact (List.mem_append.1 hspan).elim (ht.spans span) (hu.spans span)

theorem logged (notice : Notice) (id : Option String) : Under id ⟨[⟨notice, id⟩], [], []⟩ := by
  refine ⟨fun entry hentry ↦ ?_, List.forall_mem_nil _⟩
  rw [List.mem_singleton.1 hentry]

end Telemetry.Under

namespace Attempt

variable {a : Attempt}

/-- What is observed of an attempt bears its correlation id. -/
theorem under_run (a : Attempt) : a.run.telemetry.Under a.correlation := by
  unfold run
  dsimp only
  split
  · refine ⟨List.forall_mem_nil _, fun span hspan hkind ↦ ?_⟩
    rw [List.mem_singleton.1 hspan] at hkind
    cases hkind
  · constructor
    · intro entry hentry
      obtain ⟨notice, -, rfl⟩ := List.mem_map.1 hentry
      rfl
    · intro span hspan hkind
      rcases List.mem_append.1 hspan with hbuild | hown
      · obtain ⟨completion, -, hcompletion⟩ := List.mem_filterMap.1 hbuild
        obtain ⟨run, -, rfl⟩ := Option.map_eq_some_iff.1 hcompletion
        cases hkind
      · rw [List.mem_singleton.1 hown] at hkind
        cases hkind

/-- Every build that an attempt starts sees its correlation id. -/
theorem correlation_of_mem_started {build : StartedBuild} (h : build ∈ a.run.started) :
    build.correlation = a.correlation := by
  rw [← a.runAwaiting_nil, a.started_eq] at h
  obtain ⟨bundle, -, rfl⟩ := List.mem_map.1 h
  rfl

end Attempt

namespace Refresh

variable {f : Faults} {settings : Settings} {account : Uuid} {given : Option String} {s : Service}

theorem effective_eq (given current : Option String) :
    effective given current = (given.filter (· ≠ "")).or current := by
  cases given with
  | none => rfl
  | some id =>
    by_cases h : id = ""
    · simp [effective, Option.filter, h]
    · simp [effective, Option.filter, h]

/-- What is observed at the end of a refresh bears its correlation id, which its span shows. -/
theorem under_conclusion (account : Uuid) (id : Option String) (parent : Option SpanKind)
    (outcome : Except Failure (List BundleRecord)) : (conclusion account id id parent outcome).Under id := by
  constructor
  · intro entry hentry
    obtain ⟨notice, -, rfl⟩ := List.mem_map.1 hentry
    rfl
  · intro span hspan _
    rw [List.mem_singleton.1 hspan]
    cases id with
    | none => rfl
    | some id =>
      by_cases h : id = ""
      · subst h
        rfl
      · simp [Scope.attributes, h, Datum.lookup]

theorem Attempts.correlation {a : Attempt} (h : Attempts f settings account s a) : a.correlation = s.correlation := by
  obtain ⟨transitions, schedule, -, -, rfl⟩ := h
  rfl

theorem exists_under_buildUnder (f : Faults) (settings : Settings) (account : Uuid) (s : Service) :
    ∃ u, u.Under s.correlation ∧ (buildUnder f settings account s).2 = s.observe u := by
  rcases buildUnder_cases f settings account s with
    ⟨own, -, hbuild⟩ | ⟨transitions, own, -, -, hbuild⟩ | ⟨a, ha, hbuild⟩
  · exact ⟨.none, .empty _, by rw [hbuild, s.observe_none]⟩
  · exact ⟨.none, .empty _, by rw [hbuild, s.observe_none]⟩
  · exact ⟨_, ha.correlation ▸ a.under_run, by rw [hbuild]⟩

/-- How the work of a refresh under faults goes: it fails and only observes more, or it stores records and publishes
that it did. -/
theorem workUnder_cases (f : Faults) (publish : Publisher) (settings : Settings) (account : Uuid) (s : Service) :
    ∃ u, u.Under s.correlation ∧ ((∃ failure, workUnder f publish settings account s = (.error failure, s.observe u)) ∨
      ∃ (count : ℕ) (database : Database), (workUnder f publish settings account s).2 =
        (publish (envelope account count s.correlation) (committed account count (s.observe u) database)).2) := by
  obtain ⟨u, hu, hbuilt⟩ := exists_under_buildUnder f settings account s
  refine ⟨u, hu, ?_⟩
  unfold workUnder
  rcases hbuild : buildUnder f settings account s with ⟨failure | records, built⟩
  · rw [hbuild] at hbuilt
    obtain rfl : built = s.observe u := hbuilt
    exact .inl ⟨failure, Procedure.run_bind_of_error hbuild⟩
  · rw [hbuild] at hbuilt
    obtain rfl : built = s.observe u := hbuilt
    rw [Procedure.run_bind_of_ok hbuild]
    cases hperform : Database.perform (Database.interrupted f.statement
        (Database.statements account (s.observe u).now records)) (s.observe u).database with
    | error fault =>
      have hstore : storeUnder f account records (s.observe u) =
          (.error (.refresh (unableToStore account fault)), s.observe u) := by
        simp only [storeUnder, hperform]
      exact .inl ⟨_, Procedure.run_bind_of_error hstore⟩
    | ok database =>
      have hstore : storeUnder f account records (s.observe u) = (.ok (), { s.observe u with database }) := by
        simp only [storeUnder, hperform]
      refine .inr ⟨records.length, database, ?_⟩
      rw [Procedure.run_bind_of_ok hstore, announce_eq]
      rfl

/-- What a refresh under a correlation id tells between two systems: either nothing is published, or one envelope,
which bears the id, in a system whose current id it is; whatever else is observed bears the id too. -/
inductive Tells (id : Option String) (deliver : Publisher) (s t : Service) : Prop
  | nothing (u : Telemetry) (hu : u.Under id) (hbus : t.bus = s.bus) (htelemetry : t.telemetry = s.telemetry ++ u)
  | announcement (start : Service) (envelope : Envelope) (u v : Telemetry) (hu : u.Under id) (hv : v.Under id)
      (hid : start.correlation = id ∧ (deliver envelope start).2.correlation = id)
      (hbus : start.bus = s.bus ∧ t.bus = (deliver envelope start).2.bus)
      (htelemetry : start.telemetry = s.telemetry ++ u ∧ t.telemetry = (deliver envelope start).2.telemetry ++ v)
      (htype : Datum.lookup envelope "event_type" = some (.text "analytics.bundles.refreshed"))
      (hpublished : Datum.lookup (Bus.stamped start.correlation envelope) "correlation_id" = some (.ofText? id))

theorem lookup_stamped_envelope (account : Uuid) (count : ℕ) (id : Option String) :
    Datum.lookup (Bus.stamped id (envelope account count id)) "correlation_id" = some (.ofText? id) := by
  cases id with
  | none => rfl
  | some id => rfl

/-- The deliveries of a refresh keep the correlation id, so everything that it tells bears this id. -/
theorem tells_runUnder {deliver : Publisher}
    (hdeliver : ∀ e, (deliver e).Within fun s t ↦ t.correlation = s.correlation) (f : Faults) (account : Uuid)
    (given : Option String) (s : Service) :
    Tells (effective given s.correlation) deliver s (runUnder f deliver account given s).2 := by
  unfold runUnder
  cases hsettings : s.settings with
  | error cause => exact .nothing .none (.empty _) rfl (Telemetry.append_none _).symm
  | ok settings =>
    dsimp only [enclosed]
    have hbeginning := Telemetry.Under.logged (.refreshStarted account) (effective given s.correlation)
    obtain ⟨u, hu, hwork⟩ := workUnder_cases f deliver settings account (inside account given s)
    obtain ⟨failure, hwork⟩ | ⟨count, database, hwork⟩ := hwork
    · rw [hwork, concluded_observe]
      exact .nothing _ ((hbeginning.append hu).append (under_conclusion ..)) rfl rfl
    · have hsuccess := Telemetry.Under.logged (.refreshSucceeded account count) (effective given s.correlation)
      have hbus := congrArg Service.bus hwork
      have hid : (workUnder f deliver settings account (inside account given s)).2.correlation =
          effective given s.correlation := by
        rw [hwork]
        exact hdeliver _ _
      refine .announcement (committed account count ((inside account given s).observe u) database)
        (envelope account count (effective given s.correlation)) _ _ ((hbeginning.append hu).append hsuccess)
        (under_conclusion account (effective given s.correlation) s.span
          (workUnder f deliver settings account (inside account given s)).1)
        ⟨rfl, hdeliver _ _⟩ ⟨rfl, hbus⟩ ⟨?_, ?_⟩ rfl (lookup_stamped_envelope account count _)
      · rw [← Telemetry.append_assoc, ← Telemetry.append_assoc]
        rfl
      · rw [concluded, hid]
        exact congrArg (·.telemetry ++ conclusion account (effective given s.correlation)
          (effective given s.correlation) s.span (workUnder f deliver settings account (inside account given s)).1) hwork

end Refresh

/-! ### Callers keep their ids -/

/-- A refresh ends with the correlation id of its caller, whatever strikes it and whatever its deliveries do. -/
theorem Refresh.correlation_runUnder (f : Faults) (deliver : Publisher) (account : Uuid) (given : Option String)
    (s : Service) : (runUnder f deliver account given s).2.correlation = s.correlation := by
  unfold runUnder
  cases s.settings with
  | error cause => rfl
  | ok settings => rfl

theorem Service.carries_correlation : Carries fun s t ↦ t.correlation = s.correlation where
  refl _ := rfl
  trans _ _ _ hst htu := htu.trans hst
  relayed h := by
    unfold Relays at h
    rw [h]
  logged _ _ _ := rfl
  refreshed {deliver} _ account given s := by
    rw [← Refresh.runUnder_none]
    exact Refresh.correlation_runUnder .none deliver account given s

namespace Occasion

variable {o inner : Occasion}

/-- The correlation id under which a call runs: the given one of a refresh if it is not empty, and otherwise that of
the caller. -/
def id (o : Occasion) : Option String :=
  match o.invocation with
  | .refresh _ given => (given.filter (· ≠ "")).or o.before.correlation
  | .subscribe .. | .unsubscribe .. | .publish _ => o.before.correlation

/-- Whether the refresh of a call bears an id, when faults strike it: the caller has its own id afterwards, every build
that is started on a worker sees the id, and all that is told bears it. -/
structure RefreshesUnder (id : Option String) (f : Faults) (o : Occasion) (account : Uuid) (given : Option String) :
    Prop where
  restored : (Refresh.runUnder f (Service.deliverWithin o.depth) account given o.before).2.correlation =
    o.before.correlation
  builds : ∀ settings a, o.before.settings = .ok settings →
    Refresh.Attempts f settings account (Refresh.inside account given o.before) a →
      ∀ build ∈ a.run.started, build.correlation = id
  tells : Refresh.Tells id (Service.deliverWithin o.depth) o.before
    (Refresh.runUnder f (Service.deliverWithin o.depth) account given o.before).2

/-- Whether a call keeps correlation ids apart. -/
structure KeepsId (o : Occasion) : Prop where
  /-- The caller has the id afterwards that it had before. -/
  restored : o.after.correlation = o.before.correlation
  /-- Calls that are made meanwhile find the id of this one, and leave it. -/
  handed : ∀ inner, o.Makes inner → inner.before.correlation = o.id ∧ inner.after.correlation = o.id
  /-- A refresh bears it. -/
  refreshes : ∀ account given, o.invocation = .refresh account given →
    o.after = (Refresh.runUnder .none (Service.deliverWithin o.depth) account given o.before).2 ∧
      ∀ f, o.RefreshesUnder o.id f account given

theorem restored (o : Occasion) : o.after.correlation = o.before.correlation :=
  o.conveyed Service.carries_correlation.conveys

theorem Makes.correlation_before (h : o.Makes inner) : inner.before.correlation = o.id := by
  cases h with
  | action hrun hscript hreaches hcalls =>
    exact (Makes.action hrun hscript hreaches hcalls).conveyed Service.carries_correlation.conveys ⟨_, rfl⟩
  | request hrun hsettings hrequest =>
    exact (Makes.request hrun hsettings hrequest).conveyed Service.carries_correlation.conveys ⟨_, rfl⟩
  | @announcement s built depth account given settings records database hsettings hbuild hreplaced =>
    obtain ⟨u, hbuilt, -⟩ := Refresh.exists_observe_build settings account (Refresh.inside account given s)
    rw [hbuild] at hbuilt
    obtain rfl : built = _ := hbuilt
    exact Refresh.effective_eq given s.correlation

/-- Every call leaves its caller the correlation id that it had, hands its own on to the calls that are made during it,
and bears it in all that a refresh tells, whatever strikes this refresh. -/
theorem keepsId (o : Occasion) : o.KeepsId where
  restored := o.restored
  handed inner hmakes := ⟨hmakes.correlation_before, inner.restored.trans hmakes.correlation_before⟩
  refreshes := by
    obtain ⟨s, depth, invocation⟩ := o
    rintro account given rfl
    have hid : Refresh.effective given s.correlation = id ⟨s, depth, .refresh account given⟩ :=
      Refresh.effective_eq given s.correlation
    refine ⟨?_, fun f ↦ ⟨?_, ?_, ?_⟩⟩
    · rw [Refresh.runUnder_none]
      rfl
    · exact Refresh.correlation_runUnder ..
    · intro settings a _ ha build hbuild
      rw [a.correlation_of_mem_started hbuild, ha.correlation]
      exact hid
    · rw [← hid]
      exact Refresh.tells_runUnder (Service.carries_correlation.conveys.deliverWithin depth) f account given s

end Occasion
end BundleLedger
