import BundleLedger.Proofs.Service.Completeness

/-!
# Refreshes that events ask for

The envelope of a change may ask for a refresh of the account (`RefreshRequest.of?`). However often the handlers of
the system are subscribed, at most one refresh is attempted for its event (`Publication.countP_request_le`). If no
other handler fails, then a refresh that fails by an error of its own is reported once and changes nothing that is
stored, and the publication returns (`Publication.run_of_request`).

A refresh that makes its own pool of no workers fails by no such error: the failure reaches the publisher
(`Publication.not_returns_of_lacksWorkers`). This is the only case in which a publication does not shield its
publisher (`Publication.shields_iff`).
-/

set_option autoImplicit false

namespace BundleLedger

open Result

/-! ### Refreshes without workers -/

namespace Refresh

/-- Whether a refresh makes a pool of no workers: it makes its own, once the transitions have been read. -/
structure LacksWorkers (settings : Settings) (account : Uuid) (s : Service) : Prop where
  own : s.pool.isOwn = true
  workers : settings.refreshWorkers ≤ 0
  read : ∃ transitions, (Source.fresh account settings.referenceCurrency).transitions s.database = .ok transitions

variable {deliver : Publisher} {settings : Settings} {account : Uuid} {given : Option String} {s t : Service}
  {failure : Failure}

/-- Where the database and the pool are the same, so are refreshes without workers. -/
theorem lacksWorkers_iff_of_eq (hpool : t.pool = s.pool) (hsource : t.database.source = s.database.source) :
    LacksWorkers settings account t ↔ LacksWorkers settings account s := by
  have hread : (Source.fresh account settings.referenceCurrency).transitions t.database =
      (Source.fresh account settings.referenceCurrency).transitions s.database := by
    change (Source.fresh account settings.referenceCurrency).transitions t.database.source = _
    rw [hsource]
    rfl
  constructor
  · rintro ⟨hown, hworkers, hexists⟩
    exact ⟨hpool ▸ hown, hworkers, hread ▸ hexists⟩
  · rintro ⟨hown, hworkers, hexists⟩
    exact ⟨hpool ▸ hown, hworkers, hread ▸ hexists⟩

theorem lacksWorkers_inside (given : Option String) :
    LacksWorkers settings account (inside account given s) ↔ LacksWorkers settings account s :=
  lacksWorkers_iff_of_eq rfl rfl

/-- A build fails by a failure that is no error of a refresh exactly if it lacks workers. -/
theorem exists_build_cause_iff :
    (∃ cause, (build settings account s).1 = .error (.cause cause)) ↔ LacksWorkers settings account s := by
  simp only [build_eq_error_cause_iff, Pool.schedule_eq_error_iff]
  constructor
  · rintro ⟨cause, hread, hown, hworkers, -⟩
    exact ⟨hown, hworkers, hread⟩
  · rintro ⟨hown, hworkers, hread⟩
    exact ⟨_, hread, hown, hworkers, rfl⟩

/-- A refresh that lacks workers fails by a failure that is no error of a refresh. -/
theorem run_of_lacksWorkers (deliver : Publisher) (given : Option String) (hsettings : s.settings = .ok settings)
    (h : LacksWorkers settings account s) : ∃ cause, (run deliver account given s).1 = .error (.cause cause) := by
  obtain ⟨cause, hbuild⟩ := exists_build_cause_iff.2 ((lacksWorkers_inside given).2 h)
  have hwork := work_of_build_error deliver (Prod.ext hbuild rfl)
  refine ⟨cause, ?_⟩
  rw [run_of_settings hsettings, runWith_eq, hwork]
  rfl

/-- No end of a refresh is logged as that of one that an event asked for. -/
theorem logged_conclusion_autoRefreshFailed (current correlation : Option String) (parent : Option SpanKind)
    (outcome : Except Failure (List BundleRecord)) :
    (conclusion account current correlation parent outcome).logged "bundles_auto_refresh_failed" = [] := by
  rcases outcome with (e | cause) | records
  · rfl
  · rfl
  · rfl

/-- A refresh that fails without lack of workers or of deliveries does so by an error of its own, and only more is
observed. -/
theorem run_eq_error (hsettings : s.settings = .ok settings) (hworkers : ¬LacksWorkers settings account s)
    (hdelivers : Delivers deliver settings account (inside account given s))
    (h : (run deliver account given s).1 = .error failure) :
    ∃ e u, run deliver account given s = (.error (.refresh e), s.observe u) ∧ failure = .refresh e ∧
      u.logged "bundles_auto_refresh_failed" = [] := by
  obtain ⟨u, hbuilt, -, hlogged⟩ := exists_observe_build settings account (inside account given s)
  -- Whatever the error, what is observed ends with the build.
  have hend : ∀ e, work deliver settings account (inside account given s) =
      (.error (.refresh e), (inside account given s).observe u) →
      ∃ e u, run deliver account given s = (.error (.refresh e), s.observe u) ∧ failure = .refresh e ∧
        u.logged "bundles_auto_refresh_failed" = [] := by
    intro e hwork
    have hrun : run deliver account given s = (.error (.refresh e), s.observe
        (beginning account (effective given s.correlation) ++ u ++ conclusion account
          (effective given s.correlation) (effective given s.correlation) s.span
          (.error (.refresh e) : Except Failure (List BundleRecord)))) := by
      rw [run_of_settings hsettings, runWith_eq, hwork, concluded_observe]
      rfl
    rw [hrun] at h
    refine ⟨e, _, hrun, (Except.error.inj h).symm, ?_⟩
    rw [Telemetry.logged_append, Telemetry.logged_append, hlogged _ (by decide) (by decide),
      logged_conclusion_autoRefreshFailed]
    rfl
  rcases work_cases deliver settings account (inside account given s) with
    ⟨own, built, hbuild, hwork⟩ | ⟨records, built, fault, hbuild, -, hwork⟩ |
      ⟨records, built, database, hbuild, hreplaced, hwork⟩
  · rw [hbuild] at hbuilt
    obtain rfl : built = _ := hbuilt
    cases own with
    | refresh e => exact hend e hwork
    | cause cause =>
      have hlacks := exists_build_cause_iff.1 ⟨cause, congrArg Prod.fst hbuild⟩
      exact absurd ((lacksWorkers_inside given).1 hlacks) hworkers
  · rw [hbuild] at hbuilt
    obtain rfl : built = _ := hbuilt
    exact hend _ hwork
  · obtain ⟨t, hpublished⟩ := hdelivers records built database hbuild hreplaced
    rw [run_of_settings hsettings, runWith_eq, hwork, hpublished] at h
    simp [Except.map] at h

end Refresh

/-! ### Refreshes that envelopes ask for -/

/-- A refresh that an envelope asks for: the text that names the account, the account, and the correlation id. -/
structure RefreshRequest where
  raw : String
  account : Uuid
  correlation : Option String
deriving DecidableEq, Repr

/-- The refresh that an envelope asks for, if the settings let events do so. -/
def RefreshRequest.of? (settings : Settings) (payload : Envelope) : Option RefreshRequest :=
  match settings.autoRefresh, Datum.lookup payload "account_id" with
  | true, some (.text raw) => (Uuid.ofLooseText raw).toOption.map fun account ↦
    ⟨raw, account, (Datum.lookup payload "correlation_id").bind Datum.text?⟩
  | _, _ => none

theorem RefreshRequest.of?_eq_some {settings : Settings} {payload : Envelope} {request : RefreshRequest}
    (h : of? settings payload = some request) :
    settings.autoRefresh = true ∧ Datum.lookup payload "account_id" = some (.text request.raw) ∧
      Uuid.ofLooseText request.raw = .ok request.account ∧
      (Datum.lookup payload "correlation_id").bind Datum.text? = request.correlation := by
  unfold of? at h
  split at h
  · rename_i raw hauto hraw
    obtain ⟨account, hread, rfl⟩ := Option.map_eq_some_iff.1 h
    exact ⟨hauto, hraw, toOption_eq_some_iff.1 hread, rfl⟩
  · simp at h

namespace Handler

variable {deliver : Publisher} {settings : Settings} {event : Event} {request : RefreshRequest} {s : Service}

/-- An envelope that asks for no refresh gets none. -/
theorem refreshOnChange_of_none (deliver : Publisher) (hsettings : s.settings = .ok settings)
    (h : RefreshRequest.of? settings (s.bus.payload event) = none) :
    ∃ u, refreshOnChange deliver event s = (.ok (), s.observe u) ∧
      ∀ message, message ≠ "bundles_auto_refresh_skipped" → u.logged message = [] := by
  unfold RefreshRequest.of? at h
  unfold refreshOnChange
  rw [hsettings]
  dsimp only at h ⊢
  split
  · rename_i raw hauto hraw
    rw [hauto, hraw] at h
    cases hread : Uuid.ofLooseText raw with
    | error malformed =>
      refine ⟨_, rfl, fun message hmessage ↦ ?_⟩
      simp [Telemetry.logged, Notice.message, hmessage.symm]
    | ok account => simp [hread, Except.toOption] at h
  · exact ⟨.none, by rw [s.observe_none], fun _ _ ↦ rfl⟩

theorem refreshOnChange_of_some (hsettings : s.settings = .ok settings)
    (h : RefreshRequest.of? settings (s.bus.payload event) = some request) :
    refreshOnChange deliver event s = refreshAfter deliver event request.raw request.account request.correlation s := by
  obtain ⟨hauto, hraw, hread, hcorrelation⟩ := RefreshRequest.of?_eq_some h
  unfold refreshOnChange
  simp only [hsettings, hauto, hraw, hread, hcorrelation]

end Handler

/-- The refresh that a run of a handler attempts for an event. -/
def HandlerRun.request? (settings : Settings) (event : Event) (run : HandlerRun) : Option RefreshRequest :=
  if run.handler = .refreshAccount then RefreshRequest.of? settings (run.before.bus.payload event) else none

theorem HandlerRun.handler_of_request {settings : Settings} {event : Event} {run : HandlerRun}
    {request : RefreshRequest} (h : request ∈ run.request? settings event) :
    run.handler = .refreshAccount ∧ RefreshRequest.of? settings (run.before.bus.payload event) = some request := by
  unfold request? at h
  split_ifs at h with hhandler
  · exact ⟨hhandler, h⟩
  · simp at h

/-! ### Registrations -/

namespace Service

theorem wellFormed_subscribeHandlers {bus : Bus} (h : bus.WellFormed) : (subscribeHandlers bus).WellFormed :=
  Bus.wellFormed_subscribe (Bus.wellFormed_subscribe (Bus.wellFormed_subscribe h _ _) _ _) _ _

/-- However often the handlers of the system are subscribed, none is subscribed twice. -/
theorem wellFormed_subscribeHandlers_iterate {bus : Bus} (h : bus.WellFormed) (count : ℕ) :
    (subscribeHandlers^[count] bus).WellFormed := by
  induction count generalizing bus with
  | zero => exact h
  | succ count ih => exact ih (wellFormed_subscribeHandlers h)

/-- Whether two systems have the same pool and scripts. -/
structure SameSetup (s t : Service) : Prop where
  pool : t.pool = s.pool
  scripts : t.scripts = s.scripts

theorem allows_sameSetup : Allows SameSetup where
  trans _ _ _ h h' := ⟨h'.pool.trans h.pool, h'.scripts.trans h.scripts⟩
  beside h := ⟨h.pool, h.scripts⟩
  replaced {s settings account records built database} _ hbuild _ := by
    have hbeside := Refresh.beside_build settings account s
    rw [hbuild] at hbeside
    exact ⟨hbeside.pool, hbeside.scripts⟩

end Service

/-! ### The publication of a change -/

namespace Publication

variable {p : Publication} {settings : Settings} {run : HandlerRun} {request : RefreshRequest}

/-- Whether nothing but the attempted refreshes can make a publication fail: the other handlers that run do not
fail, and the events of stored records are delivered. -/
structure Undisturbed (p : Publication) (settings : Settings) : Prop where
  others : ∀ run ∈ p.runs, run.handler ≠ .refreshAccount → run.outcome = .ok ()
  delivered : ∀ run ∈ p.runs, ∀ request ∈ run.request? settings p.event,
    Refresh.Delivers p.deliver settings request.account
      (Refresh.inside request.account request.correlation run.before)

/-- Whether the failure of an attempted refresh is reported once in its run, which leaves the database as it was;
and during the whole publication, if the other handlers are passive. -/
structure Reports (p : Publication) (run : HandlerRun) (request : RefreshRequest) (e : RefreshError) : Prop where
  logged : run.observed.logged "bundles_auto_refresh_failed" = [.autoRefreshFailed p.name request.raw e]
  unchanged : run.after.database = run.before.database
  alone : (∀ handler ∈ p.handlers, handler ≠ .refreshAccount → handler.IsPassive p.before.scripts) →
    p.observed.logged "bundles_auto_refresh_failed" = [.autoRefreshFailed p.name request.raw e] ∧
      p.after.database = p.before.database

/-- Whether a failed refresh never reaches the publisher: the publication returns, at most one refresh is attempted,
and if this one fails, it is reported and changes nothing that is stored. -/
structure Shields (p : Publication) (settings : Settings) : Prop where
  returns : p.Returns
  attempts_le : p.runs.countP (fun run ↦ (run.request? settings p.event).isSome) ≤ 1
  reported : ∀ run ∈ p.runs, ∀ request ∈ run.request? settings p.event, ∀ failure,
    (Refresh.run p.deliver request.account request.correlation run.before).1 = .error failure →
      ∃ e, failure = .refresh e ∧ p.Reports run request e

theorem settings_before (hsettings : p.before.settings = .ok settings) (hrun : run ∈ p.runs) :
    run.before.settings = .ok settings := by
  have hbefore := (carried Service.allows_evolves.carries).2 run hrun
  rw [Service.settings_eq hbefore.environment, hsettings]

theorem lacksWorkers_before (hrun : run ∈ p.runs) (account : Uuid) :
    Refresh.LacksWorkers settings account run.before ↔ Refresh.LacksWorkers settings account p.before :=
  Refresh.lacksWorkers_iff_of_eq ((carried Service.allows_sameSetup.carries).2 run hrun).pool
    ((carried Service.allows_evolves.carries).2 run hrun).source_eq

/-- The run that attempts a refresh is this refresh, but for the report of its failure. -/
theorem run_eq_of_request (hsettings : p.before.settings = .ok settings) (hrun : run ∈ p.runs)
    (hrequest : request ∈ run.request? settings p.event) :
    Handler.refreshAfter p.deliver p.event request.raw request.account request.correlation run.before =
      (run.outcome, run.after) := by
  obtain ⟨hhandler, hasked⟩ := HandlerRun.handler_of_request hrequest
  rw [← Handler.run_eq_of_mem_runs hrun, hhandler]
  exact (Handler.refreshOnChange_of_some (settings_before hsettings hrun) hasked).symm

/-- A run of the refreshing handler that attempts no refresh returns. -/
theorem outcome_of_none (hsettings : p.before.settings = .ok settings) (hrun : run ∈ p.runs)
    (hhandler : run.handler = .refreshAccount) (hrequest : run.request? settings p.event = none) :
    run.outcome = .ok () := by
  unfold HandlerRun.request? at hrequest
  rw [if_pos hhandler] at hrequest
  obtain ⟨u, hends, -⟩ := Handler.refreshOnChange_of_none p.deliver (settings_before hsettings hrun) hrequest
  have hoccurs := Handler.run_eq_of_mem_runs hrun
  rw [hhandler] at hoccurs
  exact congrArg Prod.fst (hoccurs.symm.trans hends)

/-- A refresh without workers fails the publication. -/
theorem not_returns_of_lacksWorkers (hsettings : p.before.settings = .ok settings) (hrun : run ∈ p.runs)
    (hrequest : request ∈ run.request? settings p.event)
    (hlacks : Refresh.LacksWorkers settings request.account p.before) : ¬p.Returns := by
  obtain ⟨cause, hfails⟩ := Refresh.run_of_lacksWorkers p.deliver request.correlation
    (settings_before hsettings hrun) ((lacksWorkers_before hrun request.account).2 hlacks)
  have hoccurs := run_eq_of_request hsettings hrun hrequest
  unfold Handler.refreshAfter at hoccurs
  rcases hrefresh : Refresh.run p.deliver request.account request.correlation run.before with ⟨outcome, t⟩
  obtain rfl : outcome = .error (.cause cause) := by rwa [hrefresh] at hfails
  rw [hrefresh] at hoccurs
  intro hreturns
  simp [returns_iff.1 hreturns run hrun] at hoccurs

/-- A run whose refresh has workers and whose event is delivered returns, and reports a failure. -/
theorem run_of_request (hsettings : p.before.settings = .ok settings) (hundisturbed : p.Undisturbed settings)
    (hrun : run ∈ p.runs) (hrequest : request ∈ run.request? settings p.event)
    (hworkers : ¬Refresh.LacksWorkers settings request.account p.before) :
    run.outcome = .ok () ∧ ∀ failure,
      (Refresh.run p.deliver request.account request.correlation run.before).1 = .error failure →
        ∃ e, failure = .refresh e ∧
          run.observed.logged "bundles_auto_refresh_failed" = [.autoRefreshFailed p.name request.raw e] ∧
          run.after.database = run.before.database := by
  have hoccurs := run_eq_of_request hsettings hrun hrequest
  unfold Handler.refreshAfter at hoccurs
  rcases hrefresh : Refresh.run p.deliver request.account request.correlation run.before with ⟨failure | result, t⟩
  · obtain ⟨e, u, hends, rfl, hlogged⟩ := Refresh.run_eq_error (settings_before hsettings hrun)
      (mt (lacksWorkers_before hrun request.account).1 hworkers) (hundisturbed.delivered run hrun request hrequest)
      (congrArg Prod.fst hrefresh)
    rw [hends] at hoccurs
    obtain ⟨houtcome, hafter⟩ := Prod.mk.inj hoccurs
    refine ⟨houtcome.symm, fun failure hfailure ↦ ⟨e, (Except.error.inj hfailure).symm, ?_, ?_⟩⟩
    · have hobserved : run.observed = u ++ ⟨[⟨.autoRefreshFailed p.name request.raw e, run.before.correlation⟩],
          [], []⟩ := by
        unfold HandlerRun.observed
        rw [← hafter]
        exact (congrArg (Telemetry.since · run.before.telemetry) (Telemetry.append_assoc ..)).trans
          (Telemetry.since_append ..)
      rw [hobserved, Telemetry.logged_append, hlogged]
      rfl
    · rw [← hafter]
      rfl
  · rw [hrefresh] at hoccurs
    exact ⟨(Prod.mk.inj hoccurs).1.symm, fun failure hfailure ↦ by simp at hfailure⟩

/-- A run of a passive handler reports nothing and changes nothing that is stored. -/
theorem unreported_of_passive (hrun : run ∈ p.runs) (hpassive : run.handler.IsPassive p.before.scripts) :
    run.observed.logged "bundles_auto_refresh_failed" = [] ∧ run.after.database = run.before.database := by
  have hscripts := ((carried Service.allows_sameSetup.carries).2 run hrun).scripts
  obtain ⟨hquiet, -⟩ := Handler.run_of_passive p.deliver p.event (hscripts ▸ hpassive)
    (Service.StaysQuiet.refl run.before)
  rw [Handler.run_eq_of_mem_runs hrun] at hquiet
  obtain ⟨u, htelemetry, hlogged⟩ := hquiet.exists_quiet
  refine ⟨?_, hquiet.beside.database⟩
  rw [HandlerRun.observed, htelemetry, Telemetry.since_append]
  exact hlogged _ (by decide)

/-- What is reported in the one run that attempts a refresh is reported by the publication, if the other handlers
are passive. -/
theorem alone_of_passive (hbus : p.before.bus.WellFormed) (hrun : run ∈ p.runs)
    (hhandler : run.handler = .refreshAccount) (hunchanged : run.after.database = run.before.database)
    (hpassive : ∀ handler ∈ p.handlers, handler ≠ .refreshAccount → handler.IsPassive p.before.scripts) :
    p.observed.logged "bundles_auto_refresh_failed" = run.observed.logged "bundles_auto_refresh_failed" ∧
      p.after.database = p.before.database := by
  have hnodup := nodup_runs hbus
  have hothers : ∀ other ∈ p.runs, other.handler ≠ .refreshAccount →
      other.observed.logged "bundles_auto_refresh_failed" = [] ∧ other.after.database = other.before.database := by
    intro other hother hne
    have hmem := (Handler.map_handler_runs p.deliver p.event p.handlers p.kept).subset (List.mem_map_of_mem hother)
    exact unreported_of_passive hother (hpassive other.handler hmem hne)
  constructor
  · rw [logged_observed]
    exact flatMap_eq_of_nodup hnodup hrun fun other hother hne ↦ (hothers other hother (hhandler ▸ hne)).1
  · refine (related (R := fun s t ↦ t.database = s.database) (fun _ ↦ rfl) (fun _ _ _ h h' ↦ h'.trans h) rfl
      fun other hother ↦ ?_).1
    by_cases hne : other.handler = .refreshAccount
    · obtain rfl := List.inj_on_of_nodup_map hnodup hother hrun (hne.trans hhandler.symm)
      exact hunchanged
    · exact (hothers other hother hne).2

/-- At most one refresh is attempted for an event. -/
theorem countP_request_le (hbus : p.before.bus.WellFormed) :
    p.runs.countP (fun run ↦ (run.request? settings p.event).isSome) ≤ 1 := by
  have hcount := List.nodup_iff_count_le_one.1 (nodup_runs hbus) .refreshAccount
  rw [List.count, List.countP_map] at hcount
  refine le_trans (List.countP_mono_left fun run _ hrequest ↦ ?_) hcount
  obtain ⟨request, hrequest⟩ := Option.isSome_iff_exists.1 hrequest
  exact beq_iff_eq.2 (HandlerRun.handler_of_request hrequest).1

/-- A publication shields the publisher from failed refreshes exactly when no refresh that is attempted for its event
lacks workers. -/
theorem shields_iff (p : Publication) (settings : Settings) (count : ℕ) (bus : Bus) (hbus : bus.WellFormed)
    (hregistered : p.before.bus = Service.subscribeHandlers^[count] bus)
    (hsettings : p.before.settings = .ok settings) (hundisturbed : p.Undisturbed settings) :
    p.Shields settings ↔ ∀ run ∈ p.runs, ∀ request ∈ run.request? settings p.event,
      ¬Refresh.LacksWorkers settings request.account p.before := by
  have hwellFormed : p.before.bus.WellFormed :=
    hregistered ▸ Service.wellFormed_subscribeHandlers_iterate hbus count
  constructor
  · intro h run hrun request hrequest hlacks
    exact not_returns_of_lacksWorkers hsettings hrun hrequest hlacks h.returns
  · intro hworkers
    refine ⟨returns_iff.2 fun run hrun ↦ ?_, countP_request_le hwellFormed,
      fun run hrun request hrequest failure hfailure ↦ ?_⟩
    · by_cases hhandler : run.handler = .refreshAccount
      · cases hrequest : run.request? settings p.event with
        | some request => exact (run_of_request hsettings hundisturbed hrun hrequest
            (hworkers run hrun request hrequest)).1
        | none => exact outcome_of_none hsettings hrun hhandler hrequest
      · exact hundisturbed.others run hrun hhandler
    · obtain ⟨e, rfl, hlogged, hunchanged⟩ := (run_of_request hsettings hundisturbed hrun hrequest
        (hworkers run hrun request hrequest)).2 failure hfailure
      refine ⟨e, rfl, hlogged, hunchanged, fun hpassive ↦ ?_⟩
      rw [← hlogged]
      exact alone_of_passive hwellFormed hrun (HandlerRun.handler_of_request hrequest).1 hunchanged hpassive

end Publication

/-! ### A change of an account, with workers and without -/

namespace LargePrice

/-- An envelope that tells of a change of an account. -/
def change (number : ℕ) : Envelope :=
  [("event_type", .text "subscription.changed"), ("account_id", .text (Uuid.ofNat number).text)]

/-- The system with some workers, in which events ask for refreshes. The handlers of the system were subscribed twice,
and refreshes make their own pools. -/
def listening (workers : String) : Service :=
  { service with
    environment := [("ANALYTICS_REFRESH_WORKERS", workers), ("ANALYTICS_AUTO_REFRESH_ON_EVENTS", "true")]
    bus := Service.subscribeHandlers^[2] Bus.empty, pool := .own [] }

/-- A change of an account is published. -/
def publication (workers : String) (number : ℕ) : Publication :=
  ⟨listening workers, change number, "subscription.changed", rfl⟩

/-- The one handler that is subscribed to the change. -/
theorem mem_runs_publication {workers : String} {number : ℕ} {run : HandlerRun} :
    run ∈ (publication workers number).runs ↔ run =
      ⟨.refreshAccount, (publication workers number).kept,
        (Handler.refreshOnChange (publication workers number).deliver (publication workers number).event
          (publication workers number).kept).1,
        (Handler.refreshOnChange (publication workers number).deliver (publication workers number).event
          (publication workers number).kept).2⟩ := by
  have hhandlers : (publication workers number).handlers = [.refreshAccount] := by
    change Bus.handlersOf (Service.subscribeHandlers^[2] Bus.empty) "subscription.changed" = _
    decide
  unfold Publication.runs
  rw [hhandlers, Handler.runs_singleton]
  exact List.mem_singleton

/-- If no records can be built for the account, then nothing disturbs the publication. -/
theorem undisturbed_publication {workers : String} {number : ℕ} {settings : Settings} {request : RefreshRequest}
    (hrequest : RefreshRequest.of? settings
      ((publication workers number).kept.bus.payload (publication workers number).event) = some request)
    (hbuild : (Refresh.build settings request.account (Refresh.inside request.account request.correlation
      (publication workers number).kept)).1.toOption = none) :
    (publication workers number).Undisturbed settings := by
  constructor
  · intro run hrun hne
    rw [mem_runs_publication.1 hrun] at hne
    exact absurd rfl hne
  · intro run hrun other hother records built database hrecords
    obtain rfl := mem_runs_publication.1 hrun
    obtain rfl : request = other := Option.some.inj (hrequest.symm.trans hother)
    rw [hrecords] at hbuild
    simp [Except.toOption] at hbuild

theorem request_publication (workers : String) {number : ℕ} {settings : Settings}
    (hauto : settings.autoRefresh = true) (hread : Uuid.ofLooseText (Uuid.ofNat number).text = .ok (.ofNat number)) :
    RefreshRequest.of? settings
      ((publication workers number).kept.bus.payload (publication workers number).event) =
        some ⟨(Uuid.ofNat number).text, .ofNat number, none⟩ := by
  have haccount : Datum.lookup ((publication workers number).kept.bus.payload (publication workers number).event)
      "account_id" = some (.text (Uuid.ofNat number).text) := rfl
  have hcorrelation : Datum.lookup ((publication workers number).kept.bus.payload
      (publication workers number).event) "correlation_id" = some .null := rfl
  unfold RefreshRequest.of?
  rw [hauto, haccount, hcorrelation]
  simp only [hread]
  rfl

/-- An account that does not exist has no records. -/
theorem build_publication {settings : Settings} (hsettings : (listening "2").settings = .ok settings) :
    ((Refresh.build settings (.ofNat 8) (Refresh.inside (.ofNat 8) none (publication "2" 8).kept)).1.toOption) =
      none := by
  obtain rfl := Except.ok.inj hsettings
  unfold Refresh.build Source.transitions Database.transitionsOf Source.context Source.latestBundle
    Database.latestBundle? Database.bundlesOf Database.bundleRowsOf Database.bundleOf Source.creationAudit
    Source.creationsOr Database.creationsOf
  simp only [Sorting.mergeSort_eq_insertionSort happensBefore_iff, Database.inOrder_eq_insertionSort]
  decide +kernel

/-- A refresh of the account is attempted. -/
theorem exists_run {workers : String} {number : ℕ} {settings : Settings} {request : RefreshRequest}
    (hrequest : RefreshRequest.of? settings
      ((publication workers number).kept.bus.payload (publication workers number).event) = some request) :
    ∃ run ∈ (publication workers number).runs,
      request ∈ run.request? settings (publication workers number).event := by
  refine ⟨_, mem_runs_publication.2 rfl, ?_⟩
  rw [HandlerRun.request?, if_pos rfl]
  exact hrequest

theorem exists_settings_two :
    ∃ settings, (listening "2").settings = .ok settings ∧ settings.autoRefresh = true ∧ 0 < settings.refreshWorkers :=
  ⟨_, rfl, rfl, by decide⟩

theorem exists_settings_zero :
    ∃ settings, (listening "0").settings = .ok settings ∧ settings.autoRefresh = true ∧ settings.refreshWorkers ≤ 0 :=
  ⟨_, rfl, rfl, by decide⟩

end LargePrice

namespace Publication

/-- The failure of the refresh of an account that does not exist is reported and goes no further. -/
theorem shields_sample :
    ∃ settings, (LargePrice.listening "2").settings = .ok settings ∧
      (LargePrice.publication "2" 8).Undisturbed settings ∧
      (∃ run ∈ (LargePrice.publication "2" 8).runs, ∃ request,
        request ∈ run.request? settings (LargePrice.publication "2" 8).event) ∧
      (LargePrice.publication "2" 8).Shields settings := by
  obtain ⟨settings, hsettings, hauto, hworkers⟩ := LargePrice.exists_settings_two
  have hread : Uuid.ofLooseText (Uuid.ofNat 8).text = .ok (.ofNat 8) := by decide +kernel
  have hrequest := LargePrice.request_publication "2" hauto hread
  have hundisturbed := LargePrice.undisturbed_publication hrequest (LargePrice.build_publication hsettings)
  obtain ⟨run, hrun, hasked⟩ := LargePrice.exists_run hrequest
  have hlacks : ∀ account, ¬Refresh.LacksWorkers settings account (LargePrice.publication "2" 8).before :=
    fun _ h ↦ absurd hworkers (Int.not_lt.2 h.workers)
  exact ⟨settings, hsettings, hundisturbed, ⟨run, hrun, _, hasked⟩,
    (shields_iff (LargePrice.publication "2" 8) settings 2 .empty Bus.wellFormed_empty rfl hsettings hundisturbed).2
      fun _ _ request _ ↦ hlacks request.account⟩

/-- Without workers the failure of the refresh reaches the publisher. -/
theorem not_shields_sample :
    ∃ settings, (LargePrice.listening "0").settings = .ok settings ∧
      (LargePrice.publication "0" 9).name ∈ Service.changeEvents ∧
      (LargePrice.publication "0" 9).Undisturbed settings ∧
      ¬(LargePrice.publication "0" 9).Shields settings := by
  obtain ⟨settings, hsettings, hauto, hworkers⟩ := LargePrice.exists_settings_zero
  have hread : Uuid.ofLooseText (Uuid.ofNat 9).text = .ok (.ofNat 9) := by decide +kernel
  have hrequest := LargePrice.request_publication "0" hauto hread
  obtain ⟨run, hrun, hasked⟩ := LargePrice.exists_run hrequest
  have hlacks : Refresh.LacksWorkers settings (.ofNat 9) (LargePrice.publication "0" 9).before :=
    ⟨rfl, hworkers, LargePrice.sound_database.exists_transitions _⟩
  have hkept : Refresh.LacksWorkers settings (.ofNat 9) (LargePrice.publication "0" 9).kept :=
    ⟨hlacks.own, hlacks.workers, hlacks.read⟩
  obtain ⟨cause, hbuild⟩ := Refresh.exists_build_cause_iff.2 ((Refresh.lacksWorkers_inside none).2 hkept)
  have hunbuilt : (Refresh.build settings (.ofNat 9) (Refresh.inside (.ofNat 9) none
      (LargePrice.publication "0" 9).kept)).1.toOption = none := by
    rw [hbuild]
    rfl
  have hundisturbed := LargePrice.undisturbed_publication hrequest hunbuilt
  refine ⟨settings, hsettings, List.mem_cons_self, hundisturbed, fun h ↦ ?_⟩
  exact not_returns_of_lacksWorkers (p := LargePrice.publication "0" 9) hsettings hrun hasked hlacks h.returns

end Publication
end BundleLedger
