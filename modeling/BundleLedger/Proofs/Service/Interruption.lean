import BundleLedger.Proofs.Bundle.Lookup
import BundleLedger.Proofs.Bundle.Outcome
import BundleLedger.Proofs.Service.Materialization
import BundleLedger.Proofs.Store.Transaction

/-!
# A refresh that is interrupted

A refresh can fail at many points before its records are committed: while the transitions are read, when the pool
is made, at any lookup, at the submission of a build, in a build, by a pool that stalls, and at each statement of
the transaction. Failures come from the database as it is, and others may strike at any of these points
(`Faults`); without any, the refresh is the plain one (`Refresh.runUnder_none`). `Refresh.Fails` lists the points
with what they fail by.

A refresh commits exactly when no point fails (`Refresh.commits_iff`). If one fails, the refresh fails by one of
them, and nothing is changed but what has been observed (`Refresh.undone_of_fails`).
-/

set_option autoImplicit false

namespace BundleLedger

open Result
open Database (interrupted perform statements)

/-! ### Failures that strike -/

/-- Whether a failure comes from a statement or from rows that do not fit their schema. -/
def Cause.isOfRows : Cause → Bool
  | .database _ | .invalid .. => true
  | .fault .. | .arithmetic _ => false

/-- The failure of a source when something strikes while it loads: what comes from the rows becomes the cause of
an error of the refresh, anything else passes. -/
def Source.failing (source : Source) (what : Load) (cause : Cause) : Failure :=
  if cause.isOfRows then
    .refresh (RefreshError.raised
      { reason := .unableToLoad what, cause := some cause, account := some source.account })
  else .cause cause

/-- An answer, unless something strikes while it is loaded. -/
def Source.answerUnder {α : Type} (source : Source) (strike : Option (Load × Cause)) (answer : Except Failure α) :
    Except Failure α :=
  match strike with
  | some (what, cause) => .error (source.failing what cause)
  | none => answer

/-- The answers of a context, unless something strikes while they are loaded. -/
def Source.contextUnder (source : Source) (strike : Lookup → Option (Load × Cause)) (ctx : Context) : Context where
  account := source.answerUnder (strike .account) ctx.account
  accountRecordId := source.answerUnder (strike .accountRecordId) ctx.accountRecordId
  tenantRecordId := source.answerUnder (strike .tenantRecordId) ctx.tenantRecordId
  reportGroup := source.answerUnder (strike .reportGroup) ctx.reportGroup
  converter := source.answerUnder (strike .converter) ctx.converter
  bundles := source.answerUnder (strike .bundles) ctx.bundles
  bundleRecordId id := source.answerUnder (strike (.bundleRecordId id)) (ctx.bundleRecordId id)
  latestForExternalKey key := source.answerUnder (strike (.latestForExternalKey key)) (ctx.latestForExternalKey key)
  creationAudit id := source.answerUnder (strike (.creationAudit id)) (ctx.creationAudit id)

/-- What strikes a refresh, by the point: while the transitions are read, during a lookup while something is
loaded for it, in the build of a bundle, and at the statements of the transaction by their places. -/
structure Faults where
  transitions : Option Cause
  lookup : Lookup → Option (Load × Cause)
  build : Uuid → Option Failure
  statement : ℕ → Option DatabaseFault

namespace Faults

/-- Nothing strikes. -/
def none : Faults :=
  ⟨.none, fun _ ↦ .none, fun _ ↦ .none, fun _ ↦ .none⟩

/-- The transitions of an account, unless something strikes. -/
def transitionsOf (f : Faults) (settings : Settings) (account : Uuid) (db : Database) :
    Except Failure (List Transition) :=
  let source := Source.fresh account settings.referenceCurrency
  source.answerUnder (f.transitions.map (.transitions, ·)) (Source.answer (source.transitions db))

/-- The attempt to build the records of an account under faults. -/
def attempt (f : Faults) (settings : Settings) (account : Uuid) (s : Service) (transitions : List Transition)
    (schedule : Schedule) : Attempt :=
  let source := Source.fresh account settings.referenceCurrency
  { context := source.contextUnder f.lookup (source.context s.database), stream := .ofList transitions
    obstacle := f.build, schedule, correlation := s.correlation, parent := s.span }

end Faults

/-! ### The refresh under faults -/

namespace Refresh

/-- The records of an account, built under faults. -/
def buildUnder (f : Faults) (settings : Settings) (account : Uuid) : Procedure (List BundleRecord) := fun s ↦
  match f.transitionsOf settings account s.database, s.pool.schedule settings.refreshWorkers with
  | .error failure, _ => (.error failure, s)
  | .ok _, .error cause => (.error (.cause cause), s)
  | .ok transitions, .ok schedule =>
    let aggregation := (f.attempt settings account s transitions schedule).run
    (aggregation.result.mapError .refresh, s.observe aggregation.telemetry)

/-- The stored records of an account replaced by a transaction under faults. One that fails is rolled back. -/
def storeUnder (f : Faults) (account : Uuid) (records : List BundleRecord) : Procedure Unit := fun s ↦
  match perform (interrupted f.statement (statements account s.now records)) s.database with
  | .ok database => (.ok (), { s with database })
  | .error fault => (.error (.refresh (unableToStore account fault)), s)

/-- The work of a refresh under faults. -/
def workUnder (f : Faults) (publish : Publisher) (settings : Settings) (account : Uuid) :
    Procedure (List BundleRecord) :=
  Procedure.bind (buildUnder f settings account) fun records ↦
    Procedure.bind (storeUnder f account records) fun _ ↦ announce publish account records

/-- The refresh of an account that does some work. -/
def enclosed (work : Procedure (List BundleRecord)) (account : Uuid) (given : Option String) :
    Procedure RefreshResult := fun s ↦
  ((work (inside account given s)).1.map fun records ↦ ⟨account, byRank records⟩,
    concluded account given s (work (inside account given s)).1 (work (inside account given s)).2)

/-- A refresh of the records of an account under faults. -/
def runUnder (f : Faults) (publish : Publisher) (account : Uuid) (given : Option String) :
    Procedure RefreshResult := fun s ↦
  match s.settings with
  | .error cause => (.error (.cause cause), s)
  | .ok settings => enclosed (workUnder f publish settings account) account given s

theorem buildUnder_none (settings : Settings) (account : Uuid) :
    buildUnder .none settings account = build settings account := by
  funext s
  unfold buildUnder build
  dsimp only
  have hread : Faults.none.transitionsOf settings account s.database =
      Source.answer ((Source.fresh account settings.referenceCurrency).transitions s.database) := rfl
  rw [hread]
  cases (Source.fresh account settings.referenceCurrency).transitions s.database with
  | error e => rfl
  | ok transitions => cases s.pool.schedule settings.refreshWorkers <;> rfl

theorem storeUnder_none (account : Uuid) (records : List BundleRecord) :
    storeUnder .none account records = store account records := by
  funext s
  have hperform : perform (interrupted Faults.none.statement (statements account s.now records)) s.database =
      s.database.replaceRecords account s.now records := by
    rw [show Faults.none.statement = fun _ ↦ none from rfl, Database.interrupted_none,
      Database.perform_statements]
  cases hreplaced : s.database.replaceRecords account s.now records with
  | error fault => simp only [storeUnder, store, hperform, hreplaced]
  | ok database => simp only [storeUnder, store, hperform, hreplaced]

theorem workUnder_none (publish : Publisher) (settings : Settings) (account : Uuid) :
    workUnder .none publish settings account = work publish settings account := by
  unfold workUnder
  simp only [buildUnder_none, storeUnder_none]
  exact (work_eq publish settings account).symm

/-- Without faults the refresh is the plain one. -/
theorem runUnder_none (publish : Publisher) (account : Uuid) (given : Option String) :
    runUnder .none publish account given = run publish account given := by
  funext s
  unfold runUnder run
  cases s.settings with
  | error cause => rfl
  | ok settings =>
    dsimp only
    rw [workUnder_none]
    rfl

/-! ### Points that fail -/

/-- Whether an attempt is the one that a refresh under faults makes. -/
def Attempts (f : Faults) (settings : Settings) (account : Uuid) (s : Service) (a : Attempt) : Prop :=
  ∃ transitions schedule, f.transitionsOf settings account s.database = .ok transitions ∧
    s.pool.schedule settings.refreshWorkers = .ok schedule ∧
    a = f.attempt settings account s transitions schedule

/-- Whether some point of a refresh fails before its records are committed, and by which cause. An error of the
refresh itself, such as that of an unknown account, may have no cause. -/
inductive Fails (f : Faults) (settings : Settings) (account : Uuid) (s : Service) : Option Cause → Prop where
  /-- The transitions cannot be read. -/
  | transitions {failure : Failure} (h : f.transitionsOf settings account s.database = .error failure) :
    Fails f settings account s failure.cause?
  /-- The pool cannot be made. -/
  | pool {cause : Cause} (hread : ∃ transitions, f.transitionsOf settings account s.database = .ok transitions)
      (h : s.pool.schedule settings.refreshWorkers = .error cause) :
    Fails f settings account s (some cause)
  /-- A lookup fails that is made before the first build. -/
  | lookup {a : Attempt} {call : Call} {failure : Failure} (ha : Attempts f settings account s a)
      (hcall : call ∈ (Prefetch.run a.context a.stream).calls)
      (h : a.context.failure? call.lookup = some failure) :
    Fails f settings account s failure.cause?
  /-- A submission is rejected. -/
  | rejection {a : Attempt} {p : Prefetched} {work : List WorkItem} (ha : Attempts f settings account s a)
      (hread : (Prefetch.run a.context a.stream).outcome = .ok (p, work))
      (h : a.schedule.accepted work.length < work.length) :
    Fails f settings account s (some .closedPool)
  /-- The pool stalls. -/
  | stall {a : Attempt} {p : Prefetched} {work : List WorkItem} (ha : Attempts f settings account s a)
      (hread : (Prefetch.run a.context a.stream).outcome = .ok (p, work))
      (h : a.schedule.stalls work.length = true) :
    Fails f settings account s (some .expiredWait)
  /-- A build is cancelled, or fails. -/
  | build {a : Attempt} {p : Prefetched} {work : List WorkItem} {index : ℕ} {item : WorkItem}
      {failure : Failure} (ha : Attempts f settings account s a)
      (hread : (Prefetch.run a.context a.stream).outcome = .ok (p, work)) (hitem : work[index]? = some item)
      (h : a.failureOf p index item = some failure) :
    Fails f settings account s failure.cause?
  /-- The database refuses the deletion, an insertion or the commit. -/
  | statement {records : List BundleRecord} {built : Service} {place : ℕ} {fault : DatabaseFault}
      (hbuild : buildUnder f settings account s = (.ok records, built)) (hplace : place ≤ records.length + 1)
      (h : f.statement place = some fault) :
    Fails f settings account s (some (.database fault))
  /-- The records do not fit the table, or there is none. -/
  | rows {records : List BundleRecord} {built : Service} {fault : DatabaseFault}
      (hbuild : buildUnder f settings account s = (.ok records, built))
      (h : built.database.replaceRecords account built.now records = .error fault) :
    Fails f settings account s (some (.database fault))

end Refresh

/-- Whether a failure is what a cause surfaces as: it has the cause, and if that comes from the rows, then the
failure is an error of the refresh. -/
structure Failure.Surfaces (failure : Failure) (cause : Option Cause) : Prop where
  cause_eq : failure.cause? = cause
  wrapped : ∀ c ∈ cause, c.isOfRows = true → ∃ e, failure = .refresh e

namespace Failure

theorem surfaces_refresh (e : RefreshError) : (Failure.refresh e).Surfaces e.cause :=
  ⟨rfl, fun _ _ _ ↦ ⟨e, rfl⟩⟩

theorem cause?_wrap {error : Cause → RefreshError} (herror : ∀ cause, (error cause).cause = some cause)
    (failure : Failure) : (failure.wrap error).cause = failure.cause? := by
  cases failure with
  | refresh e => rfl
  | cause c => exact herror c

end Failure

theorem Attempt.cause_prefetchError (failure : Failure) : (prefetchError failure).cause = failure.cause? :=
  Failure.cause?_wrap (fun _ ↦ rfl) failure

/-- What a source fails with has what struck as its cause. -/
theorem Source.surfaces_failing (source : Source) (what : Load) (cause : Cause) :
    (source.failing what cause).Surfaces (some cause) := by
  unfold failing
  split_ifs with h
  · exact Failure.surfaces_refresh _
  · refine ⟨rfl, fun c hc hrows ↦ absurd hrows ?_⟩
    obtain rfl := Option.some.inj hc
    exact h

/-- A lookup that something strikes fails, whatever its answer would be. -/
theorem Source.failure?_contextUnder {source : Source} {strike : Lookup → Option (Load × Cause)} {ctx : Context}
    {lookup : Lookup} {what : Load} {cause : Cause} (h : strike lookup = some (what, cause)) :
    (source.contextUnder strike ctx).failure? lookup = some (source.failing what cause) := by
  cases lookup <;> simp only [Context.failure?, contextUnder, h, answerUnder, error?]

namespace Refresh

variable {f : Faults} {publish : Publisher} {settings : Settings} {account : Uuid} {given : Option String}
  {s built : Service} {failure : Failure} {cause : Option Cause} {records : List BundleRecord}

theorem surfaces_transitionsOf (h : f.transitionsOf settings account s.database = .error failure) :
    failure.Surfaces failure.cause? := by
  unfold Faults.transitionsOf Source.answerUnder at h
  cases hstrike : f.transitions with
  | some c =>
    obtain rfl : (Source.fresh account settings.referenceCurrency).failing .transitions c = failure := by
      simpa [hstrike] using h
    have hsurfaces := Source.surfaces_failing (Source.fresh account settings.referenceCurrency) .transitions c
    rwa [hsurfaces.cause_eq]
  | none =>
    rw [hstrike] at h
    obtain ⟨e, -, rfl⟩ := mapError_eq_error_iff.1 h
    exact Failure.surfaces_refresh e

theorem Attempts.unique {a a' : Attempt} (h : Attempts f settings account s a)
    (h' : Attempts f settings account s a') : a = a' := by
  obtain ⟨transitions, schedule, hread, hschedule, rfl⟩ := h
  obtain ⟨transitions', schedule', hread', hschedule', rfl⟩ := h'
  obtain rfl := Except.ok.inj (hread.symm.trans hread')
  obtain rfl := Except.ok.inj (hschedule.symm.trans hschedule')
  rfl

theorem Attempts.unique_read {a a' : Attempt} {p p' : Prefetched} {work work' : List WorkItem}
    (h : Attempts f settings account s a) (hread : (Prefetch.run a.context a.stream).outcome = .ok (p, work))
    (h' : Attempts f settings account s a')
    (hread' : (Prefetch.run a'.context a'.stream).outcome = .ok (p', work')) :
    a = a' ∧ p = p' ∧ work = work' := by
  obtain rfl := h.unique h'
  obtain ⟨rfl, rfl⟩ := Prod.mk.inj (Except.ok.inj (hread.symm.trans hread'))
  exact ⟨rfl, rfl, rfl⟩

theorem Attempts.stream_failure {a : Attempt} (h : Attempts f settings account s a) : a.stream.failure = none := by
  obtain ⟨transitions, schedule, -, -, rfl⟩ := h
  rfl

/-! ### Lookups that fail a refresh -/

namespace Fails

variable {a : Attempt} {p : Prefetched} {work : List WorkItem} {call : Call}

/-- What strikes a lookup that is made fails the refresh. -/
theorem struck (ha : Attempts f settings account s a) (hcall : call ∈ (Prefetch.run a.context a.stream).calls)
    {what : Load} {c : Cause} (h : f.lookup call.lookup = some (what, c)) :
    Fails f settings account s (some c) := by
  have hcontext : a.context.failure? call.lookup =
      some ((Source.fresh account settings.referenceCurrency).failing what c) := by
    obtain ⟨transitions, schedule, -, -, rfl⟩ := ha
    exact Source.failure?_contextUnder h
  have hfails := lookup ha hcall hcontext
  rwa [((Source.fresh account settings.referenceCurrency).surfaces_failing what c).cause_eq] at hfails

/-- A lookup that fails on a worker fails the build that makes it. -/
theorem worker (ha : Attempts f settings account s a)
    (hread : (Prefetch.run a.context a.stream).outcome = .ok (p, work)) {index : ℕ} {item : WorkItem}
    (hitem : work[index]? = some item) (huncancelled : a.schedule.isCancelled index = false)
    (hcall : call ∈ (a.build p item).calls) (h : a.context.failure? call.lookup = some failure) :
    Fails f settings account s failure.cause? := by
  have hbuild : ∃ b, (a.build p item).outcome = .error (Build.lookupFailure p.account.id b failure) := by
    unfold Attempt.build at hcall ⊢
    split at hcall
    · exact absurd hcall List.not_mem_nil
    · obtain ⟨b, -, houtcome⟩ := Build.exists_run_eq_error hcall h
      exact ⟨b.id, houtcome⟩
  obtain ⟨b, houtcome⟩ := hbuild
  have hfailure : a.failureOf p index item = some (Build.lookupFailure p.account.id b failure) := by
    unfold Attempt.failureOf
    simp [huncancelled, houtcome]
  have hcause : (Build.lookupFailure p.account.id b failure).cause? = failure.cause? :=
    Failure.cause?_wrap (fun _ ↦ rfl) failure
  rw [← hcause]
  exact build ha hread hitem hfailure

/-- An account that does not exist fails the refresh by an error without a cause. -/
theorem unknown (ha : Attempts f settings account s a) (hstrike : f.lookup .account = none)
    (h : s.database.accountRow? account = .ok none) : Fails f settings account s none := by
  have hcontext : a.context.failure? .account = some (.refresh (.accountNotFound account)) := by
    obtain ⟨transitions, schedule, -, -, rfl⟩ := ha
    have hfacts : (Source.fresh account settings.referenceCurrency).factsOr s.database =
        .error (.accountNotFound account) := by
      change (Source.fresh account settings.referenceCurrency).loadFacts s.database = _
      unfold Source.loadFacts
      rw [show (Source.fresh account settings.referenceCurrency).account = account from rfl, h]
      rfl
    simp only [Faults.attempt, Source.contextUnder, Source.context, Context.failure?, hstrike, hfacts]
    rfl
  have hcall : ⟨.account, .caller⟩ ∈ (Prefetch.run a.context a.stream).calls :=
    Run.mem_calls_bind (Run.mem_calls_bind List.mem_cons_self)
  exact lookup ha hcall hcontext

end Fails

/-! ### Errors of points that fail -/

/-- How the building under faults goes: the transitions or the pool fail it, or it is that of its attempt. -/
theorem buildUnder_cases (f : Faults) (settings : Settings) (account : Uuid) (s : Service) :
    (∃ failure, f.transitionsOf settings account s.database = .error failure ∧
      buildUnder f settings account s = (.error failure, s)) ∨
    (∃ transitions cause, f.transitionsOf settings account s.database = .ok transitions ∧
      s.pool.schedule settings.refreshWorkers = .error cause ∧
      buildUnder f settings account s = (.error (.cause cause), s)) ∨
    ∃ a, Attempts f settings account s a ∧
      buildUnder f settings account s = (a.run.result.mapError .refresh, s.observe a.run.telemetry) := by
  unfold buildUnder
  cases hread : f.transitionsOf settings account s.database with
  | error failure => exact .inl ⟨failure, rfl, rfl⟩
  | ok transitions =>
    right
    cases hschedule : s.pool.schedule settings.refreshWorkers with
    | error cause => exact .inl ⟨transitions, cause, rfl, rfl, rfl⟩
    | ok schedule => exact .inr ⟨_, ⟨transitions, schedule, hread, hschedule, rfl⟩, rfl⟩

/-- An attempt that ends with an error does so by a point that failed. -/
theorem fails_of_attempt {a : Attempt} {e : RefreshError} (ha : Attempts f settings account s a)
    (h : a.run.result = .error e) : Fails f settings account s e.cause := by
  rcases hread : (Prefetch.run a.context a.stream).outcome with failure | ⟨p, work⟩
  · obtain ⟨call, hcall, hfailure⟩ := (Prefetch.run_eq_error_iff ha.stream_failure).1 hread
    rw [Attempt.result_run_of_error hread, Except.error.injEq] at h
    rw [← h, Attempt.cause_prefetchError]
    exact .lookup ha hcall hfailure
  · rw [Attempt.result_run_of_ok hread] at h
    cases Attempt.blames_of_runBuilds h with
    | refusal item hitem hcause =>
      rw [hcause]
      exact .rejection ha hread (List.getElem?_eq_some_iff.1 hitem).1
    | stall haccepted hstalls herror =>
      rw [herror]
      exact .stall ha hread hstalls
    | build index item failure haccepted hindex hitem hfailure hcause =>
      rw [hcause]
      exact .build ha hread hitem hfailure

theorem fails_of_buildUnder (h : (buildUnder f settings account s).1 = .error failure) :
    ∃ cause, Fails f settings account s cause ∧ failure.Surfaces cause := by
  rcases buildUnder_cases f settings account s with
    ⟨own, hread, hbuild⟩ | ⟨transitions, cause, hread, hschedule, hbuild⟩ | ⟨a, ha, hbuild⟩
  · obtain rfl : own = failure := by simpa [hbuild] using h
    exact ⟨_, .transitions hread, surfaces_transitionsOf hread⟩
  · obtain rfl : .cause cause = failure := by simpa [hbuild] using h
    refine ⟨_, .pool ⟨transitions, hread⟩ hschedule, rfl, fun c hc hrows ↦ ?_⟩
    obtain ⟨-, -, rfl⟩ := Pool.schedule_eq_error_iff.1 hschedule
    obtain rfl := Option.some.inj hc
    simp [Cause.isOfRows] at hrows
  · rw [hbuild] at h
    obtain ⟨e, he, rfl⟩ := mapError_eq_error_iff.1 h
    exact ⟨e.cause, fails_of_attempt ha he, Failure.surfaces_refresh e⟩

/-! ### Interruption -/

/-- Whether the records of a refresh are built and committed. -/
def Commits (f : Faults) (settings : Settings) (account : Uuid) (s : Service) : Prop :=
  ∃ records built database, buildUnder f settings account s = (.ok records, built) ∧
    perform (interrupted f.statement (statements account built.now records)) built.database = .ok database

theorem length_statements (refreshed : Moment) :
    (statements account refreshed records).length = records.length + 2 := by
  simp [statements]

/-- No task of an attempt that completes was cancelled or failed. -/
theorem failureOf_eq_none_of_completes {a : Attempt} {p : Prefetched} {work : List WorkItem}
    {made : List BundleRecord} (h : a.Completes p work made) {index : ℕ} {item : WorkItem}
    (hitem : work[index]? = some item) : a.failureOf p index item = none := by
  obtain ⟨hindex, rfl⟩ := List.getElem?_eq_some_iff.1 hitem
  have hmade : index < made.length := h.built.length_eq ▸ hindex
  have hbuild : (a.build p work[index]).outcome = .ok made[index] := h.built.get hindex hmade
  unfold Attempt.failureOf
  simp [h.uncancelled index hindex, hbuild]

theorem Commits.not_fails (h : Commits f settings account s) : ¬Fails f settings account s cause := by
  obtain ⟨records, built, database, hbuild, hperform⟩ := h
  obtain ⟨haccepted, hown⟩ := Database.perform_interrupted_eq_ok_iff.1 hperform
  have hok : (buildUnder f settings account s).1 = .ok records := congrArg Prod.fst hbuild
  have hsame : ∀ {records' built'}, buildUnder f settings account s = (.ok records', built') →
      records' = records ∧ built' = built := by
    intro records' built' hother
    obtain ⟨hrecords, hbuilt⟩ := Prod.mk.inj (hother.symm.trans hbuild)
    exact ⟨Except.ok.inj hrecords, hbuilt⟩
  rcases buildUnder_cases f settings account s with
    ⟨own, hread, hother⟩ | ⟨transitions, own, hread, hschedule, hother⟩ | ⟨a, ha, hother⟩
  · simp [hother] at hok
  · simp [hother] at hok
  rw [hother] at hok
  obtain ⟨p, work, made, hread, hcompletes, rfl⟩ :=
    Attempt.result_run_eq_ok_iff.1 (mapError_eq_ok_iff.1 hok)
  intro hfails
  cases hfails with
  | transitions htransitions =>
    obtain ⟨transitions, schedule, hread', -⟩ := ha
    simp [htransitions] at hread'
  | pool _ hschedule =>
    obtain ⟨transitions, schedule, -, hschedule', -⟩ := ha
    simp [hschedule] at hschedule'
  | lookup ha' hcall hfailure =>
    obtain rfl := ha.unique ha'
    have herror := (Prefetch.run_eq_error_iff ha.stream_failure).2 ⟨_, hcall, hfailure⟩
    simp [hread] at herror
  | rejection ha' hread' hrejected =>
    obtain ⟨rfl, rfl, rfl⟩ := ha.unique_read hread ha' hread'
    exact absurd hcompletes.accepted hrejected.ne
  | stall ha' hread' hstalls =>
    obtain ⟨rfl, rfl, rfl⟩ := ha.unique_read hread ha' hread'
    simp [hcompletes.finished] at hstalls
  | build ha' hread' hitem hfailure =>
    obtain ⟨rfl, rfl, rfl⟩ := ha.unique_read hread ha' hread'
    simp [failureOf_eq_none_of_completes hcompletes hitem] at hfailure
  | statement hbuild' hplace hfault =>
    obtain ⟨rfl, rfl⟩ := hsame hbuild'
    have hnone := haccepted _ ((Nat.lt_succ_of_le hplace).trans_eq (length_statements _).symm)
    simp [hnone] at hfault
  | rows hbuild' hfault =>
    obtain ⟨rfl, rfl⟩ := hsame hbuild'
    rw [Database.perform_statements, hfault] at hown
    simp at hown

theorem exists_observe_buildUnder (f : Faults) (settings : Settings) (account : Uuid) (s : Service) :
    ∃ u, (buildUnder f settings account s).2 = s.observe u := by
  rcases buildUnder_cases f settings account s with
    ⟨own, -, hbuild⟩ | ⟨transitions, own, -, -, hbuild⟩ | ⟨a, -, hbuild⟩
  · exact ⟨.none, by rw [hbuild, s.observe_none]⟩
  · exact ⟨.none, by rw [hbuild, s.observe_none]⟩
  · exact ⟨_, by rw [hbuild]⟩

/-- A refresh that does not commit fails by a point that failed, and only more is observed. -/
theorem workUnder_of_not_commits (publish : Publisher) (h : ¬Commits f settings account s) :
    ∃ failure cause u, workUnder f publish settings account s = (.error failure, s.observe u) ∧
      Fails f settings account s cause ∧ failure.Surfaces cause := by
  obtain ⟨u, hobserved⟩ := exists_observe_buildUnder f settings account s
  rcases hbuild : buildUnder f settings account s with ⟨failure | records, built⟩
  · rw [hbuild] at hobserved
    obtain ⟨cause, hfails, hsurfaces⟩ := fails_of_buildUnder (congrArg Prod.fst hbuild)
    refine ⟨failure, cause, u, ?_, hfails, hsurfaces⟩
    rw [← hobserved]
    exact Procedure.run_bind_of_error hbuild
  · rw [hbuild] at hobserved
    cases hperform : perform (interrupted f.statement (statements account built.now records)) built.database with
    | ok database => exact absurd ⟨records, built, database, hbuild, hperform⟩ h
    | error fault =>
      have hstore : storeUnder f account records built =
          (.error (.refresh (unableToStore account fault)), built) := by
        simp only [storeUnder, hperform]
      refine ⟨.refresh (unableToStore account fault), some (.database fault), u, ?_, ?_,
        Failure.surfaces_refresh _⟩
      · unfold workUnder
        rw [← hobserved, Procedure.run_bind_of_ok hbuild]
        exact Procedure.run_bind_of_error hstore
      · rcases Database.refused_of_perform_interrupted hperform with ⟨place, hplace, hfault⟩ | hown
        · rw [length_statements] at hplace
          exact .statement hbuild (Nat.le_of_lt_succ hplace) hfault
        · rw [Database.perform_statements] at hown
          exact .rows hbuild hown

/-- A refresh commits exactly when no point of it fails. -/
theorem commits_iff : Commits f settings account s ↔ ∀ cause, ¬Fails f settings account s cause := by
  constructor
  · exact fun h _ ↦ h.not_fails
  · intro h
    by_contra hcommits
    obtain ⟨failure, cause, u, -, hfails, -⟩ :=
      workUnder_of_not_commits (fun _ ↦ Procedure.pure ()) hcommits
    exact h cause hfails

/-- Whether a refresh under faults is undone: it fails by a point that failed, which surfaces, and so the given
cause if no point failed by another; and nothing is changed but what has been observed, so neither the stored
records of any account nor the published events. -/
structure Undone (f : Faults) (publish : Publisher) (settings : Settings) (account : Uuid) (given : Option String)
    (s : Service) (cause : Option Cause) : Prop where
  failed : ∃ failure other, (runUnder f publish account given s).1 = .error failure ∧
    Fails f settings account (inside account given s) other ∧ failure.Surfaces other
  surfaced : (∀ other, Fails f settings account (inside account given s) other → other = cause) →
    ∃ failure, (runUnder f publish account given s).1 = .error failure ∧ failure.Surfaces cause
  unchanged : (runUnder f publish account given s).2 =
    { s with telemetry := (runUnder f publish account given s).2.telemetry }

/-- A failure before the commit undoes a refresh. -/
theorem undone_of_fails (f : Faults) (publish : Publisher) (settings : Settings) (account : Uuid)
    (given : Option String) (s : Service) (cause : Option Cause) (hsettings : s.settings = .ok settings)
    (h : Fails f settings account (inside account given s) cause) :
    Undone f publish settings account given s cause := by
  have hcommits : ¬Commits f settings account (inside account given s) := fun hcommits ↦ hcommits.not_fails h
  obtain ⟨failure, other, u, hwork, hother, hsurfaces⟩ := workUnder_of_not_commits publish hcommits
  have hrun : runUnder f publish account given s =
      (.error failure, concluded account given s (.error failure : Except Failure (List BundleRecord))
        ((inside account given s).observe u)) := by
    unfold runUnder
    rw [hsettings]
    simp only [enclosed, hwork]
    rfl
  refine ⟨⟨failure, other, ?_, hother, hsurfaces⟩, fun honly ↦ ⟨failure, ?_, honly other hother ▸ hsurfaces⟩, ?_⟩
  · rw [hrun]
  · rw [hrun]
  · rw [hrun]
    rfl

end Refresh

/-- The database refuses the second row of a refresh with two records. -/
def LargePrice.refusal : Faults :=
  { Faults.none with statement := fun place ↦ if place = 2 then some .integrity else none }

/-- The refresh is undone when its second row is refused. -/
theorem undone_sample :
    ∃ settings, LargePrice.service.settings = .ok settings ∧
      Refresh.Fails LargePrice.refusal settings (.ofNat 9) (Refresh.inside (.ofNat 9) none LargePrice.service)
        (some (.database .integrity)) ∧
      Refresh.Undone LargePrice.refusal (fun e ↦ (Service.publish e).forget) settings (.ofNat 9) none
        LargePrice.service (some (.database .integrity)) := by
  obtain ⟨result, t, rows, hrefresh, -, hshown, -⟩ := LargePrice.exists_refresh
  obtain ⟨settings, records, u, hsettings, hwork, rfl, -⟩ := Refresh.run_eq_ok_iff.1 hrefresh
  obtain ⟨built, database, hbuild, -⟩ := Refresh.work_eq_ok_iff.1 hwork
  have hlength : records.length = 2 := by
    have hshownLength := congrArg List.length hshown
    rw [List.length_map, Refresh.byRank, List.length_mergeSort] at hshownLength
    exact hshownLength
  have hbuildUnder : Refresh.buildUnder LargePrice.refusal settings (.ofNat 9)
      (Refresh.inside (.ofNat 9) none LargePrice.service) = (.ok records, built) := by
    rw [← hbuild, ← Refresh.buildUnder_none]
    rfl
  have hplace : 2 ≤ records.length + 1 := by
    rw [hlength]
    decide
  have hfails : Refresh.Fails LargePrice.refusal settings (.ofNat 9)
      (Refresh.inside (.ofNat 9) none LargePrice.service) (some (.database .integrity)) :=
    .statement hbuildUnder hplace rfl
  exact ⟨settings, hsettings, hfails, Refresh.undone_of_fails _ _ _ _ _ _ _ hsettings hfails⟩

end BundleLedger
