import BundleLedger.Proofs.Bundle.Outcome

/-!
# The first failure

The first failing build in the order of completion is the one that is logged as the failure of the attempt
(`logs_of_failsFirst`). It is also the error of the attempt, unless the pool stalls: then the error is that
of the stalled pool, and the failure that was collected before is only logged. So the first failure wins
exactly when no failure is collected before a stall (`firstFailureWins_iff`).
-/

set_option autoImplicit false

namespace BundleLedger

namespace Attempt

variable {a : Attempt} {p : Prefetched} {work : List WorkItem} {first : RefreshError}

/-- Whether an error is that of the first failing build in the order of completion: all tasks that complete
before have records. -/
def FailsFirst (a : Attempt) (p : Prefetched) (work : List WorkItem) (first : RefreshError) : Prop :=
  ∃ before index after item, a.schedule.finished work.length = before ++ index :: after ∧
    work[index]? = some item ∧ a.outcomeOf p index item = .error first ∧
    ∀ earlier ∈ before, ∀ item, work[earlier]? = some item → ∃ r, a.outcomeOf p earlier item = .ok r

/-- Whether the first failing build decides: its error is raised and logged as the failure, and the error of
a stalled pool is raised only if no build that completed had failed. -/
structure FirstFailureWins (a : Attempt) (p : Prefetched) (work : List WorkItem) : Prop where
  wins : ∀ first, a.FailsFirst p work first → a.run.result = .error first.raised ∧
    a.run.telemetry.logs.head? = some ⟨.buildFailed p.account.id first.bundle first.cause, a.correlation⟩
  timeout : a.run.result = .error (Aggregation.timeoutError p.account.id).raised →
    ∀ first, ¬ a.FailsFirst p work first

/-- What is collected of a list of completed tasks. -/
def collectedOf (a : Attempt) (p : Prefetched) (work : List WorkItem) (indices : List ℕ) :
    List (Except RefreshError BundleRecord) :=
  indices.filterMap fun index ↦ work[index]?.map (a.outcomeOf p index)

theorem errors_collectedOf_eq_nil_iff {indices : List ℕ} :
    Aggregation.errors (a.collectedOf p work indices) = [] ↔
      ∀ index ∈ indices, ∀ item, work[index]? = some item → ∃ r, a.outcomeOf p index item = .ok r := by
  unfold Aggregation.errors collectedOf
  rw [List.filterMap_filterMap, List.filterMap_eq_nil_iff]
  refine forall₂_congr fun index hindex ↦ ?_
  cases work[index]? with
  | none => simp
  | some item => cases h : a.outcomeOf p index item <;> simp [h]

theorem failsFirst_iff (haccepted : a.schedule.accepted work.length = work.length) :
    a.FailsFirst p work first ↔ (Aggregation.errors (a.collected p work)).head? = some first := by
  have hcollected : a.collected p work = a.collectedOf p work (a.schedule.finished work.length) := by
    rw [collected_eq, a.submitted_of_accepted haccepted, collectedOf]
  rw [hcollected, List.head?_eq_some_iff]
  constructor
  · rintro ⟨before, index, after, item, hfinished, hitem, hfails, hbefore⟩
    refine ⟨_, Aggregation.errors_eq_cons_iff.2 ⟨a.collectedOf p work before,
      a.collectedOf p work after, ?_, errors_collectedOf_eq_nil_iff.2 hbefore, rfl⟩⟩
    rw [hfinished, collectedOf, List.filterMap_append, List.filterMap_cons, hitem, Option.map_some, hfails]
    rfl
  · rintro ⟨others, herrors⟩
    obtain ⟨before, after, hsplit, hbefore, -⟩ := Aggregation.errors_eq_cons_iff.1 herrors
    obtain ⟨indices, rest, hfinished, hindices, hrest⟩ := List.filterMap_eq_append_iff.1 hsplit
    obtain ⟨skipped, index, after', hindex, hskipped, hfails, -⟩ := List.filterMap_eq_cons_iff.1 hrest
    obtain ⟨item, hitem, hfails⟩ := Option.map_eq_some_iff.1 hfails
    refine ⟨indices ++ skipped, index, after', item, ?_, hitem, hfails, ?_⟩
    · rw [hfinished, hindex, List.append_assoc]
    · rw [← errors_collectedOf_eq_nil_iff, collectedOf, List.filterMap_append, hindices,
        List.filterMap_eq_nil_iff.2 hskipped, List.append_nil]
      exact hbefore

theorem logs_of_failsFirst (hread : (Prefetch.run a.context a.stream).outcome = .ok (p, work))
    (haccepted : a.schedule.accepted work.length = work.length) (h : a.FailsFirst p work first) :
    a.run.telemetry.logs.head? =
      some ⟨.buildFailed p.account.id first.bundle first.cause, a.correlation⟩ := by
  obtain ⟨others, herrors⟩ := List.head?_eq_some_iff.1 ((failsFirst_iff haccepted).1 h)
  have hlogs : a.run.telemetry.logs =
      (Aggregation.notices p.account.id (Aggregation.errors (a.collected p work))).map
        (⟨·, a.correlation⟩) := by
    simp only [run, hread]
    rfl
  rw [hlogs, herrors]
  rfl

/-- The error of a failed build names its bundle, so it is not that of a stalled pool. -/
theorem raised_ne_timeoutError (h : a.FailsFirst p work first) :
    first.raised ≠ (Aggregation.timeoutError p.account.id).raised := by
  obtain ⟨before, index, after, item, -, -, hfails, -⟩ := h
  obtain ⟨failure, -, rfl⟩ := outcomeOf_eq_error_iff.1 hfails
  intro heq
  have hbundle := congrArg RefreshError.bundle heq
  change (Completion.errorOf _ _ failure).bundle = none at hbundle
  rw [(names_errorOf p.account.id item.transition.bundle failure).2.2] at hbundle
  simp at hbundle

theorem result_of_stalls (hread : (Prefetch.run a.context a.stream).outcome = .ok (p, work))
    (haccepted : a.schedule.accepted work.length = work.length)
    (hstalls : a.schedule.stalls work.length = true) :
    a.run.result = .error (Aggregation.timeoutError p.account.id).raised := by
  rw [result_run_of_ok hread]
  change Aggregation.decide _ _ (a.collected p work) = _
  rw [(a.scheduleError?_eq_none_iff p work).2 haccepted, a.submitted_of_accepted haccepted, if_pos hstalls]
  rfl

theorem result_of_failsFirst (hread : (Prefetch.run a.context a.stream).outcome = .ok (p, work))
    (haccepted : a.schedule.accepted work.length = work.length)
    (hstalls : a.schedule.stalls work.length = false) (h : a.FailsFirst p work first) :
    a.run.result = .error first.raised := by
  rw [result_run_of_ok hread]
  change Aggregation.decide _ _ (a.collected p work) = _
  rw [(a.scheduleError?_eq_none_iff p work).2 haccepted, a.submitted_of_accepted haccepted, hstalls]
  exact Aggregation.decide_eq_error_iff.2
    ⟨first, rfl, .inr (.inr ⟨rfl, rfl, (failsFirst_iff haccepted).1 h⟩)⟩

/-- The first failing build decides exactly when no build fails before a stall. -/
theorem firstFailureWins_iff (a : Attempt) (p : Prefetched) (work : List WorkItem)
    (hread : (Prefetch.run a.context a.stream).outcome = .ok (p, work))
    (haccepted : a.schedule.accepted work.length = work.length) :
    a.FirstFailureWins p work ↔
      (a.schedule.stalls work.length = true → ∀ first, ¬ a.FailsFirst p work first) := by
  constructor
  · intro h hstalls
    exact h.timeout (result_of_stalls hread haccepted hstalls)
  · intro h
    refine ⟨fun first hfirst ↦ ⟨?_, logs_of_failsFirst hread haccepted hfirst⟩, fun htimeout first hfirst ↦ ?_⟩
    all_goals
      have hstalls : a.schedule.stalls work.length = false :=
        Bool.eq_false_iff.2 fun hstalls ↦ h hstalls first hfirst
      have hresult := result_of_failsFirst hread haccepted hstalls hfirst
    · exact hresult
    · rw [htimeout, Except.error.injEq] at hresult
      exact raised_ne_timeoutError hfirst hresult.symm

end Attempt

namespace Sample

/-- What is read of the account with two bundles. -/
def prefetched : Prefetched where
  account := ⟨.ofNat 9, "account", none, some "USD"⟩
  accountRecordId := .ok 1
  tenantRecordId := .ok 1
  reportGroup := .ok .default
  converter := ⟨"USD", []⟩
  bundles := [bundle 1, bundle 2]

def work : List WorkItem :=
  [⟨transition 3 2, 1, none⟩, ⟨transition 2 1, 2, none⟩]

/-- The build of the first bundle fails, and then the pool stalls. -/
def stalling : Attempt :=
  { failing with schedule := { order := [1, 0], stallAfter := some 1 } }

end Sample

theorem firstFailureWins_sample :
    (Prefetch.run Sample.failing.context Sample.failing.stream).outcome =
        .ok (Sample.prefetched, Sample.work) ∧
      Sample.failing.schedule.accepted Sample.work.length = Sample.work.length ∧
      Sample.failing.FirstFailureWins Sample.prefetched Sample.work := by
  refine ⟨rfl, rfl, (Attempt.firstFailureWins_iff _ _ _ rfl rfl).2 fun hstalls ↦ ?_⟩
  simp [Sample.failing, Sample.attempt, Schedule.stalls] at hstalls

/-- A failure that is collected before a stall does not decide. -/
theorem not_firstFailureWins_sample :
    (Prefetch.run Sample.stalling.context Sample.stalling.stream).outcome =
        .ok (Sample.prefetched, Sample.work) ∧
      Sample.stalling.schedule.accepted Sample.work.length = Sample.work.length ∧
      ¬ Sample.stalling.FirstFailureWins Sample.prefetched Sample.work := by
  refine ⟨rfl, rfl, fun h ↦ h.timeout rfl _ ⟨[], 1, [], _, rfl, rfl, rfl, ?_⟩⟩
  intro earlier hearlier
  simp at hearlier

end BundleLedger
