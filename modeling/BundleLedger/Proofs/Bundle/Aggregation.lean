import BundleLedger.Bundle.Aggregation
import BundleLedger.Proofs.Bundle.Build
import BundleLedger.Proofs.Bundle.Schedule
import Mathlib.Data.List.Forall2

/-!
# When an attempt has records

The caller collects one outcome for each task that completes, in the order of completion
(`collected_eq`). With no refused submission and no stalled pool these are the outcomes of all tasks
(`collected_eq_arrange`). An attempt has records exactly when everything it needed was read and every build
completed with a record (`result_run_eq_ok_iff`); they are then the records of the builds, arranged by the
schedule.
-/

set_option autoImplicit false

namespace BundleLedger

open Result

/-! ### Collected outcomes -/

namespace Aggregation

theorem records_map_ok (built : List BundleRecord) : records (built.map .ok) = built := by
  unfold records
  rw [List.filterMap_map]
  exact List.filterMap_some

theorem errors_map_ok (built : List BundleRecord) : errors (built.map .ok) = [] := by
  unfold errors
  rw [List.filterMap_map]
  exact List.filterMap_eq_nil_iff.2 fun _ _ ↦ rfl

/-- Without errors the outcomes are those of the records. -/
theorem errors_eq_nil_iff {outcomes : List (Except RefreshError BundleRecord)} :
    errors outcomes = [] ↔ outcomes = (records outcomes).map .ok := by
  constructor
  · intro h
    induction outcomes with
    | nil => rfl
    | cons outcome rest ih =>
      cases outcome with
      | error e => simp [errors] at h
      | ok r => exact congrArg (Except.ok r :: ·) (ih h)
  · intro h
    rw [h, errors_map_ok]

/-- The first error among some outcomes comes after outcomes that are all records. -/
theorem errors_eq_cons_iff {outcomes : List (Except RefreshError BundleRecord)} {first : RefreshError}
    {others : List RefreshError} :
    errors outcomes = first :: others ↔
      ∃ before after, outcomes = before ++ .error first :: after ∧ errors before = [] ∧
        errors after = others := by
  unfold errors
  rw [List.filterMap_eq_cons_iff]
  constructor
  · rintro ⟨before, outcome, after, rfl, hbefore, houtcome, hafter⟩
    cases outcome with
    | ok r => simp at houtcome
    | error e =>
      obtain rfl : e = first := by simpa using houtcome
      exact ⟨before, after, rfl, List.filterMap_eq_nil_iff.2 hbefore, hafter⟩
  · rintro ⟨before, after, rfl, hbefore, hafter⟩
    exact ⟨before, .error first, after, rfl, List.filterMap_eq_nil_iff.1 hbefore, rfl, hafter⟩

theorem decide_eq_ok_iff {refused stalled : Option RefreshError}
    {outcomes : List (Except RefreshError BundleRecord)} {built : List BundleRecord} :
    decide refused stalled outcomes = .ok built ↔
      refused = none ∧ stalled = none ∧ outcomes = built.map .ok := by
  have houtcomes : errors outcomes = [] ∧ records outcomes = built ↔ outcomes = built.map .ok := by
    constructor
    · rintro ⟨herrors, rfl⟩
      exact errors_eq_nil_iff.1 herrors
    · rintro rfl
      exact ⟨errors_map_ok built, records_map_ok built⟩
  rw [← houtcomes]
  unfold decide
  split <;> simp_all

/-- Every error that an attempt decides on is raised from its cause. -/
theorem decide_eq_error_iff {refused stalled : Option RefreshError}
    {outcomes : List (Except RefreshError BundleRecord)} {e : RefreshError} :
    decide refused stalled outcomes = .error e ↔
      ∃ own, e = own.raised ∧
        (refused = some own ∨ refused = none ∧ stalled = some own ∨
          refused = none ∧ stalled = none ∧ (errors outcomes).head? = some own) := by
  unfold decide
  cases refused with
  | some own => simp [eq_comm]
  | none =>
    cases stalled with
    | some own => simp [eq_comm]
    | none => cases errors outcomes <;> simp [eq_comm]

end Aggregation

namespace Attempt

variable (a : Attempt) (p : Prefetched) (work : List WorkItem)

/-- What the caller collects of one task, by its number. -/
def outcomeOf (index : ℕ) (item : WorkItem) : Except RefreshError BundleRecord :=
  if a.schedule.isCancelled index then
    .error (Completion.errorOf p.account.id item.transition.bundle (.cause .cancelledTask))
  else
    (a.build p item).outcome.mapError (Completion.errorOf p.account.id item.transition.bundle)

/-- What the caller collects, in the order of completion. -/
def collected : List (Except RefreshError BundleRecord) :=
  (a.completions p work).map (·.outcome p.account.id)

theorem collected_eq :
    a.collected p work =
      (a.schedule.finished (a.submitted work).length).filterMap fun index ↦
        (a.submitted work)[index]?.map (a.outcomeOf p index) := by
  unfold collected completions
  rw [List.map_filterMap]
  refine List.filterMap_congr fun index _ ↦ ?_
  rw [Option.map_map]
  refine congrArg (Option.map · _) (funext fun item ↦ ?_)
  unfold outcomeOf
  by_cases hcancelled : a.schedule.isCancelled index = true
  · simp [Completion.outcome, task, hcancelled]
  · simp [Completion.outcome, task, hcancelled]

theorem submitted_of_accepted {work : List WorkItem}
    (h : a.schedule.accepted work.length = work.length) : a.submitted work = work := by
  rw [submitted, h, List.take_length]

theorem scheduleError?_eq_none_iff :
    a.scheduleError? p work = none ↔ a.schedule.accepted work.length = work.length := by
  unfold scheduleError?
  rw [Option.map_eq_none_iff, List.getElem?_eq_none_iff]
  exact ⟨Nat.le_antisymm (a.schedule.accepted_le _), fun h ↦ Nat.le_of_eq h.symm⟩

/-- When every submission is accepted and the pool does not stall, the outcomes of all tasks are
collected. -/
theorem collected_eq_arrange {work : List WorkItem}
    (haccepted : a.schedule.accepted work.length = work.length)
    (hstalls : a.schedule.stalls work.length = false) :
    a.collected p work = a.schedule.arrange (work.mapIdx (a.outcomeOf p)) := by
  rw [collected_eq, a.submitted_of_accepted haccepted, a.schedule.finished_of_stalls_eq_false hstalls,
    Schedule.arrange, List.length_mapIdx]
  simp only [List.getElem?_mapIdx]

/-! ### All records -/

/-- Whether every build completes with a record: nothing is refused or cancelled, the pool does not
stall, and each build has its record. -/
structure Completes (built : List BundleRecord) : Prop where
  accepted : a.schedule.accepted work.length = work.length
  finished : a.schedule.stalls work.length = false
  uncancelled : ∀ index < work.length, a.schedule.isCancelled index = false
  built : List.Forall₂ (fun item r ↦ (a.build p item).outcome = .ok r) work built

variable {a p work} {built records : List BundleRecord}

theorem outcomeOf_eq_ok_iff {index : ℕ} {item : WorkItem} {r : BundleRecord} :
    a.outcomeOf p index item = .ok r ↔
      a.schedule.isCancelled index = false ∧ (a.build p item).outcome = .ok r := by
  unfold outcomeOf
  split_ifs with hcancelled
  · simp [hcancelled]
  · rw [mapError_eq_ok_iff, Bool.not_eq_true] at *
    exact (and_iff_right hcancelled).symm

theorem mapIdx_outcomeOf_eq_iff :
    work.mapIdx (a.outcomeOf p) = built.map .ok ↔
      (∀ index < work.length, a.schedule.isCancelled index = false) ∧
        List.Forall₂ (fun item r ↦ (a.build p item).outcome = .ok r) work built := by
  rw [List.forall₂_iff_get]
  constructor
  · intro h
    have hlength : work.length = built.length := by simpa using congrArg List.length h
    have hget : ∀ index (hi : index < work.length) (hj : index < built.length),
        a.outcomeOf p index work[index] = .ok built[index] := by
      intro index hi hj
      have := congrArg (·[index]?) h
      simpa [List.getElem?_mapIdx, hi, hj] using this
    refine ⟨fun index hi ↦ ?_, hlength, fun index hi hj ↦ ?_⟩
    · exact (outcomeOf_eq_ok_iff.1 (hget index hi (hlength ▸ hi))).1
    · exact (outcomeOf_eq_ok_iff.1 (hget index hi hj)).2
  · rintro ⟨huncancelled, hlength, hbuilt⟩
    refine List.ext_getElem (by simpa using hlength) fun index hi hj ↦ ?_
    rw [List.length_mapIdx] at hi
    rw [List.length_map] at hj
    rw [List.getElem_mapIdx, List.getElem_map]
    exact outcomeOf_eq_ok_iff.2 ⟨huncancelled index hi, hbuilt index hi hj⟩

/-- The builds of an attempt have records exactly when all of them complete, and then these are their
records in the order of completion. -/
theorem result_runBuilds_eq_ok_iff :
    (a.runBuilds p work).result = .ok records ↔
      ∃ built, a.Completes p work built ∧ records = a.schedule.arrange built := by
  change Aggregation.decide _ _ (a.collected p work) = _ ↔ _
  rw [Aggregation.decide_eq_ok_iff, scheduleError?_eq_none_iff, ite_eq_right_iff]
  constructor
  · rintro ⟨haccepted, hstalls, hcollected⟩
    rw [a.submitted_of_accepted haccepted] at hstalls
    have hfinished : a.schedule.stalls work.length = false := by simpa using hstalls
    rw [a.collected_eq_arrange p haccepted hfinished] at hcollected
    -- All outcomes are among the arranged ones, so all of them are records.
    obtain ⟨built, hbuilt⟩ : ∃ built : List BundleRecord,
        work.mapIdx (a.outcomeOf p) = built.map .ok := by
      have hperm : (Aggregation.errors (a.schedule.arrange (work.mapIdx (a.outcomeOf p)))).Perm
          (Aggregation.errors (work.mapIdx (a.outcomeOf p))) :=
        (a.schedule.arrange_perm _).filterMap _
      rw [hcollected] at hperm
      refine ⟨_, Aggregation.errors_eq_nil_iff.1 (List.perm_nil.1 ?_)⟩
      exact hperm.symm.trans (.of_eq (Aggregation.errors_map_ok records))
    rw [hbuilt, ← Schedule.map_arrange] at hcollected
    have hrecords := congrArg Aggregation.records hcollected
    rw [Aggregation.records_map_ok, Aggregation.records_map_ok] at hrecords
    have h := mapIdx_outcomeOf_eq_iff.1 hbuilt
    exact ⟨built, ⟨haccepted, hfinished, h.1, h.2⟩, hrecords.symm⟩
  · rintro ⟨built, h, rfl⟩
    refine ⟨h.accepted, ?_, ?_⟩
    · rw [a.submitted_of_accepted h.accepted, h.finished]
      simp
    · rw [a.collected_eq_arrange p h.accepted h.finished,
        mapIdx_outcomeOf_eq_iff.2 ⟨h.uncancelled, h.built⟩, Schedule.map_arrange]

theorem result_run_of_error {failure : Failure}
    (h : (Prefetch.run a.context a.stream).outcome = .error failure) :
    a.run.result = .error (prefetchError failure) := by
  simp only [run, h]

theorem result_run_of_ok (h : (Prefetch.run a.context a.stream).outcome = .ok (p, work)) :
    a.run.result = (a.runBuilds p work).result := by
  simp only [run, h]

theorem result_run_eq_ok_iff :
    a.run.result = .ok records ↔
      ∃ p work built, (Prefetch.run a.context a.stream).outcome = .ok (p, work) ∧
        a.Completes p work built ∧ records = a.schedule.arrange built := by
  rcases h : (Prefetch.run a.context a.stream).outcome with failure | ⟨p, work⟩
  · rw [result_run_of_error h]
    simp
  · rw [result_run_of_ok h, result_runBuilds_eq_ok_iff]
    constructor
    · rintro ⟨built, hbuilt⟩
      exact ⟨p, work, built, rfl, hbuilt⟩
    · rintro ⟨p', work', built, hp, hbuilt⟩
      obtain ⟨rfl, rfl⟩ : p = p' ∧ work = work' := by simpa using hp
      exact ⟨built, hbuilt⟩

end Attempt
end BundleLedger
