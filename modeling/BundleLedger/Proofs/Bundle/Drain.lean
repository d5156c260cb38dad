import BundleLedger.Proofs.Bundle.FirstFailure
import BundleLedger.Proofs.Bundle.Trace

/-!
# What an attempt builds, counts and logs

A task that is built is built once (`count_started`). The failures that are collected (`Attempt.failures`) are
counted, and logged in the order of completion, the first as an error and the others as suppressed; records are
counted when the attempt returns them. A failure is logged under the bundle that its error names, or else under that
of its build (`Attempt.failedBundle`): so the log names every failed build if no error names another bundle. Main
statement: `runAwaiting_accounts`.
-/

set_option autoImplicit false

namespace BundleLedger

open Result

namespace Attempt

/-! ### What is built -/

variable {a : Attempt} {p : Prefetched} {work : List WorkItem} (running : List ℕ)

/-- A task is built once if it is built at all. -/
theorem count_started (hread : (Prefetch.run a.context a.stream).outcome = .ok (p, work)) {index : ℕ}
    {item : WorkItem} (hitem : work[index]? = some item) :
    ((a.runAwaiting running).started.map (·.bundle)).count item.transition.bundle =
      if a.Builds running work.length index then 1 else 0 := by
  have hbundle : a.rankedBundles[index]? = some item.transition.bundle := by
    rw [← bundles_work hread, List.getElem?_map, hitem, Option.map_some]
  have hmem : item.transition.bundle ∈ a.builtBundles running ↔ a.Builds running work.length index := by
    rw [builtBundles, if_pos (isRead_iff.2 ⟨_, hread⟩), bundlesOf, List.mem_filterMap, buildOrder,
      length_rankedBundles hread]
    constructor
    · rintro ⟨other, hother, hsame⟩
      have hlt : other < a.rankedBundles.length := (List.getElem?_eq_some_iff.1 hsame).1
      obtain rfl : other = index := (List.getElem?_inj hlt a.nodup_rankedBundles).1 (hsame.trans hbundle.symm)
      exact (a.mem_builtTasks running).1 hother
    · intro hbuilds
      exact ⟨index, (a.mem_builtTasks running).2 hbuilds, hbundle⟩
  rw [bundles_started, (nodup_builtBundles a running).count]
  simp only [hmem]

theorem mem_started (hread : (Prefetch.run a.context a.stream).outcome = .ok (p, work)) {b : StartedBuild}
    (hb : b ∈ (a.runAwaiting running).started) :
    b.bundle ∈ work.map (·.transition.bundle) ∧ b.correlation = a.correlation := by
  rw [started_eq] at hb
  obtain ⟨bundle, hbundle, rfl⟩ := List.mem_map.1 hb
  rw [bundles_work hread]
  exact ⟨mem_rankedBundles_of_built hbundle, rfl⟩

/-! ### What is counted and logged -/

variable (a p work)

/-- The builds that are collected and failed or were cancelled, in the order of completion. -/
def failures : List (WorkItem × Failure) :=
  (a.schedule.finished (a.submitted work).length).filterMap fun index ↦
    (a.submitted work)[index]?.bind fun item ↦ (a.failureOf p index item).map fun failure ↦ (item, failure)

/-- What is logged of failures when each is logged under a bundle: the first is the failure of the attempt, the
others are suppressed. -/
def noticesOf (bundleOf : WorkItem × Failure → Uuid) : List (WorkItem × Failure) → List Notice
  | [] => []
  | first :: others =>
    .buildFailed p.account.id (some (bundleOf first)) first.2.cause? ::
      others.map fun other ↦ .buildSuppressed p.account.id (some (bundleOf other)) other.2.cause?

/-- The bundle of a failed build. -/
def ownBundle (f : WorkItem × Failure) : Uuid :=
  f.1.transition.bundle

/-- The bundle that a failed build is logged under: the one that its error names, or else its own. -/
def failedBundle (f : WorkItem × Failure) : Uuid :=
  f.2.bundle?.getD (ownBundle f)

/-- The levels and messages of a number of failures. -/
def failureLines : ℕ → List (LogLevel × String)
  | 0 => []
  | others + 1 =>
    (.error, "bundles.build.failed") :: List.replicate others (.warning, "bundles.build.suppressed_error")

variable {a p work}

theorem errors_collected :
    Aggregation.errors (a.collected p work) =
      (a.failures p work).map fun f ↦ Completion.errorOf p.account.id f.1.transition.bundle f.2 := by
  unfold Aggregation.errors failures
  rw [collected_eq, List.filterMap_filterMap, List.map_filterMap]
  refine List.filterMap_congr fun index _ ↦ ?_
  cases (a.submitted work)[index]? with
  | none => rfl
  | some item =>
    rw [Option.map_some, Option.bind_some, Option.bind_some, Option.map_map]
    cases houtcome : a.outcomeOf p index item with
    | ok r =>
      have hnone : a.failureOf p index item = none := by
        rw [Option.eq_none_iff_forall_ne_some]
        intro failure hfailure
        have herror := outcomeOf_eq_error_iff.2 ⟨failure, hfailure, rfl⟩
        simp [houtcome] at herror
      rw [hnone]
      rfl
    | error e =>
      obtain ⟨failure, hfailure, rfl⟩ := outcomeOf_eq_error_iff.1 houtcome
      rw [hfailure]
      rfl

theorem notices_errors (failures : List (WorkItem × Failure)) :
    Aggregation.notices p.account.id
        (failures.map fun f ↦ Completion.errorOf p.account.id f.1.transition.bundle f.2) =
      noticesOf p failedBundle failures := by
  have hnames := fun f : WorkItem × Failure ↦ names_errorOf p.account.id f.1.transition.bundle f.2
  cases failures with
  | nil => rfl
  | cons first others =>
    simp only [List.map_cons, Aggregation.notices, noticesOf, List.map_map, Function.comp_def, hnames]
    rfl

theorem lines_noticesOf (bundleOf : WorkItem × Failure → Uuid) (failures : List (WorkItem × Failure)) :
    (noticesOf p bundleOf failures).map (fun notice ↦ (notice.level, notice.message)) =
      failureLines failures.length := by
  cases failures with
  | nil => rfl
  | cons first others =>
    simp only [noticesOf, List.map_cons, List.map_map, List.length_cons, failureLines]
    rw [← List.map_const']
    rfl

theorem totalOf_failures (counter : Counter) (errors : List RefreshError) :
    Telemetry.totalOf counter (errors.map fun _ ↦ ⟨.buildFailures, 1⟩) =
      if counter = .buildFailures then errors.length else 0 := by
  induction errors with
  | nil => simp [Telemetry.totalOf]
  | cons e rest ih =>
    rw [List.map_cons, Telemetry.totalOf, ih, List.length_cons]
    by_cases h : counter = .buildFailures
    · rw [if_pos h.symm, if_pos h, if_pos h, Nat.add_comm]
    · rw [if_neg (Ne.symm h), if_neg h, if_neg h]

theorem totalOf_builtIncrement (counter : Counter) (result : Except RefreshError (List BundleRecord)) :
    Telemetry.totalOf counter (Aggregation.builtIncrement result) =
      match result with
      | .ok records => if counter = .recordsBuilt then records.length else 0
      | .error _ => 0 := by
  cases result with
  | error e => rfl
  | ok records =>
    unfold Aggregation.builtIncrement
    cases records with
    | nil => simp [Telemetry.totalOf]
    | cons r rest => simp [Telemetry.totalOf, eq_comm]

/-- Whether an attempt accounts for all that it was given, when each failure is logged under a bundle. -/
structure Accounts (a : Attempt) (running : List ℕ) (p : Prefetched) (work : List WorkItem)
    (bundleOf : WorkItem × Failure → Uuid) : Prop where
  /-- A task is built once or not at all, which the schedule alone decides. -/
  built : ∀ (index : ℕ) (item : WorkItem), work[index]? = some item →
    ((a.runAwaiting running).started.map (·.bundle)).count item.transition.bundle =
      if a.Builds running work.length index then 1 else 0
  /-- Nothing else is built, and builds see the caller's correlation id. -/
  started : ∀ b ∈ (a.runAwaiting running).started,
    b.bundle ∈ work.map (·.transition.bundle) ∧ b.correlation = a.correlation
  failures : (a.runAwaiting running).telemetry.total .buildFailures = (a.failures p work).length
  logs : (a.runAwaiting running).telemetry.logs =
    (noticesOf p bundleOf (a.failures p work)).map (⟨·, a.correlation⟩)
  lines : (a.runAwaiting running).telemetry.logs.map (fun entry ↦ (entry.notice.level, entry.notice.message)) =
    failureLines (a.failures p work).length
  records : ∀ records, (a.runAwaiting running).result = .ok records →
    (a.runAwaiting running).telemetry.total .recordsBuilt = records.length
  none_on_error : ∀ e, (a.runAwaiting running).result = .error e →
    (a.runAwaiting running).telemetry.total .recordsBuilt = 0

/-- On every schedule an attempt accounts for its tasks, its failures and its records; when nothing runs as the
pool stalls, it is the attempt without a wait. -/
theorem runAwaiting_accounts (a : Attempt) (running : List ℕ) (p : Prefetched) (work : List WorkItem)
    (hread : (Prefetch.run a.context a.stream).outcome = .ok (p, work)) :
    a.Accounts running p work failedBundle ∧ a.runAwaiting [] = a.run := by
  refine ⟨?_, a.runAwaiting_nil⟩
  have hlogs : (a.runAwaiting running).telemetry.logs =
      (noticesOf p failedBundle (a.failures p work)).map (⟨·, a.correlation⟩) := by
    rw [← notices_errors, ← errors_collected]
    simp only [runAwaiting, run, hread]
    rfl
  have htotal : ∀ counter, (a.runAwaiting running).telemetry.total counter =
      (if counter = .buildFailures then (a.failures p work).length else 0) +
        match (a.runAwaiting running).result with
        | .ok records => if counter = .recordsBuilt then records.length else 0
        | .error _ => 0 := by
    intro counter
    have hincrements : (a.runAwaiting running).telemetry.increments =
        (Aggregation.errors (a.collected p work)).map (fun _ ↦ ⟨.buildFailures, 1⟩) ++
          Aggregation.builtIncrement (a.runAwaiting running).result := by
      simp only [runAwaiting, run, hread]
      rfl
    rw [Telemetry.total, hincrements, Telemetry.totalOf_append, totalOf_failures, totalOf_builtIncrement,
      errors_collected, List.length_map]
  refine
    { built := fun index item ↦ count_started running hread
      started := fun b ↦ mem_started running hread
      failures := ?_
      logs := hlogs
      lines := ?_
      records := fun records hrecords ↦ ?_
      none_on_error := fun e he ↦ ?_ }
  · rw [htotal, if_pos rfl]
    split <;> rfl
  · rw [hlogs, List.map_map, ← lines_noticesOf (p := p) failedBundle]
    rfl
  · rw [htotal, hrecords]
    exact Nat.zero_add _
  · rw [htotal, he]
    rfl

end Attempt

namespace Sample

/-- The record id of the first bundle cannot be found, and the error names the second. -/
def misnaming : Attempt :=
  { attempt with
    context :=
      { context with
        bundleRecordId := fun id ↦
          if id = .ofNat 1 then .error (.refresh { reason := .stated "no record", bundle := some (.ofNat 2) })
          else .ok (.ok id.toNat) } }

end Sample

/-- The build of the first bundle fails before the pool stalls, while that of the second is running. -/
theorem accounts_sample :
    (Prefetch.run Sample.stalling.context Sample.stalling.stream).outcome =
        .ok (Sample.prefetched, Sample.work) ∧
      (Sample.stalling.runAwaiting [0]).started = [⟨.ofNat 1, none⟩, ⟨.ofNat 2, none⟩] ∧
      Sample.stalling.Accounts [0] Sample.prefetched Sample.work Attempt.failedBundle :=
  ⟨rfl, rfl, (Attempt.runAwaiting_accounts Sample.stalling [0] Sample.prefetched Sample.work rfl).1⟩

/-- A failed build whose error names another bundle is logged under that one. -/
theorem not_accounts_sample :
    (Prefetch.run Sample.misnaming.context Sample.misnaming.stream).outcome =
        .ok (Sample.prefetched, Sample.work) ∧
      ¬ Sample.misnaming.Accounts [] Sample.prefetched Sample.work Attempt.ownBundle := by
  refine ⟨rfl, fun h ↦ ?_⟩
  have hlogs := h.logs
  revert hlogs
  decide +kernel

end BundleLedger
