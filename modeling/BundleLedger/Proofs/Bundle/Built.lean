import BundleLedger.Bundle.Waiting
import BundleLedger.Proofs.Bundle.Aggregation

/-!
# Which tasks are built

What is built depends on the schedule alone (`Attempt.Builds`): a task that the pool accepted and that was not
cancelled, unless the pool stalls before it has started. Some of these tasks complete, others are under way when
the pool stalls, and both kinds are built alike: whatever an attempt gathers from its builds, it gathers from the
built tasks in turn (`Attempt.filterMap_builds`).
-/

set_option autoImplicit false

namespace BundleLedger.Attempt

variable (a : Attempt) (p : Prefetched) (work : List WorkItem) (running : List ℕ)

/-- Whether a task is built, by its number out of `count`: it is accepted and not cancelled, and if the pool
stalls, it has completed before or is running then. -/
def Builds (count index : ℕ) : Prop :=
  index < a.schedule.accepted count ∧ a.schedule.isCancelled index = false ∧
    (a.schedule.stalls (a.schedule.accepted count) = true →
      index ∈ a.schedule.finished (a.schedule.accepted count) ∨ index ∈ running)

instance (count index : ℕ) : Decidable (a.Builds running count index) :=
  inferInstanceAs (Decidable (_ ∧ _ ∧ (_ → _)))

/-- The tasks that are built, out of `count` that were accepted. -/
def builtTasks (count : ℕ) : List ℕ :=
  (a.schedule.finished count).filter (fun index ↦ !a.schedule.isCancelled index) ++ a.underWay running count

theorem length_submitted : (a.submitted work).length = a.schedule.accepted work.length := by
  rw [submitted, List.length_take]
  exact Nat.min_eq_left (a.schedule.accepted_le _)

variable {a} {work} in
theorem getElem?_submitted {index : ℕ} (h : index < a.schedule.accepted work.length) :
    (a.submitted work)[index]? = work[index]? := by
  rw [submitted, List.getElem?_take_of_lt h]

theorem mem_underWay {count index : ℕ} :
    index ∈ a.underWay running count ↔
      a.schedule.stalls count = true ∧ index ∈ running ∧ index < count ∧
        index ∉ a.schedule.finished count ∧ a.schedule.isCancelled index = false := by
  unfold underWay
  split_ifs with hstalls
  · simp [hstalls, and_assoc]
  · simp [hstalls]

theorem mem_builtTasks {count index : ℕ} :
    index ∈ a.builtTasks running count ↔
      index < count ∧ a.schedule.isCancelled index = false ∧
        (a.schedule.stalls count = true → index ∈ a.schedule.finished count ∨ index ∈ running) := by
  simp only [builtTasks, List.mem_append, List.mem_filter, Bool.not_eq_true', mem_underWay]
  constructor
  · rintro (⟨hfinished, hcancelled⟩ | ⟨-, hrunning, hlt, -, hcancelled⟩)
    · exact ⟨a.schedule.lt_of_mem_finished hfinished, hcancelled, fun _ ↦ .inl hfinished⟩
    · exact ⟨hlt, hcancelled, fun _ ↦ .inr hrunning⟩
  · rintro ⟨hlt, hcancelled, hstarted⟩
    by_cases hfinished : index ∈ a.schedule.finished count
    · exact .inl ⟨hfinished, hcancelled⟩
    · have hstalls : a.schedule.stalls count = true := by
        by_contra hnot
        rw [a.schedule.finished_of_stalls_eq_false (Bool.eq_false_iff.2 hnot),
          a.schedule.mem_completion] at hfinished
        exact hfinished hlt
      exact .inr ⟨hstalls, (hstarted hstalls).resolve_left hfinished, hlt, hfinished, hcancelled⟩

theorem nodup_builtTasks (count : ℕ) : (a.builtTasks running count).Nodup := by
  refine List.Nodup.append (((a.schedule.nodup_completion _).sublist (a.schedule.sublist_finished _)).filter _) ?_ ?_
  · unfold underWay
    split_ifs
    · exact (FirstAppearance.nodup_eraseDups _).filter _
    · exact List.nodup_nil
  · intro index hfinished hunder
    exact ((a.mem_underWay running).1 hunder).2.2.2.1 (List.mem_filter.1 hfinished).1

/-! ### What is gathered from the builds -/

/-- The tasks that complete, and those that are under way when the pool stalls. -/
def allCompletions : List Completion :=
  a.completions p work ++ a.awaited p work running

/-- What is gathered from the builds is gathered from the built tasks in turn. -/
theorem filterMap_builds {β : Type} (f : Task SpanKind → Run BundleRecord → β) :
    (a.allCompletions p work running).filterMap (fun c ↦ c.run.map (f c.task)) =
      (a.builtTasks running (a.submitted work).length).filterMap fun index ↦
        (a.submitted work)[index]?.map fun item ↦ f (a.task item) (a.build p item) := by
  rw [allCompletions, builtTasks, List.filterMap_append, List.filterMap_append]
  congr 1
  · unfold completions
    rw [List.filterMap_filterMap, List.filterMap_filter]
    refine List.filterMap_congr fun index _ ↦ ?_
    cases (a.submitted work)[index]? with
    | none => simp
    | some item => by_cases hcancelled : a.schedule.isCancelled index = true <;> simp [hcancelled]
  · unfold awaited
    rw [List.filterMap_filterMap]
    refine List.filterMap_congr fun index _ ↦ ?_
    cases (a.submitted work)[index]? with
    | none => rfl
    | some item => rfl

variable {a p work}

theorem runAwaiting_of_error {failure : Failure}
    (hread : (Prefetch.run a.context a.stream).outcome = .error failure) : a.runAwaiting running = a.run := by
  unfold runAwaiting
  rw [hread]

/-- The builds that are started are those of the built tasks. -/
theorem started_runAwaiting (hread : (Prefetch.run a.context a.stream).outcome = .ok (p, work)) :
    (a.runAwaiting running).started =
      (a.builtTasks running (a.submitted work).length).filterMap fun index ↦
        (a.submitted work)[index]?.map fun item ↦ ⟨item.transition.bundle, a.correlation⟩ := by
  refine Eq.trans ?_
    (a.filterMap_builds p work running fun task _ ↦ StartedBuild.mk task.item.transition.bundle task.correlation)
  simp only [runAwaiting, run, runBuilds, hread, allCompletions, List.filterMap_append]
  rfl

theorem flatMap_calls (completions : List Completion) :
    completions.flatMap (·.calls) = (completions.filterMap fun c ↦ c.run.map (·.calls)).flatten := by
  induction completions with
  | nil => rfl
  | cons c rest ih =>
    rw [List.flatMap_cons, ih, Completion.calls]
    cases h : c.run <;> simp [h]

/-- After the caller's lookups come those of the built tasks. -/
theorem calls_runAwaiting (hread : (Prefetch.run a.context a.stream).outcome = .ok (p, work)) :
    (a.runAwaiting running).calls = (Prefetch.run a.context a.stream).calls ++
      ((a.builtTasks running (a.submitted work).length).filterMap fun index ↦
        (a.submitted work)[index]?.map fun item ↦ (a.build p item).calls).flatten := by
  rw [← a.filterMap_builds p work running fun _ run ↦ run.calls, ← flatMap_calls, allCompletions,
    List.flatMap_append, ← List.append_assoc]
  simp only [runAwaiting, run, runBuilds, hread]

end BundleLedger.Attempt
