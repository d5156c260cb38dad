import BundleLedger.Proofs.Bundle.Built
import BundleLedger.Proofs.Bundle.Lookup
import BundleLedger.Proofs.Bundle.Reference

/-!
# The order of lookups

An attempt makes its lookups by plan (`Run.Makes`): in the planned order, up to the first that fails. The caller
looks up the account and its bundles, then the creation of each ranked bundle in the order of the ranks. Only when
all of this has been read do the builds start, each of which makes at most two lookups for its own bundle on a
worker: those that complete, and those that are under way when the pool stalls and are waited for. Main statement:
`Attempt.runAwaiting_reads_first`.
-/

set_option autoImplicit false

namespace BundleLedger

open Result

/-! ### Lookups by plan -/

namespace Context

/-- The lookups that are made of those planned: all up to the first that fails, which is made too. -/
def upTo (ctx : Context) : List Lookup → List Lookup
  | [] => []
  | lookup :: rest => lookup :: if (ctx.failure? lookup).isSome then [] else ctx.upTo rest

/-- Whether all lookups of a plan have their answers. -/
def answers (ctx : Context) (plan : List Lookup) : Bool :=
  plan.all fun lookup ↦ (ctx.failure? lookup).isNone

variable {ctx : Context} {plan rest : List Lookup}

/-- After a lookup has failed nothing else is looked up. -/
theorem upTo_append :
    ctx.upTo (plan ++ rest) = ctx.upTo plan ++ if ctx.answers plan then ctx.upTo rest else [] := by
  induction plan with
  | nil => rfl
  | cons lookup plan ih =>
    rw [List.cons_append, upTo, upTo, ih]
    cases h : ctx.failure? lookup with
    | none => simp [answers, h]
    | some failure => simp [answers, h]

end Context

namespace Run

variable {ctx : Context} {side : Side} {plan rest : List Lookup} {α β : Type}

/-- Whether a run makes the lookups of a plan on one side, up to the first that fails, and has a value exactly if
none of them does. -/
structure Makes (ctx : Context) (side : Side) (plan : List Lookup) (x : Run α) : Prop where
  calls : x.calls = (ctx.upTo plan).map fun lookup ↦ ⟨lookup, side⟩
  answers : ctx.answers plan = true ↔ ∃ value, x.outcome = .ok value

theorem makes_pure (value : α) : Makes ctx side [] (Pure.pure value) :=
  ⟨rfl, fun _ ↦ ⟨value, rfl⟩, fun _ ↦ rfl⟩

theorem makes_call {lookup : Lookup} {answer : Except Failure α} (h : ctx.failure? lookup = error? answer) :
    Makes ctx side [lookup] (call side lookup answer) := by
  refine ⟨?_, ?_⟩
  · simp [call, Context.upTo]
  · simp only [Context.answers, List.all_cons, List.all_nil, Bool.and_true, h, outcome_call]
    cases answer <;> simp [error?]

theorem Makes.bind {x : Run α} {f : α → Run β} (hx : Makes ctx side plan x)
    (hf : ∀ value, x.outcome = .ok value → Makes ctx side rest (f value)) :
    Makes ctx side (plan ++ rest) (x >>= f) := by
  have hanswers : ctx.answers (plan ++ rest) = (ctx.answers plan && ctx.answers rest) := List.all_append
  rcases h : x.outcome with failure | value
  · have hnone : ctx.answers plan = false := by
      rw [Bool.eq_false_iff, Ne, hx.answers, h]
      simp
    refine ⟨?_, ?_⟩
    · change (x.bind f).calls = _
      rw [bind_of_error f h, hx.calls, Context.upTo_append, hnone]
      simp
    · rw [hanswers, hnone, outcome_bind, h]
      simp [Bind.bind, Except.bind]
  · have hall : ctx.answers plan = true := hx.answers.2 ⟨value, h⟩
    refine ⟨?_, ?_⟩
    · change (x.bind f).calls = _
      rw [bind_of_ok f h, hx.calls, (hf value h).calls, Context.upTo_append, hall, if_pos rfl, List.map_append]
    · rw [hanswers, hall, Bool.true_and, (hf value h).answers, outcome_bind, h]
      rfl

theorem Makes.each {f : α → Run β} {plan : α → List Lookup} (hf : ∀ item, Makes ctx side (plan item) (f item))
    (items : List α) : Makes ctx side (items.flatMap plan) (each f items) := by
  induction items with
  | nil => exact makes_pure []
  | cons item rest ih =>
    rw [List.flatMap_cons]
    refine (hf item).bind fun value _ ↦ ?_
    rw [← List.append_nil (rest.flatMap plan)]
    exact ih.bind fun values _ ↦ makes_pure _

theorem Makes.mapFailure {x : Run α} (hx : Makes ctx side plan x) (f : Failure → Failure) :
    Makes ctx side plan (x.mapFailure f) := by
  refine ⟨by rw [calls_mapFailure, hx.calls], ?_⟩
  simp only [outcome_mapFailure, mapError_eq_ok_iff, hx.answers]

end Run

/-! ### What is read before the builds -/

namespace Prefetch

/-- The lookups for the account and its bundles, in order. -/
def factLookups : List Lookup :=
  [.account, .accountRecordId, .tenantRecordId, .reportGroup, .converter, .bundles]

theorem makes_facts (ctx : Context) : (facts ctx).Makes ctx .caller factLookups :=
  (Run.makes_call rfl).bind fun _ _ ↦ (Run.makes_call rfl).bind fun _ _ ↦ (Run.makes_call rfl).bind fun _ _ ↦
    (Run.makes_call rfl).bind fun _ _ ↦ (Run.makes_call rfl).bind fun _ _ ↦ (Run.makes_call rfl).bind fun _ _ ↦
      Run.makes_pure _

end Prefetch

namespace Attempt

variable (a : Attempt)

/-- The ranked bundles in the order of their ranks; none when the bundles of the account are not known. -/
def rankedBundles : List Uuid :=
  match a.context.bundles with
  | .ok bundles => firstSeen (baseTransitions bundles a.stream.transitions)
  | .error _ => []

/-- The lookups that the caller makes when none fails: those for the account and its bundles and, unless the
transitions break off, one for the creation of each ranked bundle. -/
def plan : List Lookup :=
  Prefetch.factLookups ++ if a.stream.failure.isNone then a.rankedBundles.map .creationAudit else []

/-- Whether everything can be read that the caller reads. -/
def isRead : Bool :=
  a.stream.failure.isNone && a.context.answers a.plan

/-- The lookups that the build for a bundle makes when none fails: two for the bundle last listed with that
identifier. A build that fails as it starts makes none. -/
def buildPlan (id : Uuid) : List Lookup :=
  match a.obstacle id, a.context.bundles with
  | none, .ok bundles =>
    match (bundles.filter fun b ↦ b.id = id).getLast? with
    | some b => [.bundleRecordId b.id, .latestForExternalKey b.externalKey]
    | none => []
  | _, _ => []

/-- The bundles of tasks, by the numbers of the tasks. -/
def bundlesOf (indices : List ℕ) : List Uuid :=
  indices.filterMap fun index ↦ a.rankedBundles[index]?

/-- The tasks that are built for the ranked bundles, in the order in which the attempt gathers their builds: those
that complete, in the order of completion, and those under way when the pool stalls. -/
def buildOrder (running : List ℕ) : List ℕ :=
  a.builtTasks running (a.schedule.accepted a.rankedBundles.length)

/-- The bundles that are built, in that order. None is built unless everything has been read. -/
def builtBundles (running : List ℕ) : List Uuid :=
  if a.isRead then a.bundlesOf (a.buildOrder running) else []

theorem nodup_rankedBundles : a.rankedBundles.Nodup := by
  unfold rankedBundles
  split
  · exact nodup_firstSeen _
  · exact List.nodup_nil

variable {a} {p : Prefetched} {work : List WorkItem}

theorem rankedBundles_eq (hp : a.context.bundles = .ok p.bundles) :
    a.rankedBundles = (Prefetch.ranking p a.stream).latest.keys := by
  rw [rankedBundles, hp, Prefetch.ranking, Ranking.keys_latest_ofTransitions, qualifying_baseSubscriptions]

/-- When the transitions do not break off, all that is read is read by the plan. -/
theorem makes_prefetch (h : a.stream.failure = none) :
    (Prefetch.run a.context a.stream).Makes a.context .caller a.plan := by
  have hplan : a.plan = Prefetch.factLookups ++ a.rankedBundles.map .creationAudit := by
    rw [plan, h]
    rfl
  rw [hplan]
  refine (Prefetch.makes_facts a.context).bind fun p hp ↦ ?_
  have hstream : Run.ofExcept a.stream.collect = Pure.pure a.stream.transitions := by
    rw [Prefetch.collect_eq_ok_iff.2 ⟨h, rfl⟩]
    rfl
  have hranked : a.rankedBundles.map Lookup.creationAudit =
      [] ++ ((Prefetch.ranking p a.stream).latest.flatMap (fun entry ↦ [.creationAudit entry.1]) ++ []) := by
    rw [rankedBundles_eq (Prefetch.facts_eq_ok_iff.1 hp).2.2.2.2.2, List.nil_append, List.append_nil,
      ← List.map_eq_flatMap, Keyed.keys, List.map_map]
    rfl
  rw [hstream, hranked]
  refine (Run.makes_pure a.stream.transitions).bind fun transitions htransitions ↦ ?_
  obtain rfl : a.stream.transitions = transitions := Except.ok.inj htransitions
  refine (Run.Makes.each (fun entry ↦ ?_) _).bind fun _ _ ↦ Run.makes_pure _
  exact (Run.makes_call rfl).bind fun _ _ ↦ Run.makes_pure _

/-- When the transitions break off, nothing is looked up after them. -/
theorem calls_prefetch (a : Attempt) :
    (Prefetch.run a.context a.stream).calls = (a.context.upTo a.plan).map fun lookup ↦ ⟨lookup, .caller⟩ := by
  cases h : a.stream.failure with
  | none => exact (makes_prefetch h).calls
  | some failure =>
    have hplan : a.plan = Prefetch.factLookups := by
      rw [plan, h]
      exact List.append_nil _
    have hstream : a.stream.collect = .error failure := by
      rw [Stream.collect, h]
    rw [hplan, ← (Prefetch.makes_facts a.context).calls, Prefetch.run, hstream]
    exact Run.calls_bind_ofExcept _ fun _ ↦ .error failure

theorem isRead_iff : a.isRead = true ↔ ∃ read, (Prefetch.run a.context a.stream).outcome = .ok read := by
  unfold isRead
  cases h : a.stream.failure with
  | none => simpa using (makes_prefetch h).answers
  | some failure =>
    simp only [Option.isNone_some, Bool.false_and, Bool.false_eq_true, false_iff, not_exists]
    rintro ⟨p, work⟩ hread
    have hstream := (Prefetch.run_eq_ok_iff.1 hread).1.stream
    simp [h] at hstream

theorem not_isRead {failure : Failure} (h : (Prefetch.run a.context a.stream).outcome = .error failure) :
    ¬a.isRead = true := by
  rw [isRead_iff, h]
  simp

/-- The work for the ranked bundles, one item for each. -/
theorem bundles_work (hread : (Prefetch.run a.context a.stream).outcome = .ok (p, work)) :
    work.map (·.transition.bundle) = a.rankedBundles := by
  obtain ⟨hp, hwork⟩ := Prefetch.run_eq_ok_iff.1 hread
  rw [rankedBundles_eq hp.bundles]
  refine (Pairing.map_eq_map (((List.forall₂_and_left _ _).2 ⟨fun _ hentry ↦ hentry, hwork⟩).imp ?_)).symm
  rintro entry item ⟨hentry, hitem⟩
  rw [(Prefetch.workItem_eq_ok_iff.1 hitem).2.1]
  exact (bundle_of_lastOf (Ranking.mem_latest_ofTransitions _ _ hentry).1).symm

theorem length_rankedBundles (hread : (Prefetch.run a.context a.stream).outcome = .ok (p, work)) :
    a.rankedBundles.length = work.length := by
  rw [← bundles_work hread, List.length_map]

theorem buildOrder_eq (running : List ℕ) (hread : (Prefetch.run a.context a.stream).outcome = .ok (p, work)) :
    a.buildOrder running = a.builtTasks running (a.submitted work).length := by
  rw [buildOrder, length_rankedBundles hread, length_submitted]

/-- An accepted task is for the ranked bundle at its place. -/
theorem getElem?_rankedBundles (hread : (Prefetch.run a.context a.stream).outcome = .ok (p, work)) {index : ℕ}
    (hlt : index < (a.submitted work).length) :
    a.rankedBundles[index]? = (a.submitted work)[index]?.map (·.transition.bundle) := by
  rw [length_submitted] at hlt
  rw [getElem?_submitted hlt, ← bundles_work hread, List.getElem?_map]

/-! ### The lookups of a build -/

/-- A build makes its lookups by plan, on a worker. -/
theorem calls_build (hp : a.context.bundles = .ok p.bundles) (item : WorkItem) :
    (a.build p item).calls =
      (a.context.upTo (a.buildPlan item.transition.bundle)).map fun lookup ↦ ⟨lookup, .worker⟩ := by
  unfold build buildPlan
  rw [hp]
  cases a.obstacle item.transition.bundle with
  | some failure => rfl
  | none =>
    dsimp only
    rw [← p.bundle?_eq, Build.run]
    cases p.bundle? item.transition.bundle with
    | none => rfl
    | some b =>
      have hlookups : (Build.lookups a.context p b).Makes a.context .worker
          [.bundleRecordId b.id, .latestForExternalKey b.externalKey] :=
        Run.Makes.mapFailure ((Run.makes_call rfl).bind fun _ _ ↦ (Run.makes_call rfl).bind fun _ _ ↦
          Run.makes_pure _) _
      rw [← hlookups.calls]
      exact Run.calls_bind_ofExcept _ _

/-- The builds make the lookups of the built bundles. -/
theorem calls_builds (running : List ℕ) (hread : (Prefetch.run a.context a.stream).outcome = .ok (p, work)) :
    ((a.builtTasks running (a.submitted work).length).filterMap fun index ↦
        (a.submitted work)[index]?.map fun item ↦ (a.build p item).calls).flatten =
      (a.builtBundles running).flatMap fun id ↦
        (a.context.upTo (a.buildPlan id)).map fun lookup ↦ ⟨lookup, .worker⟩ := by
  have hp := (Prefetch.run_eq_ok_iff.1 hread).1.bundles
  rw [builtBundles, if_pos (isRead_iff.2 ⟨_, hread⟩), bundlesOf, buildOrder_eq running hread, List.flatMap_def,
    List.map_filterMap]
  refine congrArg List.flatten (List.filterMap_congr fun index hindex ↦ ?_)
  rw [getElem?_rankedBundles hread ((a.mem_builtTasks running).1 hindex).1, Option.map_map]
  exact congrArg (Option.map · _) (funext fun item ↦ calls_build hp item)

/-! ### All lookups -/

/-- Whether an attempt reads everything on the caller's side before any build starts, and the builds look up
nothing but what their own bundles need, when these tasks are running as the pool stalls. -/
structure ReadsFirst (a : Attempt) (running : List ℕ) : Prop where
  /-- The caller's lookups by plan, and then those of each build by its own. -/
  calls : (a.runAwaiting running).calls =
    (a.context.upTo a.plan).map (fun lookup ↦ ⟨lookup, .caller⟩) ++
      (a.builtBundles running).flatMap fun id ↦
        (a.context.upTo (a.buildPlan id)).map fun lookup ↦ ⟨lookup, .worker⟩
  /-- The caller looks nothing up twice. -/
  plan_nodup : a.plan.Nodup
  /-- The bundles stand in the order of their ranks. -/
  ranks : ∀ bundles, a.context.bundles = .ok bundles →
    (Ranking.ofTransitions (Prefetched.baseSubscriptions bundles) a.stream.transitions).ranks =
      a.rankedBundles.zipIdx 1
  /-- A build runs only when everything has been read. -/
  all_read : a.builtBundles running ≠ [] →
    a.stream.failure = none ∧ ∀ lookup ∈ a.plan, a.context.failure? lookup = none
  /-- No bundle is built twice, or without a rank, and those that are built are those of the started builds. -/
  built_nodup : (a.builtBundles running).Nodup
  built_ranked : ∀ id ∈ a.builtBundles running, id ∈ a.rankedBundles
  built_started : (a.runAwaiting running).started.map (·.bundle) = a.builtBundles running
  /-- A build makes no lookup, or one for its own bundle and then, if that has an answer, one for its key. -/
  build : ∀ id, a.context.upTo (a.buildPlan id) = [] ∨
    ∃ bundles, a.context.bundles = .ok bundles ∧ ∃ b ∈ bundles, b.id = id ∧
      a.context.upTo (a.buildPlan id) = .bundleRecordId id ::
        if (a.context.failure? (.bundleRecordId id)).isSome then [] else [.latestForExternalKey b.externalKey]

theorem calls_eq_upTo (a : Attempt) (running : List ℕ) :
    (a.runAwaiting running).calls =
      (a.context.upTo a.plan).map (fun lookup ↦ ⟨lookup, .caller⟩) ++
        (a.builtBundles running).flatMap fun id ↦
          (a.context.upTo (a.buildPlan id)).map fun lookup ↦ ⟨lookup, .worker⟩ := by
  rw [← calls_prefetch]
  rcases hread : (Prefetch.run a.context a.stream).outcome with failure | ⟨p, work⟩
  · rw [builtBundles, if_neg (not_isRead hread), List.flatMap_nil, List.append_nil,
      runAwaiting_of_error running hread]
    simp only [run, hread]
  · rw [calls_runAwaiting running hread, calls_builds running hread]

/-- The builds that are started are those of the built bundles, and each sees the caller's correlation id. -/
theorem started_eq (a : Attempt) (running : List ℕ) :
    (a.runAwaiting running).started = (a.builtBundles running).map (⟨·, a.correlation⟩) := by
  rcases hread : (Prefetch.run a.context a.stream).outcome with failure | ⟨p, work⟩
  · rw [builtBundles, if_neg (not_isRead hread), runAwaiting_of_error running hread]
    simp only [run, hread, List.map_nil]
  · rw [builtBundles, if_pos (isRead_iff.2 ⟨_, hread⟩), bundlesOf, buildOrder_eq running hread,
      started_runAwaiting running hread, List.map_filterMap]
    refine List.filterMap_congr fun index hindex ↦ ?_
    rw [getElem?_rankedBundles hread ((a.mem_builtTasks running).1 hindex).1, Option.map_map]
    rfl

theorem bundles_started (a : Attempt) (running : List ℕ) :
    (a.runAwaiting running).started.map (·.bundle) = a.builtBundles running := by
  rw [started_eq, List.map_map]
  exact List.map_id _

theorem nodup_plan (a : Attempt) : a.plan.Nodup := by
  unfold plan
  split_ifs
  · refine List.Nodup.append (by decide) (a.nodup_rankedBundles.map fun _ _ h ↦ Lookup.creationAudit.inj h) ?_
    intro lookup hfact hcreation
    obtain ⟨id, -, rfl⟩ := List.mem_map.1 hcreation
    simp [Prefetch.factLookups] at hfact
  · rw [List.append_nil]
    decide

/-- Different tasks are for different bundles. -/
theorem nodup_bundlesOf {indices : List ℕ} (h : indices.Nodup) : (a.bundlesOf indices).Nodup := by
  refine h.filterMap fun index other id hindex hother ↦ ?_
  have hlt : index < a.rankedBundles.length := (List.getElem?_eq_some_iff.1 hindex).1
  exact (List.getElem?_inj hlt a.nodup_rankedBundles).1 (hindex.trans hother.symm)

theorem nodup_builtBundles (a : Attempt) (running : List ℕ) : (a.builtBundles running).Nodup := by
  unfold builtBundles
  split_ifs
  · exact nodup_bundlesOf (a.nodup_builtTasks running _)
  · exact List.nodup_nil

theorem mem_rankedBundles_of_built {running : List ℕ} {id : Uuid} (h : id ∈ a.builtBundles running) :
    id ∈ a.rankedBundles := by
  unfold builtBundles at h
  split_ifs at h
  · obtain ⟨index, -, hindex⟩ := List.mem_filterMap.1 h
    exact List.mem_of_getElem? hindex
  · simp at h

theorem isRead_of_built {running : List ℕ} (h : a.builtBundles running ≠ []) : a.isRead = true := by
  by_contra hnot
  exact h (if_neg hnot)

/-- A build makes no lookup, or one for its own bundle and then, if that has an answer, one for its key. -/
theorem upTo_buildPlan (a : Attempt) (id : Uuid) :
    a.context.upTo (a.buildPlan id) = [] ∨
      ∃ bundles, a.context.bundles = .ok bundles ∧ ∃ b ∈ bundles, b.id = id ∧
        a.context.upTo (a.buildPlan id) = .bundleRecordId id ::
          if (a.context.failure? (.bundleRecordId id)).isSome then [] else [.latestForExternalKey b.externalKey] := by
  unfold buildPlan
  split
  · rename_i bundles hobstacle hbundles
    split
    · rename_i b hb
      obtain ⟨hmem, hid⟩ := List.mem_filter.1 (List.mem_of_getLast? hb)
      obtain rfl : b.id = id := of_decide_eq_true hid
      exact .inr ⟨bundles, hbundles, b, hmem, rfl, by simp [Context.upTo]⟩
    · exact .inl rfl
  · exact .inl rfl

/-- Every attempt reads everything on the caller's side first, for any context, transitions and schedule, and
whatever is running as the pool stalls; with nothing running it is the attempt without a wait. -/
theorem runAwaiting_reads_first (a : Attempt) (running : List ℕ) :
    a.ReadsFirst running ∧ a.runAwaiting [] = a.run :=
  ⟨{ calls := calls_eq_upTo a running
     plan_nodup := nodup_plan a
     ranks := fun bundles hbundles ↦ by
       rw [Ranking.ranks_ofTransitions, qualifying_baseSubscriptions, rankedBundles, hbundles]
     all_read := fun hbuilt ↦ by simpa [isRead, Context.answers] using isRead_of_built hbuilt
     built_nodup := nodup_builtBundles a running
     built_ranked := fun _ ↦ mem_rankedBundles_of_built
     built_started := bundles_started a running
     build := upTo_buildPlan a },
    a.runAwaiting_nil⟩

end Attempt
end BundleLedger
