import BundleLedger.Bundle.Traced
import BundleLedger.Proofs.Bundle.Drain

/-!
# The span tree of an attempt

Every span of a build is opened in the span that its task took along, whatever begins and ends on the workers
meanwhile. One event keeps this (`Workers.Holds.begins`, `Workers.Holds.ends`), so it holds along every interleaving:
the spans of the builds end in the order in which the builds do, one for each, and no other is left open
(`Workers.leaves_of_interleaves`). The builds may end in any order, also in another than that in which the attempt
gathers them. The tasks that are cancelled, refused or never taken up have no events and so no spans, and the span of
the attempt ends after those of the builds (`Attempt.mirrors_trace`).
-/

set_option autoImplicit false

namespace BundleLedger

open Result

/-! ### Spans that are opened and end -/

namespace Tracer

variable {t u : Tracer} {kind : SpanKind} {current : Option ℕ} {number : ℕ}

theorem next_start : (t.start kind current).next = t.next + 1 := by
  simp [start, next]

/-- The next span that is opened keeps the kind and the parent that it is opened with. -/
theorem getElem?_opened_next {entry : SpanKind × Option ℕ} {more : List (SpanKind × Option ℕ)}
    (h : u.opened = t.opened ++ entry :: more) : u.opened[t.next]? = some entry := by
  rw [h, next, List.getElem?_append_right (Nat.le_refl _), Nat.sub_self, List.getElem?_cons_zero]

theorem getElem?_opened_start : (t.start kind current).opened[t.next]? = some (kind, current) :=
  getElem?_opened_next rfl

theorem getElem?_opened_of_prefix {entry : SpanKind × Option ℕ} (h : t.opened <+: u.opened)
    (hentry : t.opened[number]? = some entry) : u.opened[number]? = some entry := by
  obtain ⟨more, hmore⟩ := h
  rw [← hmore, List.getElem?_append_left (List.getElem?_eq_some_iff.1 hentry).1, hentry]

theorem ended_finish {scope : Scope} {failed : Bool} (h : t.opened[number]? = some (kind, current)) :
    (t.finish number scope failed).ended = t.ended ++ [⟨number, current, scope, failed⟩] := by
  rw [finish, h]
  rfl

theorem kind?_eq_of_prefix (h : t.opened <+: u.opened) (hkind : t.kind? number = some kind) :
    u.kind? number = some kind := by
  obtain ⟨entry, hentry, rfl⟩ := Option.map_eq_some_iff.1 hkind
  rw [kind?, getElem?_opened_of_prefix h hentry, Option.map_some]

/-- The current span keeps its kind while others are opened. -/
theorem bind_kind?_eq {parent : Option SpanKind} (h : t.opened <+: u.opened)
    (hparent : current.map t.kind? = parent.map some) : current.bind u.kind? = parent := by
  cases current with
  | none =>
    cases parent with
    | none => rfl
    | some kind => simp at hparent
  | some number =>
    cases parent with
    | none => simp at hparent
    | some kind => exact kind?_eq_of_prefix h (Option.some.inj hparent)

end Tracer

/-! ### Builds on the workers -/

namespace Workers

variable {a : Attempt} {p : Prefetched} {tasks : List (Task ℕ)} {begun order : List ℕ} {events : List BuildEvent}
  {w u : Workers} {index : ℕ} {task : Task ℕ}

/-- The span of a build when it ends. -/
def spanOf (a : Attempt) (p : Prefetched) (task : Task ℕ) (number : ℕ) : EndedSpan where
  number := number
  parent := task.span
  scope := .build p.account.id task.item.transition.bundle task.item.rank
  failed := !(a.build p task.item).outcome.toBool

/-- Whether the builds under way are those of the tasks that have begun, each with a span that was opened in the one
that its task took along. -/
structure Holds (tasks : List (Task ℕ)) (begun : List ℕ) (w : Workers) : Prop where
  begun : (w.underWay.map (·.1)).Perm begun
  opened : ∀ build ∈ w.underWay, ∃ task, tasks[build.1]? = some task ∧
    w.tracer.opened[build.2]? = some (.build, task.span)

theorem after_begins (htask : tasks[index]? = some task) :
    w.after a p tasks (.begins index) =
      ⟨w.tracer.start .build task.span, (index, w.tracer.next) :: w.underWay⟩ := by
  simp only [after, htask]

/-- A build that begins opens its span in the one that its task took along. -/
theorem Holds.begins (h : w.Holds tasks begun) (htask : tasks[index]? = some task) :
    (w.after a p tasks (.begins index)).Holds tasks (index :: begun) := by
  rw [after_begins htask]
  constructor
  · exact h.begun.cons index
  · intro build hbuild
    rcases List.mem_cons.1 hbuild with rfl | hbuild
    · exact ⟨task, htask, Tracer.getElem?_opened_start⟩
    · obtain ⟨other, hother, hopened⟩ := h.opened build hbuild
      exact ⟨other, hother, Tracer.getElem?_opened_of_prefix (List.prefix_append _ _) hopened⟩

/-- A build that ends has begun, and ends its own span. -/
theorem Holds.ends (a : Attempt) (p : Prefetched) (h : w.Holds tasks begun) (hmem : index ∈ begun) :
    ∃ task number, tasks[index]? = some task ∧
      w.underWay.Perm ((index, number) :: (w.after a p tasks (.ends index)).underWay) ∧
      (w.after a p tasks (.ends index)).tracer.opened = w.tracer.opened ∧
      (w.after a p tasks (.ends index)).tracer.ended = w.tracer.ended ++ [spanOf a p task number] ∧
      (w.after a p tasks (.ends index)).Holds tasks (begun.erase index) := by
  have hbegun : index ∈ w.underWay.map (·.1) := h.begun.mem_iff.2 hmem
  obtain ⟨⟨other, number⟩, hfound⟩ : ∃ build, w.underWay.find? (·.1 == index) = some build := by
    rw [← Option.isSome_iff_exists, List.find?_isSome]
    obtain ⟨build, hbuild, rfl⟩ := List.mem_map.1 hbegun
    exact ⟨build, hbuild, beq_self_eq_true _⟩
  obtain rfl : index = other := (beq_iff_eq.1 (List.find?_some hfound :)).symm
  have hbuild := List.mem_of_find?_eq_some hfound
  obtain ⟨task, htask, hopened⟩ := h.opened _ hbuild
  have hperm := List.perm_cons_erase hbuild
  have hafter : w.after a p tasks (.ends index) = ⟨w.tracer.finish number (spanOf a p task number).scope
      (spanOf a p task number).failed, w.underWay.erase (index, number)⟩ := by
    simp only [after, htask, hfound]
    rfl
  rw [hafter]
  refine ⟨task, number, htask, hperm, rfl, Tracer.ended_finish hopened, ?_, ?_⟩
  · have hkeys := ((hperm.map (·.1)).symm.trans h.begun).trans (List.perm_cons_erase hmem)
    exact hkeys.cons_inv
  · exact fun other hother ↦ h.opened other (List.mem_of_mem_erase hother)

/-- What a run leaves: the spans of the builds that were to end have ended in this order, and with those under way
before they are all that were opened. -/
structure Leaves (a : Attempt) (p : Prefetched) (tasks : List (Task ℕ)) (order : List ℕ) (w u : Workers)
    (spans : List EndedSpan) : Prop where
  ended : u.tracer.ended = w.tracer.ended ++ spans
  builds : List.Forall₂ (fun index span ↦ ∃ task, tasks[index]? = some task ∧ span = spanOf a p task span.number)
    order spans
  opened : ∃ more, u.tracer.opened = w.tracer.opened ++ more ∧
    (spans.map (·.number)).Perm (w.underWay.map (·.2) ++ List.range' w.tracer.next more.length)

/-- By induction on the interleaving, since every event keeps what holds of the builds under way. -/
theorem leaves_of_interleaves (a : Attempt) (p : Prefetched) (h : Interleaves begun order events)
    (horder : ∀ index ∈ order, index < tasks.length) (hw : w.Holds tasks begun) :
    ∃ spans, Leaves a p tasks order w (events.foldl (after a p tasks) w) spans := by
  induction h generalizing w with
  | done =>
    have hnone : w.underWay = [] := List.map_eq_nil_iff.1 hw.begun.eq_nil
    refine ⟨[], (List.append_nil _).symm, .nil, [], (List.append_nil _).symm, ?_⟩
    simp [hnone]
  | @begins begun order events index hmem hnew rest ih =>
    have hlt : index < tasks.length := horder index hmem
    have htask : tasks[index]? = some tasks[index] := List.getElem?_eq_getElem hlt
    have hopens := after_begins (a := a) (p := p) (w := w) htask
    obtain ⟨spans, hleaves⟩ := ih horder (hw.begins htask)
    obtain ⟨more, hmore, hnumbers⟩ := hleaves.opened
    rw [hopens] at hmore hnumbers
    refine ⟨spans, ?_, hleaves.builds, (.build, tasks[index].span) :: more, ?_, hnumbers.trans ?_⟩
    · rw [List.foldl_cons, hleaves.ended, hopens]
      rfl
    · rw [List.foldl_cons, hopens, hmore, Tracer.start, List.append_assoc, List.singleton_append]
    · -- The number of the span that is opened joins those of the builds under way.
      rw [List.map_cons, Tracer.next_start, List.length_cons, List.range'_succ]
      exact List.perm_middle.symm
  | @ends begun order events index hmem rest ih =>
    obtain ⟨task, number, htask, hperm, hopened, hended, hholds⟩ := hw.ends a p hmem
    obtain ⟨spans, hleaves⟩ := ih (fun other hother ↦ horder other (List.mem_cons_of_mem _ hother)) hholds
    obtain ⟨more, hmore, hnumbers⟩ := hleaves.opened
    have hnext : (w.after a p tasks (.ends index)).tracer.next = w.tracer.next := congrArg List.length hopened
    rw [hopened] at hmore
    rw [hnext] at hnumbers
    refine ⟨spanOf a p task number :: spans, ?_, .cons ⟨task, htask, rfl⟩ hleaves.builds, more, hmore, ?_⟩
    · rw [List.foldl_cons, hleaves.ended, hended, List.append_assoc, List.singleton_append]
    · -- The number of the span that ends is one of a build that was under way.
      exact (hnumbers.cons number).trans ((hperm.map (·.2)).symm.append_right _)

end Workers

/-! ### The attempt and its builds -/

/-- The bundle whose build a span covers. -/
def Scope.bundle? : Scope → Option Uuid
  | .build _ bundle _ => some bundle
  | .refresh .. | .aggregation _ => none

namespace Attempt

variable {a : Attempt} {p : Prefetched} {work : List WorkItem} {running : List ℕ} {events : List BuildEvent}
  {current : Option ℕ} {t : Tracer}

/-- Whether a span is that of a started build, opened in a given one: it shows the bundle and its rank, and has failed
if the build did. -/
structure IsSpanOf (a : Attempt) (parent : ℕ) (started : StartedBuild) (span : EndedSpan) : Prop where
  parent : span.parent = some parent
  kind : span.scope.kind = .build
  covers : span.scope.bundle? = some started.bundle
  bundle : Datum.lookup span.scope.attributes "bundle_id" = some (.text started.bundle.text)
  rank : started.bundle ∈ a.rankedBundles ∧
    Datum.lookup span.scope.attributes "bundle_account_rank" =
      some (.int (a.rankedBundles.idxOf started.bundle + 1 : ℕ))
  failed : ∃ p work item, (Prefetch.run a.context a.stream).outcome = .ok (p, work) ∧ item ∈ work ∧
    item.transition.bundle = started.bundle ∧
    (span.failed = true ↔ ∃ failure, (a.build p item).outcome = .error failure)

/-- The builds that are started when those of the given tasks end in the given order. -/
def startedIn (a : Attempt) (order : List ℕ) : List StartedBuild :=
  if a.isRead then (a.bundlesOf order).map (⟨·, a.correlation⟩) else []

/-- Whether the spans that end while an attempt is made, between two tracers, mirror the attempt, when the builds of
the tasks end in an order. -/
structure Mirrors (a : Attempt) (running order : List ℕ) (current : Option ℕ) (t u : Tracer)
    (builds : List EndedSpan) (aggregate : EndedSpan) : Prop where
  /-- The spans of the builds end first, then that of the attempt. -/
  ended : u.ended = t.ended ++ (builds ++ [aggregate])
  /-- They are all that were opened, each with a number of its own. -/
  opened : ∃ more, u.opened = t.opened ++ more ∧
    ((builds ++ [aggregate]).map (·.number)).Perm (List.range' t.next more.length)
  parent : aggregate.parent = current
  kind : aggregate.scope.kind = .aggregation
  failed : aggregate.failed = true ↔ ∃ e, (a.runAwaiting running).result = .error e
  /-- The span of the attempt shows the number of ranked bundles exactly if everything could be read first. -/
  counted : ∀ value, Datum.lookup aggregate.scope.attributes "bundle_count" = some value ↔
    (∃ read, (Prefetch.run a.context a.stream).outcome = .ok read) ∧ value = .int a.rankedBundles.length
  /-- Each build that was started has one span, in the order in which the builds ended. -/
  started : List.Forall₂ (a.IsSpanOf aggregate.number) (a.startedIn order) builds
  /-- These are the builds that the attempt starts, in its order if they end in that one. -/
  gathered : (a.startedIn order).Perm (a.runAwaiting running).started ∧
    (order = a.buildOrder running → a.startedIn order = (a.runAwaiting running).started)
  /-- A task has a span if it is built, and none if it is cancelled, refused or not taken up. -/
  once : ∀ (index : ℕ) (bundle : Uuid), a.rankedBundles[index]? = some bundle →
    (builds.map (·.scope.bundle?)).count (some bundle) =
      if a.isRead = true ∧ a.Builds running a.rankedBundles.length index then 1 else 0
  /-- The spans are those that the attempt reports, in its order if the builds end in that one. -/
  reported : current.map t.kind? = a.parent.map some →
    ((builds ++ [aggregate]).map u.report).Perm (a.runAwaiting running).telemetry.spans ∧
      (order = a.buildOrder running → (builds ++ [aggregate]).map u.report = (a.runAwaiting running).telemetry.spans)

/-- The rank of a task is the place of its bundle, counted from one. -/
theorem rank_work (hread : (Prefetch.run a.context a.stream).outcome = .ok (p, work)) {item : WorkItem}
    (hitem : item ∈ work) : item.rank = a.rankedBundles.idxOf item.transition.bundle + 1 := by
  obtain ⟨hp, hwork⟩ := Prefetch.run_eq_ok_iff.1 hread
  obtain ⟨entry, hentry, hitem⟩ := Pairing.exists_mem_left hwork hitem
  obtain ⟨-, htransition, hrank⟩ := Prefetch.workItem_eq_ok_iff.1 hitem
  obtain ⟨hlast, hplace⟩ := Ranking.mem_latest_ofTransitions _ _ hentry
  rw [hrank, htransition, bundle_of_lastOf hlast, rankedBundles_eq hp.bundles, Prefetch.ranking,
    Ranking.keys_latest_ofTransitions]
  exact hplace

/-- Waiting for builds makes no difference to the result. -/
theorem result_runAwaiting (a : Attempt) (running : List ℕ) : (a.runAwaiting running).result = a.run.result := by
  unfold runAwaiting
  split <;> rfl

/-! ### An attempt that could not be read -/

theorem trace_of_error {failure : Failure} (events : List BuildEvent) (current : Option ℕ) (t : Tracer)
    (hread : (Prefetch.run a.context a.stream).outcome = .error failure) :
    a.trace events current t = (.error (prefetchError failure),
      (t.start .aggregation current).finish t.next (.aggregation none) true) := by
  simp only [trace, Tracer.inSpan, hread]
  rfl

theorem mirrors_trace_of_error {failure : Failure} (running order : List ℕ) (events : List BuildEvent)
    (current : Option ℕ) (t : Tracer) (hread : (Prefetch.run a.context a.stream).outcome = .error failure) :
    a.Mirrors running order current t (a.trace events current t).2 [] ⟨t.next, current, .aggregation none, true⟩ := by
  have hunread : ¬∃ read, (Prefetch.run a.context a.stream).outcome = .ok read := by simp [hread]
  have hnone : (a.runAwaiting running).started = [] := by
    simp only [runAwaiting_of_error running hread, run, hread]
  have hin : a.startedIn order = [] := if_neg (not_isRead hread)
  rw [trace_of_error events current t hread]
  exact
    { ended := Tracer.ended_finish Tracer.getElem?_opened_start
      opened := ⟨[(.aggregation, current)], rfl, List.Perm.refl _⟩
      parent := rfl
      kind := rfl
      failed := by simp [result_runAwaiting, result_run_of_error hread]
      counted := fun value ↦ by simp [hunread, Scope.attributes, Datum.lookup]
      started := hin ▸ .nil
      gathered := by rw [hin, hnone]; exact ⟨.nil, fun _ ↦ rfl⟩
      once := fun index bundle _ ↦ by simp [isRead_iff, hunread]
      reported := fun hparent ↦ by
        have hkept : t.opened <+: ((t.start .aggregation current).finish t.next (.aggregation none) true).opened :=
          List.prefix_append _ _
        have hown : ([] ++ [(⟨t.next, current, .aggregation none, true⟩ : EndedSpan)]).map
            ((t.start .aggregation current).finish t.next (.aggregation none) true).report =
              (a.runAwaiting running).telemetry.spans := by
          simp only [runAwaiting_of_error running hread, run, hread, List.nil_append, List.map_cons, List.map_nil,
            Tracer.report, Tracer.bind_kind?_eq hkept hparent]
        exact ⟨.of_eq hown, fun _ ↦ hown⟩ }

/-! ### An attempt that could be read -/

/-- The span of a build as it is reported. -/
def reportOf (p : Prefetched) (task : Task SpanKind) (run : Run BundleRecord) : Span where
  scope := .build p.account.id task.item.transition.bundle task.item.rank
  parent := task.span
  failed := !run.outcome.toBool

/-- Whether a span is that of the build of an accepted task, opened in a given one. -/
def IsTaskSpan (a : Attempt) (p : Prefetched) (work : List WorkItem) (parent index : ℕ) (span : EndedSpan) : Prop :=
  ∃ item, (a.submitted work)[index]? = some item ∧ span = Workers.spanOf a p (a.taskIn (some parent) item) span.number

/-- The span of an attempt when it ends. -/
def ownSpan (a : Attempt) (p : Prefetched) (work : List WorkItem) (current : Option ℕ) (number : ℕ) : EndedSpan where
  number := number
  parent := current
  scope := .aggregation (some (p.account.id, work.length))
  failed := !(a.runBuilds p work).result.toBool

/-- The spans that are reported are those of the built tasks, and then that of the attempt. -/
theorem spans_runAwaiting (running : List ℕ) (hread : (Prefetch.run a.context a.stream).outcome = .ok (p, work)) :
    (a.runAwaiting running).telemetry.spans =
      ((a.builtTasks running (a.submitted work).length).filterMap fun index ↦
        (a.submitted work)[index]?.map fun item ↦ reportOf p (a.task item) (a.build p item)) ++
          [⟨.aggregation (some (p.account.id, work.length)), a.parent, !(a.runBuilds p work).result.toBool⟩] := by
  rw [← a.filterMap_builds p work running (reportOf p)]
  simp only [runAwaiting, run, hread, runBuilds, List.dropLast_concat, List.getLast?_concat, Option.toList_some,
    allCompletions, List.filterMap_append]
  rfl

/-- The span of a build that a worker ends is that of the started build. -/
theorem isSpanOf_spanOf (hread : (Prefetch.run a.context a.stream).outcome = .ok (p, work)) {item : WorkItem}
    (hitem : item ∈ work) (parent number : ℕ) :
    a.IsSpanOf parent ⟨item.transition.bundle, a.correlation⟩
      (Workers.spanOf a p (a.taskIn (some parent) item) number) where
  parent := rfl
  kind := rfl
  covers := rfl
  bundle := rfl
  rank := by
    constructor
    · rw [← bundles_work hread]
      exact List.mem_map_of_mem (f := (·.transition.bundle)) hitem
    · rw [← rank_work hread hitem]
      rfl
  failed := ⟨p, work, item, hread, hitem, rfl, not_toBool_iff⟩

/-- The workers at the end of an attempt made in a span. -/
def workers (a : Attempt) (p : Prefetched) (work : List WorkItem) (events : List BuildEvent) (current : Option ℕ)
    (t : Tracer) : Workers :=
  events.foldl (Workers.after a p ((a.submitted work).map (a.taskIn (some t.next))))
    { tracer := t.start .aggregation current }

theorem trace_of_ok (events : List BuildEvent) (current : Option ℕ) (t : Tracer)
    (hread : (Prefetch.run a.context a.stream).outcome = .ok (p, work)) :
    a.trace events current t = ((a.runBuilds p work).result,
      (a.workers p work events current t).tracer.finish t.next (.aggregation (some (p.account.id, work.length)))
        (!(a.runBuilds p work).result.toBool)) := by
  simp only [trace, Tracer.inSpan, hread]
  rfl

/-- The spans that the workers end are those of the built tasks, in the order in which the builds end. -/
theorem exists_leaves_workers {order : List ℕ} (p : Prefetched) (work : List WorkItem) (current : Option ℕ)
    (t : Tracer) (horder : ∀ index ∈ order, index < (a.submitted work).length) (h : Interleaves [] order events) :
    ∃ builds, (a.workers p work events current t).tracer.ended = t.ended ++ builds ∧
      List.Forall₂ (a.IsTaskSpan p work t.next) order builds ∧
      ∃ more, (a.workers p work events current t).tracer.opened = t.opened ++ (.aggregation, current) :: more ∧
        (builds.map (·.number)).Perm (List.range' (t.next + 1) more.length) := by
  have hholds : Workers.Holds ((a.submitted work).map (a.taskIn (some t.next))) []
      { tracer := t.start .aggregation current } :=
    ⟨List.Perm.refl _, List.forall_mem_nil _⟩
  have hlt : ∀ index ∈ order, index < ((a.submitted work).map (a.taskIn (some t.next))).length := by
    intro index hindex
    rw [List.length_map]
    exact horder index hindex
  obtain ⟨builds, hleaves⟩ := Workers.leaves_of_interleaves a p h hlt hholds
  obtain ⟨more, hmore, hnumbers⟩ := hleaves.opened
  refine ⟨builds, hleaves.ended, hleaves.builds.imp ?_, more, ?_, ?_⟩
  · rintro index span ⟨task, htask, hspan⟩
    rw [List.getElem?_map] at htask
    obtain ⟨item, hitem, rfl⟩ := Option.map_eq_some_iff.1 htask
    exact ⟨item, hitem, hspan⟩
  · rw [workers, hmore, Tracer.start, List.append_assoc, List.singleton_append]
  · rwa [Tracer.next_start] at hnumbers

/-- When the builds end in the order in which the attempt gathers them, they are started in its order. -/
theorem startedIn_buildOrder (a : Attempt) (running : List ℕ) :
    a.startedIn (a.buildOrder running) = (a.runAwaiting running).started := by
  rw [started_eq, startedIn, builtBundles]
  split_ifs <;> rfl

/-- In whatever order the builds end, they are the ones that the attempt starts. -/
theorem startedIn_perm {order : List ℕ} (horder : order.Perm (a.buildOrder running)) :
    (a.startedIn order).Perm (a.runAwaiting running).started := by
  rw [← startedIn_buildOrder]
  unfold startedIn
  split_ifs
  · exact (horder.filterMap _).map _
  · exact .nil

/-- A task has one span if it is built, and none otherwise. -/
theorem count_bundle? (hread : (Prefetch.run a.context a.stream).outcome = .ok (p, work)) {parent : ℕ}
    {order : List ℕ} (horder : order.Perm (a.buildOrder running)) {builds : List EndedSpan}
    (hstarted : List.Forall₂ (a.IsSpanOf parent) (a.startedIn order) builds)
    {index : ℕ} {bundle : Uuid} (hbundle : a.rankedBundles[index]? = some bundle) :
    (builds.map (·.scope.bundle?)).count (some bundle) = if a.Builds running work.length index then 1 else 0 := by
  have hcovers : (a.startedIn order).map (fun started ↦ some started.bundle) = builds.map (·.scope.bundle?) :=
    Pairing.map_eq_map (hstarted.imp fun _ _ hspan ↦ hspan.covers.symm)
  rw [← bundles_work hread, List.getElem?_map] at hbundle
  obtain ⟨item, hitem, rfl⟩ := Option.map_eq_some_iff.1 hbundle
  rw [← count_started running hread hitem, ← hcovers, ((startedIn_perm horder).map _).count_eq,
    List.count_eq_countP, List.count_eq_countP, List.countP_map, List.countP_map]
  exact List.countP_congr fun started _ ↦ by simp

/-- The spans that end are reported as those of the attempt. -/
theorem map_report (hread : (Prefetch.run a.context a.stream).outcome = .ok (p, work)) {u : Tracer}
    {order : List ℕ} (horder : order.Perm (a.buildOrder running)) {builds : List EndedSpan}
    {more : List (SpanKind × Option ℕ)} (hbuilds : List.Forall₂ (a.IsTaskSpan p work t.next) order builds)
    (hopened : u.opened = t.opened ++ (.aggregation, current) :: more)
    (hparent : current.map t.kind? = a.parent.map some) :
    ((builds ++ [a.ownSpan p work current t.next]).map u.report).Perm (a.runAwaiting running).telemetry.spans ∧
      (order = a.buildOrder running →
        (builds ++ [a.ownSpan p work current t.next]).map u.report = (a.runAwaiting running).telemetry.spans) := by
  have hkept : t.opened <+: u.opened := ⟨_, hopened.symm⟩
  have hkind : u.kind? t.next = some .aggregation := by
    rw [Tracer.kind?, Tracer.getElem?_opened_next hopened, Option.map_some]
  have hreports : order.filterMap (fun index ↦ (a.submitted work)[index]?.map fun item ↦
      reportOf p (a.task item) (a.build p item)) = builds.map u.report := by
    rw [← List.forall₂_eq_eq_eq, List.forall₂_map_right_iff]
    refine Pairing.filterMap_left hbuilds ?_
    rintro index span ⟨item, hitem, hspan⟩
    refine ⟨reportOf p (a.task item) (a.build p item), by rw [hitem, Option.map_some], ?_⟩
    rw [hspan, Tracer.report, Workers.spanOf, taskIn, Option.bind_some, hkind]
    rfl
  rw [spans_runAwaiting running hread, ← buildOrder_eq running hread, List.map_append, List.map_singleton,
    Tracer.report, ownSpan, Tracer.bind_kind?_eq hkept hparent, ← hreports]
  constructor
  · exact (horder.filterMap _).append_right _
  · rintro rfl
    rfl

theorem mirrors_trace_of_ok (hread : (Prefetch.run a.context a.stream).outcome = .ok (p, work)) (current : Option ℕ)
    (t : Tracer) {order : List ℕ} (horder : order.Perm (a.buildOrder running)) (h : Interleaves [] order events) :
    ∃ builds, a.Mirrors running order current t (a.trace events current t).2 builds
      (a.ownSpan p work current t.next) := by
  have hsubmitted : ∀ index ∈ order, index < (a.submitted work).length := by
    intro index hindex
    rw [horder.mem_iff, buildOrder_eq running hread] at hindex
    exact ((a.mem_builtTasks running).1 hindex).1
  obtain ⟨builds, hended, hbuilds, more, hopened, hnumbers⟩ := exists_leaves_workers p work current t hsubmitted h
  have hstarted : List.Forall₂ (a.IsSpanOf t.next) (a.startedIn order) builds := by
    rw [startedIn, if_pos (isRead_iff.2 ⟨_, hread⟩), bundlesOf, List.map_filterMap]
    refine Pairing.filterMap_left hbuilds ?_
    rintro index span ⟨item, hitem, hspan⟩
    have hlt := (List.getElem?_eq_some_iff.1 hitem).1
    refine ⟨⟨item.transition.bundle, a.correlation⟩, ?_, ?_⟩
    · rw [getElem?_rankedBundles hread hlt, hitem, Option.map_some, Option.map_some]
    · rw [hspan]
      exact isSpanOf_spanOf hread ((List.take_sublist _ _).subset (List.mem_of_getElem? hitem)) _ _
  refine ⟨builds, ?_⟩
  rw [trace_of_ok events current t hread]
  exact
    { ended := by
        rw [Tracer.ended_finish (Tracer.getElem?_opened_next hopened), hended, List.append_assoc]
        rfl
      opened := by
        refine ⟨(.aggregation, current) :: more, hopened, ?_⟩
        rw [List.map_append, List.length_cons, List.range'_succ]
        exact (List.perm_append_singleton _ _).trans (hnumbers.cons t.next)
      parent := rfl
      kind := rfl
      failed := by
        rw [result_runAwaiting, result_run_of_ok hread]
        exact not_toBool_iff
      counted := fun value ↦ by
        rw [length_rankedBundles hread]
        simp [ownSpan, hread, Scope.attributes, Datum.lookup, eq_comm]
      started := hstarted
      gathered := ⟨startedIn_perm horder, fun hsame ↦ hsame ▸ startedIn_buildOrder a running⟩
      once := fun index bundle hbundle ↦ by
        rw [count_bundle? hread horder hstarted hbundle, length_rankedBundles hread]
        simp [isRead_iff, hread]
      reported := map_report hread horder hbuilds hopened }

/-- On every interleaving, in whatever order the builds end, the spans mirror the attempt, which ends as it does
without them. -/
theorem mirrors_trace (a : Attempt) (running order : List ℕ) (events : List BuildEvent) (current : Option ℕ)
    (t : Tracer) (horder : order.Perm (a.buildOrder running)) (h : Interleaves [] order events) :
    (a.trace events current t).1 = (a.runAwaiting running).result ∧
      ∃ builds aggregate, a.Mirrors running order current t (a.trace events current t).2 builds aggregate := by
  rw [result_runAwaiting]
  rcases hread : (Prefetch.run a.context a.stream).outcome with failure | ⟨p, work⟩
  · refine ⟨?_, [], _, mirrors_trace_of_error running order events current t hread⟩
    rw [trace_of_error events current t hread, result_run_of_error hread]
  · obtain ⟨builds, hmirrors⟩ := mirrors_trace_of_ok hread current t horder h
    refine ⟨?_, builds, _, hmirrors⟩
    rw [trace_of_ok events current t hread, result_run_of_ok hread]

end Attempt

/-- Tasks can always be built one after the other. -/
theorem Interleaves.sequential (order : List ℕ) :
    Interleaves [] order (order.flatMap fun index ↦ [.begins index, .ends index]) := by
  induction order with
  | nil => exact .done
  | cons index rest ih =>
    refine .begins List.mem_cons_self List.not_mem_nil (.ends List.mem_cons_self ?_)
    rw [List.erase_cons_head]
    exact ih

end BundleLedger
