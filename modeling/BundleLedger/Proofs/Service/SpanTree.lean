import BundleLedger.Proofs.Bundle.SpanTree
import BundleLedger.Proofs.Service.Occasion
import BundleLedger.Service.Traced

/-!
# The span tree of a refresh

The attempt of a refresh is made in the span of the refresh, so its own span is opened in that one
(`Refresh.mirrors_trace`). Main statement: the spans that end mirror what was executed, in every attempt, on every
interleaving of its builds, and in every refresh (`spans_mirror_execution`).
-/

set_option autoImplicit false

namespace BundleLedger

open Result

/-! ### Spans that were reported before others were opened -/

namespace Attempt

variable {a : Attempt} {running order : List ℕ} {current : Option ℕ} {t u v : Tracer} {builds : List EndedSpan}
  {aggregate : EndedSpan}

theorem Mirrors.number_lt (h : a.Mirrors running order current t u builds aggregate) : aggregate.number < u.next := by
  obtain ⟨more, hmore, hnumbers⟩ := h.opened
  have hmem : aggregate.number ∈ (builds ++ [aggregate]).map (·.number) := by simp
  have hlt := (List.mem_range'_1.1 (hnumbers.mem_iff.1 hmem)).2
  rwa [Tracer.next, hmore, List.length_append]

end Attempt

/-- A span is reported alike while others are opened. -/
theorem Tracer.report_eq_of_prefix {t u : Tracer} {span : EndedSpan} (h : t.opened <+: u.opened)
    (hparent : ∀ number ∈ span.parent, number < t.next) : u.report span = t.report span := by
  unfold report
  cases hspan : span.parent with
  | none => rfl
  | some number =>
    have hlt : number < t.opened.length := hparent number hspan
    have hopened : t.opened[number]? = some t.opened[number] := List.getElem?_eq_getElem hlt
    simp only [Option.bind_some, kind?, hopened, getElem?_opened_of_prefix h hopened]

/-- The spans of an attempt are reported alike while others are opened. -/
theorem Attempt.Mirrors.map_report {a : Attempt} {running order : List ℕ} {current : Option ℕ} {t u v : Tracer}
    {builds : List EndedSpan} {aggregate : EndedSpan} (h : a.Mirrors running order current t u builds aggregate)
    (hcurrent : ∀ number ∈ current, number < u.next) (hopened : u.opened <+: v.opened) :
    (builds ++ [aggregate]).map v.report = (builds ++ [aggregate]).map u.report := by
  refine List.map_congr_left fun span hspan ↦ Tracer.report_eq_of_prefix hopened fun number hnumber ↦ ?_
  rcases List.mem_append.1 hspan with hbuild | hown
  · obtain ⟨started, -, hbuild⟩ := Pairing.exists_mem_left h.started hbuild
    obtain rfl : aggregate.number = number := Option.some.inj (hbuild.parent.symm.trans hnumber)
    exact h.number_lt
  · rw [List.mem_singleton.1 hown, h.parent] at hnumber
    exact hcurrent number hnumber

namespace Refresh

variable {deliver : Publisher} {settings : Settings} {account : Uuid} {given : Option String}
  {order : List ℕ} {events : List BuildEvent} {delivered : Tracer} {current : Option ℕ} {s : Service} {t : Tracer}

/-! ### The spans that a refresh reports -/

/-- The spans that the attempt of a refresh reports, if one is made. -/
def attemptSpans (settings : Settings) (account : Uuid) (s : Service) : List Span :=
  match attempt? settings account s with
  | some a => a.run.telemetry.spans
  | none => []

theorem spans_build (settings : Settings) (account : Uuid) (s : Service) :
    (build settings account s).2.telemetry.spans = s.telemetry.spans ++ attemptSpans settings account s := by
  unfold build attemptSpans attempt?
  dsimp only
  cases (Source.fresh account settings.referenceCurrency).transitions s.database with
  | error e => exact (List.append_nil _).symm
  | ok transitions =>
    cases s.pool.schedule settings.refreshWorkers with
    | error cause => exact (List.append_nil _).symm
    | ok schedule => rfl

/-- Only what is delivered reports spans after the attempt. -/
theorem exists_spans_work (hdeliver : ∀ e, (deliver e).Within Service.Grows) (settings : Settings) (account : Uuid)
    (s : Service) : ∃ between, (work deliver settings account s).2.telemetry.spans =
      s.telemetry.spans ++ attemptSpans settings account s ++ between := by
  have hspans := spans_build settings account s
  rcases work_cases deliver settings account s with
    ⟨failure, built, hbuild, hwork⟩ | ⟨records, built, fault, hbuild, -, hwork⟩ |
      ⟨records, built, database, hbuild, -, hwork⟩
  · rw [hbuild] at hspans
    exact ⟨[], by rw [hwork, List.append_nil, ← hspans]⟩
  · rw [hbuild] at hspans
    exact ⟨[], by rw [hwork, List.append_nil, ← hspans]⟩
  · rw [hbuild] at hspans
    obtain ⟨more, hmore⟩ := hdeliver (envelope account records.length built.correlation)
      (committed account records.length built database)
    have hcommitted : (committed account records.length built database).telemetry.spans = built.telemetry.spans :=
      List.append_nil _
    exact ⟨more.spans, by rw [hwork, hmore, Telemetry.spans_append, hcommitted, hspans]⟩

theorem exists_spans_runWith (hdeliver : ∀ e, (deliver e).Within Service.Grows) (settings : Settings)
    (account : Uuid) (given : Option String) (s : Service) :
    ∃ between, (runWith deliver settings account given s).2.telemetry.spans =
      s.telemetry.spans ++ (attemptSpans settings account (inside account given s) ++ between ++
        [⟨.refresh account (effective given s.correlation), s.span,
          !(runWith deliver settings account given s).1.toBool⟩]) := by
  obtain ⟨between, hwork⟩ := exists_spans_work hdeliver settings account (inside account given s)
  have hinside : (inside account given s).telemetry.spans = s.telemetry.spans := List.append_nil _
  refine ⟨between, ?_⟩
  rw [runWith_eq, toBool_map]
  change (work deliver settings account (inside account given s)).2.telemetry.spans ++ _ = _
  rw [hwork, hinside]
  simp only [List.append_assoc]
  rfl

/-! ### The tree of a refresh -/

/-- Whether the builds end in the order in which the attempt of a refresh gathers them. -/
def EndsInOrder (settings : Settings) (account : Uuid) (order : List ℕ) (s : Service) : Prop :=
  ∀ a ∈ attempt? settings account s, order = a.buildOrder []

/-- Whether the spans that end while an account is refreshed, between two tracers, mirror the refresh: those of its
attempt, the builds of which end in an order, what is delivered, and its own at the end. -/
structure Mirrors (deliver : Publisher) (settings : Settings) (account : Uuid) (given : Option String)
    (order : List ℕ) (events : List BuildEvent) (delivered : Tracer) (current : Option ℕ) (s : Service)
    (t u : Tracer) (inner : List EndedSpan) (own : EndedSpan) : Prop where
  ended : u.ended = t.ended ++ (inner ++ [own]) ∨ u.ended = t.ended ++ (inner ++ delivered.ended ++ [own])
  number : own.number = t.next
  parent : own.parent = current
  scope : own.scope = .refresh account (effective given s.correlation)
  failed : own.failed = true ↔ ∃ failure, (run deliver account given s).1 = .error failure
  /-- The attempt is made in the span of the refresh, and its span is opened in that one. -/
  attempted : ∀ a ∈ attempt? settings account (inside account given s), ∃ builds aggregate,
    inner = builds ++ [aggregate] ∧ aggregate.parent = some own.number ∧
      a.Mirrors [] order (some own.number) (t.start .refresh current)
        (a.trace events (some own.number) (t.start .refresh current)).2 builds aggregate
  unattempted : attempt? settings account (inside account given s) = none → inner = []
  /-- The spans are those that the refresh reports: those of its attempt, in its order if the builds end in that one,
  what is delivered in between, and its own. -/
  reported : current.map t.kind? = s.span.map some →
    (inner.map u.report).Perm (attemptSpans settings account (inside account given s)) ∧
      (EndsInOrder settings account order (inside account given s) →
        inner.map u.report = attemptSpans settings account (inside account given s)) ∧
      ∃ between, (run deliver account given s).2.telemetry.spans =
        s.telemetry.spans ++ (attemptSpans settings account (inside account given s) ++ between ++ [u.report own])

/-- The span of a refresh when it ends. -/
def ownSpan (deliver : Publisher) (settings : Settings) (account : Uuid) (given : Option String)
    (current : Option ℕ) (s : Service) (number : ℕ) : EndedSpan where
  number := number
  parent := current
  scope := .refresh account (effective given s.correlation)
  failed := !(runWith deliver settings account given s).1.toBool

theorem failed_ownSpan (hsettings : s.settings = .ok settings) (number : ℕ) :
    (ownSpan deliver settings account given current s number).failed = true ↔
      ∃ failure, (run deliver account given s).1 = .error failure := by
  rw [run_of_settings hsettings]
  exact not_toBool_iff

/-- The spans once the work of a refresh has ended. -/
def traceInside (settings : Settings) (account : Uuid) (given : Option String) (events : List BuildEvent)
    (delivered : Tracer) (current : Option ℕ) (s : Service) (t : Tracer) : Tracer :=
  match attempt? settings account (inside account given s) with
  | some a => (a.trace events (some t.next) (t.start .refresh current)).2.followedBy delivered
  | none => t.start .refresh current

theorem trace_eq (deliver : Publisher) (settings : Settings) (account : Uuid) (given : Option String)
    (events : List BuildEvent) (delivered : Tracer) (current : Option ℕ) (s : Service) (t : Tracer) :
    trace deliver settings account given events delivered current s t =
      ((runWith deliver settings account given s).1,
        (traceInside settings account given events delivered current s t).finish t.next
          (.refresh account (effective given s.correlation))
          (!(runWith deliver settings account given s).1.toBool)) := rfl

theorem parent_of_attempt? {a : Attempt} (h : attempt? settings account s = some a) : a.parent = s.span := by
  unfold attempt? at h
  dsimp only at h
  split at h
  · rw [← Option.some.inj h]
  · exact absurd h (by simp)

/-- The spans mirror a refresh if those inside it do. -/
theorem mirrors_of_inside (hdeliver : ∀ e, (deliver e).Within Service.Grows) (hsettings : s.settings = .ok settings)
    {u : Tracer} {inner : List EndedSpan} (hopened : (t.start .refresh current).opened <+: u.opened)
    (hended : u.ended = t.ended ++ inner ∨ u.ended = t.ended ++ (inner ++ delivered.ended))
    (hattempted : ∀ a ∈ attempt? settings account (inside account given s), ∃ builds aggregate,
      inner = builds ++ [aggregate] ∧ aggregate.parent = some t.next ∧
        a.Mirrors [] order (some t.next) (t.start .refresh current)
          (a.trace events (some t.next) (t.start .refresh current)).2 builds aggregate)
    (hunattempted : attempt? settings account (inside account given s) = none → inner = [])
    (hperm : (inner.map u.report).Perm (attemptSpans settings account (inside account given s)))
    (heq : EndsInOrder settings account order (inside account given s) →
      inner.map u.report = attemptSpans settings account (inside account given s)) :
    Mirrors deliver settings account given order events delivered current s t
      (u.finish t.next (.refresh account (effective given s.correlation))
        (!(runWith deliver settings account given s).1.toBool))
      inner (ownSpan deliver settings account given current s t.next) where
  ended := by
    rw [Tracer.ended_finish (Tracer.getElem?_opened_of_prefix hopened Tracer.getElem?_opened_start)]
    rcases hended with hended | hended
    · exact .inl (by rw [hended, List.append_assoc]; rfl)
    · exact .inr (by rw [hended, List.append_assoc]; rfl)
  number := rfl
  parent := rfl
  scope := rfl
  failed := failed_ownSpan hsettings t.next
  attempted := hattempted
  unattempted := hunattempted
  reported hparent := by
    obtain ⟨between, hspans⟩ := exists_spans_runWith hdeliver settings account given s
    have hkept : t.opened <+: u.opened := (List.prefix_append _ _).trans hopened
    have hown : u.report (ownSpan deliver settings account given current s t.next) =
        ⟨.refresh account (effective given s.correlation), s.span,
          !(runWith deliver settings account given s).1.toBool⟩ := by
      rw [Tracer.report, ownSpan, Tracer.bind_kind?_eq hkept hparent]
    refine ⟨hperm, heq, between, ?_⟩
    rw [run_of_settings hsettings, hspans, ← hown]
    rfl

/-- The spans of a refresh mirror it, on every interleaving of the builds of its attempt. -/
theorem exists_mirrors_trace (hdeliver : ∀ e, (deliver e).Within Service.Grows) (hsettings : s.settings = .ok settings)
    (delivered : Tracer) (current : Option ℕ) (t : Tracer)
    (h : ∀ a ∈ attempt? settings account (inside account given s),
      order.Perm (a.buildOrder []) ∧ Interleaves [] order events) :
    ∃ inner own, Mirrors deliver settings account given order events delivered current s t
      (trace deliver settings account given events delivered current s t).2 inner own := by
  rw [trace_eq]
  unfold traceInside
  cases hattempt : attempt? settings account (inside account given s) with
  | none =>
    have hnone : attemptSpans settings account (inside account given s) = [] := by
      rw [attemptSpans, hattempt]
    refine ⟨[], _,
      mirrors_of_inside hdeliver hsettings (List.prefix_refl _) (.inl (List.append_nil _).symm) ?_ ?_ ?_ ?_⟩
    · simp [hattempt]
    · exact fun _ ↦ rfl
    · rw [hnone, List.map_nil]
    · exact fun _ ↦ hnone.symm
  | some a =>
    obtain ⟨horder, hevents⟩ := h a hattempt
    obtain ⟨-, builds, aggregate, hmirrors⟩ :=
      a.mirrors_trace [] order events (some t.next) (t.start .refresh current) horder hevents
    obtain ⟨more, hmore, -⟩ := hmirrors.opened
    have hkept : (t.start .refresh current).opened <+:
        (a.trace events (some t.next) (t.start .refresh current)).2.opened := ⟨more, hmore.symm⟩
    have hcurrent : ∀ number ∈ some t.next,
        number < (a.trace events (some t.next) (t.start .refresh current)).2.next := by
      rintro number ⟨⟩
      have hlt : t.next < (t.start .refresh current).next := by
        rw [Tracer.next_start]
        exact Nat.lt_succ_self _
      exact lt_of_lt_of_le hlt hkept.length_le
    have hparent : (some t.next).map (t.start .refresh current).kind? = a.parent.map some := by
      rw [parent_of_attempt? hattempt, Option.map_some, Tracer.kind?, Tracer.getElem?_opened_start]
      rfl
    have hdelivered : (a.trace events (some t.next) (t.start .refresh current)).2.opened <+:
        ((a.trace events (some t.next) (t.start .refresh current)).2.followedBy delivered).opened :=
      List.prefix_append _ _
    -- What is delivered afterwards makes no difference to how the spans of the attempt are reported.
    have hreports := hmirrors.map_report hcurrent hdelivered
    have hspans : attemptSpans settings account (inside account given s) = (a.runAwaiting []).telemetry.spans := by
      rw [attemptSpans, hattempt, a.runAwaiting_nil]
    obtain ⟨hperm, heq⟩ := hmirrors.reported hparent
    refine ⟨builds ++ [aggregate], _,
      mirrors_of_inside hdeliver hsettings (hkept.trans hdelivered) (.inr ?_) ?_ ?_ ?_ fun hsame ↦ ?_⟩
    · change (a.trace events (some t.next) (t.start .refresh current)).2.ended ++ delivered.ended = _
      rw [hmirrors.ended, List.append_assoc]
      rfl
    · rintro b hb
      obtain rfl := Option.some.inj (hattempt.symm.trans hb)
      exact ⟨builds, aggregate, rfl, hmirrors.parent, hmirrors⟩
    · simp [hattempt]
    · rwa [hreports, hspans]
    · rw [hreports, hspans, heq (hsame a hattempt)]

end Refresh

/-- Both bundles of the account are built in the order of their ranks. -/
theorem LargePrice.buildOrder_attempt? :
    (service.settings.toOption.bind fun settings ↦
      (Refresh.attempt? settings (.ofNat 9) (Refresh.inside (.ofNat 9) none service)).map fun a ↦
        a.buildOrder []) = some [0, 1] := by
  unfold Refresh.attempt? Source.transitions Database.transitionsOf Source.context Database.bundlesOf
    Database.bundleRowsOf Database.bundleOf
  simp only [Sorting.mergeSort_eq_insertionSort happensBefore_iff, Database.inOrder_eq_insertionSort]
  decide +kernel

/-- The spans that end mirror what was executed: in every attempt, whatever begins and ends side by side on its
workers and in whatever order the builds end, and in every refresh, at whatever depth of deliveries it is made. -/
theorem spans_mirror_execution :
    (∀ (a : Attempt) (running order : List ℕ) (events : List BuildEvent) (current : Option ℕ) (t : Tracer),
      order.Perm (a.buildOrder running) → Interleaves [] order events →
        (a.trace events current t).1 = (a.runAwaiting running).result ∧ a.runAwaiting [] = a.run ∧
          ∃ builds aggregate, a.Mirrors running order current t (a.trace events current t).2 builds aggregate) ∧
    ∀ (depth : ℕ) (s : Service) (settings : Settings) (account : Uuid) (given : Option String) (order : List ℕ)
      (events : List BuildEvent) (delivered : Tracer) (current : Option ℕ) (t : Tracer),
      s.settings = .ok settings →
        (∀ a ∈ Refresh.attempt? settings account (Refresh.inside account given s),
          order.Perm (a.buildOrder []) ∧ Interleaves [] order events) →
          ∃ inner own, Refresh.Mirrors (Service.deliverWithin depth) settings account given order events delivered
            current s t
            (Refresh.trace (Service.deliverWithin depth) settings account given events delivered current s t).2
            inner own := by
  constructor
  · intro a running order events current t horder h
    obtain ⟨hresult, hmirrors⟩ := a.mirrors_trace running order events current t horder h
    exact ⟨hresult, a.runAwaiting_nil, hmirrors⟩
  · intro depth s settings account given order events delivered current t hsettings h
    have hdeliver := Service.carries_grows.conveys.deliverWithin depth
    exact Refresh.exists_mirrors_trace hdeliver hsettings delivered current t h

/-- Two builds side by side, of which one fails before the pool stalls, while the other ends first; and a refresh
with one build after the other, the second first. -/
theorem spans_mirror_execution_sample :
    (List.Perm [0, 1] (Sample.stalling.buildOrder [0]) ∧
      Interleaves [] [0, 1] [.begins 1, .begins 0, .ends 0, .ends 1] ∧
      ∃ builds aggregate, Sample.stalling.Mirrors [0] [0, 1] none {}
        (Sample.stalling.trace [.begins 1, .begins 0, .ends 0, .ends 1] none {}).2 builds aggregate) ∧
    ∃ settings, LargePrice.service.settings = .ok settings ∧
      (∀ a ∈ Refresh.attempt? settings (.ofNat 9) (Refresh.inside (.ofNat 9) none LargePrice.service),
        List.Perm [1, 0] (a.buildOrder []) ∧ Interleaves [] [1, 0] [.begins 1, .ends 1, .begins 0, .ends 0]) ∧
      ∃ inner own, Refresh.Mirrors (Service.deliverWithin Service.maxDepth) settings (.ofNat 9) none [1, 0]
        [.begins 1, .ends 1, .begins 0, .ends 0] {} none LargePrice.service {}
        (Refresh.trace (Service.deliverWithin Service.maxDepth) settings (.ofNat 9) none
          [.begins 1, .ends 1, .begins 0, .ends 0] {} none LargePrice.service {}).2 inner own := by
  have hstalling : Interleaves [] [0, 1] [.begins 1, .begins 0, .ends 0, .ends 1] :=
    .begins (by decide) (by decide) (.begins (by decide) (by decide)
      (.ends (by decide) (.ends (by decide) .done)))
  have horder : List.Perm [0, 1] (Sample.stalling.buildOrder [0]) := by
    rw [show Sample.stalling.buildOrder [0] = [1, 0] by decide]
    exact .swap 1 0 []
  obtain ⟨settings, hsettings, hattempt⟩ := Option.bind_eq_some_iff.1 LargePrice.buildOrder_attempt?
  have hservice : LargePrice.service.settings = .ok settings := toOption_eq_some_iff.1 hsettings
  have hbuilt : ∀ a ∈ Refresh.attempt? settings (.ofNat 9) (Refresh.inside (.ofNat 9) none LargePrice.service),
      List.Perm [1, 0] (a.buildOrder []) ∧ Interleaves [] [1, 0] [.begins 1, .ends 1, .begins 0, .ends 0] := by
    intro a ha
    rw [ha, Option.map_some, Option.some.injEq] at hattempt
    rw [hattempt]
    exact ⟨.swap 0 1 [], .sequential [1, 0]⟩
  exact ⟨⟨horder, hstalling,
    (spans_mirror_execution.1 Sample.stalling [0] [0, 1] _ none {} horder hstalling).2.2⟩, settings, hservice,
    hbuilt, spans_mirror_execution.2 _ _ _ _ none [1, 0] _ {} none {} hservice hbuilt⟩

end BundleLedger
