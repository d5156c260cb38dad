import BundleLedger.Proofs.Service.Agreement

/-!
# Publications

A publication keeps its envelope and runs the handlers of its event in turn, up to the first that fails. It returns
exactly when each run of a handler does (`Publication.returns_iff`), and what is logged during it is what is logged
during the runs (`Publication.logged_observed`). What each run does to the system, the whole publication does
(`Handler.related_each`).
-/

set_option autoImplicit false

namespace BundleLedger

open Result

/-- What has been observed since is what was observed first, then what was observed next. -/
theorem Service.Grows.since_eq {s t v : Service} (h : s.Grows t) (h' : t.Grows v) :
    v.telemetry.since s.telemetry = t.telemetry.since s.telemetry ++ v.telemetry.since t.telemetry := by
  obtain ⟨u, hu⟩ := h
  obtain ⟨w, hw⟩ := h'
  rw [hw, Telemetry.since_append, hu, Telemetry.since_append, Telemetry.append_assoc, Telemetry.since_append]

/-- Where only one member of a list has anything, that is what all of them have. -/
theorem flatMap_eq_of_nodup {α β γ : Type} {l : List α} {key : α → β} {f : α → List γ} (hnodup : (l.map key).Nodup)
    {a : α} (ha : a ∈ l) (h : ∀ b ∈ l, key b ≠ key a → f b = []) : l.flatMap f = f a := by
  obtain ⟨before, after, rfl⟩ := List.append_of_mem ha
  rw [List.map_append, List.map_cons, List.nodup_middle, List.nodup_cons, List.mem_append, not_or] at hnodup
  obtain ⟨⟨hbefore, hafter⟩, -⟩ := hnodup
  have hfirst : before.flatMap f = [] := List.flatMap_eq_nil_iff.2 fun b hb ↦
    h b (List.mem_append_left _ hb) fun hkey ↦ hbefore (hkey ▸ List.mem_map_of_mem hb)
  have hlast : after.flatMap f = [] := List.flatMap_eq_nil_iff.2 fun b hb ↦
    h b (List.mem_append_right _ (List.mem_cons_of_mem _ hb)) fun hkey ↦ hafter (hkey ▸ List.mem_map_of_mem hb)
  rw [List.flatMap_append, List.flatMap_cons, hfirst, hlast, List.nil_append, List.append_nil]

/-! ### Runs of handlers -/

/-- One run of a handler for an event. -/
structure HandlerRun where
  handler : Handler
  before : Service
  outcome : Except Failure Unit
  after : Service

/-- What is observed during a run. -/
def HandlerRun.observed (run : HandlerRun) : Telemetry :=
  run.after.telemetry.since run.before.telemetry

namespace Handler

/-- The runs of handlers in turn, up to the first that fails. -/
def runs (deliver : Publisher) (event : Event) : List Handler → Service → List HandlerRun
  | [], _ => []
  | handler :: rest, s =>
    match handler.run deliver event s with
    | (.ok (), t) => ⟨handler, s, .ok (), t⟩ :: runs deliver event rest t
    | (.error failure, t) => [⟨handler, s, .error failure, t⟩]

variable {deliver : Publisher} {event : Event} {handler : Handler} {handlers : List Handler} {s t : Service}
  {run : HandlerRun}

theorem runs_cons_of_ok (h : handler.run deliver event s = (.ok (), t)) :
    runs deliver event (handler :: handlers) s = ⟨handler, s, .ok (), t⟩ :: runs deliver event handlers t := by
  simp only [runs, h]

theorem runs_cons_of_error {failure : Failure} (h : handler.run deliver event s = (.error failure, t)) :
    runs deliver event (handler :: handlers) s = [⟨handler, s, .error failure, t⟩] := by
  simp only [runs, h]

theorem runs_singleton (deliver : Publisher) (event : Event) (handler : Handler) (s : Service) :
    runs deliver event [handler] s =
      [⟨handler, s, (handler.run deliver event s).1, (handler.run deliver event s).2⟩] := by
  rcases h : handler.run deliver event s with ⟨failure | _, t⟩
  · rw [runs_cons_of_error h]
  · rw [runs_cons_of_ok h]
    rfl

/-- Each run is one of its handler. -/
theorem run_eq_of_mem_runs (h : run ∈ runs deliver event handlers s) :
    run.handler.run deliver event run.before = (run.outcome, run.after) := by
  induction handlers generalizing s with
  | nil => exact absurd h List.not_mem_nil
  | cons handler rest ih =>
    rcases hrun : handler.run deliver event s with ⟨failure | _, t⟩
    · rw [runs_cons_of_error hrun] at h
      obtain rfl := List.mem_singleton.1 h
      exact hrun
    · rw [runs_cons_of_ok hrun] at h
      rcases List.mem_cons.1 h with rfl | hlater
      · exact hrun
      · exact ih hlater

/-- The handlers run in their order, each at most once. -/
theorem map_handler_runs (deliver : Publisher) (event : Event) (handlers : List Handler) (s : Service) :
    (runs deliver event handlers s).map (·.handler) <+: handlers := by
  induction handlers generalizing s with
  | nil => exact List.prefix_rfl
  | cons handler rest ih =>
    rcases hrun : handler.run deliver event s with ⟨failure | _, t⟩
    · rw [runs_cons_of_error hrun]
      exact List.prefix_append [handler] rest
    · rw [runs_cons_of_ok hrun]
      exact List.prefix_cons_inj handler |>.2 (ih t)

theorem each_eq_ok_iff_runs :
    (Procedure.each (Handler.run deliver event) handlers s).1 = .ok () ↔
      ∀ run ∈ runs deliver event handlers s, run.outcome = .ok () := by
  induction handlers generalizing s with
  | nil => exact iff_of_true rfl (List.forall_mem_nil _)
  | cons handler rest ih =>
    unfold Procedure.each
    rcases hrun : handler.run deliver event s with ⟨failure | _, t⟩
    · rw [Procedure.run_bind_of_error hrun, runs_cons_of_error hrun]
      simp
    · rw [Procedure.run_bind_of_ok hrun, runs_cons_of_ok hrun, List.forall_mem_cons, ih]
      simp

/-- A relation between the systems before and after each run holds between those before and after all of them, and
up to each run. -/
theorem related_each {R : Service → Service → Prop} (hrefl : ∀ s, R s s)
    (htrans : ∀ ⦃s t u⦄, R s t → R t u → R s u)
    (h : ∀ run ∈ runs deliver event handlers s, R run.before run.after) :
    R s (Procedure.each (Handler.run deliver event) handlers s).2 ∧
      ∀ run ∈ runs deliver event handlers s, R s run.before := by
  induction handlers generalizing s with
  | nil => exact ⟨hrefl s, List.forall_mem_nil _⟩
  | cons handler rest ih =>
    unfold Procedure.each
    rcases hrun : handler.run deliver event s with ⟨failure | _, t⟩
    · rw [runs_cons_of_error hrun] at h ⊢
      rw [Procedure.run_bind_of_error hrun]
      refine ⟨h _ List.mem_cons_self, fun run hmem ↦ ?_⟩
      obtain rfl := List.mem_singleton.1 hmem
      exact hrefl s
    · rw [runs_cons_of_ok hrun, List.forall_mem_cons] at h
      rw [runs_cons_of_ok hrun, Procedure.run_bind_of_ok hrun, List.forall_mem_cons]
      obtain ⟨hfirst, hrest⟩ := h
      obtain ⟨hend, hbefore⟩ := ih hrest
      exact ⟨htrans hfirst hend, hrefl s, fun run hmem ↦ htrans hfirst (hbefore run hmem)⟩

/-- What is logged during the runs in turn is logged during all of them. -/
theorem logged_each (hdeliver : ∀ e, (deliver e).Within Service.Grows) (message : String) :
    ((Procedure.each (Handler.run deliver event) handlers s).2.telemetry.since s.telemetry).logged message =
      (runs deliver event handlers s).flatMap fun run ↦ run.observed.logged message := by
  have hgrows := Service.carries_grows.handler hdeliver event
  induction handlers generalizing s with
  | nil =>
    rw [show (Procedure.each (Handler.run deliver event) [] s).2 = s from rfl, Telemetry.since_self]
    rfl
  | cons handler rest ih =>
    unfold Procedure.each
    rcases hrun : handler.run deliver event s with ⟨failure | _, t⟩
    · rw [Procedure.run_bind_of_error hrun, runs_cons_of_error hrun, List.flatMap_singleton]
      rfl
    · have hfirst : s.Grows t := by
        have hhandler := hgrows handler s
        rwa [hrun] at hhandler
      have hrest := Procedure.within_each Service.carries_grows.refl Service.carries_grows.trans hgrows rest t
      rw [Procedure.run_bind_of_ok hrun, runs_cons_of_ok hrun, List.flatMap_cons, ← ih, hfirst.since_eq hrest,
        Telemetry.logged_append]
      rfl

end Handler

/-! ### Published envelopes -/

/-- No handler is subscribed twice to a type of event. -/
theorem Bus.WellFormed.nodup_handlersOf {b : Bus} (h : b.WellFormed) (name : String) : (b.handlersOf name).Nodup := by
  refine List.Nodup.map_on (fun x hx y hy hxy ↦ ?_) (h.filter _)
  exact Prod.ext ((of_decide_eq_true (List.mem_filter.1 hx).2).trans
    (of_decide_eq_true (List.mem_filter.1 hy).2).symm) hxy

/-- How envelopes are published for their effects, with deliveries inside nesting to a depth. -/
def Service.deliverWithin (depth : ℕ) : Publisher := fun e ↦ (publishWithin depth e).forget

/-- An envelope that is published in a system, and the type of event that it names. -/
structure Publication where
  before : Service
  envelope : Envelope
  name : String
  named : Bus.eventType? envelope = some name

namespace Publication

variable {p : Publication}

/-- The event that an envelope makes, and the bus that keeps it. -/
def event (p : Publication) : Event :=
  (p.before.bus.keep p.name (Bus.stamped p.before.correlation p.envelope)).1

/-- The system once the envelope is kept. -/
def kept (p : Publication) : Service :=
  { p.before with bus := (p.before.bus.keep p.name (Bus.stamped p.before.correlation p.envelope)).2 }

/-- How the handlers of a publication publish in turn. -/
def deliver (_ : Publication) : Publisher := fun e ↦ (Service.publishWithin (Service.maxDepth - 1) e).forget

/-- The handlers that are subscribed to the event. -/
def handlers (p : Publication) : List Handler :=
  p.before.bus.handlersOf p.name

/-- The runs of these handlers. -/
def runs (p : Publication) : List HandlerRun :=
  Handler.runs p.deliver p.event p.handlers p.kept

/-- The system after a publication. -/
def after (p : Publication) : Service :=
  (Service.publish p.envelope p.before).2

/-- What is observed during a publication. -/
def observed (p : Publication) : Telemetry :=
  p.after.telemetry.since p.before.telemetry

/-- Whether a publication returns. -/
def Returns (p : Publication) : Prop :=
  Service.publish p.envelope p.before = (.ok p.event, p.after)

/-- A publication runs the handlers that are subscribed to its event, whatever the depth to which deliveries nest. -/
theorem publishWithin_eq (p : Publication) (depth : ℕ) :
    Service.publishWithin (depth + 1) p.envelope p.before =
      ((Procedure.each (Handler.run (Service.deliverWithin depth) p.event) p.handlers p.kept).1.map fun _ ↦ p.event,
        (Procedure.each (Handler.run (Service.deliverWithin depth) p.event) p.handlers p.kept).2) := by
  rw [Service.publishWithin, p.named]
  rfl

theorem publish_eq (p : Publication) :
    Service.publish p.envelope p.before =
      ((Procedure.each (Handler.run p.deliver p.event) p.handlers p.kept).1.map fun _ ↦ p.event,
        (Procedure.each (Handler.run p.deliver p.event) p.handlers p.kept).2) :=
  p.publishWithin_eq (Service.maxDepth - 1)

/-- A publication returns exactly when each run of a handler does. -/
theorem returns_iff : p.Returns ↔ ∀ run ∈ p.runs, run.outcome = .ok () := by
  unfold Returns runs
  rw [← Handler.each_eq_ok_iff_runs, after, publish_eq]
  cases (Procedure.each (Handler.run p.deliver p.event) p.handlers p.kept).1 with
  | error failure => simp [Except.map]
  | ok value => simp [Except.map]

/-- An envelope is published for its effects exactly when the publication returns. -/
theorem exists_forget_iff :
    (∃ t, (Service.publish p.envelope).forget p.before = (.ok (), t)) ↔ ∀ run ∈ p.runs, run.outcome = .ok () := by
  unfold runs Procedure.forget
  rw [← Handler.each_eq_ok_iff_runs, publish_eq]
  cases (Procedure.each (Handler.run p.deliver p.event) p.handlers p.kept).1 with
  | error failure => simp [Except.map]
  | ok value => simp [Except.map]

theorem within_deliver {R : Service → Service → Prop} (h : Service.Carries R) (e : Envelope) :
    (p.deliver e).Within R :=
  Procedure.within_forget (h.publishWithin _ e)

/-- What is logged during a publication is logged during the runs of its handlers. -/
theorem logged_observed (message : String) :
    p.observed.logged message = p.runs.flatMap fun run ↦ run.observed.logged message := by
  unfold observed after runs
  rw [publish_eq]
  exact Handler.logged_each (within_deliver Service.carries_grows) message

/-- What holds between the systems before and after each run of a handler holds for the publication. -/
theorem related {R : Service → Service → Prop} (hrefl : ∀ s, R s s) (htrans : ∀ ⦃s t u⦄, R s t → R t u → R s u)
    (hkept : R p.before p.kept) (hruns : ∀ run ∈ p.runs, R run.before run.after) :
    R p.before p.after ∧ ∀ run ∈ p.runs, R p.before run.before := by
  obtain ⟨hend, hbefore⟩ := Handler.related_each hrefl htrans hruns
  rw [after, publish_eq]
  exact ⟨htrans hkept hend, fun run hrun ↦ htrans hkept (hbefore run hrun)⟩

/-- What goes through deliveries holds up to each run of a handler, and for the publication. -/
theorem carried {R : Service → Service → Prop} (h : Service.Carries R) :
    R p.before p.after ∧ ∀ run ∈ p.runs, R p.before run.before := by
  refine related h.refl h.trans (h.relayed rfl) fun run hrun ↦ ?_
  have hwithin := h.handler (within_deliver (p := p) h) p.event run.handler run.before
  rwa [Handler.run_eq_of_mem_runs hrun] at hwithin

/-- No handler runs twice for an event. -/
theorem nodup_runs (h : p.before.bus.WellFormed) : (p.runs.map (·.handler)).Nodup :=
  (Handler.map_handler_runs p.deliver p.event p.handlers p.kept).sublist.nodup (h.nodup_handlersOf p.name)

end Publication
end BundleLedger
