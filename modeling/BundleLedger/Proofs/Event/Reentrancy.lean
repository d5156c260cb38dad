import BundleLedger.Proofs.Service.Occasion

/-!
# Calls of the bus during deliveries

Handlers may subscribe, unsubscribe, publish and refresh while an event is delivered to them, and so may the handlers of
what they publish. `Occasion.Lawful` says what each call does: a publication without a type of event fails and changes
nothing, and any other one keeps its envelope first and then runs exactly the handlers that are subscribed at that
moment, each once and in the order of subscription, up to the first that fails, whose failure is that of the
publication (`Occasion.Delivers`). Main statement: in every sequence of calls on a bus on which no handler is subscribed
twice, every call is lawful, and so is every call that is made during one of them, however deep (`BusHistory.lawful`).
-/

set_option autoImplicit false

namespace BundleLedger

/-! ### Handlers of a type of event -/

namespace Bus

variable {b : Bus} {name : String} {handler : Handler}

theorem mem_handlersOf : handler ∈ b.handlersOf name ↔ (name, handler) ∈ b.subscriptions := by
  simp [handlersOf]

theorem handlersOf_subscribe (b : Bus) (name : String) (handler : Handler) (other : String) :
    (b.subscribe name handler).handlersOf other =
      if name = other ∧ handler ∉ b.handlersOf name then b.handlersOf other ++ [handler] else b.handlersOf other := by
  simp only [mem_handlersOf]
  unfold subscribe
  by_cases hmem : (name, handler) ∈ b.subscriptions
  · simp [hmem]
  · by_cases hname : name = other
    · simp_all [handlersOf]
    · simp [hmem, hname, handlersOf]

theorem handlersOf_unsubscribe (b : Bus) (name : String) (handler : Handler) (other : String) :
    (b.unsubscribe name handler).handlersOf other =
      if name = other then (b.handlersOf other).erase handler else b.handlersOf other := by
  unfold unsubscribe handlersOf
  induction b.subscriptions with
  | nil => simp
  | cons first rest ih =>
    obtain ⟨event, subscribed⟩ := first
    by_cases hfirst : (event, subscribed) = (name, handler)
    · obtain ⟨rfl, rfl⟩ := Prod.mk.inj hfirst
      by_cases hother : event = other
      · simp [hother]
      · simp [hother]
    · rw [List.erase_cons_tail (by simpa using hfirst)]
      by_cases hevent : event = other
      · subst hevent
        by_cases hname : name = event
        · subst hname
          have hhandler : subscribed ≠ handler := fun h ↦ hfirst (by rw [h])
          simpa [List.erase_cons_tail, hhandler] using ih
        · simpa [hname] using ih
      · simpa [hevent] using ih

/-- An envelope names a type of event: it is a text that is not empty. -/
def Names (envelope : Envelope) (name : String) : Prop :=
  Datum.lookup envelope "event_type" = some (.text name) ∧ name ≠ ""

theorem eventType?_eq_some_iff {envelope : Envelope} : eventType? envelope = some name ↔ Names envelope name := by
  unfold eventType? Names
  split
  · rename_i text htext
    rw [htext]
    by_cases hempty : text = ""
    · subst hempty
      refine iff_of_false (by simp) ?_
      rintro ⟨h, hne⟩
      cases h
      exact hne rfl
    · rw [if_neg hempty]
      constructor
      · intro h
        obtain rfl := Option.some.inj h
        exact ⟨rfl, hempty⟩
      · rintro ⟨h, -⟩
        cases h
        rfl
  · rename_i hother
    exact iff_of_false (by simp) fun h ↦ hother name h.1

/-- An envelope has no correlation id: it is missing, or null. -/
def LacksId (envelope : Envelope) : Prop :=
  ∀ d, Datum.lookup envelope "correlation_id" = some d → d = .null

/-- What is kept of an envelope that is published under a correlation id: it gets this id exactly if it has none, and
nothing else of it changes. -/
structure Stamps (correlation : Option String) (envelope kept : Envelope) : Prop where
  lacking : LacksId envelope → Datum.lookup kept "correlation_id" = some (.ofText? correlation)
  having : ¬LacksId envelope → kept = envelope
  others : ∀ key, key ≠ "correlation_id" → Datum.lookup kept key = Datum.lookup envelope key

end Bus

theorem Bus.stamps_stamped (correlation : Option String) (envelope : Envelope) :
    Stamps correlation envelope (stamped correlation envelope) := by
  -- An envelope without an id gets one, whether the id was missing or null.
  have hput : LacksId envelope →
      Stamps correlation envelope (Datum.put envelope "correlation_id" (.ofText? correlation)) := fun hlacks ↦
    { lacking := fun _ ↦ Datum.lookup_put_self envelope "correlation_id" (.ofText? correlation)
      having := fun h ↦ absurd hlacks h
      others := fun key hkey ↦ Datum.lookup_put_of_ne envelope (.ofText? correlation) hkey }
  unfold stamped
  split
  · rename_i hnone
    exact hput fun d hd ↦ by simp [hnone] at hd
  · rename_i hnull
    exact hput fun d hd ↦ by simpa [hnull, eq_comm] using hd
  · rename_i d hother hsome
    have hhas : ¬LacksId envelope := fun h ↦ hother (h d hsome)
    exact ⟨fun h ↦ absurd h hhas, fun _ ↦ rfl, fun _ _ ↦ rfl⟩

/-! ### Runs in turn -/

/-- Runs of handlers in turn from a system, with the outcome of all and the system after them: each but the last one
returns, and if the last one fails, its failure is the outcome. -/
inductive HandlerRun.InTurn : Service → List HandlerRun → Except Failure Unit → Service → Prop
  | none (s : Service) : InTurn s [] (.ok ()) s
  | returned (run : HandlerRun) {rest : List HandlerRun} {outcome : Except Failure Unit} {t : Service}
      (hreturned : run.outcome = .ok ()) (hrest : InTurn run.after rest outcome t) :
      InTurn run.before (run :: rest) outcome t
  | failed (run : HandlerRun) {failure : Failure} (hfailed : run.outcome = .error failure) :
      InTurn run.before [run] (.error failure) run.after

namespace Handler

variable {deliver : Publisher} {event : Event}

theorem inTurn_runs (deliver : Publisher) (event : Event) (handlers : List Handler) (s : Service) :
    HandlerRun.InTurn s (runs deliver event handlers s) (Procedure.each (Handler.run deliver event) handlers s).1
      (Procedure.each (Handler.run deliver event) handlers s).2 := by
  induction handlers generalizing s with
  | nil => exact .none s
  | cons handler rest ih =>
    unfold Procedure.each
    rcases hrun : handler.run deliver event s with ⟨failure | _, t⟩
    · rw [Procedure.run_bind_of_error hrun, runs_cons_of_error hrun]
      exact .failed ⟨handler, s, .error failure, t⟩ rfl
    · rw [Procedure.run_bind_of_ok hrun, runs_cons_of_ok hrun]
      exact .returned ⟨handler, s, .ok (), t⟩ rfl (ih t)

/-- The first handler runs in any case. -/
theorem mem_runs_cons {handler : Handler} {rest : List Handler} {s : Service} :
    ⟨handler, s, (handler.run deliver event s).1, (handler.run deliver event s).2⟩ ∈
      runs deliver event (handler :: rest) s := by
  rcases h : handler.run deliver event s with ⟨failure | _, t⟩
  · rw [runs_cons_of_error h]
    exact List.mem_singleton_self _
  · rw [runs_cons_of_ok h]
    exact List.mem_cons_self

/-- If nothing fails, then all handlers run. -/
theorem map_handler_runs_of_ok {handlers : List Handler} {s : Service}
    (h : (Procedure.each (Handler.run deliver event) handlers s).1 = .ok ()) :
    (runs deliver event handlers s).map (·.handler) = handlers := by
  induction handlers generalizing s with
  | nil => rfl
  | cons handler rest ih =>
    unfold Procedure.each at h
    rcases hrun : handler.run deliver event s with ⟨failure | _, t⟩
    · rw [Procedure.run_bind_of_error hrun] at h
      cases h
    · rw [Procedure.run_bind_of_ok hrun] at h
      rw [runs_cons_of_ok hrun, List.map_cons, ih h]

end Handler

/-! ### What passes through what is done to buses -/

theorem Bus.passes_wellFormed : Passes fun b c ↦ b.WellFormed → c.WellFormed where
  refl _ h := h
  trans _ _ _ hbc hcd h := hcd (hbc h)
  subscribe _ name handler h := wellFormed_subscribe h name handler
  unsubscribe _ name handler h := wellFormed_unsubscribe h name handler
  keep _ _ _ h := h
  set _ _ _ _ h := h

/-- No envelope that was published is forgotten. -/
theorem Bus.passes_length_published : Passes fun b c ↦ b.published.length ≤ c.published.length where
  refl _ := le_rfl
  trans _ _ _ := le_trans
  subscribe b name handler := by
    unfold subscribe
    split_ifs <;> exact le_rfl
  unsubscribe _ _ _ := le_rfl
  keep b name envelope := by simp [keep]
  set b event key value := by simp [set]

/-- While handlers run, the envelope stays where it is kept. -/
theorem Publication.length_published_lt (p : Publication) {depth : ℕ} {run : HandlerRun}
    (hrun : run ∈ p.runsWithin depth) : p.before.bus.published.length < run.before.bus.published.length := by
  have hkept : p.before.bus.published.length < p.kept.bus.published.length := by
    simp [kept, Bus.keep]
  exact Nat.lt_of_lt_of_le hkept (p.conveyed_kept Bus.passes_length_published.conveys hrun)

/-! ### What calls do -/

namespace Occasion

variable {o : Occasion}

/-- How a publication of an envelope of some type, with an entry kept of it and with some runs of handlers, delivers
it to handlers that publish at a depth. -/
structure Delivers (o : Occasion) (depth : ℕ) (envelope : Envelope) (name : String) (kept : Envelope)
    (runs : List HandlerRun) : Prop where
  /-- The current correlation id is entered in the envelope exactly if it has none. -/
  stamped : Bus.Stamps o.before.correlation envelope kept
  /-- The envelope is kept before any handler runs. The runs come in turn, and the failure of the last one is that of
  the publication. -/
  inTurn : HandlerRun.InTurn
    { o.before with bus := { o.before.bus with published := o.before.bus.published ++ [kept] } } runs o.outcome o.after
  run_eq : ∀ run ∈ runs, run.handler.run (Service.deliverWithin depth) ⟨name, o.before.bus.published.length⟩
    run.before = (run.outcome, run.after)
  /-- While handlers run, the envelope stays where it is kept. -/
  stays : ∀ run ∈ runs, o.before.bus.published.length < run.before.bus.published.length
  /-- The handlers that are subscribed when the publication begins run in their order, each once. -/
  called : runs.map (·.handler) <+: o.before.bus.handlersOf name
  once : (runs.map (·.handler)).Nodup
  /-- If nothing fails, all of them do. -/
  all : o.outcome = .ok () → runs.map (·.handler) = o.before.bus.handlersOf name

/-- What a call does, and that no handler is subscribed twice to a type of event before it and after it. -/
structure Lawful (o : Occasion) : Prop where
  before : ∀ name, (o.before.bus.handlersOf name).Nodup
  after : ∀ name, (o.after.bus.handlersOf name).Nodup
  /-- A handler is subscribed behind the others, unless it already is. -/
  subscribed : ∀ name handler, o.invocation = .subscribe name handler →
    o.outcome = .ok () ∧ o.after.bus.published = o.before.bus.published ∧ ∀ other, o.after.bus.handlersOf other =
      if name = other ∧ handler ∉ o.before.bus.handlersOf name then o.before.bus.handlersOf other ++ [handler]
      else o.before.bus.handlersOf other
  unsubscribed : ∀ name handler, o.invocation = .unsubscribe name handler →
    o.outcome = .ok () ∧ o.after.bus.published = o.before.bus.published ∧ ∀ other, o.after.bus.handlersOf other =
      if name = other then (o.before.bus.handlersOf other).erase handler else o.before.bus.handlersOf other
  /-- An envelope that names no type of event is refused, and nothing changes. -/
  refused : ∀ envelope depth, o.invocation = .publish envelope → o.depth = depth + 1 →
    (¬∃ name, Bus.Names envelope name) → o.outcome =
      .error (.cause (.fault .value "event envelope needs a non-empty event_type")) ∧ o.after = o.before
  /-- Any other envelope is kept and delivered. -/
  delivered : ∀ envelope depth name, o.invocation = .publish envelope → o.depth = depth + 1 →
    Bus.Names envelope name → ∃ kept runs, o.Delivers depth envelope name kept runs
  /-- Where no more deliveries may nest, nothing is published. -/
  exhausted : ∀ envelope, o.invocation = .publish envelope → o.depth = 0 →
    o.outcome = .error (.cause (.fault .recursion "maximum recursion depth exceeded")) ∧ o.after = o.before

theorem delivers (p : Publication) (depth : ℕ) (h : p.before.bus.WellFormed) :
    Delivers ⟨p.before, depth + 1, .publish p.envelope⟩ depth p.envelope p.name
      (Bus.stamped p.before.correlation p.envelope) (p.runsWithin depth) := by
  have hcalled := Handler.map_handler_runs (Service.deliverWithin depth) p.event p.handlers p.kept
  have hinTurn := Handler.inTurn_runs (Service.deliverWithin depth) p.event p.handlers p.kept
  rw [← p.deliverWithin_eq] at hinTurn
  exact
    { stamped := Bus.stamps_stamped p.before.correlation p.envelope
      inTurn := hinTurn
      run_eq := fun run hrun ↦ Handler.run_eq_of_mem_runs hrun
      stays := fun run hrun ↦ p.length_published_lt hrun
      called := hcalled
      once := hcalled.sublist.nodup (h.nodup_handlersOf p.name)
      all := fun hok ↦ Handler.map_handler_runs_of_ok (by rw [← p.deliverWithin_eq]; exact hok) }

/-- On a bus on which no handler is subscribed twice, every call is lawful. -/
theorem lawful_of_wellFormed (h : o.before.bus.WellFormed) : o.Lawful := by
  have hafter : o.after.bus.WellFormed := o.conveyed Bus.passes_wellFormed.conveys h
  obtain ⟨s, depth, invocation⟩ := o
  refine ⟨h.nodup_handlersOf, hafter.nodup_handlersOf, ?_, ?_, ?_, ?_, ?_⟩
  · rintro name handler rfl
    refine ⟨rfl, ?_, s.bus.handlersOf_subscribe name handler⟩
    change (s.bus.subscribe name handler).published = s.bus.published
    unfold Bus.subscribe
    split_ifs <;> rfl
  · rintro name handler rfl
    exact ⟨rfl, rfl, s.bus.handlersOf_unsubscribe name handler⟩
  · rintro envelope depth rfl rfl hnone
    have htype : Bus.eventType? envelope = none := by
      rw [Option.eq_none_iff_forall_ne_some]
      exact fun name hname ↦ hnone ⟨name, Bus.eventType?_eq_some_iff.1 hname⟩
    have hpublished : Service.publishWithin (depth + 1) envelope s = (.error Bus.untyped, s) := by
      rw [Service.publishWithin, htype]
    have hdelivered : Service.deliverWithin (depth + 1) envelope s = (.error Bus.untyped, s) := by
      simp only [Service.deliverWithin, Procedure.forget, hpublished]
      rfl
    exact ⟨congrArg Prod.fst hdelivered, congrArg Prod.snd hdelivered⟩
  · rintro envelope depth name rfl rfl hnames
    exact ⟨_, _, delivers ⟨s, envelope, name, Bus.eventType?_eq_some_iff.2 hnames⟩ depth h⟩
  · rintro envelope rfl rfl
    exact ⟨rfl, rfl⟩

end Occasion

/-! ### Sequences of calls -/

/-- Calls in sequence, from a bus to a bus. Each is made on the bus that the call before it left, and whatever else
differs. -/
inductive BusHistory : Bus → List Occasion → Bus → Prop
  | nil (b : Bus) : BusHistory b [] b
  | cons {o : Occasion} {calls : List Occasion} {c : Bus} (hrest : BusHistory o.after.bus calls c) :
      BusHistory o.before.bus (o :: calls) c

namespace BusHistory

variable {b c : Bus} {calls : List Occasion}

/-- In a sequence of calls on a bus on which no handler is subscribed twice, none ever is, and every call is made on
such a bus. -/
theorem wellFormed (h : BusHistory b calls c) (hb : b.WellFormed) :
    c.WellFormed ∧ ∀ o ∈ calls, o.before.bus.WellFormed := by
  induction h with
  | nil b => exact ⟨hb, List.forall_mem_nil _⟩
  | @cons o calls c hrest ih =>
    obtain ⟨hend, hcalls⟩ := ih (o.conveyed Bus.passes_wellFormed.conveys hb)
    exact ⟨hend, List.forall_mem_cons.2 ⟨hb, hcalls⟩⟩

/-- In every sequence of calls on a bus on which no handler is subscribed twice, none ever is, every call is lawful, and
so is every call that is made during one of them, however deep. -/
theorem lawful (h : BusHistory b calls c) (hb : b.WellFormed) : (∀ name, (c.handlersOf name).Nodup) ∧
    ∀ o ∈ calls, ∀ inner, Relation.ReflTransGen Occasion.Makes o inner → inner.Lawful := by
  obtain ⟨hend, hcalls⟩ := h.wellFormed hb
  refine ⟨hend.nodup_handlersOf, fun o ho inner hmakes ↦ ?_⟩
  exact Occasion.lawful_of_wellFormed (Occasion.bus_of_makes Bus.passes_wellFormed hmakes (hcalls o ho))

/-! ### A handler that publishes and unsubscribes another one -/

/-- The first handler publishes another event, and then unsubscribes the second one. -/
def Sample.nesting : Service :=
  { Service.start 0 with
    bus := (Bus.empty.subscribe "outer" (.script "first")).subscribe "outer" (.script "second")
    scripts := [("first", [.publish [("event_type", .text "inner")], .unsubscribe "outer" (.script "second")])] }

/-- The publication that is delivered to both. -/
def Sample.publication : Publication :=
  ⟨Sample.nesting, [("event_type", .text "outer")], "outer", rfl⟩

/-- The second handler runs, although it is not subscribed any more when its turn comes. -/
example : (Sample.publication.runsWithin 1).map (fun run ↦ (run.handler, run.before.bus.handlersOf "outer")) =
    [(.script "first", [.script "first", .script "second"]), (.script "second", [.script "first"])] := by
  decide +kernel

/-- The call that publishes, and the one that the first handler makes. -/
def Sample.outer : Occasion :=
  ⟨Sample.nesting, 2, .publish [("event_type", .text "outer")]⟩

def Sample.inner : Occasion :=
  ⟨Handler.noted "first" Sample.publication.event Sample.publication.kept, 1,
    .publish [("event_type", .text "inner")]⟩

theorem makes_sample : Sample.outer.Makes Sample.inner := by
  have hruns : Sample.publication.handlers = [.script "first", .script "second"] := by decide +kernel
  have hrun : ⟨.script "first", Sample.publication.kept,
      (Handler.run (Service.deliverWithin 1) Sample.publication.event (.script "first") Sample.publication.kept).1,
      (Handler.run (Service.deliverWithin 1) Sample.publication.event (.script "first") Sample.publication.kept).2⟩ ∈
      Sample.publication.runsWithin 1 := by
    unfold Publication.runsWithin
    rw [hruns]
    exact Handler.mem_runs_cons
  exact .action (p := Sample.publication) hrun rfl (.here _ _ _) rfl

/-- A call that is made during a publication is lawful. -/
theorem lawful_sample :
    BusHistory Sample.nesting.bus [Sample.outer] Sample.outer.after.bus ∧ Sample.nesting.bus.WellFormed ∧
      Relation.ReflTransGen Occasion.Makes Sample.outer Sample.inner ∧ Sample.inner.Lawful := by
  have hhistory : BusHistory Sample.nesting.bus [Sample.outer] Sample.outer.after.bus :=
    .cons (.nil Sample.outer.after.bus)
  have hwellFormed : Sample.nesting.bus.WellFormed :=
    Bus.wellFormed_subscribe (Bus.wellFormed_subscribe Bus.wellFormed_empty _ _) _ _
  have hmakes : Relation.ReflTransGen Occasion.Makes Sample.outer Sample.inner := .single makes_sample
  exact ⟨hhistory, hwellFormed, hmakes,
    (hhistory.lawful hwellFormed).2 Sample.outer (List.mem_singleton_self _) Sample.inner hmakes⟩

end BusHistory
end BundleLedger
