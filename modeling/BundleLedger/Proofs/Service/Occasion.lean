import BundleLedger.Proofs.Service.AutoRefresh
import Mathlib.Logic.Relation

/-!
# Calls within calls

The handlers of an event subscribe and unsubscribe handlers, publish and refresh in turn, and a refresh publishes. An
`Occasion` is one such call, in the system in which it is made, and `Occasion.Makes` relates it to the calls that are
made during it and not during another one. What goes through deliveries holds for each call (`Occasion.conveyed`), and
up to each call that the handlers of an event make (`Occasion.Makes.conveyed`). A relation between buses that goes
through what is done to them (`Bus.Passes`) holds up to every call, however deep it is made (`Occasion.bus_of_makes`).
-/

set_option autoImplicit false

namespace BundleLedger

/-! ### Items of a list of computations -/

namespace Procedure

variable {α : Type} {f : α → Procedure Unit} {items : List α} {item : α} {s t : Service}

/-- Whether computations in turn, from a system, come to one of them in a system. -/
inductive Reaches (f : α → Procedure Unit) : List α → Service → α → Service → Prop
  | here (item : α) (rest : List α) (s : Service) : Reaches f (item :: rest) s item s
  | later {first item : α} {rest : List α} {s t u : Service} (hfirst : f first s = (.ok (), t))
      (hrest : Reaches f rest t item u) : Reaches f (first :: rest) s item u

theorem Reaches.related {R : Service → Service → Prop} (hrefl : ∀ s, R s s)
    (htrans : ∀ ⦃s t u⦄, R s t → R t u → R s u) (hf : ∀ item, Within R (f item)) (h : Reaches f items s item t) :
    R s t := by
  induction h with
  | here item rest s => exact hrefl s
  | @later first item rest s t u hfirst hrest ih =>
    have hbefore := hf first s
    rw [hfirst] at hbefore
    exact htrans hbefore ih

end Procedure

/-! ### Runs of the handlers at a depth -/

theorem Service.Conveys.deliverWithin {R : Service → Service → Prop} (h : Conveys R) (depth : ℕ) (e : Envelope) :
    (Service.deliverWithin depth e).Within R :=
  Procedure.within_forget (h.publishWithin depth e)

namespace Publication

/-- The runs of the handlers of a publication, with deliveries inside nesting to a depth. -/
def runsWithin (p : Publication) (depth : ℕ) : List HandlerRun :=
  Handler.runs (Service.deliverWithin depth) p.event p.handlers p.kept

theorem deliverWithin_eq (p : Publication) (depth : ℕ) :
    Service.deliverWithin (depth + 1) p.envelope p.before =
      Procedure.each (Handler.run (Service.deliverWithin depth) p.event) p.handlers p.kept := by
  change (Service.publishWithin (depth + 1) p.envelope).forget p.before = _
  unfold Procedure.forget
  rw [p.publishWithin_eq]
  rcases Procedure.each (Handler.run (Service.deliverWithin depth) p.event) p.handlers p.kept with ⟨failure | _, t⟩
  · rfl
  · rfl

/-- What goes through deliveries holds from the moment when the envelope is kept up to each run of a handler. -/
theorem conveyed_kept {R : Service → Service → Prop} (h : Service.Conveys R) (p : Publication) {depth : ℕ}
    {run : HandlerRun} (hrun : run ∈ p.runsWithin depth) : R p.kept run.before := by
  have hruns : ∀ run ∈ p.runsWithin depth, R run.before run.after := by
    intro run hrun
    have hwithin := h.handler (h.deliverWithin depth) p.event run.handler run.before
    rwa [Handler.run_eq_of_mem_runs hrun] at hwithin
  exact (Handler.related_each h.refl h.trans hruns).2 run hrun

theorem conveyed {R : Service → Service → Prop} (h : Service.Conveys R) (p : Publication) {depth : ℕ}
    {run : HandlerRun} (hrun : run ∈ p.runsWithin depth) : R p.before run.before :=
  h.trans (h.touched (.kept p.name (Bus.stamped p.before.correlation p.envelope))) (p.conveyed_kept h hrun)

end Publication

/-! ### Calls -/

/-- What handlers can call. -/
inductive Invocation where
  | subscribe (name : String) (handler : Handler)
  | unsubscribe (name : String) (handler : Handler)
  | publish (envelope : Envelope)
  | refresh (account : Uuid) (given : Option String)

/-- What is done when it is called, with deliveries inside nesting to a depth. -/
def Invocation.run (depth : ℕ) : Invocation → Procedure Unit
  | .subscribe name handler => Procedure.modify fun s ↦ { s with bus := s.bus.subscribe name handler }
  | .unsubscribe name handler => Procedure.modify fun s ↦ { s with bus := s.bus.unsubscribe name handler }
  | .publish envelope => Service.deliverWithin depth envelope
  | .refresh account given => (Refresh.run (Service.deliverWithin depth) account given).forget

/-- What an action calls, if it calls anything. -/
def Action.invocation? : Action → Option Invocation
  | .subscribe name handler => some (.subscribe name handler)
  | .unsubscribe name handler => some (.unsubscribe name handler)
  | .publish envelope => some (.publish envelope)
  | .set .. | .fail _ => none

/-- A call: the system in which it is made, and how deep deliveries inside it may nest. -/
structure Occasion where
  before : Service
  depth : ℕ
  invocation : Invocation

namespace Occasion

variable {o o' : Occasion}

/-- How a call ends. -/
def outcome (o : Occasion) : Except Failure Unit :=
  (o.invocation.run o.depth o.before).1

/-- The system after a call. -/
def after (o : Occasion) : Service :=
  (o.invocation.run o.depth o.before).2

/-- Whether a call is made during another one, and not during a third one inside that. -/
inductive Makes : Occasion → Occasion → Prop
  /-- A script that runs for a published event comes to an action that calls. -/
  | action {p : Publication} {depth : ℕ} {run : HandlerRun} {script : String} {action : Action}
      {invocation : Invocation} {t : Service} (hrun : run ∈ p.runsWithin depth) (hscript : run.handler = .script script)
      (hreaches : Procedure.Reaches (Handler.act (Service.deliverWithin depth) p.event)
        (run.handler.actions run.before.scripts) (Handler.noted script p.event run.before) action t)
      (hcalls : action.invocation? = some invocation) :
      Makes ⟨p.before, depth + 1, .publish p.envelope⟩ ⟨t, depth, invocation⟩
  /-- A published event asks for a refresh. -/
  | request {p : Publication} {depth : ℕ} {run : HandlerRun} {settings : Settings} {request : RefreshRequest}
      (hrun : run ∈ p.runsWithin depth) (hsettings : run.before.settings = .ok settings)
      (hrequest : request ∈ run.request? settings p.event) :
      Makes ⟨p.before, depth + 1, .publish p.envelope⟩
        ⟨run.before, depth, .refresh request.account request.correlation⟩
  /-- A refresh has stored its records and tells of them. -/
  | announcement {s built : Service} {depth : ℕ} {account : Uuid} {given : Option String} {settings : Settings}
      {records : List BundleRecord} {database : Database} (hsettings : s.settings = .ok settings)
      (hbuild : Refresh.build settings account (Refresh.inside account given s) = (.ok records, built))
      (hreplaced : built.database.replaceRecords account built.now records = .ok database) :
      Makes ⟨s, depth, .refresh account given⟩ ⟨Refresh.committed account records.length built database, depth,
        .publish (Refresh.envelope account records.length built.correlation)⟩

/-- What goes through deliveries holds for each call. -/
theorem conveyed {R : Service → Service → Prop} (h : Service.Conveys R) (o : Occasion) : R o.before o.after := by
  obtain ⟨s, depth, invocation⟩ := o
  cases invocation with
  | subscribe name handler => exact h.touched (.subscribed name handler)
  | unsubscribe name handler => exact h.touched (.unsubscribed name handler)
  | publish envelope => exact h.deliverWithin depth envelope s
  | refresh account given => exact h.refreshed (h.deliverWithin depth) account given s

/-- What goes through deliveries holds up to each call that the handlers of an event make. -/
theorem Makes.conveyed {R : Service → Service → Prop} (h : Service.Conveys R) (hmakes : Makes o o')
    (hpublishes : ∃ envelope, o.invocation = .publish envelope) : R o.before o'.before := by
  cases hmakes with
  | @action p depth run script action invocation t hrun hscript hreaches hcalls =>
    have hnoted : R run.before (Handler.noted script p.event run.before) := h.touched (.noted script p.event)
    exact h.trans (p.conveyed h hrun)
      (h.trans hnoted (hreaches.related h.refl h.trans (h.act (h.deliverWithin depth) p.event)))
  | @request p depth run settings request hrun hsettings hrequest => exact p.conveyed h hrun
  | announcement hsettings hbuild hreplaced =>
    obtain ⟨envelope, hpublish⟩ := hpublishes
    cases hpublish

end Occasion

/-! ### What happens to the bus -/

/-- A relation between buses that goes through all that is done to them. -/
structure Bus.Passes (B : Bus → Bus → Prop) : Prop where
  refl : ∀ b, B b b
  trans : ∀ ⦃b c d⦄, B b c → B c d → B b d
  subscribe : ∀ b name handler, B b (b.subscribe name handler)
  unsubscribe : ∀ b name handler, B b (b.unsubscribe name handler)
  keep : ∀ b name envelope, B b (b.keep name envelope).2
  set : ∀ b event key value, B b (b.set event key value)

/-- Until a refresh publishes, the bus is as it was. -/
theorem Refresh.bus_build {settings : Settings} {account : Uuid} {given : Option String} {s built : Service}
    {x : Except Failure (List BundleRecord)} (h : build settings account (inside account given s) = (x, built)) :
    built.bus = s.bus := by
  obtain ⟨u, hbuilt, -⟩ := exists_observe_build settings account (inside account given s)
  rw [h] at hbuilt
  obtain rfl : built = _ := hbuilt
  rfl

/-- A refresh does nothing to the bus but publish. -/
theorem Bus.Passes.conveys {B : Bus → Bus → Prop} (h : Passes B) : Service.Conveys fun s t ↦ B s.bus t.bus where
  refl s := h.refl s.bus
  trans _ _ _ hst htu := h.trans hst htu
  touched {s t} htouched := by
    cases htouched with
    | subscribed name handler => exact h.subscribe s.bus name handler
    | unsubscribed name handler => exact h.unsubscribe s.bus name handler
    | set event key value => exact h.set s.bus event key value
    | kept name envelope => exact h.keep s.bus name envelope
    | noted name event => exact h.refl s.bus
  logged s _ _ := h.refl s.bus
  refreshed {deliver} hdeliver account given s := by
    cases hsettings : s.settings with
    | error cause =>
      rw [Refresh.run_of_settings_error hsettings]
      exact h.refl s.bus
    | ok settings =>
      rw [Refresh.run_of_settings hsettings, Refresh.runWith_eq]
      change B s.bus (Refresh.work deliver settings account (Refresh.inside account given s)).2.bus
      rcases Refresh.work_cases deliver settings account (Refresh.inside account given s) with
        ⟨failure, built, hbuild, hwork⟩ | ⟨records, built, fault, hbuild, -, hwork⟩ |
          ⟨records, built, database, hbuild, -, hwork⟩
      · rw [hwork, Refresh.bus_build hbuild]
        exact h.refl s.bus
      · rw [hwork, Refresh.bus_build hbuild]
        exact h.refl s.bus
      · have hpublished := hdeliver (Refresh.envelope account records.length built.correlation)
          (Refresh.committed account records.length built database)
        change B built.bus _ at hpublished
        rw [Refresh.bus_build hbuild] at hpublished
        rw [hwork]
        exact hpublished

namespace Occasion

variable {o o' : Occasion} {B : Bus → Bus → Prop}

theorem Makes.bus (h : Bus.Passes B) (hmakes : Makes o o') : B o.before.bus o'.before.bus := by
  cases hmakes with
  | action hrun hscript hreaches hcalls =>
    exact (Makes.action hrun hscript hreaches hcalls).conveyed h.conveys ⟨_, rfl⟩
  | request hrun hsettings hrequest =>
    exact (Makes.request hrun hsettings hrequest).conveyed h.conveys ⟨_, rfl⟩
  | @announcement s built depth account given settings records database hsettings hbuild hreplaced =>
    change B s.bus built.bus
    rw [Refresh.bus_build hbuild]
    exact h.refl s.bus

/-- What goes through all that is done to buses holds up to each call that is made during another one, however deep. -/
theorem bus_of_makes (h : Bus.Passes B) (hmakes : Relation.ReflTransGen Makes o o') :
    B o.before.bus o'.before.bus := by
  induction hmakes with
  | refl => exact h.refl o.before.bus
  | tail _ hmakes ih => exact h.trans ih (hmakes.bus h)

end Occasion
end BundleLedger
