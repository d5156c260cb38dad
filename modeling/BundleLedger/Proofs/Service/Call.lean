import BundleLedger.Proofs.Service.History
import BundleLedger.Proofs.Service.Publication
import BundleLedger.Proofs.Service.Source

/-!
# When a call of a refresh returns

A call returns exactly when it stores the records of its account and its event is delivered
(`RefreshCall.returns_iff_stores`), and then the records by the source are what it returns and what it leaves stored
(`RefreshCall.exists_stored`). Handlers that neither publish nor refresh are passive; an event is delivered to such
handlers exactly when none of their actions fails (`RefreshCall.delivered_iff`).
-/

set_option autoImplicit false

namespace BundleLedger

open Result

/-! ### Handlers that neither publish nor refresh -/

/-- Whether an action publishes. -/
def Action.publishes : Action → Bool
  | .publish _ => true
  | _ => false

/-- Whether an action fails when it is reached. -/
def Action.fails : Action → Bool
  | .fail _ => true
  | _ => false

/-- The actions of a handler by the scripts of a system. -/
def Handler.actions (scripts : List (String × List Action)) : Handler → List Action
  | .script name => ((scripts.find? fun script ↦ script.1 = name).map (·.2)).getD []
  | _ => []

/-- Whether a handler starts no refresh and publishes nothing. -/
def Handler.IsPassive (scripts : List (String × List Action)) (handler : Handler) : Prop :=
  handler ≠ .refreshAccount ∧ ∀ action ∈ handler.actions scripts, action.publishes = false

/-- Whether the database and all that is set up stay, and nothing more is logged but starts of the system. -/
structure Service.StaysQuiet (s t : Service) : Prop where
  beside : s.Beside t
  exists_quiet : ∃ u, t.telemetry = s.telemetry ++ u ∧ ∀ message, message ≠ "system_event" → u.logged message = []

theorem Service.StaysQuiet.refl (s : Service) : s.StaysQuiet s :=
  ⟨rfl, .none, (Telemetry.append_none _).symm, fun _ _ ↦ rfl⟩

theorem Service.StaysQuiet.relayed {s t v : Service} (h : s.StaysQuiet t) (h' : t.Relays v) : s.StaysQuiet v := by
  have htelemetry : v.telemetry = t.telemetry := by
    unfold Relays at h'
    rw [h']
  exact ⟨h.beside.trans h'.beside, htelemetry ▸ h.exists_quiet⟩

/-- A list of computations ends without a failure exactly when each of them does, if that depends on nothing that
they change. -/
theorem Procedure.each_eq_ok_iff {α : Type} {f : α → Procedure Unit} {P : Service → Prop} {good : α → Prop}
    {items : List α} (hf : ∀ x ∈ items, ∀ s, P s → P (f x s).2 ∧ ((f x s).1 = .ok () ↔ good x)) {s : Service}
    (hs : P s) : P (each f items s).2 ∧ ((each f items s).1 = .ok () ↔ ∀ x ∈ items, good x) := by
  induction items generalizing s with
  | nil => exact ⟨hs, iff_of_true rfl (List.forall_mem_nil _)⟩
  | cons x rest ih =>
    obtain ⟨hafter, hgood⟩ := hf x List.mem_cons_self s hs
    change P (bind (f x) (fun _ ↦ each f rest) s).2 ∧ ((bind (f x) (fun _ ↦ each f rest) s).1 = .ok () ↔ _)
    rw [List.forall_mem_cons]
    rcases h : f x s with ⟨failure | _, t⟩
    · rw [run_bind_of_error h]
      rw [h] at hafter hgood
      exact ⟨hafter, iff_of_false (by simp) fun hall ↦ by simpa using hgood.2 hall.1⟩
    · rw [run_bind_of_ok h]
      rw [h] at hafter hgood
      obtain ⟨hend, hiff⟩ := ih (fun y hy ↦ hf y (List.mem_cons_of_mem _ hy)) hafter
      exact ⟨hend, hiff.trans (and_iff_right (hgood.1 rfl)).symm⟩

namespace Handler

variable {publish : Publisher} {event : Event} {s t : Service}

theorem act_of_not_publishes {action : Action} (haction : action.publishes = false) (ht : s.StaysQuiet t) :
    s.StaysQuiet (act publish event action t).2 ∧
      ((act publish event action t).1 = .ok () ↔ action.fails = false) := by
  cases action with
  | subscribe name handler => exact ⟨ht.relayed rfl, iff_of_true rfl rfl⟩
  | unsubscribe name handler => exact ⟨ht.relayed rfl, iff_of_true rfl rfl⟩
  | publish envelope => simp [Action.publishes] at haction
  | set key value => exact ⟨ht.relayed rfl, iff_of_true rfl rfl⟩
  | fail failure => exact ⟨ht, iff_of_false (by simp [act, Procedure.fail]) (by simp [Action.fails])⟩

/-- A passive handler tells of nothing, and ends without a failure exactly when none of its actions fails. -/
theorem run_of_passive (publish : Publisher) (event : Event) {handler : Handler} (hpassive : handler.IsPassive s.scripts) (ht : s.StaysQuiet t) :
    s.StaysQuiet (run publish event handler t).2 ∧
      ((run publish event handler t).1 = .ok () ↔
        ∀ action ∈ handler.actions s.scripts, action.fails = false) := by
  cases handler with
  | announceStart =>
    obtain ⟨u, htelemetry, hquiet⟩ := ht.exists_quiet
    refine ⟨⟨ht.beside.trans rfl, u ++ ⟨[⟨.systemEvent event.name, t.correlation⟩], [], []⟩, ?_,
      fun message hmessage ↦ ?_⟩, iff_of_true rfl (List.forall_mem_nil _)⟩
    · rw [← Telemetry.append_assoc, ← htelemetry]
      rfl
    · rw [Telemetry.logged_append, hquiet message hmessage]
      simp [Telemetry.logged, Notice.message, hmessage.symm]
  | refreshAccount => exact absurd rfl hpassive.1
  | script name =>
    have hnoted : s.StaysQuiet (noted name event t) := ht.relayed rfl
    change s.StaysQuiet (runScript publish name event t).2 ∧ ((runScript publish name event t).1 = .ok () ↔ _)
    unfold runScript
    rw [ht.beside.scripts]
    exact Procedure.each_eq_ok_iff (f := act publish event)
      (fun action haction u hu ↦ act_of_not_publishes (hpassive.2 action haction) hu) hnoted

end Handler

/-- An envelope is delivered to passive handlers exactly when none of their actions fails, and nothing is told. -/
theorem Service.publish_of_passive {s : Service} {envelope : Envelope} {name : String}
    (hname : Bus.eventType? envelope = some name)
    (hpassive : ∀ handler ∈ s.bus.handlersOf name, handler.IsPassive s.scripts) :
    s.StaysQuiet (publish envelope s).2 ∧
      ((∃ t, (publish envelope).forget s = (.ok (), t)) ↔
        ∀ handler ∈ s.bus.handlersOf name, ∀ action ∈ handler.actions s.scripts, action.fails = false) := by
  let p : Publication := ⟨s, envelope, name, hname⟩
  have hpublished : publish envelope s = _ := p.publish_eq
  have hkept : s.StaysQuiet p.kept := (Service.StaysQuiet.refl s).relayed rfl
  obtain ⟨hquiet, hiff⟩ := Procedure.each_eq_ok_iff (f := Handler.run p.deliver p.event)
    (fun handler hhandler t ht ↦ Handler.run_of_passive p.deliver p.event (hpassive handler hhandler) ht) hkept
  refine ⟨?_, (p.exists_forget_iff.trans Handler.each_eq_ok_iff_runs.symm).trans hiff⟩
  rw [hpublished]
  exact hquiet

/-! ### Calls -/

namespace RefreshCall

variable {call : RefreshCall}

/-- Whether a call stores the records of its account. -/
def Stores (call : RefreshCall) : Prop :=
  ∃ settings, call.before.settings = .ok settings ∧
    Refresh.Stores settings call.account (Refresh.inside call.account call.given call.before)

/-- Whether the event of a call is delivered once the records are stored. -/
def Delivered (call : RefreshCall) : Prop :=
  ∀ settings, call.before.settings = .ok settings →
    Refresh.Delivers (fun e ↦ (Service.publish e).forget) settings call.account
      (Refresh.inside call.account call.given call.before)

/-- The handlers that are subscribed to the event of a call. -/
def handlers (call : RefreshCall) : List Handler :=
  call.before.bus.handlersOf "analytics.bundles.refreshed"

/-- Whether all handlers of the event of a call are passive. -/
def Passive (call : RefreshCall) : Prop :=
  ∀ handler ∈ call.handlers, handler.IsPassive call.before.scripts

/-- A call stores records exactly when there are some by the source, the pool lets them be built, and there is a table
to store them in. -/
theorem stores_iff :
    call.Stores ↔ call.before.database.entries.isSome = true ∧ ∃ settings schedule reference,
      call.before.settings = .ok settings ∧ call.before.pool.schedule settings.refreshWorkers = .ok schedule ∧
        recordsBy call.before.database.source call.before.environment call.account = some reference ∧
        schedule.Lets reference.length := by
  constructor
  · rintro ⟨settings, hsettings, hstores⟩
    obtain ⟨hentries, schedule, reference, hbuilt⟩ :=
      (Refresh.stores_iff (s := Refresh.inside call.account call.given call.before) hsettings).1 hstores
    exact ⟨hentries, settings, schedule, reference, hsettings, hbuilt⟩
  · rintro ⟨hentries, settings, schedule, reference, hsettings, hbuilt⟩
    refine ⟨settings, hsettings, ?_⟩
    exact (Refresh.stores_iff (s := Refresh.inside call.account call.given call.before) hsettings).2
      ⟨hentries, schedule, reference, hbuilt⟩

/-- A call returns exactly when it stores the records of its account and its event is delivered. -/
theorem returns_iff_stores : call.Returns ↔ call.Stores ∧ call.Delivered := by
  rw [returns_iff_exists]
  constructor
  · rintro ⟨result, t, h⟩
    obtain ⟨settings, -, -, hsettings, -⟩ := Refresh.run_eq_ok_iff.1 h
    obtain ⟨hstores, hdelivers⟩ := (Refresh.returns_iff hsettings).1 ⟨result, t, h⟩
    refine ⟨⟨settings, hsettings, hstores⟩, fun settings' hsettings' ↦ ?_⟩
    obtain rfl : settings = settings' := Except.ok.inj (hsettings.symm.trans hsettings')
    exact hdelivers
  · rintro ⟨⟨settings, hsettings, hstores⟩, hdelivered⟩
    exact (Refresh.returns_iff hsettings).2 ⟨hstores, hdelivered settings hsettings⟩

/-- What a call returns are the records by the source. -/
theorem recordsBy_eq_of_refresh {result : RefreshResult} {t : Service}
    (h : Service.refresh call.account call.given call.before = (.ok result, t)) :
    recordsBy call.before.database.source call.before.environment call.account = some result.records := by
  have hreturns : call.Returns := returns_iff_exists.2 ⟨result, t, h⟩
  obtain ⟨-, -, -, reference, -, -, hrecords, -⟩ := stores_iff.1 (returns_iff_stores.1 hreturns).1
  rw [hrecords, (ReferenceOf.of_recordsBy hrecords).unique (Service.refreshed h).reference]

/-- There are records by the source for a call that returns, and it leaves them stored. -/
theorem exists_stored (h : call.Returns) : ∃ records,
    recordsBy call.before.database.source call.before.environment call.account = some records ∧
      StoredAs call.after.database call.account records := by
  obtain ⟨result, hresult⟩ := h
  exact ⟨result.records, recordsBy_eq_of_refresh hresult, (Service.refreshed hresult).stored⟩

/-- The event of a call is delivered to passive handlers exactly when none of their actions fails. -/
theorem delivered_iff (hpassive : call.Passive) :
    call.Delivered ↔ (call.Stores →
      ∀ handler ∈ call.handlers, ∀ action ∈ handler.actions call.before.scripts, action.fails = false) := by
  have hpublished : ∀ settings records built database,
      Refresh.build settings call.account (Refresh.inside call.account call.given call.before) =
        (.ok records, built) →
      ((∃ t, (Service.publish (Refresh.envelope call.account records.length built.correlation)).forget
          (Refresh.committed call.account records.length built database) = (.ok (), t)) ↔
        ∀ handler ∈ call.handlers, ∀ action ∈ handler.actions call.before.scripts, action.fails = false) := by
    intro settings records built database hbuild
    obtain ⟨u, -, hbuilt⟩ := Refresh.exists_quiet_build settings call.account
      (Refresh.inside call.account call.given call.before)
    rw [hbuild] at hbuilt
    obtain rfl : built = _ := hbuilt
    have hname : Bus.eventType? (Refresh.envelope call.account records.length
        (Refresh.inside call.account call.given call.before).correlation) = some "analytics.bundles.refreshed" := rfl
    obtain ⟨-, hiff⟩ := Service.publish_of_passive (s := Refresh.committed call.account records.length
      ((Refresh.inside call.account call.given call.before).observe u) database) hname hpassive
    exact hiff
  constructor
  · rintro hdelivered ⟨settings, hsettings, records, built, database, hbuild, hreplaced⟩
    exact (hpublished settings records built database hbuild).1
      (hdelivered settings hsettings records built database hbuild hreplaced)
  · intro h settings hsettings records built database hbuild hreplaced
    exact (hpublished settings records built database hbuild).2
      (h ⟨settings, hsettings, records, built, database, hbuild, hreplaced⟩)

end RefreshCall

/-- Whether two databases have the same stored records of an account, but for their record numbers and the times of
their refreshes. -/
def SameEntries (db db' : Database) (account : Uuid) : Prop :=
  ((entriesOf db account).map (·.entry)).Perm ((entriesOf db' account).map (·.entry))

theorem SameEntries.of_stored {db db' : Database} {account : Uuid} {records : List BundleRecord}
    (h : StoredAs db account records) (h' : StoredAs db' account records) : SameEntries db db' account :=
  List.Perm.trans h (List.Perm.symm h')

end BundleLedger
