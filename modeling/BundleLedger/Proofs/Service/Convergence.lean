import BundleLedger.Proofs.Service.Call

/-!
# Refreshes converge

What is observed of a system tells which accounts had their records stored, by the refreshes that were called and by
those that handlers ran. The stored records of these accounts are those by the source, and all others are as before
(`Service.carries_tells`).

So after any history of refreshes the stored records of an account are those by the source if some refresh of it
succeeded, and as at the beginning if none did. When pools only arrange the builds and events are delivered, all
calls on an account return or none does. Histories in which the same accounts were refreshed leave the same
records, so repeated refreshes change nothing, and refreshes of different accounts commute
(`History.converges`).
-/

set_option autoImplicit false

namespace BundleLedger

open Result

/-! ### Telling of refreshes that succeeded -/

/-- Whether what was observed tells that the records of an account were stored. -/
def Telemetry.TellsOf (u : Telemetry) (account : Uuid) : Prop :=
  ∃ count, .refreshSucceeded account count ∈ u.logged "bundles.refresh.finished"

/-- Whether what was observed tells of no account that its records were stored. -/
def Telemetry.Silent (u : Telemetry) : Prop :=
  ∀ account, ¬u.TellsOf account

namespace Telemetry

theorem tellsOf_append {a b : Telemetry} {account : Uuid} :
    (a ++ b).TellsOf account ↔ a.TellsOf account ∨ b.TellsOf account := by
  simp only [TellsOf, logged_append, List.mem_append, exists_or]

theorem Silent.append {a b : Telemetry} (ha : a.Silent) (hb : b.Silent) : (a ++ b).Silent := by
  intro account htells
  exact (tellsOf_append.1 htells).elim (ha account) (hb account)

theorem silent_of_unfinished {u : Telemetry} (h : u.logged "bundles.refresh.finished" = []) : u.Silent := by
  rintro account ⟨count, hmem⟩
  rw [h] at hmem
  exact List.not_mem_nil hmem

end Telemetry

namespace Refresh

theorem silent_conclusion (account : Uuid) (current correlation : Option String) (parent : Option SpanKind)
    (outcome : Except Failure (List BundleRecord)) :
    (conclusion account current correlation parent outcome).Silent := by
  rintro other ⟨count, hmem⟩
  rw [(logged_conclusion account current correlation parent outcome).2] at hmem
  rcases outcome with (e | cause) | records
  · simp [failureNotices] at hmem
  · simp [failureNotices] at hmem
  · simp [failureNotices] at hmem

theorem tellsOf_success {account other : Uuid} {count : ℕ} {correlation : Option String} :
    (success account count correlation).TellsOf other ↔ other = account := by
  have hlogged : (success account count correlation).logged "bundles.refresh.finished" =
      [.refreshSucceeded account count] := rfl
  unfold Telemetry.TellsOf
  rw [hlogged]
  simp [eq_comm]

variable {publish : Publisher} {account : Uuid} {given : Option String} {s : Service}

/-- A refresh that fails before its records are stored observes nothing that tells of them. -/
theorem exists_silent_concluded (settings : Settings) (account : Uuid) (given : Option String) (s : Service)
    (failure : Failure) : ∃ u : Telemetry,
    concluded account given s (.error failure : Except Failure (List BundleRecord))
      (build settings account (inside account given s)).2 = s.observe u ∧ u.Silent := by
  obtain ⟨u, hquiet, hbuilt⟩ := exists_quiet_build settings account (inside account given s)
  have hbeginning : (beginning account (effective given s.correlation)).Silent := Telemetry.silent_of_unfinished rfl
  have hconclusion := silent_conclusion account (effective given s.correlation) (effective given s.correlation) s.span
    (.error failure : Except Failure (List BundleRecord))
  refine ⟨_, ?_, (hbeginning.append (Telemetry.silent_of_unfinished hquiet.finished)).append hconclusion⟩
  rw [hbuilt, concluded_observe]

/-- A refresh ends before its records are stored, and observes nothing that tells of them, or it ends with the
publication that follows. -/
theorem run_cases (publish : Publisher) (account : Uuid) (given : Option String) (s : Service) :
    ((¬∃ settings, s.settings = .ok settings ∧ Stores settings account (inside account given s)) ∧
      ∃ u, (run publish account given s).2 = s.observe u ∧ u.Silent) ∨
    ∃ settings records built database, s.settings = .ok settings ∧
      build settings account (inside account given s) = (.ok records, built) ∧
      built.database.replaceRecords account built.now records = .ok database ∧
      (run publish account given s).2 = concluded account given s
        ((publish (envelope account records.length built.correlation)
          (committed account records.length built database)).1.map fun _ ↦ records)
        (publish (envelope account records.length built.correlation)
          (committed account records.length built database)).2 := by
  cases hsettings : s.settings with
  | error cause =>
    refine .inl ⟨by simp, .none, ?_, Telemetry.silent_of_unfinished rfl⟩
    rw [run_of_settings_error hsettings, Service.observe_none]
  | ok settings =>
    simp only [Except.ok.injEq, exists_eq_left']
    rw [run_of_settings hsettings, runWith_eq]
    have hunstored := exists_silent_concluded settings account given s
    rcases work_cases publish settings account (inside account given s) with
      ⟨failure, built, hbuild, hwork⟩ | ⟨records, built, fault, hbuild, hreplaced, hwork⟩ |
        ⟨records, built, database, hbuild, hreplaced, hwork⟩
    · rw [hwork]
      rw [hbuild] at hunstored
      refine .inl ⟨?_, hunstored failure⟩
      rintro ⟨records, built', database, hbuild', -⟩
      simp [hbuild] at hbuild'
    · rw [hwork]
      rw [hbuild] at hunstored
      refine .inl ⟨?_, hunstored (.refresh (unableToStore account fault))⟩
      rintro ⟨records', built', database, hbuild', hreplaced'⟩
      obtain ⟨hrecords, rfl⟩ := Prod.mk.inj (hbuild.symm.trans hbuild')
      obtain rfl := Except.ok.inj hrecords
      simp [hreplaced] at hreplaced'
    · rw [hwork]
      exact .inr ⟨settings, records, built, database, rfl, hbuild, hreplaced, rfl⟩

end Refresh

/-! ### What is told is what was stored -/

/-- Whether what was observed tells of all stored records that have changed: those of accounts that it tells of are
those by the source, and all others are as before. -/
structure Service.TellsBy (u : Telemetry) (s t : Service) : Prop where
  telemetry : t.telemetry = s.telemetry ++ u
  evolves : s.Evolves t
  told : ∀ account, u.TellsOf account → ∃ records,
    recordsBy s.database.source s.environment account = some records ∧ StoredAs t.database account records
  untold : ∀ account, ¬u.TellsOf account → entriesOf t.database account = entriesOf s.database account

namespace Service

variable {s t v : Service} {u w : Telemetry}

theorem TellsBy.trans (h : TellsBy u s t) (h' : TellsBy w t v) : TellsBy (u ++ w) s v where
  telemetry := by rw [h'.telemetry, h.telemetry, Telemetry.append_assoc]
  evolves := h.evolves.trans h'.evolves
  told account htells := by
    by_cases hlater : w.TellsOf account
    · obtain ⟨records, hrecords, hstored⟩ := h'.told account hlater
      rw [h.evolves.source_eq, h.evolves.environment] at hrecords
      exact ⟨records, hrecords, hstored⟩
    · obtain ⟨records, hrecords, hstored⟩ :=
        h.told account ((Telemetry.tellsOf_append.1 htells).resolve_right hlater)
      refine ⟨records, hrecords, ?_⟩
      unfold StoredAs
      rw [h'.untold account hlater]
      exact hstored
  untold account hnot := by
    rw [Telemetry.tellsOf_append, not_or] at hnot
    rw [h'.untold account hnot.2, h.untold account hnot.1]

/-- Where only something else than the database changes, nothing is told. -/
theorem TellsBy.of_beside (h : s.Beside t) (htelemetry : t.telemetry = s.telemetry ++ u) (hsilent : u.Silent) :
    TellsBy u s t where
  telemetry := htelemetry
  evolves := .of_beside h
  told account htells := absurd htells (hsilent account)
  untold account _ := by rw [h.database]

/-- Whether what was observed since tells of all stored records that have changed. -/
def Tells (s t : Service) : Prop :=
  ∃ u, TellsBy u s t

end Service

namespace Refresh

variable {publish : Publisher} {account : Uuid} {s : Service}

/-- The replacement of the records of an account is told by the notice of its success. -/
theorem tellsBy_committed {settings : Settings} {records : List BundleRecord} {built : Service}
    {database : Database} (hsettings : s.settings = .ok settings)
    (hbuild : build settings account s = (.ok records, built))
    (hreplaced : built.database.replaceRecords account built.now records = .ok database) :
    ∃ u, u.Silent ∧ Service.TellsBy (u ++ success account records.length built.correlation) s
      (committed account records.length built database) := by
  obtain ⟨u, hquiet, hbuilt⟩ := exists_quiet_build settings account s
  rw [hbuild] at hbuilt
  obtain rfl : built = s.observe u := hbuilt
  have hsilent := Telemetry.silent_of_unfinished hquiet.finished
  have hcommitted : Service.Evolves { s.observe u with database }
      (committed account records.length (s.observe u) database) := .of_beside rfl
  obtain ⟨schedule, reference, -, hrecords, -, rfl⟩ :=
    (build_eq_ok_iff hsettings).1 (congrArg Prod.fst hbuild)
  have hperm := schedule.arrange_perm reference
  have haccount : ∀ r ∈ schedule.arrange reference, r.account = account := fun r hr ↦
    (ReferenceOf.of_recordsBy hrecords).account_eq (hperm.mem_iff.1 hr)
  have htells : ∀ other, (u ++ success account (schedule.arrange reference).length s.correlation).TellsOf other ↔
      other = account := by
    intro other
    rw [Telemetry.tellsOf_append, tellsOf_success, or_iff_right (hsilent other)]
  refine ⟨u, hsilent,
    { telemetry := Telemetry.append_assoc .., evolves := ?_, told := fun other hother ↦ ?_,
      untold := fun other hother ↦ ?_ }⟩
  · exact (Service.Evolves.of_replaced hsettings hbuild hreplaced).trans hcommitted
  · obtain rfl := (htells other).1 hother
    refine ⟨reference, hrecords, ?_⟩
    change ((entriesOf database other).map (·.entry)).Perm _
    rw [entriesOf_replaceRecords hreplaced haccount]
    exact hperm.map Database.storedEntry
  · exact entriesOf_replaceRecords_ne hreplaced haccount (mt (htells other).2 hother)

/-- What a refresh whose records are stored tells: of its account, and of what is told while its event is
delivered. -/
theorem exists_tellsBy_stored {settings : Settings} {records : List BundleRecord} {built t u : Service}
    {database : Database} {given : Option String} {delivered : Telemetry}
    {outcome : Except Failure (List BundleRecord)} (hsettings : s.settings = .ok settings)
    (hbuild : build settings account (inside account given s) = (.ok records, built))
    (hreplaced : built.database.replaceRecords account built.now records = .ok database)
    (hdelivered : Service.TellsBy delivered (committed account records.length built database) t)
    (hend : u = concluded account given s outcome t) :
    ∃ m, Service.TellsBy m s u ∧ ∀ other, m.TellsOf other ↔ other = account ∨ delivered.TellsOf other := by
  have hinside : Service.TellsBy (beginning account (effective given s.correlation)) s (inside account given s) :=
    .of_beside rfl rfl (Telemetry.silent_of_unfinished rfl)
  obtain ⟨quiet, hsilent, hcommitted⟩ := tellsBy_committed (s := inside account given s) hsettings hbuild hreplaced
  have hconclusion := silent_conclusion account t.correlation (effective given s.correlation) s.span outcome
  have hconcluded : Service.TellsBy (conclusion account t.correlation (effective given s.correlation) s.span outcome) t u := by
    rw [hend]
    exact .of_beside rfl rfl hconclusion
  refine ⟨_, ((hinside.trans hcommitted).trans hdelivered).trans hconcluded, fun other ↦ ?_⟩
  have hbeginning : ¬(beginning account (effective given s.correlation)).TellsOf other :=
    Telemetry.silent_of_unfinished rfl other
  simp only [Telemetry.tellsOf_append, tellsOf_success, hbeginning, hsilent other, hconclusion other, false_or,
    or_false]

end Refresh

namespace Service

/-- What is observed while computations run tells of all stored records that they change. -/
theorem carries_tells : Carries Tells where
  refl s := ⟨.none, .of_beside rfl (Telemetry.append_none _).symm (Telemetry.silent_of_unfinished rfl)⟩
  trans := by
    rintro s t v ⟨u, h⟩ ⟨w, h'⟩
    exact ⟨u ++ w, h.trans h'⟩
  relayed := by
    intro s t h
    have htelemetry : t.telemetry = s.telemetry := by
      unfold Relays at h
      rw [h]
    refine ⟨.none, .of_beside h.beside ?_ (Telemetry.silent_of_unfinished rfl)⟩
    rw [htelemetry, Telemetry.append_none]
  logged s notice hmessage := by
    refine ⟨_, .of_beside rfl rfl (Telemetry.silent_of_unfinished ?_)⟩
    simp [Telemetry.logged, hmessage]
  refreshed := by
    intro deliver hdeliver account given s
    rcases Refresh.run_cases deliver account given s with
      ⟨-, u, hrun, hsilent⟩ | ⟨settings, records, built, database, hsettings, hbuild, hreplaced, hrun⟩
    · rw [hrun]
      exact ⟨u, .of_beside rfl rfl hsilent⟩
    · obtain ⟨delivered, hdelivered⟩ := hdeliver (Refresh.envelope account records.length built.correlation)
        (Refresh.committed account records.length built database)
      rw [hrun]
      obtain ⟨m, htells, -⟩ := Refresh.exists_tellsBy_stored hsettings hbuild hreplaced hdelivered rfl
      exact ⟨m, htells⟩

end Service

/-! ### Calls -/

namespace RefreshCall

variable {call : RefreshCall}

/-- What is observed during a call. -/
def observed (call : RefreshCall) : Telemetry :=
  call.after.telemetry.since call.before.telemetry

/-- Whether a call tells that the records of an account were stored: by the call itself, or by a refresh that a
handler ran. -/
def TellsOf (call : RefreshCall) (account : Uuid) : Prop :=
  call.observed.TellsOf account

/-- Whether nothing makes a call fail: the pool does no more than to arrange the builds, and the event of stored
records is delivered. -/
structure Undisturbed (call : RefreshCall) : Prop where
  arranged : ∀ settings, call.before.settings = .ok settings →
    ∃ order, call.before.pool.schedule settings.refreshWorkers = .ok { order }
  delivered : call.Delivered

theorem observed_eq {u : Telemetry} (h : Service.TellsBy u call.before call.after) : call.observed = u := by
  rw [observed, h.telemetry, Telemetry.since_append]

theorem tellsBy (call : RefreshCall) : Service.TellsBy call.observed call.before call.after := by
  obtain ⟨u, h⟩ := Service.carries_tells.refresh call.account call.given call.before
  rw [observed_eq h]
  exact h

/-- A call ends before its records are stored and tells of no account, or it ends with the delivery of its event and
tells of its own account and of what was told meanwhile. -/
theorem cases (call : RefreshCall) :
    (¬call.Stores ∧ ∀ account, ¬call.TellsOf account) ∨
    call.Stores ∧ ∃ envelope committed delivered, committed.bus = call.before.bus ∧
      committed.scripts = call.before.scripts ∧ Bus.eventType? envelope = some "analytics.bundles.refreshed" ∧
      Service.TellsBy delivered committed (Service.publish envelope committed).2 ∧
      ∀ account, call.TellsOf account ↔ account = call.account ∨ delivered.TellsOf account := by
  rcases Refresh.run_cases (fun e ↦ (Service.publish e).forget) call.account call.given call.before with
    ⟨hnot, u, hrun, hsilent⟩ | ⟨settings, records, built, database, hsettings, hbuild, hreplaced, hrun⟩
  · have htells : Service.TellsBy u call.before call.after := by
      change Service.TellsBy u call.before (Refresh.run _ _ _ _).2
      rw [hrun]
      exact .of_beside rfl rfl hsilent
    refine .inl ⟨hnot, fun account ↦ ?_⟩
    rw [TellsOf, observed_eq htells]
    exact hsilent account
  · obtain ⟨u, -, hbuilt⟩ := Refresh.exists_quiet_build settings call.account
      (Refresh.inside call.account call.given call.before)
    rw [hbuild] at hbuilt
    obtain ⟨delivered, hdelivered⟩ := Service.carries_tells.publish
      (Refresh.envelope call.account records.length built.correlation)
      (Refresh.committed call.account records.length built database)
    obtain ⟨m, htells, hiff⟩ := Refresh.exists_tellsBy_stored hsettings hbuild hreplaced hdelivered hrun
    refine .inr ⟨⟨settings, hsettings, records, built, database, hbuild, hreplaced⟩, _, _, delivered, ?_, ?_, rfl,
      hdelivered, fun account ↦ ?_⟩
    · obtain rfl : built = _ := hbuilt
      rfl
    · obtain rfl : built = _ := hbuilt
      rfl
    · rw [TellsOf, observed_eq htells]
      exact hiff account

theorem tellsOf_of_returns (h : call.Returns) : call.TellsOf call.account := by
  rcases call.cases with ⟨hnot, -⟩ | ⟨-, -, -, delivered, -, -, -, -, hiff⟩
  · exact absurd (returns_iff_stores.1 h).1 hnot
  · exact (hiff call.account).2 (.inl rfl)

/-- A call whose handlers are passive tells of its own account if it stores the records, and of nothing else. -/
theorem tellsOf_iff_of_passive (hpassive : call.Passive) (account : Uuid) :
    call.TellsOf account ↔ account = call.account ∧ call.Stores := by
  rcases call.cases with
    ⟨hnot, hsilent⟩ | ⟨hstores, envelope, committed, delivered, hbus, hscripts, hname, hdelivered, hiff⟩
  · exact iff_of_false (hsilent account) fun h ↦ hnot h.2
  · unfold Passive handlers at hpassive
    rw [← hbus, ← hscripts] at hpassive
    obtain ⟨u, hquiet, hlogged⟩ := (Service.publish_of_passive hname hpassive).1.exists_quiet
    have hempty : delivered = u := by
      have hsince := congrArg (Telemetry.since · committed.telemetry) (hdelivered.telemetry.symm.trans hquiet)
      simpa only [Telemetry.since_append] using hsince
    rw [hiff, hempty, or_iff_left (Telemetry.silent_of_unfinished (hlogged _ (by decide)) account)]
    exact (and_iff_left hstores).symm

/-- An undisturbed call returns exactly when there are records of its account by the source. -/
theorem returns_iff (hcall : call.Undisturbed) (hentries : call.before.database.entries.isSome = true) :
    call.Returns ↔
      (recordsBy call.before.database.source call.before.environment call.account).isSome = true := by
  rw [returns_iff_stores, and_iff_left hcall.delivered, stores_iff, and_iff_right hentries,
    Option.isSome_iff_exists]
  constructor
  · rintro ⟨-, -, reference, -, -, hrecords, -⟩
    exact ⟨reference, hrecords⟩
  · rintro ⟨reference, hrecords⟩
    obtain ⟨settings, -, hsettings, -⟩ := recordsBy_eq_some_iff.1 hrecords
    obtain ⟨order, horder⟩ := hcall.arranged settings hsettings
    exact ⟨settings, { order }, reference, hsettings, horder, hrecords, Schedule.lets_of_order order _⟩

theorem undisturbed_of_passive {order : List ℕ} (hpool : call.before.pool = .given { order })
    (hpassive : call.Passive)
    (hfails : ∀ handler ∈ call.handlers, ∀ action ∈ handler.actions call.before.scripts, action.fails = false) :
    call.Undisturbed where
  arranged settings _ := by
    rw [hpool]
    exact ⟨order, rfl⟩
  delivered := (delivered_iff hpassive).2 fun _ ↦ hfails

end RefreshCall

/-! ### Histories -/

/-- Whether some call tells that the records of an account were stored. -/
def ToldIn (calls : List RefreshCall) (account : Uuid) : Prop :=
  ∃ call ∈ calls, call.TellsOf account

namespace History

variable {s t : Service} {calls : List RefreshCall} {call : RefreshCall}

theorem evolves_before (h : History s calls t) (hcall : call ∈ calls) : s.Evolves call.before := by
  induction h with
  | nil s => exact absurd hcall List.not_mem_nil
  | cons hdatabase henvironment hrest ih =>
    have hfirst := Service.Evolves.of_eq hdatabase henvironment
    rcases List.mem_cons.1 hcall with rfl | hlater
    · exact hfirst
    · exact hfirst.trans ((RefreshCall.evolves _).trans (ih hlater))

/-- The stored records of an account that a history tells of are those by the source, and of any other account as
before. By induction on the calls: the last one that tells of the account decides. -/
theorem told_cases (h : History s calls t) (account : Uuid) :
    (ToldIn calls account ∧ ∃ records, recordsBy s.database.source s.environment account = some records ∧
      StoredAs t.database account records) ∨
    (¬ToldIn calls account ∧ entriesOf t.database account = entriesOf s.database account) := by
  induction h with
  | nil s =>
    right
    refine ⟨?_, rfl⟩
    rintro ⟨call, hcall, -⟩
    exact List.not_mem_nil hcall
  | cons hdatabase henvironment hrest ih =>
    rename_i s t call calls
    have htells := call.tellsBy
    have hsource : call.before.database.source = s.database.source := by rw [hdatabase]
    rcases ih with ⟨⟨later, hlater, htold⟩, records, hrecords, hstored⟩ | ⟨hnot, hsame⟩
    · rw [htells.evolves.source_eq, htells.evolves.environment, hsource, henvironment] at hrecords
      exact .inl ⟨⟨later, List.mem_cons_of_mem _ hlater, htold⟩, records, hrecords, hstored⟩
    · by_cases hfirst : call.TellsOf account
      · obtain ⟨records, hrecords, hstored⟩ := htells.told account hfirst
        rw [hsource, henvironment] at hrecords
        refine .inl ⟨⟨call, List.mem_cons_self, hfirst⟩, records, hrecords, ?_⟩
        unfold StoredAs
        rw [hsame]
        exact hstored
      · right
        rw [hsame, htells.untold account hfirst, hdatabase]
        refine ⟨?_, rfl⟩
        rintro ⟨other, hother, htold⟩
        rcases List.mem_cons.1 hother with rfl | hlater
        · exact hfirst htold
        · exact hnot ⟨other, hlater, htold⟩

end History

/-- What a history of refreshes converges to. All calls on an account return or none does. The stored records of an
account are those by the source, a function of the source tables, the environment and the account alone, if its
records were stored by a call or by a refresh that a handler ran, else they are as before; if the handlers are
passive, that is if a call on the account returned. What tells of no further account changes nothing, and histories
that tell of the same accounts leave the same records; if the handlers are passive, it is enough that their calls are
on the same accounts, in any order and however often. -/
structure Converges (s : Service) (calls : List RefreshCall) (t : Service) : Prop where
  returns : ∀ call ∈ calls,
    (call.Returns ↔ (recordsBy s.database.source s.environment call.account).isSome = true)
  uniform : ∀ call ∈ calls, ∀ other ∈ calls, call.account = other.account → (call.Returns ↔ other.Returns)
  told : ∀ call ∈ calls, call.Returns → ToldIn calls call.account
  passive : (∀ call ∈ calls, call.Passive) →
    ∀ account, ToldIn calls account ↔ ∃ call ∈ calls, call.account = account ∧ call.Returns
  refreshed : ∀ account, ToldIn calls account → ∃ records,
    recordsBy s.database.source s.environment account = some records ∧ StoredAs t.database account records
  untouched : ∀ account, ¬ToldIn calls account → entriesOf t.database account = entriesOf s.database account
  repeated : ∀ later u, History t later u → ∀ account, (ToldIn later account → ToldIn calls account) →
    SameEntries u.database t.database account
  interchangeable : ∀ s' calls' t', History s' calls' t' → s'.database.source = s.database.source →
    s'.environment = s.environment → ∀ account, SameEntries s'.database s.database account →
    (ToldIn calls' account ↔ ToldIn calls account) → SameEntries t'.database t.database account
  reordered : (∀ call ∈ calls, call.Passive) → ∀ calls' t', History s calls' t' →
    (∀ call ∈ calls', call.Undisturbed ∧ call.Passive) →
    (∀ account, account ∈ calls'.map (·.account) ↔ account ∈ calls.map (·.account)) →
    ∀ account, SameEntries t'.database t.database account

namespace History

variable {s t : Service} {calls : List RefreshCall} {call : RefreshCall}

theorem returns_iff (h : History s calls t) (hentries : s.database.entries.isSome = true) (hcall : call ∈ calls)
    (hundisturbed : call.Undisturbed) :
    call.Returns ↔ (recordsBy s.database.source s.environment call.account).isSome = true := by
  have hbefore := h.evolves_before hcall
  rw [call.returns_iff hundisturbed (hbefore.kept hentries), hbefore.source_eq, hbefore.environment]

/-- With passive handlers those accounts are told of that a call on them returned. -/
theorem toldIn_iff_of_passive (hcalls : ∀ call ∈ calls, call.Undisturbed ∧ call.Passive) (account : Uuid) :
    ToldIn calls account ↔ ∃ call ∈ calls, call.account = account ∧ call.Returns := by
  refine exists_congr fun call ↦ and_congr_right fun hcall ↦ ?_
  obtain ⟨hundisturbed, hpassive⟩ := hcalls call hcall
  rw [RefreshCall.tellsOf_iff_of_passive hpassive, RefreshCall.returns_iff_stores,
    and_iff_left hundisturbed.delivered, eq_comm]

/-- With passive handlers those accounts are told of that there are calls on and records by the source. -/
theorem toldIn_iff_of_undisturbed (h : History s calls t) (hentries : s.database.entries.isSome = true)
    (hcalls : ∀ call ∈ calls, call.Undisturbed ∧ call.Passive) (account : Uuid) :
    ToldIn calls account ↔ account ∈ calls.map (·.account) ∧
      (recordsBy s.database.source s.environment account).isSome = true := by
  rw [toldIn_iff_of_passive hcalls, List.mem_map]
  constructor
  · rintro ⟨call, hcall, rfl, hreturns⟩
    exact ⟨⟨call, hcall, rfl⟩, (h.returns_iff hentries hcall (hcalls call hcall).1).1 hreturns⟩
  · rintro ⟨⟨call, hcall, rfl⟩, hrecords⟩
    exact ⟨call, hcall, rfl, (h.returns_iff hentries hcall (hcalls call hcall).1).2 hrecords⟩

theorem stored_of_told (h : History s calls t) {account : Uuid} (htold : ToldIn calls account) :
    ∃ records, recordsBy s.database.source s.environment account = some records ∧
      StoredAs t.database account records := by
  rcases h.told_cases account with ⟨-, hrecords⟩ | ⟨hnot, -⟩
  · exact hrecords
  · exact absurd htold hnot

theorem entriesOf_eq_of_not_told (h : History s calls t) {account : Uuid} (hnot : ¬ToldIn calls account) :
    entriesOf t.database account = entriesOf s.database account := by
  rcases h.told_cases account with ⟨htold, -⟩ | ⟨-, hsame⟩
  · exact absurd htold hnot
  · exact hsame

/-- Histories from the same records that tell of an account alike leave the same records of it. -/
theorem sameEntries (h : History s calls t) {s' t' : Service} {calls' : List RefreshCall}
    (h' : History s' calls' t') (hsource : s'.database.source = s.database.source)
    (henvironment : s'.environment = s.environment) {account : Uuid}
    (hbefore : SameEntries s'.database s.database account) (htold : ToldIn calls' account ↔ ToldIn calls account) :
    SameEntries t'.database t.database account := by
  by_cases hcalls : ToldIn calls account
  · obtain ⟨records, hrecords, hstored⟩ := h.stored_of_told hcalls
    obtain ⟨records', hrecords', hstored'⟩ := h'.stored_of_told (htold.2 hcalls)
    rw [hsource, henvironment, hrecords, Option.some.injEq] at hrecords'
    exact .of_stored hstored' (hrecords' ▸ hstored)
  · unfold SameEntries
    rw [h.entriesOf_eq_of_not_told hcalls, h'.entriesOf_eq_of_not_told (mt htold.1 hcalls)]
    exact hbefore

/-- What tells of no further account leaves the same records. -/
theorem sameEntries_of_repeated (h : History s calls t) {u : Service} {later : List RefreshCall}
    (hlater : History t later u) {account : Uuid} (htold : ToldIn later account → ToldIn calls account) :
    SameEntries u.database t.database account := by
  by_cases hagain : ToldIn later account
  · obtain ⟨records, hrecords, hstored⟩ := h.stored_of_told (htold hagain)
    obtain ⟨records', hrecords', hstored'⟩ := hlater.stored_of_told hagain
    rw [h.evolves.source_eq, h.evolves.environment, hrecords, Option.some.injEq] at hrecords'
    exact .of_stored hstored' (hrecords' ▸ hstored)
  · unfold SameEntries
    rw [hlater.entriesOf_eq_of_not_told hagain]

/-- A history of refreshes that nothing disturbs converges. -/
theorem converges (s t : Service) (calls : List RefreshCall) (h : History s calls t)
    (hentries : s.database.entries.isSome = true) (hcalls : ∀ call ∈ calls, call.Undisturbed) :
    Converges s calls t where
  returns call hcall := h.returns_iff hentries hcall (hcalls call hcall)
  uniform call hcall other hother haccount := by
    rw [h.returns_iff hentries hcall (hcalls call hcall), h.returns_iff hentries hother (hcalls other hother),
      haccount]
  told call hcall hreturns := ⟨call, hcall, RefreshCall.tellsOf_of_returns hreturns⟩
  passive hpassive := toldIn_iff_of_passive fun call hcall ↦ ⟨hcalls call hcall, hpassive call hcall⟩
  refreshed account := h.stored_of_told
  untouched account := h.entriesOf_eq_of_not_told
  repeated later u hlater account := h.sameEntries_of_repeated hlater
  interchangeable s' calls' t' h' hsource henvironment account := h.sameEntries h' hsource henvironment
  reordered hpassive calls' t' h' hcalls' haccounts account := by
    refine h.sameEntries h' rfl rfl (List.Perm.refl _) ?_
    rw [h'.toldIn_iff_of_undisturbed hentries hcalls' account, haccounts,
      h.toldIn_iff_of_undisturbed hentries (fun call hcall ↦ ⟨hcalls call hcall, hpassive call hcall⟩) account]

end History

namespace LargePrice

/-- A call on an account, with a pool that completes the builds in some order. -/
def callOn (database : Database) (number : ℕ) (order : List ℕ) : RefreshCall :=
  ⟨{ service with database, pool := .given { order } }, .ofNat number, none⟩

theorem undisturbed_callOn (database : Database) (number : ℕ) (order : List ℕ) :
    (callOn database number order).Undisturbed :=
  RefreshCall.undisturbed_of_passive rfl (List.forall_mem_nil _) (List.forall_mem_nil _)

/-- Two calls on the account, between them a call on one that does not exist. -/
def firstCall : RefreshCall := callOn database 9 [1, 0]

def strayCall : RefreshCall := callOn firstCall.after.database 8 []

def lastCall : RefreshCall := callOn strayCall.after.database 9 [0, 1]

theorem history_calls : History service [firstCall, strayCall, lastCall] lastCall.after :=
  .cons rfl rfl (.cons rfl firstCall.evolves.environment.symm
    (.cons rfl strayCall.evolves.environment.symm (.nil _)))

theorem isSome_recordsBy :
    (recordsBy service.database.source service.environment (.ofNat 9)).isSome = true ∧
      (recordsBy service.database.source service.environment (.ofNat 8)).isSome = false := by
  unfold recordsBy attemptOf Source.transitions Database.transitionsOf Source.context Source.latestBundle
    Database.latestBundle? Database.bundlesOf Database.bundleRowsOf Database.bundleOf Source.creationAudit
    Source.creationsOr Database.creationsOf
  simp only [Sorting.mergeSort_eq_insertionSort happensBefore_iff, Database.inOrder_eq_insertionSort]
  constructor
  · decide +kernel
  · decide +kernel

end LargePrice

/-- The calls on the account return, whatever the order of its builds, and the one between them does not. -/
theorem converges_sample :
    History LargePrice.service [LargePrice.firstCall, LargePrice.strayCall, LargePrice.lastCall]
        LargePrice.lastCall.after ∧
      LargePrice.firstCall.Returns ∧ ¬LargePrice.strayCall.Returns ∧ LargePrice.lastCall.Returns ∧
      Converges LargePrice.service [LargePrice.firstCall, LargePrice.strayCall, LargePrice.lastCall]
        LargePrice.lastCall.after := by
  have hundisturbed : ∀ call ∈ [LargePrice.firstCall, LargePrice.strayCall, LargePrice.lastCall],
      call.Undisturbed := by
    simp only [List.forall_mem_cons]
    exact ⟨LargePrice.undisturbed_callOn _ _ _, LargePrice.undisturbed_callOn _ _ _,
      LargePrice.undisturbed_callOn _ _ _, List.forall_mem_nil _⟩
  have h := History.converges _ _ _ LargePrice.history_calls rfl hundisturbed
  obtain ⟨hknown, hunknown⟩ := LargePrice.isSome_recordsBy
  refine ⟨LargePrice.history_calls, (h.returns _ (by simp)).2 hknown, ?_, (h.returns _ (by simp)).2 hknown, h⟩
  rw [h.returns LargePrice.strayCall (by simp)]
  exact ne_true_of_eq_false hunknown

end BundleLedger
