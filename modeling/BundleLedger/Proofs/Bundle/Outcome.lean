import BundleLedger.Proofs.Bundle.Reference

/-!
# All records or one error

An attempt either has all records or ends with one error. The error is raised from its cause when the errors
of the context are (`Attempt.RaisesChained`), and once the context has been read it says which account and
which bundle it is about (`Attempt.Blames`). Main statement: `run_all_or_error`.
-/

set_option autoImplicit false

namespace BundleLedger

open Result

/-! ### Errors raised from their causes -/

namespace Failure

/-- Whether an error of the refresh was raised from its cause. -/
def Chained : Failure → Prop
  | .refresh e => e.chained = e.cause
  | .cause _ => True

/-- The account that a failure names itself. -/
def account? : Failure → Option Uuid
  | .refresh e => e.account
  | .cause _ => none

/-- The bundle that a failure names itself. -/
def bundle? : Failure → Option Uuid
  | .refresh e => e.bundle
  | .cause _ => none

/-- The cause that a failure gives: that of an error of the refresh, any other failure itself. -/
def cause? : Failure → Option Cause
  | .refresh e => e.cause
  | .cause c => some c

end Failure

/-- Whether an error of the refresh that a computation ends with was raised from its cause. -/
def ErrorChained {α : Type} (x : Except Failure α) : Prop :=
  ∀ failure, x = .error failure → failure.Chained

namespace ErrorChained

variable {α β : Type}

theorem ok (value : α) : ErrorChained (.ok value) := by
  intro failure h
  simp at h

theorem bind {x : Except Failure α} {f : α → Except Failure β} (hx : ErrorChained x)
    (hf : ∀ value, ErrorChained (f value)) : ErrorChained (x >>= f) := by
  cases x with
  | error failure =>
    intro failure' h
    obtain rfl : failure = failure' := by simpa [Bind.bind, Except.bind] using h
    exact hx failure rfl
  | ok value => exact hf value

theorem mapM {f : α → Except Failure β} (hf : ∀ item, ErrorChained (f item)) (items : List α) :
    ErrorChained (items.mapM f) := by
  induction items with
  | nil => exact ok []
  | cons item rest ih =>
    rw [List.mapM_cons]
    exact (hf item).bind fun value ↦ ih.bind fun values ↦ ok _

end ErrorChained

namespace Attempt

variable (a : Attempt) (p : Prefetched) (work : List WorkItem)

/-- Whether the errors of the refresh that the context and the transitions raise while they are read are
raised from their causes. -/
structure RaisesChained : Prop where
  account : ErrorChained a.context.account
  accountRecordId : ErrorChained a.context.accountRecordId
  tenantRecordId : ErrorChained a.context.tenantRecordId
  reportGroup : ErrorChained a.context.reportGroup
  converter : ErrorChained a.context.converter
  bundles : ErrorChained a.context.bundles
  creationAudit : ∀ id, ErrorChained (a.context.creationAudit id)
  stream : ErrorChained a.stream.collect

variable {a p work}

theorem RaisesChained.prefetch (h : a.RaisesChained) :
    ErrorChained (Prefetch.run a.context a.stream).outcome := by
  have hfacts : ErrorChained (Prefetch.facts a.context).outcome := by
    unfold Prefetch.facts
    simp only [Run.outcome_bind, Run.outcome_call, Run.outcome_pure]
    exact h.account.bind fun _ ↦ h.accountRecordId.bind fun _ ↦ h.tenantRecordId.bind fun _ ↦
      h.reportGroup.bind fun _ ↦ h.converter.bind fun _ ↦ h.bundles.bind fun _ ↦ .ok _
  have hitem : ∀ ranking entry, ErrorChained (Prefetch.workItem a.context ranking entry).outcome := by
    intro ranking entry
    unfold Prefetch.workItem
    simp only [Run.outcome_bind, Run.outcome_call, Run.outcome_pure]
    exact (h.creationAudit entry.1).bind fun _ ↦ .ok _
  unfold Prefetch.run
  simp only [Run.outcome_bind, Run.outcome_ofExcept, Run.outcome_pure, Run.outcome_each]
  exact hfacts.bind fun _ ↦ h.stream.bind fun _ ↦ (ErrorChained.mapM (hitem _) _).bind fun _ ↦ .ok _

theorem chained_prefetchError {failure : Failure} (h : failure.Chained) :
    (prefetchError failure).chained = (prefetchError failure).cause := by
  cases failure with
  | refresh e => exact h
  | cause c => rfl

/-! ### What an error is about -/

/-- The failure of a task that completes, by its number: it was cancelled, or its build failed. -/
def failureOf (a : Attempt) (p : Prefetched) (index : ℕ) (item : WorkItem) : Option Failure :=
  if a.schedule.isCancelled index then some (.cause .cancelledTask)
  else
    match (a.build p item).outcome with
    | .error failure => some failure
    | .ok _ => none

/-- What the error of an attempt is about, once the context has been read: the refused submission, the pool
that stalled, or a build that was cancelled or failed. What the failure of a build names itself stays; what it
does not name is filled in. -/
inductive Blames (a : Attempt) (p : Prefetched) (work : List WorkItem) (e : RefreshError) : Prop where
  | refusal (item : WorkItem) (hitem : work[a.schedule.accepted work.length]? = some item)
      (hcause : e.cause = some .closedPool) (haccount : e.account = some p.account.id)
      (hbundle : e.bundle = some item.transition.bundle)
  | stall (haccepted : a.schedule.accepted work.length = work.length)
      (hstalls : a.schedule.stalls work.length = true)
      (herror : e = (Aggregation.timeoutError p.account.id).raised)
  | build (index : ℕ) (item : WorkItem) (failure : Failure)
      (haccepted : a.schedule.accepted work.length = work.length)
      (hindex : index ∈ a.schedule.completion work.length) (hitem : work[index]? = some item)
      (hfailure : a.failureOf p index item = some failure) (hcause : e.cause = failure.cause?)
      (haccount : e.account = some (failure.account?.getD p.account.id))
      (hbundle : e.bundle = some (failure.bundle?.getD item.transition.bundle))

theorem outcomeOf_eq_error_iff {index : ℕ} {item : WorkItem} {e : RefreshError} :
    a.outcomeOf p index item = .error e ↔
      ∃ failure, a.failureOf p index item = some failure ∧
        Completion.errorOf p.account.id item.transition.bundle failure = e := by
  unfold outcomeOf failureOf
  split_ifs with hcancelled
  · simp
  · rw [mapError_eq_error_iff]
    cases (a.build p item).outcome <;> simp

/-- An error that is collected names the account and the bundle, its own or those of the build. -/
theorem names_errorOf (account bundle : Uuid) (failure : Failure) :
    (Completion.errorOf account bundle failure).cause = failure.cause? ∧
      (Completion.errorOf account bundle failure).account = some (failure.account?.getD account) ∧
      (Completion.errorOf account bundle failure).bundle = some (failure.bundle?.getD bundle) := by
  cases failure <;> exact ⟨rfl, rfl, rfl⟩

theorem mem_collected {outcome : Except RefreshError BundleRecord} (h : outcome ∈ a.collected p work) :
    ∃ index item, index ∈ a.schedule.finished (a.submitted work).length ∧
      (a.submitted work)[index]? = some item ∧ a.outcomeOf p index item = outcome := by
  rw [collected_eq, List.mem_filterMap] at h
  obtain ⟨index, hindex, h⟩ := h
  obtain ⟨item, hitem, houtcome⟩ := Option.map_eq_some_iff.1 h
  exact ⟨index, item, hindex, hitem, houtcome⟩

/-- The error of the builds of an attempt is about a refusal, a stall or a build. -/
theorem blames_of_runBuilds {e : RefreshError} (h : (a.runBuilds p work).result = .error e) :
    a.Blames p work e := by
  change Aggregation.decide _ _ (a.collected p work) = _ at h
  obtain ⟨own, rfl, hrefused | ⟨hnone, hstalled⟩ | ⟨hnone, hstalled, herrors⟩⟩ :=
    Aggregation.decide_eq_error_iff.1 h
  · obtain ⟨item, hitem, rfl⟩ := Option.map_eq_some_iff.1 hrefused
    exact .refusal item hitem rfl rfl rfl
  · have haccepted := (a.scheduleError?_eq_none_iff p work).1 hnone
    rw [a.submitted_of_accepted haccepted, Option.ite_none_right_eq_some, Option.some.injEq] at hstalled
    exact .stall haccepted hstalled.1 (hstalled.2 ▸ rfl)
  · have haccepted := (a.scheduleError?_eq_none_iff p work).1 hnone
    have hstalls : a.schedule.stalls work.length = false := by
      rw [a.submitted_of_accepted haccepted] at hstalled
      simpa using hstalled
    obtain ⟨others, herrors⟩ := List.head?_eq_some_iff.1 herrors
    obtain ⟨before, after, hcollected, -, -⟩ := Aggregation.errors_eq_cons_iff.1 herrors
    have hmem : Except.error own ∈ a.collected p work := by
      rw [hcollected]
      exact List.mem_append_right _ List.mem_cons_self
    obtain ⟨index, item, hindex, hitem, houtcome⟩ := mem_collected hmem
    rw [a.submitted_of_accepted haccepted] at hindex hitem
    rw [a.schedule.finished_of_stalls_eq_false hstalls] at hindex
    obtain ⟨failure, hfailure, rfl⟩ := outcomeOf_eq_error_iff.1 houtcome
    have hnames := names_errorOf p.account.id item.transition.bundle failure
    exact .build index item failure haccepted hindex hitem hfailure hnames.1 hnames.2.1 hnames.2.2

theorem Blames.account_ne_none {e : RefreshError} (h : a.Blames p work e) : e.account ≠ none := by
  cases h with
  | refusal item hitem hcause haccount => simp [haccount]
  | stall haccepted hstalls herror => simp [herror, RefreshError.raised, Aggregation.timeoutError]
  | build index item failure haccepted hindex hitem hfailure hcause haccount => simp [haccount]

theorem Blames.bundle_ne_none {e : RefreshError} (h : a.Blames p work e)
    (he : e ≠ (Aggregation.timeoutError p.account.id).raised) : e.bundle ≠ none := by
  cases h with
  | refusal item hitem hcause haccount hbundle => simp [hbundle]
  | stall haccepted hstalls herror => exact absurd herror he
  | build index item failure haccepted hindex hitem hfailure hcause haccount hbundle => simp [hbundle]

/-! ### All or nothing -/

/-- Whether an attempt has all records or ends with one error that is raised from its cause and says what it
is about. -/
structure AllOrError (a : Attempt) : Prop where
  records : ∀ records, a.run.result = .ok records ↔
    ∃ p work built, (Prefetch.run a.context a.stream).outcome = .ok (p, work) ∧
      a.Completes p work built ∧ records = a.schedule.arrange built
  complete : ∀ p work records, (Prefetch.run a.context a.stream).outcome = .ok (p, work) →
    a.run.result = .ok records → records.length = work.length
  chained : ∀ e, a.run.result = .error e → e.chained = e.cause
  blames : ∀ p work e, (Prefetch.run a.context a.stream).outcome = .ok (p, work) →
    a.run.result = .error e → a.Blames p work e
  account : ∀ p work e, (Prefetch.run a.context a.stream).outcome = .ok (p, work) →
    a.run.result = .error e → e.account ≠ none
  bundle : ∀ p work e, (Prefetch.run a.context a.stream).outcome = .ok (p, work) →
    a.run.result = .error e → e ≠ (Aggregation.timeoutError p.account.id).raised → e.bundle ≠ none

theorem chained_of_runBuilds {e : RefreshError} (h : (a.runBuilds p work).result = .error e) :
    e.chained = e.cause := by
  obtain ⟨own, rfl, -⟩ := Aggregation.decide_eq_error_iff.1 h
  exact own.chained_raised

/-- On every schedule an attempt has all records or ends with one attributed error. -/
theorem run_all_or_error (a : Attempt) (h : a.RaisesChained) : a.AllOrError := by
  have hblames : ∀ p work e, (Prefetch.run a.context a.stream).outcome = .ok (p, work) →
      a.run.result = .error e → a.Blames p work e := by
    intro p work e hread he
    rw [result_run_of_ok hread] at he
    exact blames_of_runBuilds he
  refine
    { records := fun records ↦ result_run_eq_ok_iff, complete := ?_, chained := ?_
      blames := hblames, account := fun p work e hread he ↦ (hblames p work e hread he).account_ne_none
      bundle := fun p work e hread he ↦ (hblames p work e hread he).bundle_ne_none }
  · intro p work records hread hrecords
    rw [result_run_of_ok hread, result_runBuilds_eq_ok_iff] at hrecords
    obtain ⟨built, hbuilt, rfl⟩ := hrecords
    rw [(a.schedule.arrange_perm built).length_eq, hbuilt.built.length_eq]
  · intro e he
    rcases hread : (Prefetch.run a.context a.stream).outcome with failure | ⟨p, work⟩
    · rw [result_run_of_error hread, Except.error.injEq] at he
      rw [← he]
      exact chained_prefetchError (h.prefetch failure hread)
    · rw [result_run_of_ok hread] at he
      exact chained_of_runBuilds he

end Attempt

namespace Sample

/-- The build of the first bundle fails with an error of the refresh that names neither the account nor the
bundle. -/
def failing : Attempt :=
  { attempt with
    obstacle := fun id ↦ if id = .ofNat 1 then some (.refresh { reason := .stated "no plan" }) else none }

end Sample

theorem all_or_error_sample :
    Sample.failing.RaisesChained ∧
      Sample.failing.run.result = .error
        { reason := .stated "no plan", account := some (.ofNat 9), bundle := some (.ofNat 1) } ∧
      Sample.failing.AllOrError := by
  have h : Sample.failing.RaisesChained :=
    { account := .ok _, accountRecordId := .ok _, tenantRecordId := .ok _, reportGroup := .ok _
      converter := .ok _, bundles := .ok _, creationAudit := fun _ ↦ .ok _, stream := .ok _ }
  exact ⟨h, rfl, Attempt.run_all_or_error _ h⟩

end BundleLedger
