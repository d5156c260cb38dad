import BundleLedger.Proofs.Bundle.Aggregation

/-!
# Lookups that fail

A run that does nothing but look things up fails exactly by the lookups that it makes (`Run.FailsBy`): it stops
at the first lookup without an answer, and fails as that lookup does. So it is with the reading of a context
(`Prefetch.run_eq_error_iff`), and with the lookups of a build (`Build.lookups_eq_error_iff`).
-/

set_option autoImplicit false

namespace BundleLedger

open Result

/-- The failure of an answer, if it has no value. -/
def Result.error? {ε α : Type} : Except ε α → Option ε
  | .error e => some e
  | .ok _ => none

namespace Context

/-- The failure of the answer to a lookup, if it fails. -/
def failure? (ctx : Context) : Lookup → Option Failure
  | .account => error? ctx.account
  | .accountRecordId => error? ctx.accountRecordId
  | .tenantRecordId => error? ctx.tenantRecordId
  | .reportGroup => error? ctx.reportGroup
  | .converter => error? ctx.converter
  | .bundles => error? ctx.bundles
  | .bundleRecordId id => error? (ctx.bundleRecordId id)
  | .latestForExternalKey key => error? (ctx.latestForExternalKey key)
  | .creationAudit id => error? (ctx.creationAudit id)

end Context

namespace Run

variable {ctx : Context} {α β : Type}

/-- Whether a run fails exactly when a lookup that it makes does, and in the same way. -/
def FailsBy (ctx : Context) (x : Run α) : Prop :=
  ∀ failure, x.outcome = .error failure ↔ ∃ call ∈ x.calls, ctx.failure? call.lookup = some failure

theorem failsBy_pure (value : α) : FailsBy ctx (Pure.pure value) := by
  intro failure
  change Except.ok value = .error failure ↔ ∃ call ∈ ([] : List Call), _
  simp

theorem failsBy_call {side : Side} {lookup : Lookup} {answer : Except Failure α}
    (h : ctx.failure? lookup = error? answer) : FailsBy ctx (call side lookup answer) := by
  intro failure
  simp only [call, List.mem_singleton, exists_eq_left, h]
  cases answer <;> simp [error?]

theorem FailsBy.bind {x : Run α} {f : α → Run β} (hx : FailsBy ctx x) (hf : ∀ value, FailsBy ctx (f value)) :
    FailsBy ctx (x >>= f) := by
  intro failure
  change (x.bind f).outcome = _ ↔ ∃ call ∈ (x.bind f).calls, _
  rcases h : x.outcome with own | value
  · have hfirst := hx failure
    rw [h, Except.error.injEq] at hfirst
    rw [bind_of_error f h, Except.error.injEq]
    exact hfirst
  · have hnone : ¬∃ call ∈ x.calls, ctx.failure? call.lookup = some failure := by
      rw [← hx failure, h]
      simp
    rw [bind_of_ok f h]
    simp only [List.mem_append, or_and_right, exists_or, hnone, false_or]
    exact hf value failure

theorem FailsBy.each {f : α → Run β} (hf : ∀ item, FailsBy ctx (f item)) (items : List α) :
    FailsBy ctx (each f items) := by
  induction items with
  | nil => exact failsBy_pure []
  | cons item rest ih => exact (hf item).bind fun value ↦ ih.bind fun values ↦ failsBy_pure _

theorem mem_calls_bind {x : Run α} {f : α → Run β} {call : Call} (h : call ∈ x.calls) :
    call ∈ (x >>= f).calls := by
  change call ∈ (x.bind f).calls
  rcases houtcome : x.outcome with failure | value
  · rwa [bind_of_error f houtcome]
  · rw [bind_of_ok f houtcome]
    exact List.mem_append_left _ h

/-- What follows without a lookup adds none. -/
theorem calls_bind_ofExcept (x : Run α) (f : α → Except Failure β) :
    (x >>= fun value ↦ ofExcept (f value)).calls = x.calls := by
  change (x.bind _).calls = _
  rcases h : x.outcome with failure | value
  · rw [bind_of_error _ h]
  · rw [bind_of_ok _ h]
    exact List.append_nil _

end Run

namespace Prefetch

variable {ctx : Context} {stream : Stream}

theorem failsBy_facts (ctx : Context) : (facts ctx).FailsBy ctx :=
  (Run.failsBy_call rfl).bind fun _ ↦ (Run.failsBy_call rfl).bind fun _ ↦ (Run.failsBy_call rfl).bind fun _ ↦
    (Run.failsBy_call rfl).bind fun _ ↦ (Run.failsBy_call rfl).bind fun _ ↦ (Run.failsBy_call rfl).bind fun _ ↦
      Run.failsBy_pure _

theorem failsBy_run (h : stream.failure = none) : (run ctx stream).FailsBy ctx := by
  have hstream : Run.ofExcept stream.collect = Pure.pure stream.transitions := by
    rw [collect_eq_ok_iff.2 ⟨h, rfl⟩]
    rfl
  unfold run
  rw [hstream]
  refine (failsBy_facts ctx).bind fun p ↦ (Run.failsBy_pure _).bind fun transitions ↦ ?_
  exact (Run.FailsBy.each (fun _ ↦ (Run.failsBy_call rfl).bind fun _ ↦ Run.failsBy_pure _) _).bind fun _ ↦
    Run.failsBy_pure _

/-- A context cannot be read exactly when a lookup fails that is made. -/
theorem run_eq_error_iff (h : stream.failure = none) {failure : Failure} :
    (run ctx stream).outcome = .error failure ↔
      ∃ call ∈ (run ctx stream).calls, ctx.failure? call.lookup = some failure :=
  failsBy_run h failure

end Prefetch

namespace Build

variable {ctx : Context} {p : Prefetched} {b : Bundle} {item : WorkItem} {failure : Failure}

/-- The lookups for a bundle fail exactly when one that is made does, with an error that names the bundle. -/
theorem lookups_eq_error_iff :
    (lookups ctx p b).outcome = .error failure ↔
      ∃ call ∈ (lookups ctx p b).calls, ∃ own, ctx.failure? call.lookup = some own ∧
        lookupFailure p.account.id b.id own = failure := by
  have hfails : Run.FailsBy ctx (do
      let recordId ← Run.call .worker (.bundleRecordId b.id) (ctx.bundleRecordId b.id)
      let latest ← Run.call .worker (.latestForExternalKey b.externalKey)
        (ctx.latestForExternalKey b.externalKey)
      pure (recordId, latest)) :=
    (Run.failsBy_call rfl).bind fun _ ↦ (Run.failsBy_call rfl).bind fun _ ↦ Run.failsBy_pure _
  unfold lookups
  rw [Run.outcome_mapFailure, Run.calls_mapFailure, mapError_eq_error_iff]
  simp only [hfails _]
  constructor
  · rintro ⟨own, ⟨call, hcall, hown⟩, hfailure⟩
    exact ⟨call, hcall, own, hown, hfailure⟩
  · rintro ⟨call, hcall, own, hown, hfailure⟩
    exact ⟨own, ⟨call, hcall, hown⟩, hfailure⟩

/-- A build fails as soon as a lookup does that it makes. -/
theorem exists_run_eq_error {call : Call} (hcall : call ∈ (run ctx p item).calls)
    (h : ctx.failure? call.lookup = some failure) :
    ∃ b, p.bundle? item.transition.bundle = some b ∧
      (run ctx p item).outcome = .error (lookupFailure p.account.id b.id failure) := by
  unfold run at hcall ⊢
  cases hb : p.bundle? item.transition.bundle with
  | none =>
    rw [hb] at hcall
    exact absurd hcall List.not_mem_nil
  | some b =>
    rw [hb] at hcall
    have hmem : call ∈ (lookups ctx p b).calls := by
      rwa [← Run.calls_bind_ofExcept (lookups ctx p b) fun found ↦ record p b item found.1 found.2]
    have hlookups : (lookups ctx p b).outcome = .error (lookupFailure p.account.id b.id failure) :=
      lookups_eq_error_iff.2 ⟨call, hmem, failure, h, rfl⟩
    refine ⟨b, rfl, ?_⟩
    dsimp only
    rw [Run.outcome_bind, hlookups]
    rfl

end Build
end BundleLedger
