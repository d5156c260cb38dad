import BundleLedger.Bundle.Build
import BundleLedger.Proofs.Bundle.Ranking
import BundleLedger.Proofs.Result
import Mathlib.Data.Int.Notation

/-!
# What is read, and what is built from it

When the context of an account has been read, every lookup has its answer and every ranked bundle its
work (`Prefetch.run_eq_ok_iff`). A build for one work item has a record exactly when the bundle is one of
the account's, both lookups have answers and every field fits (`Build.run_eq_ok_iff`); the record is then
the one of its draft.
-/

set_option autoImplicit false

namespace BundleLedger

open Result

/-! ### Runs -/

namespace Run

variable {α β : Type}

@[simp] theorem outcome_pure (value : α) : (Pure.pure value : Run α).outcome = Pure.pure value := rfl

@[simp] theorem outcome_bind (x : Run α) (f : α → Run β) :
    (x >>= f).outcome = x.outcome >>= fun value ↦ (f value).outcome := by
  change (x.bind f).outcome = _
  unfold Run.bind
  split <;> simp_all [Bind.bind, Except.bind]

@[simp] theorem outcome_call (side : Side) (lookup : Lookup) (answer : Except Failure α) :
    (call side lookup answer).outcome = answer := rfl

@[simp] theorem outcome_ofExcept (x : Except Failure α) : (ofExcept x).outcome = x := rfl

@[simp] theorem outcome_fail (failure : Failure) : (fail failure : Run α).outcome = .error failure := rfl

@[simp] theorem outcome_mapFailure (f : Failure → Failure) (x : Run α) :
    (x.mapFailure f).outcome = x.outcome.mapError f := by
  unfold mapFailure
  split <;> simp_all [Except.mapError]

/-- Runs in turn succeed exactly when each of them does. -/
theorem outcome_each (f : α → Run β) (items : List α) :
    (each f items).outcome = items.mapM fun item ↦ (f item).outcome := by
  induction items with
  | nil => rfl
  | cons item rest ih =>
    change (f item >>= fun value ↦ each f rest >>= fun values ↦ Pure.pure (value :: values)).outcome = _
    simp only [outcome_bind, outcome_pure, List.mapM_cons, ih]

end Run

/-! ### Reading the context -/

namespace Prefetch

/-- The answers of a context that were read before the first build, and the transitions. -/
structure Reads (ctx : Context) (stream : Stream) (p : Prefetched) : Prop where
  account : ctx.account = .ok p.account
  accountRecordId : ctx.accountRecordId = .ok p.accountRecordId
  tenantRecordId : ctx.tenantRecordId = .ok p.tenantRecordId
  reportGroup : ctx.reportGroup = .ok p.reportGroup
  converter : ctx.converter = .ok p.converter
  bundles : ctx.bundles = .ok p.bundles
  stream : stream.failure = none

theorem facts_eq_ok_iff {ctx : Context} {p : Prefetched} :
    (facts ctx).outcome = .ok p ↔
      ctx.account = .ok p.account ∧ ctx.accountRecordId = .ok p.accountRecordId ∧
        ctx.tenantRecordId = .ok p.tenantRecordId ∧ ctx.reportGroup = .ok p.reportGroup ∧
        ctx.converter = .ok p.converter ∧ ctx.bundles = .ok p.bundles := by
  unfold facts
  simp only [Run.outcome_bind, Run.outcome_call, Run.outcome_pure, bind_eq_ok_iff, pure_eq_ok_iff]
  constructor
  · rintro ⟨_, h₁, _, h₂, _, h₃, _, h₄, _, h₅, _, h₆, rfl⟩
    exact ⟨h₁, h₂, h₃, h₄, h₅, h₆⟩
  · rintro ⟨h₁, h₂, h₃, h₄, h₅, h₆⟩
    exact ⟨_, h₁, _, h₂, _, h₃, _, h₄, _, h₅, _, h₆, rfl⟩

theorem collect_eq_ok_iff {stream : Stream} {transitions : List Transition} :
    stream.collect = .ok transitions ↔ stream.failure = none ∧ stream.transitions = transitions := by
  unfold Stream.collect
  split <;> simp_all

/-- The ranking of the bundles that were read. -/
def ranking (p : Prefetched) (stream : Stream) : Ranking :=
  Ranking.ofTransitions (Prefetched.baseSubscriptions p.bundles) stream.transitions

/-- The context has been read exactly when every lookup has an answer and every ranked bundle its work,
in the order of the ranks. -/
theorem run_eq_ok_iff {ctx : Context} {stream : Stream} {p : Prefetched} {work : List WorkItem} :
    (run ctx stream).outcome = .ok (p, work) ↔
      Reads ctx stream p ∧
        List.Forall₂ (fun entry item ↦ (workItem ctx (ranking p stream) entry).outcome = .ok item)
          (ranking p stream).latest work := by
  unfold run
  simp only [Run.outcome_bind, Run.outcome_ofExcept, Run.outcome_pure, Run.outcome_each,
    bind_eq_ok_iff, pure_eq_ok_iff, mapM_eq_ok_iff, facts_eq_ok_iff, collect_eq_ok_iff, Prod.mk.injEq]
  constructor
  · rintro ⟨_, ⟨h₁, h₂, h₃, h₄, h₅, h₆⟩, _, ⟨hs, rfl⟩, _, hwork, rfl, rfl⟩
    exact ⟨⟨h₁, h₂, h₃, h₄, h₅, h₆, hs⟩, hwork⟩
  · rintro ⟨h, hwork⟩
    exact ⟨_, ⟨h.account, h.accountRecordId, h.tenantRecordId, h.reportGroup, h.converter, h.bundles⟩,
      _, ⟨h.stream, rfl⟩, _, hwork, rfl, rfl⟩

theorem workItem_eq_ok_iff {ctx : Context} {ranking : Ranking} {entry : Uuid × Transition}
    {item : WorkItem} :
    (workItem ctx ranking entry).outcome = .ok item ↔
      ctx.creationAudit entry.1 = .ok item.creation ∧ item.transition = entry.2 ∧
        item.rank = ranking.rankOf entry.1 := by
  unfold workItem
  simp only [Run.outcome_bind, Run.outcome_call, Run.outcome_pure, bind_eq_ok_iff, pure_eq_ok_iff]
  constructor
  · rintro ⟨_, h, rfl⟩
    exact ⟨h, rfl, rfl⟩
  · rintro ⟨h, ht, hr⟩
    exact ⟨_, h, by rw [← ht, ← hr]⟩

end Prefetch

/-! ### The record of a draft -/

namespace Validated

variable {α β : Type}

theorem exists_map_eq_ok_iff {f : α → β} {x : Validated α} {p : β → Prop} :
    (∃ value, (f <$> x) = .ok value ∧ p value) ↔ ∃ u, x = .ok u ∧ p (f u) := by
  change (∃ value, x.map f = .ok value ∧ p value) ↔ _
  cases x <;> simp [map]

/-- A function applied to an argument has a value with a property exactly when both have values that
give one. -/
theorem exists_seq_eq_ok_iff {f : Validated (α → β)} {x : Validated α} {p : β → Prop} :
    (∃ value, (f <*> x) = .ok value ∧ p value) ↔ ∃ g, f = .ok g ∧ ∃ u, x = .ok u ∧ p (g u) := by
  change (∃ value, (f.apply fun _ ↦ x) = .ok value ∧ p value) ↔ _
  cases f <;> cases x <;> simp [apply, map]

end Validated

namespace BundleRecord

theorem field_eq_ok_iff {α : Type} {name : String} {reading : Reading α} {value : α} :
    field name reading = .ok value ↔ reading = .ok value := by
  cases reading <;> simp [field, Validated.ofReading, Validated.within, Validated.issue]

/-- An amount fits when it is a number, and is kept as it is. -/
theorem amount_eq_ok_iff {name : String} {d value : Option Decimal} :
    amount name d = .ok value ↔ value = d ∧ ∀ x ∈ d, x.isFinite = true := by
  cases d with
  | none =>
    rw [amount, Validated.ok.injEq, eq_comm]
    simp
  | some d =>
    rw [amount, field_eq_ok_iff, map_eq_ok_iff]
    unfold Field.finite
    split_ifs with h
    · rw [eq_comm (a := value)]
      simp [h]
    · simp [h]

theorem rankField_eq_ok_iff {rank : ℕ} {value : ℤ} :
    rankField rank = .ok value ↔ 1 ≤ rank ∧ value = rank := by
  unfold rankField
  split_ifs with h
  · rw [Except.ok.injEq, eq_comm, and_iff_right h]
  · simp [h]

/-- Whether a record holds what its draft holds. -/
structure OfDraft (d : Draft) (r : BundleRecord) : Prop where
  accountRecordId : d.accountRecordId = .ok r.accountRecordId
  bundleRecordId : d.bundleRecordId = .ok r.bundleRecordId
  tenantRecordId : d.tenantRecordId = .ok r.tenantRecordId
  reportGroup : d.reportGroup = .ok r.reportGroup
  rank : 1 ≤ d.rank ∧ r.rank = d.rank
  account : r.account = d.account.id
  accountExternalKey : r.accountExternalKey = d.account.externalKey
  accountName : r.accountName = d.account.name
  bundle : r.bundle = d.bundle.id
  bundleExternalKey : r.bundleExternalKey = d.bundle.externalKey
  created : r.created = d.bundle.created
  chargedThrough : r.chargedThrough = d.bundle.chargedThrough
  subscription : r.subscription = d.transition.subscription
  current : r.current = d.transition.next
  latestForExternalKey : r.latestForExternalKey = d.isLatest
  convertedPrice : r.convertedPrice = d.convertedPrice
  convertedMrr : r.convertedMrr = d.convertedMrr
  convertedCurrency : r.convertedCurrency = d.convertedCurrency
  createdBy : r.createdBy = d.creation.bind (·.createdBy)
  createdReasonCode : r.createdReasonCode = d.creation.bind (·.reasonCode)
  createdComments : r.createdComments = d.creation.bind (·.comments)
  finite : ∀ amount ∈ [r.current.price, r.convertedPrice, r.current.mrr, r.convertedMrr],
    ∀ x ∈ amount, x.isFinite = true

/-- A draft with numbers and a group, a positive rank and finite amounts makes a record. -/
theorem exists_ofDraft {d : Draft} {accountRecordId bundleRecordId tenantRecordId : ℤ} {reportGroup : ReportGroup}
    (haccount : d.accountRecordId = .ok accountRecordId) (hbundle : d.bundleRecordId = .ok bundleRecordId)
    (htenant : d.tenantRecordId = .ok tenantRecordId) (hgroup : d.reportGroup = .ok reportGroup) (hrank : 1 ≤ d.rank)
    (hfinite : ∀ amount ∈ [d.transition.next.price, d.convertedPrice, d.transition.next.mrr, d.convertedMrr],
      ∀ x ∈ amount, x.isFinite = true) : ∃ r, OfDraft d r :=
  ⟨{ account := d.account.id, accountRecordId, accountExternalKey := d.account.externalKey
     accountName := d.account.name, bundle := d.bundle.id, bundleRecordId
     bundleExternalKey := d.bundle.externalKey, subscription := d.transition.subscription, rank := d.rank
     latestForExternalKey := d.isLatest, chargedThrough := d.bundle.chargedThrough, current := d.transition.next
     convertedPrice := d.convertedPrice, convertedMrr := d.convertedMrr, convertedCurrency := d.convertedCurrency
     created := d.bundle.created, createdBy := d.creation.bind (·.createdBy)
     createdReasonCode := d.creation.bind (·.reasonCode), createdComments := d.creation.bind (·.comments)
     tenantRecordId, reportGroup },
    { accountRecordId := haccount, bundleRecordId := hbundle, tenantRecordId := htenant, reportGroup := hgroup
      rank := ⟨hrank, rfl⟩, account := rfl, accountExternalKey := rfl, accountName := rfl, bundle := rfl
      bundleExternalKey := rfl, created := rfl, chargedThrough := rfl, subscription := rfl, current := rfl
      latestForExternalKey := rfl, convertedPrice := rfl, convertedMrr := rfl, convertedCurrency := rfl
      createdBy := rfl, createdReasonCode := rfl, createdComments := rfl, finite := hfinite }⟩

/-- A draft makes a record exactly when its numbers and its group are valid, its rank is positive and its
amounts are numbers; the record holds what the draft holds. -/
theorem ofDraft_eq_ok_iff {d : Draft} {r : BundleRecord} : ofDraft d = .ok r ↔ OfDraft d r := by
  have hmade : ofDraft d = .ok r ↔ ∃ made, ofDraft d = .ok made ∧ made = r := by
    rw [exists_eq_right]
  rw [hmade]
  unfold ofDraft
  simp only [Validated.exists_seq_eq_ok_iff, Validated.exists_map_eq_ok_iff, field_eq_ok_iff,
    amount_eq_ok_iff, rankField_eq_ok_iff]
  constructor
  · rintro ⟨_, h₁, _, h₂, _, ⟨h₃, rfl⟩, _, ⟨rfl, h₄⟩, _, ⟨rfl, h₅⟩, _, ⟨rfl, h₆⟩, _, ⟨rfl, h₇⟩, _, h₈, _, h₉, rfl⟩
    exact
      { accountRecordId := h₁, bundleRecordId := h₂, tenantRecordId := h₈, reportGroup := h₉
        rank := ⟨h₃, rfl⟩, account := rfl, accountExternalKey := rfl, accountName := rfl, bundle := rfl
        bundleExternalKey := rfl, created := rfl, chargedThrough := rfl, subscription := rfl
        current := rfl, latestForExternalKey := rfl, convertedPrice := rfl, convertedMrr := rfl
        convertedCurrency := rfl, createdBy := rfl, createdReasonCode := rfl, createdComments := rfl
        finite := by simpa using ⟨h₄, h₅, h₆, h₇⟩ }
  · rintro ⟨h₁, h₂, h₈, h₉, ⟨h₃, hrank⟩, ha, hk, hn, hb, hx, hc, ht, hs, hp, hl, hcp, hcm, hcc, hcb, hcr,
      hco, hf⟩
    cases r
    simp only [List.mem_cons, List.not_mem_nil, or_false, forall_eq_or_imp, forall_eq] at *
    subst ha hk hn hb hx hc ht hs hp hl hcp hcm hcc hcb hcr hco hrank
    obtain ⟨h₄, h₅, h₆, h₇⟩ := hf
    exact ⟨_, h₁, _, h₂, _, ⟨h₃, rfl⟩, _, ⟨rfl, h₄⟩, _, ⟨rfl, h₅⟩, _, ⟨rfl, h₆⟩, _, ⟨rfl, h₇⟩, _, h₈, _, h₉, rfl⟩

end BundleRecord

/-! ### One build -/

namespace Build

variable {ctx : Context} {p : Prefetched}

theorem lookups_eq_ok_iff {b : Bundle} {recordId : Reading Int} {latest : Uuid} :
    (lookups ctx p b).outcome = .ok (recordId, latest) ↔
      ctx.bundleRecordId b.id = .ok recordId ∧ ctx.latestForExternalKey b.externalKey = .ok latest := by
  unfold lookups
  simp only [Run.outcome_mapFailure, mapError_eq_ok_iff, Run.outcome_bind, Run.outcome_call,
    Run.outcome_pure, bind_eq_ok_iff, pure_eq_ok_iff, Prod.mk.injEq]
  constructor
  · rintro ⟨_, h₁, _, h₂, rfl, rfl⟩
    exact ⟨h₁, h₂⟩
  · rintro ⟨h₁, h₂⟩
    exact ⟨_, h₁, _, h₂, rfl, rfl⟩

theorem converted_eq_ok_iff {c : Converter} {t : Transition} {amount value : Option Decimal} :
    converted c t amount = .ok value ↔ c.convert amount t.next.currency t.next.start = .ok value :=
  mapError_eq_ok_iff

/-- What a record is made from, once everything has been looked up and converted. -/
def draft (p : Prefetched) (b : Bundle) (item : WorkItem) (recordId : Reading Int) (latest : Uuid)
    (price mrr : Option Decimal) : BundleRecord.Draft where
  account := p.account
  accountRecordId := p.accountRecordId
  bundle := b
  bundleRecordId := recordId
  transition := item.transition
  rank := item.rank
  isLatest := latest = b.id
  convertedPrice := price
  convertedMrr := mrr
  convertedCurrency := p.converter.reference
  creation := item.creation
  tenantRecordId := p.tenantRecordId
  reportGroup := p.reportGroup

theorem record_eq_ok_iff {b : Bundle} {item : WorkItem} {recordId : Reading Int} {latest : Uuid}
    {r : BundleRecord} :
    record p b item recordId latest = .ok r ↔
      ∃ price mrr, converted p.converter item.transition item.transition.next.price = .ok price ∧
        converted p.converter item.transition item.transition.next.mrr = .ok mrr ∧
        BundleRecord.OfDraft (draft p b item recordId latest price mrr) r := by
  unfold record
  simp only [bind_eq_ok_iff]
  constructor
  · rintro ⟨price, hprice, mrr, hmrr, h⟩
    split at h
    · rename_i made hmade
      obtain rfl : made = r := by simpa using h
      exact ⟨price, mrr, hprice, hmrr, BundleRecord.ofDraft_eq_ok_iff.1 hmade⟩
    · simp at h
  · rintro ⟨price, mrr, hprice, hmrr, h⟩
    have hmade := BundleRecord.ofDraft_eq_ok_iff.2 h
    unfold draft at hmade
    exact ⟨price, hprice, mrr, hmrr, by rw [hmade]⟩

/-- A build has a record exactly when the bundle is one of the account's, both lookups have answers, both
amounts can be converted and every field fits. -/
theorem run_eq_ok_iff {item : WorkItem} {r : BundleRecord} :
    (run ctx p item).outcome = .ok r ↔
      ∃ b recordId latest, p.bundle? item.transition.bundle = some b ∧
        ctx.bundleRecordId b.id = .ok recordId ∧ ctx.latestForExternalKey b.externalKey = .ok latest ∧
        record p b item recordId latest = .ok r := by
  unfold run
  split
  · rename_i h
    simp [h]
  · rename_i b h
    simp only [Run.outcome_bind, bind_eq_ok_iff, Prod.exists, lookups_eq_ok_iff, Run.outcome_ofExcept]
    constructor
    · rintro ⟨recordId, latest, ⟨h₁, h₂⟩, hr⟩
      exact ⟨b, recordId, latest, h, h₁, h₂, hr⟩
    · rintro ⟨b', recordId, latest, hb, h₁, h₂, hr⟩
      obtain rfl : b = b' := by simpa [h] using hb
      exact ⟨recordId, latest, ⟨h₁, h₂⟩, hr⟩

end Build
end BundleLedger
