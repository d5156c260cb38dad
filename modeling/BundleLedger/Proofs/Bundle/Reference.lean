import BundleLedger.Proofs.Bundle.Aggregation
import BundleLedger.Proofs.Pairing

/-!
# The reference list of records

What the records of an account are, whatever the schedule of the builds. A transition counts when its
subscription is a base subscription of the account; each bundle with such a transition has one record, which
is drawn from the last listed bundle of that identifier, its last transition that counts and the answers of
the context (`DrawnFrom`). These records in the order of first appearance are the reference
(`IsReference`), of which there is at most one (`IsReference.unique`). Main statement: the result of an
attempt is the reference, arranged by the schedule (`run_refines_reference`).
-/

set_option autoImplicit false

namespace BundleLedger

open Result

/-! ### Records drawn from a context -/

/-- Whether a subscription is a base subscription: the base entitlement of a subscription of some bundle. -/
def IsBase (bundles : List Bundle) (subscription : Uuid) : Prop :=
  ∃ b ∈ bundles, ∃ s ∈ b.subscriptions, s.baseEntitlement = subscription

instance (bundles : List Bundle) (subscription : Uuid) : Decidable (IsBase bundles subscription) :=
  inferInstanceAs (Decidable (∃ b ∈ bundles, ∃ s ∈ b.subscriptions, s.baseEntitlement = subscription))

/-- The transitions that count: those of base subscriptions. -/
def baseTransitions (bundles : List Bundle) (transitions : List Transition) : List Transition :=
  transitions.filter fun t ↦ IsBase bundles t.subscription

theorem mem_baseTransitions {bundles : List Bundle} {transitions : List Transition} {t : Transition} :
    t ∈ baseTransitions bundles transitions ↔ t ∈ transitions ∧ IsBase bundles t.subscription := by
  rw [baseTransitions, List.mem_filter, decide_eq_true_eq]

/-- Whether a draft is the one of a bundle: the bundle last listed with the identifier, its last transition
that counts, its rank by first appearance, the amounts as converted, and the answers of the context. -/
structure DrawnFrom (ctx : Context) (bundles : List Bundle) (converter : Converter)
    (transitions : List Transition) (id : Uuid) (d : BundleRecord.Draft) : Prop where
  account : ctx.account = .ok d.account
  accountRecordId : ctx.accountRecordId = .ok d.accountRecordId
  tenantRecordId : ctx.tenantRecordId = .ok d.tenantRecordId
  reportGroup : ctx.reportGroup = .ok d.reportGroup
  bundle : (bundles.filter fun b ↦ b.id = id).getLast? = some d.bundle
  bundleRecordId : ctx.bundleRecordId id = .ok d.bundleRecordId
  transition : lastOf (baseTransitions bundles transitions) id = some d.transition
  rank : d.rank = (firstSeen (baseTransitions bundles transitions)).idxOf id + 1
  isLatest : ∃ latest, ctx.latestForExternalKey d.bundle.externalKey = .ok latest ∧
    (d.isLatest = true ↔ latest = id)
  convertedPrice : converter.convert d.transition.next.price d.transition.next.currency
    d.transition.next.start = .ok d.convertedPrice
  convertedMrr : converter.convert d.transition.next.mrr d.transition.next.currency
    d.transition.next.start = .ok d.convertedMrr
  convertedCurrency : d.convertedCurrency = converter.reference
  creation : ctx.creationAudit id = .ok d.creation

/-- Whether records are the reference of a context and its transitions: one record for each bundle with a
transition that counts, in the order of first appearance, and each as drawn from the context. -/
def IsReference (ctx : Context) (transitions : List Transition) (reference : List BundleRecord) : Prop :=
  ∃ bundles converter, ctx.bundles = .ok bundles ∧ ctx.converter = .ok converter ∧
    reference.map (·.bundle) = firstSeen (baseTransitions bundles transitions) ∧
    ∀ r ∈ reference, ∃ d, DrawnFrom ctx bundles converter transitions r.bundle d ∧ BundleRecord.OfDraft d r

theorem DrawnFrom.unique {ctx : Context} {bundles : List Bundle} {converter : Converter}
    {transitions : List Transition} {id : Uuid} {d d' : BundleRecord.Draft}
    (h : DrawnFrom ctx bundles converter transitions id d)
    (h' : DrawnFrom ctx bundles converter transitions id d') : d = d' := by
  have hbundle : d.bundle = d'.bundle := Option.some.inj (h.bundle.symm.trans h'.bundle)
  have htransition : d.transition = d'.transition :=
    Option.some.inj (h.transition.symm.trans h'.transition)
  have hlatest : d.isLatest = d'.isLatest := by
    obtain ⟨latest, hid, hiff⟩ := h.isLatest
    obtain ⟨latest', hid', hiff'⟩ := h'.isLatest
    rw [hbundle, hid', Except.ok.injEq] at hid
    rw [Bool.eq_iff_iff, hiff, hiff', hid]
  have hprice := h.convertedPrice
  have hmrr := h.convertedMrr
  rw [htransition, h'.convertedPrice, Except.ok.injEq] at hprice
  rw [htransition, h'.convertedMrr, Except.ok.injEq] at hmrr
  have haccount := h.account.symm.trans h'.account
  have haccountRecordId := h.accountRecordId.symm.trans h'.accountRecordId
  have htenantRecordId := h.tenantRecordId.symm.trans h'.tenantRecordId
  have hreportGroup := h.reportGroup.symm.trans h'.reportGroup
  have hbundleRecordId := h.bundleRecordId.symm.trans h'.bundleRecordId
  have hcreation := h.creation.symm.trans h'.creation
  have hcurrency := h.convertedCurrency.trans h'.convertedCurrency.symm
  have hrank := h.rank.trans h'.rank.symm
  rw [Except.ok.injEq] at haccount haccountRecordId htenantRecordId hreportGroup hbundleRecordId hcreation
  cases d
  cases d'
  simp_all

namespace BundleRecord

/-- A draft makes one record. -/
theorem OfDraft.unique {d : Draft} {r r' : BundleRecord} (h : OfDraft d r) (h' : OfDraft d r') :
    r = r' := by
  have hmade := ofDraft_eq_ok_iff.2 h
  rw [ofDraft_eq_ok_iff.2 h', Validated.ok.injEq] at hmade
  exact hmade.symm

end BundleRecord

/-- There is at most one reference. -/
theorem IsReference.unique {ctx : Context} {transitions : List Transition}
    {reference other : List BundleRecord} (h : IsReference ctx transitions reference)
    (h' : IsReference ctx transitions other) : reference = other := by
  obtain ⟨bundles, converter, hbundles, hconverter, hkeys, hdrawn⟩ := h
  obtain ⟨bundles', converter', hbundles', hconverter', hkeys', hdrawn'⟩ := h'
  obtain rfl : bundles = bundles' := by simpa [hbundles] using hbundles'
  obtain rfl : converter = converter' := by simpa [hconverter] using hconverter'
  have hmap : reference.map (·.bundle) = other.map (·.bundle) := hkeys.trans hkeys'.symm
  refine List.ext_getElem (by simpa using congrArg List.length hmap) fun index hi hj ↦ ?_
  obtain ⟨d, hd, hr⟩ := hdrawn _ (List.getElem_mem hi)
  obtain ⟨d', hd', hr'⟩ := hdrawn' _ (List.getElem_mem hj)
  have hbundle : reference[index].bundle = other[index].bundle := by
    have := congrArg (·[index]?) hmap
    simpa [hi, hj] using this
  rw [← hbundle] at hd'
  obtain rfl := hd.unique hd'
  exact hr.unique hr'

/-! ### Builds against the reference -/

theorem qualifying_baseSubscriptions (bundles : List Bundle) (transitions : List Transition) :
    Ranking.qualifying (Prefetched.baseSubscriptions bundles) transitions =
      baseTransitions bundles transitions := by
  refine List.filter_congr fun t _ ↦ ?_
  rw [List.contains_eq_mem, decide_eq_decide]
  simp [Prefetched.baseSubscriptions, IsBase]

/-- A bundle is looked up by its identifier among the listed ones, from the end. -/
theorem Prefetched.bundle?_eq (p : Prefetched) (id : Uuid) :
    p.bundle? id = (p.bundles.filter fun b ↦ b.id = id).getLast? :=
  List.getLast?_filter.symm

theorem Prefetched.id_of_bundle? {p : Prefetched} {id : Uuid} {b : Bundle} (h : p.bundle? id = some b) :
    b.id = id := by
  rw [p.bundle?_eq] at h
  simpa using (List.mem_filter.1 (List.mem_of_getLast? h)).2

namespace Attempt

variable {a : Attempt} {p : Prefetched} {work : List WorkItem}

theorem build_eq_ok_iff {item : WorkItem} {r : BundleRecord} :
    (a.build p item).outcome = .ok r ↔
      a.obstacle item.transition.bundle = none ∧ (Build.run a.context p item).outcome = .ok r := by
  unfold build
  split <;> simp_all

/-- The record that is built for a ranked bundle is drawn from the context. -/
theorem drawnFrom_of_build {entry : Uuid × Transition} {item : WorkItem} {r : BundleRecord}
    (hp : Prefetch.Reads a.context a.stream p)
    (hentry : entry ∈ (Prefetch.ranking p a.stream).latest)
    (hitem : (Prefetch.workItem a.context (Prefetch.ranking p a.stream) entry).outcome = .ok item)
    (hr : (a.build p item).outcome = .ok r) :
    r.bundle = entry.1 ∧
      ∃ d, DrawnFrom a.context p.bundles p.converter a.stream.transitions r.bundle d ∧
        BundleRecord.OfDraft d r := by
  obtain ⟨hcreation, htransition, hrank⟩ := Prefetch.workItem_eq_ok_iff.1 hitem
  have hranked := Ranking.mem_latest_ofTransitions _ _ hentry
  rw [qualifying_baseSubscriptions] at hranked
  obtain ⟨b, recordId, latest, hb, hrecordId, hlatest, hrecord⟩ :=
    Build.run_eq_ok_iff.1 (build_eq_ok_iff.1 hr).2
  obtain ⟨price, mrr, hprice, hmrr, hdraft⟩ := Build.record_eq_ok_iff.1 hrecord
  have hid : b.id = entry.1 := by
    rw [Prefetched.id_of_bundle? hb, htransition, bundle_of_lastOf hranked.1]
  have hbundle : r.bundle = entry.1 := hdraft.bundle.trans hid
  refine ⟨hbundle, _, ?_, hdraft⟩
  rw [hbundle]
  refine
    { account := hp.account, accountRecordId := hp.accountRecordId
      tenantRecordId := hp.tenantRecordId, reportGroup := hp.reportGroup
      bundle := ?_, bundleRecordId := hid ▸ hrecordId, transition := ?_
      rank := hrank.trans hranked.2, isLatest := ?_
      convertedPrice := Build.converted_eq_ok_iff.1 hprice
      convertedMrr := Build.converted_eq_ok_iff.1 hmrr
      convertedCurrency := rfl, creation := hcreation }
  · rw [← hid, Prefetched.id_of_bundle? hb, ← p.bundle?_eq]
    exact hb
  · rw [hranked.1, ← htransition]
    rfl
  · refine ⟨latest, hlatest, ?_⟩
    rw [← hid]
    exact decide_eq_true_iff

/-- The records of completed builds, in the order of submission, are the reference. -/
theorem Completes.isReference {built : List BundleRecord} (h : a.Completes p work built)
    (hread : (Prefetch.run a.context a.stream).outcome = .ok (p, work)) :
    IsReference a.context a.stream.transitions built := by
  obtain ⟨hp, hwork⟩ := Prefetch.run_eq_ok_iff.1 hread
  have hall := Pairing.comp ((List.forall₂_and_left _ _).2 ⟨fun _ hentry ↦ hentry, hwork⟩) h.built
  have hdrawn := hall.imp fun entry r ⟨item, ⟨hentry, hitem⟩, hr⟩ ↦ drawnFrom_of_build hp hentry hitem hr
  refine ⟨p.bundles, p.converter, hp.bundles, hp.converter, ?_, fun r hr ↦ ?_⟩
  · rw [← qualifying_baseSubscriptions, ← Ranking.keys_latest_ofTransitions]
    exact (Pairing.map_eq_map (hdrawn.imp fun _ _ h ↦ h.1.symm)).symm
  · obtain ⟨entry, -, -, hd⟩ := Pairing.exists_mem_left hdrawn hr
    exact hd

/-- Whether records are one and the same reference list in the order of completion. The reference is the only
one of the context and the transitions, and what builds give that complete in the order of submission. -/
structure Refines (a : Attempt) (records reference : List BundleRecord) : Prop where
  isReference : IsReference a.context a.stream.transitions reference
  unique : ∀ other, IsReference a.context a.stream.transitions other → other = reference
  sequential : { a with schedule := .fifo }.run.result = .ok reference
  arranged : records = a.schedule.arrange reference
  perm : records.Perm reference
  nodup : (records.map (·.bundle)).Nodup
  mem_iff : ∀ id, id ∈ records.map (·.bundle) ↔
    ∃ bundles, a.context.bundles = .ok bundles ∧
      ∃ t ∈ a.stream.transitions, IsBase bundles t.subscription ∧ t.bundle = id

/-- Builds that complete on some schedule complete in the order of submission. -/
theorem Completes.sequential {built : List BundleRecord} (h : a.Completes p work built) :
    { a with schedule := .fifo }.Completes p work built where
  accepted := rfl
  finished := rfl
  uncancelled _ _ := rfl
  built := h.built

/-- The records of an attempt refine the reference list of its context and its transitions, whatever the
order in which the builds complete. -/
theorem run_refines_reference (a : Attempt) (records : List BundleRecord)
    (h : a.run.result = .ok records) : ∃ reference, a.Refines records reference := by
  obtain ⟨p, work, built, hread, hbuilt, rfl⟩ := result_run_eq_ok_iff.1 h
  have href := hbuilt.isReference hread
  have hperm := a.schedule.arrange_perm built
  obtain ⟨bundles, converter, hbundles, -, hkeys, -⟩ := id href
  have hmem : ∀ id, id ∈ (a.schedule.arrange built).map (·.bundle) ↔
      ∃ t ∈ a.stream.transitions, IsBase bundles t.subscription ∧ t.bundle = id := by
    intro id
    rw [(hperm.map _).mem_iff, hkeys, mem_firstSeen]
    simp only [mem_baseTransitions, and_assoc]
  refine ⟨built,
    { isReference := href, unique := fun other hother ↦ hother.unique href, sequential := ?_
      arranged := rfl, perm := hperm, nodup := ?_, mem_iff := fun id ↦ ?_ }⟩
  · refine result_run_eq_ok_iff.2 ⟨p, work, built, hread, hbuilt.sequential, ?_⟩
    rw [Schedule.arrange_fifo]
  · rw [(hperm.map _).nodup_iff, hkeys]
    exact nodup_firstSeen _
  · rw [hmem]
    constructor
    · intro hid
      exact ⟨bundles, hbundles, hid⟩
    · rintro ⟨bundles', hbundles', hid⟩
      obtain rfl : bundles = bundles' := by simpa [hbundles] using hbundles'
      exact hid

end Attempt

/-! ### An account with two bundles -/

namespace Sample

/-- A bundle with one base subscription, ten times its number. -/
def bundle (number : ℕ) : Bundle where
  id := .ofNat number
  externalKey := "bundle"
  account := .ofNat 9
  created := ⟨default, some 0⟩
  subscriptions := [⟨.ofNat (10 * number), .ofNat number, .ofNat (10 * number), some .base, none⟩]

/-- A change of the base subscription of a bundle. -/
def transition (recordId : ℤ) (number : ℕ) : Transition where
  recordId
  bundle := .ofNat number
  bundleExternalKey := "bundle"
  subscription := .ofNat (10 * number)
  event := "CHANGE"
  next := ⟨none, none, some .base, none, none, none, none, some (.finite false 995 (-2)), none,
    some "USD", none, none, none, none⟩

def context : Context where
  account := .ok ⟨.ofNat 9, "account", none, some "USD"⟩
  accountRecordId := .ok (.ok 1)
  tenantRecordId := .ok (.ok 1)
  reportGroup := .ok (.ok .default)
  converter := .ok ⟨"USD", []⟩
  bundles := .ok [bundle 1, bundle 2]
  bundleRecordId id := .ok (.ok id.toNat)
  latestForExternalKey _ := .ok (.ofNat 2)
  creationAudit _ := .ok none

/-- The second bundle appears first, and its build completes last. -/
def attempt : Attempt where
  context
  stream := .ofList [transition 1 2, transition 2 1, transition 3 2]
  schedule := { order := [1, 0] }

end Sample

theorem exists_refines_sample :
    ∃ records, Sample.attempt.run.result = .ok records ∧
      records.map (fun r ↦ (r.bundle.toNat, r.rank, r.latestForExternalKey)) =
        [(1, 2, false), (2, 1, true)] ∧
      ∃ reference, Sample.attempt.Refines records reference :=
  ⟨_, rfl, rfl, Attempt.run_refines_reference _ _ rfl⟩

end BundleLedger
