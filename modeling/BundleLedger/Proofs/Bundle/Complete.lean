import BundleLedger.Proofs.Bundle.Reference

/-!
# When the reference list is built

The converse of what `Reference` shows. If the context can be read, there is a reference list, and the schedule lets
so many builds complete, then the attempt has the records of the reference list. So whether an attempt has records
depends on nothing but the answers of the context that the reference list is drawn from, the transitions and the
schedule (`result_run_eq_ok_iff_isReference`).
-/

set_option autoImplicit false

namespace BundleLedger

open Result

/-- Whether a schedule lets a number of builds complete: all are accepted, none is cancelled, and the pool does not
stall. -/
structure Schedule.Lets (s : Schedule) (count : ℕ) : Prop where
  accepted : s.accepted count = count
  finished : s.stalls count = false
  uncancelled : ∀ index < count, s.isCancelled index = false

/-- A schedule that states an order and nothing else lets all builds complete. -/
theorem Schedule.lets_of_order (order : List ℕ) (count : ℕ) : ({ order } : Schedule).Lets count where
  accepted := rfl
  finished := rfl
  uncancelled _ _ := rfl

namespace Attempt

variable {a : Attempt} {p : Prefetched} {work : List WorkItem}

theorem completes_iff {built : List BundleRecord} :
    a.Completes p work built ↔
      a.schedule.Lets built.length ∧
        List.Forall₂ (fun item r ↦ (a.build p item).outcome = .ok r) work built := by
  constructor
  · intro h
    have hlength := h.built.length_eq
    exact ⟨⟨hlength ▸ h.accepted, hlength ▸ h.finished, hlength ▸ h.uncancelled⟩, h.built⟩
  · rintro ⟨h, hbuilt⟩
    have hlength := hbuilt.length_eq
    exact ⟨hlength ▸ h.accepted, hlength ▸ h.finished, hlength ▸ h.uncancelled, hbuilt⟩

/-- What a build puts together from what was read and looked up is the draft that can be drawn from the context. -/
theorem draft_eq_of_drawnFrom (hp : Prefetch.Reads a.context a.stream p) {id latest : Uuid}
    {d : BundleRecord.Draft} (hd : DrawnFrom a.context p.bundles p.converter a.stream.transitions id d)
    (hbundle : d.bundle.id = id) {rank : ℕ} (hrank : rank = d.rank) (hflag : d.isLatest = true ↔ latest = id) :
    Build.draft p d.bundle ⟨d.transition, rank, d.creation⟩ d.bundleRecordId latest d.convertedPrice
      d.convertedMrr = d := by
  have haccount := Except.ok.inj (hp.account.symm.trans hd.account)
  have haccountRecordId := Except.ok.inj (hp.accountRecordId.symm.trans hd.accountRecordId)
  have htenantRecordId := Except.ok.inj (hp.tenantRecordId.symm.trans hd.tenantRecordId)
  have hreportGroup := Except.ok.inj (hp.reportGroup.symm.trans hd.reportGroup)
  have hisLatest : decide (latest = d.bundle.id) = d.isLatest := by
    rw [Bool.eq_iff_iff, decide_eq_true_iff, hflag, hbundle]
  have hcurrency := hd.convertedCurrency
  cases d
  simp_all [Build.draft]

/-- A bundle is built whose draft can be drawn from the context that was read. -/
theorem exists_build_of_drawnFrom (hobstacle : ∀ id, a.obstacle id = none)
    (hp : Prefetch.Reads a.context a.stream p) {entry : Uuid × Transition} {d : BundleRecord.Draft}
    {r : BundleRecord} (hentry : entry ∈ (Prefetch.ranking p a.stream).latest) (hid : entry.1 = r.bundle)
    (hd : DrawnFrom a.context p.bundles p.converter a.stream.transitions r.bundle d)
    (hr : BundleRecord.OfDraft d r) :
    ∃ item, (Prefetch.workItem a.context (Prefetch.ranking p a.stream) entry).outcome = .ok item ∧
      (a.build p item).outcome = .ok r := by
  obtain ⟨id, event⟩ := entry
  obtain rfl : id = r.bundle := hid
  have hranked := Ranking.mem_latest_ofTransitions _ _ hentry
  rw [qualifying_baseSubscriptions] at hranked
  obtain ⟨hlast, hrank⟩ := hranked
  obtain rfl : d.transition = event := Option.some.inj (hd.transition.symm.trans hlast)
  obtain ⟨latest, hlatest, hflag⟩ := hd.isLatest
  have hposition : (Prefetch.ranking p a.stream).rankOf r.bundle = d.rank := hrank.trans hd.rank.symm
  refine ⟨⟨d.transition, (Prefetch.ranking p a.stream).rankOf r.bundle, d.creation⟩,
    Prefetch.workItem_eq_ok_iff.2 ⟨hd.creation, rfl, rfl⟩, build_eq_ok_iff.2 ⟨hobstacle _, ?_⟩⟩
  have hbundle : p.bundle? d.transition.bundle = some d.bundle := by
    rw [p.bundle?_eq, bundle_of_lastOf hlast]
    exact hd.bundle
  have hrecordId : a.context.bundleRecordId d.bundle.id = .ok d.bundleRecordId := by
    rw [← hr.bundle]
    exact hd.bundleRecordId
  refine Build.run_eq_ok_iff.2 ⟨d.bundle, d.bundleRecordId, latest, hbundle, hrecordId, hlatest, ?_⟩
  refine Build.record_eq_ok_iff.2 ⟨d.convertedPrice, d.convertedMrr,
    Build.converted_eq_ok_iff.2 hd.convertedPrice, Build.converted_eq_ok_iff.2 hd.convertedMrr, ?_⟩
  rw [draft_eq_of_drawnFrom hp hd hr.bundle.symm hposition hflag]
  exact hr

/-- An attempt has records exactly when the context can be read, there is a reference list, and the schedule lets
so many builds complete. -/
theorem result_run_eq_ok_iff_isReference (hobstacle : ∀ id, a.obstacle id = none) {records : List BundleRecord} :
    a.run.result = .ok records ↔
      (∃ p, Prefetch.Reads a.context a.stream p) ∧
        ∃ reference, IsReference a.context a.stream.transitions reference ∧
          a.schedule.Lets reference.length ∧ records = a.schedule.arrange reference := by
  rw [result_run_eq_ok_iff]
  constructor
  · rintro ⟨p, work, built, hread, hcompletes, rfl⟩
    exact ⟨⟨p, (Prefetch.run_eq_ok_iff.1 hread).1⟩, built, hcompletes.isReference hread,
      (completes_iff.1 hcompletes).1, rfl⟩
  · rintro ⟨⟨p, hp⟩, reference, ⟨bundles, converter, hbundles, hconverter, hkeys, hdrawn⟩, hlets, rfl⟩
    obtain rfl : p.bundles = bundles := Except.ok.inj (hp.bundles.symm.trans hbundles)
    obtain rfl : p.converter = converter := Except.ok.inj (hp.converter.symm.trans hconverter)
    -- The ranked bundles and the records of the reference list are in the same order.
    have hpairs : List.Forall₂ (fun entry (r : BundleRecord) ↦ entry.1 = r.bundle)
        (Prefetch.ranking p a.stream).latest reference := by
      rw [← Pairing.map_eq_map_iff, hkeys, ← qualifying_baseSubscriptions]
      exact Ranking.keys_latest_ofTransitions _ _
    have hmembers : List.Forall₂ (fun entry r ↦ entry ∈ (Prefetch.ranking p a.stream).latest ∧ r ∈ reference ∧
        entry.1 = r.bundle) (Prefetch.ranking p a.stream).latest reference := by
      refine (List.forall₂_and_left _ _).2 ⟨fun _ hentry ↦ hentry, ?_⟩
      have hflipped := (List.forall₂_and_left (p := fun r ↦ r ∈ reference) _ _).2 ⟨fun _ hr ↦ hr, hpairs.flip⟩
      exact hflipped.flip
    obtain ⟨work, hwork, hbuilt⟩ := Pairing.exists_between (hmembers.imp fun entry r ⟨hentry, hr, hid⟩ ↦ by
      obtain ⟨d, hd, hmade⟩ := hdrawn r hr
      exact exists_build_of_drawnFrom hobstacle hp hentry hid hd hmade)
    exact ⟨p, work, reference, Prefetch.run_eq_ok_iff.2 ⟨hp, hwork⟩, completes_iff.2 ⟨hlets, hbuilt⟩, rfl⟩

end Attempt

/-! ### Contexts with the same answers -/

/-- Whether two contexts give the same answers, those about a bundle at least if it is listed. -/
structure Context.SameAnswers (ctx ctx' : Context) : Prop where
  account : ctx'.account = ctx.account
  accountRecordId : ctx'.accountRecordId = ctx.accountRecordId
  tenantRecordId : ctx'.tenantRecordId = ctx.tenantRecordId
  reportGroup : ctx'.reportGroup = ctx.reportGroup
  converter : ctx'.converter = ctx.converter
  bundles : ctx'.bundles = ctx.bundles
  bundleRecordId : ∀ bundles, ctx.bundles = .ok bundles → ∀ b ∈ bundles,
    ctx'.bundleRecordId b.id = ctx.bundleRecordId b.id
  latestForExternalKey : ∀ key, ctx'.latestForExternalKey key = ctx.latestForExternalKey key
  creationAudit : ∀ bundles, ctx.bundles = .ok bundles → ∀ b ∈ bundles,
    ctx'.creationAudit b.id = ctx.creationAudit b.id

namespace Context.SameAnswers

variable {ctx ctx' : Context} {transitions : List Transition}

theorem symm (h : SameAnswers ctx ctx') : SameAnswers ctx' ctx where
  account := h.account.symm
  accountRecordId := h.accountRecordId.symm
  tenantRecordId := h.tenantRecordId.symm
  reportGroup := h.reportGroup.symm
  converter := h.converter.symm
  bundles := h.bundles.symm
  bundleRecordId bundles hbundles b hb := (h.bundleRecordId bundles (h.bundles ▸ hbundles) b hb).symm
  latestForExternalKey key := (h.latestForExternalKey key).symm
  creationAudit bundles hbundles b hb := (h.creationAudit bundles (h.bundles ▸ hbundles) b hb).symm

theorem reads (h : SameAnswers ctx ctx') {stream : Stream} {p : Prefetched} (hp : Prefetch.Reads ctx stream p) :
    Prefetch.Reads ctx' stream p where
  account := h.account.trans hp.account
  accountRecordId := h.accountRecordId.trans hp.accountRecordId
  tenantRecordId := h.tenantRecordId.trans hp.tenantRecordId
  reportGroup := h.reportGroup.trans hp.reportGroup
  converter := h.converter.trans hp.converter
  bundles := h.bundles.trans hp.bundles
  stream := hp.stream

/-- A draft is drawn from the bundle that it names, which is listed, so nothing is asked about another. -/
theorem drawnFrom (h : SameAnswers ctx ctx') {bundles : List Bundle} {converter : Converter} {id : Uuid}
    {d : BundleRecord.Draft} (hbundles : ctx.bundles = .ok bundles)
    (hd : DrawnFrom ctx bundles converter transitions id d) :
    DrawnFrom ctx' bundles converter transitions id d := by
  obtain ⟨hlisted, hid⟩ := List.mem_filter.1 (List.mem_of_getLast? hd.bundle)
  obtain rfl : d.bundle.id = id := of_decide_eq_true hid
  exact { hd with
    account := h.account.trans hd.account
    accountRecordId := h.accountRecordId.trans hd.accountRecordId
    tenantRecordId := h.tenantRecordId.trans hd.tenantRecordId
    reportGroup := h.reportGroup.trans hd.reportGroup
    bundleRecordId := (h.bundleRecordId bundles hbundles d.bundle hlisted).trans hd.bundleRecordId
    isLatest := by
      rw [h.latestForExternalKey]
      exact hd.isLatest
    creation := (h.creationAudit bundles hbundles d.bundle hlisted).trans hd.creation }

theorem isReference (h : SameAnswers ctx ctx') {reference : List BundleRecord}
    (href : IsReference ctx transitions reference) : IsReference ctx' transitions reference := by
  obtain ⟨bundles, converter, hbundles, hconverter, hkeys, hdrawn⟩ := href
  refine ⟨bundles, converter, h.bundles.trans hbundles, h.converter.trans hconverter, hkeys, fun r hr ↦ ?_⟩
  obtain ⟨d, hd, hmade⟩ := hdrawn r hr
  exact ⟨d, h.drawnFrom hbundles hd, hmade⟩

/-- Contexts with the same answers can be read alike and have the same reference lists. -/
theorem reads_and_isReference_iff (h : SameAnswers ctx ctx') {stream : Stream} {reference : List BundleRecord} :
    (∃ p, Prefetch.Reads ctx' stream p) ∧ IsReference ctx' transitions reference ↔
      (∃ p, Prefetch.Reads ctx stream p) ∧ IsReference ctx transitions reference :=
  and_congr (exists_congr fun _ ↦ ⟨h.symm.reads, h.reads⟩) ⟨h.symm.isReference, h.isReference⟩

end Context.SameAnswers
end BundleLedger
