import BundleLedger.Proofs.Bundle.Reference

/-!
# Records under other currency codes

Transitions are compared that differ in nothing but their currency codes, under converters that give the same values
for the amounts of each of them (`Transition.Recodes`). The currency code of a transition goes into the current plan
of a record and into the conversions, and nowhere else. So where there is a reference list for the one series, there
is one for the other, and its records differ in nothing but the currency codes of their plans
(`IsReference.recoded`).
-/

set_option autoImplicit false

namespace BundleLedger

/-- A transition with another currency code. -/
def Transition.recoded (t : Transition) (code : Option String) : Transition :=
  { t with next := { t.next with currency := code } }

/-- A record with another currency code of its plan. -/
def BundleRecord.recoded (r : BundleRecord) (code : Option String) : BundleRecord :=
  { r with current := { r.current with currency := code } }

section Recodes

variable (S : Option String → Option String → Prop)

/-- Whether a transition is another one with a related currency code, and its amounts are worth the same by another
converter. -/
structure Transition.Recodes (c c' : Converter) (t t' : Transition) : Prop where
  eq : t' = t.recoded t'.next.currency
  code : S t.next.currency t'.next.currency
  price : c'.convert t.next.price t'.next.currency t.next.start =
    c.convert t.next.price t.next.currency t.next.start
  mrr : c'.convert t.next.mrr t'.next.currency t.next.start = c.convert t.next.mrr t.next.currency t.next.start

/-- Whether a record is another one with a related currency code of its plan. -/
structure BundleRecord.Recodes (r r' : BundleRecord) : Prop where
  eq : r' = r.recoded r'.current.currency
  code : S r.current.currency r'.current.currency

end Recodes

variable {S : Option String → Option String → Prop} {c c' : Converter} {ts ts' : List Transition}

theorem Transition.Recodes.bundle {t t' : Transition} (h : t.Recodes S c c' t') : t.bundle = t'.bundle := by
  rw [h.eq]
  rfl

theorem Transition.Recodes.subscription {t t' : Transition} (h : t.Recodes S c c' t') :
    t.subscription = t'.subscription := by
  rw [h.eq]
  rfl

theorem recodes_baseTransitions (h : List.Forall₂ (Transition.Recodes S c c') ts ts') (bundles : List Bundle) :
    List.Forall₂ (Transition.Recodes S c c') (baseTransitions bundles ts) (baseTransitions bundles ts') := by
  refine List.rel_filter (fun t t' hrecodes ↦ ?_) h
  dsimp only
  rw [hrecodes.subscription]

/-- Bundles appear in the same order. -/
theorem firstSeen_of_recodes (h : List.Forall₂ (Transition.Recodes S c c') ts ts') : firstSeen ts' = firstSeen ts := by
  unfold firstSeen
  rw [Pairing.map_eq_map (h.imp fun _ _ hrecodes ↦ hrecodes.bundle)]

theorem exists_lastOf_of_recodes (h : List.Forall₂ (Transition.Recodes S c c') ts ts') {id : Uuid} {t : Transition}
    (hlast : lastOf ts id = some t) : ∃ t', lastOf ts' id = some t' ∧ t.Recodes S c c' t' := by
  have hown : List.Forall₂ (Transition.Recodes S c c') (ts.filter fun t ↦ t.bundle = id)
      (ts'.filter fun t ↦ t.bundle = id) := by
    refine List.rel_filter (fun t t' hrecodes ↦ ?_) h
    dsimp only
    rw [hrecodes.bundle]
  exact Pairing.getLast?_eq_some hown.flip hlast

theorem BundleRecord.OfDraft.recoded {d : BundleRecord.Draft} {r : BundleRecord} (h : BundleRecord.OfDraft d r)
    {t' : Transition} (ht' : d.transition.Recodes S c c' t') :
    BundleRecord.OfDraft { d with transition := t' } (r.recoded t'.next.currency) where
  accountRecordId := h.accountRecordId
  bundleRecordId := h.bundleRecordId
  tenantRecordId := h.tenantRecordId
  reportGroup := h.reportGroup
  rank := h.rank
  account := h.account
  accountExternalKey := h.accountExternalKey
  accountName := h.accountName
  bundle := h.bundle
  bundleExternalKey := h.bundleExternalKey
  created := h.created
  chargedThrough := h.chargedThrough
  subscription := h.subscription.trans ht'.subscription
  current := by
    rw [ht'.eq]
    exact congrArg (fun state ↦ { state with currency := t'.next.currency }) h.current
  latestForExternalKey := h.latestForExternalKey
  convertedPrice := h.convertedPrice
  convertedMrr := h.convertedMrr
  convertedCurrency := h.convertedCurrency
  createdBy := h.createdBy
  createdReasonCode := h.createdReasonCode
  createdComments := h.createdComments
  finite := h.finite

/-- A draft is drawn with the other currency code of its transition. -/
theorem DrawnFrom.recoded {ctx : Context} {bundles : List Bundle} {id : Uuid} {d : BundleRecord.Draft}
    (h : DrawnFrom ctx bundles c ts id d) (hts : List.Forall₂ (Transition.Recodes S c c') ts ts')
    (hreference : c'.reference = c.reference) : ∃ t', d.transition.Recodes S c c' t' ∧
      DrawnFrom { ctx with converter := .ok c' } bundles c' ts' id { d with transition := t' } := by
  have hbase := recodes_baseTransitions hts bundles
  obtain ⟨t', hlast, ht'⟩ := exists_lastOf_of_recodes hbase h.transition
  have hnext : t'.next = { d.transition.next with currency := t'.next.currency } :=
    congrArg Transition.next ht'.eq
  refine ⟨t', ht',
    { account := h.account, accountRecordId := h.accountRecordId, tenantRecordId := h.tenantRecordId
      reportGroup := h.reportGroup, bundle := h.bundle, bundleRecordId := h.bundleRecordId, transition := hlast
      rank := ?_, isLatest := h.isLatest, convertedPrice := ?_, convertedMrr := ?_
      convertedCurrency := h.convertedCurrency.trans hreference.symm, creation := h.creation }⟩
  · rw [firstSeen_of_recodes hbase]
    exact h.rank
  · rw [hnext]
    exact ht'.price.trans h.convertedPrice
  · rw [hnext]
    exact ht'.mrr.trans h.convertedMrr

/-- There is a reference list for the other series, and its records differ in their currency codes only. -/
theorem IsReference.recoded {ctx : Context} {reference : List BundleRecord} (h : IsReference ctx ts reference)
    (hconverter : ctx.converter = .ok c) (hts : List.Forall₂ (Transition.Recodes S c c') ts ts')
    (hreference : c'.reference = c.reference) : ∃ reference',
      IsReference { ctx with converter := .ok c' } ts' reference' ∧
        List.Forall₂ (BundleRecord.Recodes S) reference reference' := by
  obtain ⟨bundles, converter, hbundles, hctx, hkeys, hdrawn⟩ := h
  obtain rfl : converter = c := Except.ok.inj (hctx.symm.trans hconverter)
  have hmade : ∀ r ∈ reference, ∃ r', BundleRecord.Recodes S r r' ∧
      ∃ d, DrawnFrom { ctx with converter := .ok c' } bundles c' ts' r'.bundle d ∧ BundleRecord.OfDraft d r' := by
    intro r hr
    obtain ⟨d, hd, hdraft⟩ := hdrawn r hr
    obtain ⟨t', ht', hd'⟩ := hd.recoded hts hreference
    refine ⟨r.recoded t'.next.currency, ⟨rfl, ?_⟩, _, hd', hdraft.recoded ht'⟩
    rw [hdraft.current]
    exact ht'.code
  obtain ⟨reference', hpairs⟩ := Pairing.exists_partners hmade
  refine ⟨reference', ⟨bundles, c', hbundles, rfl, ?_, fun r' hr' ↦ ?_⟩, hpairs.imp fun _ _ hpair ↦ hpair.1⟩
  · rw [firstSeen_of_recodes (recodes_baseTransitions hts bundles), ← hkeys]
    refine (Pairing.map_eq_map (hpairs.imp fun r r' hpair ↦ ?_)).symm
    rw [hpair.1.eq]
    rfl
  · obtain ⟨r, -, -, hd⟩ := Pairing.exists_mem_left hpairs hr'
    exact hd

end BundleLedger
