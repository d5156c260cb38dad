import BundleLedger.Proofs.Store.Capacity
import BundleLedger.Proofs.Store.Materialized

/-!
# Tables that can be read

What the source tables need so that nothing fails while the records of an account are built from them
(`Database.Sound`): categories that the schema knows, base transitions of the account's own bundles, bundles of the
account's tenant, and amounts that fit their columns. Then every lookup has an answer, and every bundle with a base
transition has a record (`Database.Sound.exists_record`), so there is a reference list of the context that the
database gives (`Database.Sound.exists_reference`).
-/

set_option autoImplicit false

namespace BundleLedger

open Result
open Database (stored inOrder)

/-- Whether a stored category is missing or one that the schema knows. -/
def ProductCategory.IsKnown (category : Option String) : Prop :=
  ∀ text ∈ category, (ofText? text).isSome = true

/-- Whether the source tables exist and their rows can be read for an account. -/
structure Database.Sound (db : Database) (account : Uuid) : Prop where
  accounts : db.accounts.isSome = true
  tags : db.tags.isSome = true
  bundles : db.bundles.isSome = true
  subscriptions : db.subscriptions.isSome = true
  audits : db.audits.isSome = true
  transitions : db.transitions.isSome = true
  rates : db.rates.isSome = true
  /-- The account has a row. -/
  account_mem : ∃ a ∈ stored db.accounts, a.id = account
  /-- The categories of its transitions are known. -/
  transition_known : ∀ t ∈ stored db.transitions, t.account = account →
    ProductCategory.IsKnown t.next.productCategory
  /-- So are those of the subscriptions of its bundles, and of the bundles of its tenant with the same keys. -/
  subscription_known : ∀ a ∈ stored db.accounts, a.id = account → ∀ b ∈ stored db.bundles, b.account = account →
    ∀ other ∈ stored db.bundles,
      other = b ∨ other.externalKey = b.externalKey ∧ other.tenantRecordId = a.tenantRecordId →
      ∀ s ∈ stored db.subscriptions, s.bundle = other.id → ProductCategory.IsKnown s.lastActiveCategory
  /-- Its base transitions name bundles of its own. -/
  bundle_own : ∀ t, IsBaseTransition db account t → ∃ b ∈ stored db.bundles, b.account = account ∧ b.id = t.bundle
  /-- Its bundles are of its tenant. -/
  tenant_own : ∀ a ∈ stored db.accounts, a.id = account → ∀ b ∈ stored db.bundles, b.account = account →
    b.tenantRecordId = a.tenantRecordId
  /-- The amounts of its transitions and the rates fit their columns. -/
  price_fits : ∀ t ∈ stored db.transitions, t.account = account → ∀ x ∈ t.next.price, x.toDecimal.fits 6 = true
  mrr_fits : ∀ t ∈ stored db.transitions, t.account = account → ∀ x ∈ t.next.mrr, x.toDecimal.fits 6 = true
  rate_fits : ∀ r ∈ stored db.rates, r.rate.toDecimal.fits 10 = true

/-! ### Rows that can be read -/

theorem Result.exists_mapM {ε α β : Type} {f : α → Except ε β} {xs : List α} (h : ∀ x ∈ xs, ∃ y, f x = .ok y) :
    ∃ ys, xs.mapM f = .ok ys := by
  obtain ⟨ys, hys⟩ := Pairing.exists_partners h
  exact ⟨ys, mapM_eq_ok_iff.2 hys⟩

theorem Database.query_of_isSome {Row : Type} [Stored Row] {t : Option (Table Row)} (h : t.isSome = true) :
    query t = .ok (stored t) := by
  obtain ⟨table, rfl⟩ := Option.isSome_iff_exists.1 h
  rfl

theorem ProductCategory.exists_ofStored {category : Option String} (h : IsKnown category) (field : String) :
    ∃ known, ofStored field category = .ok known := by
  unfold ofStored
  cases category with
  | none => exact ⟨none, rfl⟩
  | some text =>
    obtain ⟨known, hknown⟩ := Option.isSome_iff_exists.1 (h text rfl)
    exact ⟨some known, by simp only [hknown]⟩

theorem Amount.exists_ofStored {amount : Option Amount} {places : ℕ}
    (h : ∀ x ∈ amount, x.toDecimal.fits places = true) (field : String) :
    ∃ d, ofStored field amount = .ok d := by
  unfold ofStored
  cases amount with
  | none => exact ⟨none, rfl⟩
  | some x => exact ⟨_, if_pos (Decimal.isFinite_of_fits (h x rfl))⟩

theorem SubscriptionRow.exists_snapshot {s : SubscriptionRow} (h : ProductCategory.IsKnown s.lastActiveCategory) :
    ∃ subscription, s.snapshot = .ok subscription := by
  obtain ⟨category, hcategory⟩ := ProductCategory.exists_ofStored h "last_active_product_category"
  exact ⟨_, bind_eq_ok_iff.2 ⟨category, hcategory, rfl⟩⟩

theorem Database.exists_bundleOf {db : Database} {b : BundleRow}
    (h : ∀ s ∈ stored db.subscriptions, s.bundle = b.id → ProductCategory.IsKnown s.lastActiveCategory) :
    ∃ bundle, bundleOf (stored db.subscriptions) b = .ok bundle := by
  have hread : ∀ s ∈ inOrder ((stored db.subscriptions).filter fun s ↦ s.bundle = b.id),
      ∃ subscription, SubscriptionRow.snapshot s = .ok subscription := by
    intro s hs
    obtain ⟨hs, hbundle⟩ := List.mem_filter.1 (mem_inOrder.1 hs)
    exact SubscriptionRow.exists_snapshot (h s hs (of_decide_eq_true hbundle))
  obtain ⟨subscriptions, hsubscriptions⟩ := Result.exists_mapM hread
  exact ⟨_, bind_eq_ok_iff.2 ⟨subscriptions, hsubscriptions, rfl⟩⟩

theorem Database.exists_newest {rs : List BundleRow} {b : BundleRow} (h : b ∈ rs) : ∃ r, newest rs = some r := by
  cases hnewest : newest rs with
  | none => exact absurd h (newest_eq_none hnewest ▸ List.not_mem_nil)
  | some r => exact ⟨r, rfl⟩

/-- An answer about the account is made from its facts. -/
theorem answer_facts_eq {db : Database} {source : Source} {facts : Database.AccountFacts}
    (h : source.factsOr db = .ok facts) {α : Type} (f : Database.AccountFacts → α) :
    Source.answer ((source.factsOr db).map f) = .ok (f facts) :=
  mapError_eq_ok_iff.2 (map_eq_ok_iff.2 ⟨facts, h, rfl⟩)

namespace Database.Sound

variable {db : Database} {account : Uuid} (reference : String)

/-! ### Answers -/

theorem exists_facts (h : db.Sound account) : ∃ facts, (Source.fresh account reference).factsOr db = .ok facts := by
  obtain ⟨a, ha, hid⟩ := h.account_mem
  have hfound : ((stored db.accounts).find? fun r ↦ r.id = account).isSome = true :=
    List.find?_isSome.2 ⟨a, ha, decide_eq_true hid⟩
  obtain ⟨row, hrow⟩ := Option.isSome_iff_exists.1 hfound
  have hread : (Source.fresh account reference).load .account (db.accountRow? account) = .ok (some row) :=
    mapError_eq_ok_iff.2 (bind_eq_ok_iff.2 ⟨_, query_of_isSome h.accounts, pure_eq_ok_iff.2 hrow⟩)
  have htags : ∃ tags, (Source.fresh account reference).load .account (db.tagsOf account) = .ok tags :=
    ⟨_, mapError_eq_ok_iff.2 (bind_eq_ok_iff.2 ⟨_, query_of_isSome h.tags, rfl⟩)⟩
  obtain ⟨tags, htags⟩ := htags
  exact ⟨⟨row, tags⟩, bind_eq_ok_iff.2 ⟨some row, hread, bind_eq_ok_iff.2 ⟨tags, htags, rfl⟩⟩⟩

theorem exists_transitions (h : db.Sound account) :
    ∃ transitions, (Source.fresh account reference).transitions db = .ok transitions := by
  have hread : ∀ t ∈ eventsOf db account, ∃ event, TransitionRow.snapshot t = .ok event := by
    intro t ht
    obtain ⟨ht, haccount⟩ := mem_eventsOf.1 ht
    obtain ⟨category, hcategory⟩ := ProductCategory.exists_ofStored (h.transition_known t ht haccount)
      "next_product_category"
    obtain ⟨price, hprice⟩ := Amount.exists_ofStored (h.price_fits t ht haccount) "next_price"
    obtain ⟨mrr, hmrr⟩ := Amount.exists_ofStored (h.mrr_fits t ht haccount) "next_mrr"
    exact ⟨_, bind_eq_ok_iff.2 ⟨category, hcategory, bind_eq_ok_iff.2 ⟨price, hprice,
      bind_eq_ok_iff.2 ⟨mrr, hmrr, rfl⟩⟩⟩⟩
  obtain ⟨transitions, htransitions⟩ := Result.exists_mapM hread
  exact ⟨transitions, mapError_eq_ok_iff.2
    (bind_eq_ok_iff.2 ⟨_, query_of_isSome h.transitions, htransitions⟩)⟩

theorem exists_bundles (h : db.Sound account) : ∃ bundles, db.bundlesOf account = .ok bundles := by
  obtain ⟨a, ha, hid⟩ := h.account_mem
  have hread : ∀ b ∈ inOrder ((stored db.bundles).filter fun b ↦ b.account = account),
      ∃ bundle, bundleOf (stored db.subscriptions) b = .ok bundle := by
    intro b hb
    obtain ⟨hb, haccount⟩ := List.mem_filter.1 (mem_inOrder.1 hb)
    exact exists_bundleOf (h.subscription_known a ha hid b hb (of_decide_eq_true haccount) b hb (.inl rfl))
  obtain ⟨bundles, hbundles⟩ := Result.exists_mapM hread
  have hrows : db.bundleRowsOf account = .ok (inOrder ((stored db.bundles).filter fun b ↦ b.account = account)) :=
    bind_eq_ok_iff.2 ⟨_, query_of_isSome h.bundles, rfl⟩
  refine ⟨bundles, bind_eq_ok_iff.2 ⟨_, hrows, ?_⟩⟩
  split
  · rename_i hnil
    rw [hnil] at hbundles
    exact hbundles
  · exact bind_eq_ok_iff.2 ⟨_, query_of_isSome h.subscriptions, hbundles⟩

/-- The rates fit their column, so the converter turns every amount that fits its own into a number. -/
theorem exists_converter (h : db.Sound account) :
    ∃ converter, (Source.fresh account reference).converter db = .ok converter ∧
      ∀ r ∈ converter.rates, r.rate.fits 10 = true := by
  have hread : (Source.fresh account reference).converter db = .ok (Converter.of reference
      ((inOrder ((stored db.rates).filter fun r ↦ r.reference = reference)).map RateRow.snapshot)) :=
    map_eq_ok_iff.2 ⟨_, mapError_eq_ok_iff.2 (bind_eq_ok_iff.2 ⟨_, query_of_isSome h.rates, rfl⟩), rfl⟩
  refine ⟨_, hread, fun r hr ↦ ?_⟩
  obtain ⟨row, hrow, rfl⟩ := List.mem_map.1 hr
  exact h.rate_fits row (List.mem_filter.1 (mem_inOrder.1 hrow)).1

theorem bundleRecordId_eq (h : db.Sound account) {b : BundleRow} (hb : b ∈ stored db.bundles) :
    (Source.fresh account reference).bundleRecordId db b.id = .ok b.recordId := by
  have hread : db.bundleRecordId? b.id = .ok (some b.recordId) :=
    bind_eq_ok_iff.2 ⟨_, query_of_isSome h.bundles, pure_eq_ok_iff.2 (congrArg _ (find?_bundle hb))⟩
  exact bind_eq_ok_iff.2 ⟨_, mapError_eq_ok_iff.2 hread, rfl⟩

theorem exists_creationAudit (h : db.Sound account) {b : BundleRow} (hb : b ∈ stored db.bundles) :
    ∃ creation, (Source.fresh account reference).creationAudit db b.id = .ok creation := by
  obtain ⟨facts, hfacts⟩ := h.exists_facts reference
  have hread : ∃ creations, (Source.fresh account reference).creationsOr db = .ok creations :=
    ⟨_, bind_eq_ok_iff.2 ⟨facts, hfacts, mapError_eq_ok_iff.2
      (bind_eq_ok_iff.2 ⟨_, query_of_isSome h.audits, rfl⟩)⟩⟩
  obtain ⟨creations, hcreations⟩ := hread
  exact ⟨_, bind_eq_ok_iff.2 ⟨creations, hcreations, bind_eq_ok_iff.2 ⟨_, h.bundleRecordId_eq reference hb, rfl⟩⟩⟩

/-- A bundle of the account is one of those that the newest of its key is chosen from. -/
theorem exists_latestBundle (h : db.Sound account) {b : BundleRow} (hb : b ∈ stored db.bundles)
    (haccount : b.account = account) :
    ∃ latest, (Source.fresh account reference).latestBundle db b.externalKey = .ok latest := by
  obtain ⟨facts, hfacts⟩ := h.exists_facts reference
  obtain ⟨hrow, hid, -⟩ := facts_eq_ok hfacts
  have htenant := h.tenant_own facts.row hrow hid b hb haccount
  have hmem : b ∈ (stored db.bundles).filter fun r ↦
      r.externalKey = b.externalKey && r.tenantRecordId = facts.row.tenantRecordId :=
    List.mem_filter.2 ⟨hb, by simp [htenant]⟩
  obtain ⟨top, htop⟩ := exists_newest hmem
  obtain ⟨htopmem, htopkey⟩ := List.mem_filter.1 (newest_eq_some htop).1
  rw [Bool.and_eq_true, decide_eq_true_eq, decide_eq_true_eq] at htopkey
  obtain ⟨latest, hlatest⟩ := exists_bundleOf
    (h.subscription_known facts.row hrow hid b hb haccount top htopmem (.inr htopkey))
  have hread : db.latestBundle? facts.row.tenantRecordId b.externalKey = .ok (some latest) := by
    refine bind_eq_ok_iff.2 ⟨_, query_of_isSome h.bundles, ?_⟩
    dsimp only
    rw [htop]
    exact bind_eq_ok_iff.2 ⟨_, query_of_isSome h.subscriptions, congrArg (Except.map some) hlatest⟩
  exact ⟨latest, bind_eq_ok_iff.2 ⟨facts, hfacts, bind_eq_ok_iff.2 ⟨_, mapError_eq_ok_iff.2 hread, rfl⟩⟩⟩

/-! ### The reference list -/

variable {reference} {transitions : List Transition} {bundles : List Bundle} {converter : Converter}

theorem exists_reads (h : db.Sound account) :
    ∃ p, Prefetch.Reads ((Source.fresh account reference).context db) (.ofList transitions) p := by
  obtain ⟨facts, hfacts⟩ := h.exists_facts reference
  obtain ⟨bundles, hbundles⟩ := h.exists_bundles
  obtain ⟨converter, hconverter, -⟩ := h.exists_converter reference
  exact ⟨⟨facts.row.snapshot, .ok facts.row.recordId, .ok facts.row.tenantRecordId, .ok (groupOf facts.tags),
      converter, bundles⟩,
    { account := answer_facts_eq hfacts _, accountRecordId := answer_facts_eq hfacts _
      tenantRecordId := answer_facts_eq hfacts _, reportGroup := answer_facts_eq hfacts _
      converter := mapError_eq_ok_iff.2 hconverter
      bundles := mapError_eq_ok_iff.2 (mapError_eq_ok_iff.2 hbundles), stream := rfl }⟩

/-- The bundle of a base transition is listed, as the snapshot of its own row. -/
theorem exists_listed (h : db.Sound account) (hbundles : db.bundlesOf account = .ok bundles) {t : TransitionRow}
    (ht : IsBaseTransition db account t) :
    ∃ b ∈ stored db.bundles, b.account = account ∧ b.id = t.bundle ∧ ∃ bundle, IsSnapshot db b bundle ∧
      (bundles.filter fun b ↦ b.id = t.bundle).getLast? = some bundle := by
  obtain ⟨b, hb, haccount, hid⟩ := h.bundle_own t ht
  have hlisted := Database.bundlesOf_eq_ok hbundles
  obtain ⟨own, hown, hsnapshot⟩ := Pairing.exists_mem_right hlisted
    (mem_inOrder.2 (List.mem_filter.2 ⟨hb, decide_eq_true haccount⟩))
  have hmem : own ∈ bundles.filter fun b ↦ b.id = t.bundle :=
    List.mem_filter.2 ⟨hown, decide_eq_true (hsnapshot.id.trans hid)⟩
  cases hlast : (bundles.filter fun b ↦ b.id = t.bundle).getLast? with
  | none => exact absurd hmem (List.getLast?_eq_none_iff.1 hlast ▸ List.not_mem_nil)
  | some bundle =>
    obtain ⟨hbundle, hbundleId⟩ := List.mem_filter.1 (List.mem_of_getLast? hlast)
    obtain ⟨row, hrow, hread⟩ := Pairing.exists_mem_left hlisted hbundle
    have hsame : row.id = b.id := hread.id.symm.trans ((of_decide_eq_true hbundleId).trans hid.symm)
    obtain rfl := eq_of_id_eq (List.mem_filter.1 (mem_inOrder.1 hrow)).1 hb hsame
    exact ⟨row, hb, haccount, hid, bundle, hread, rfl⟩

/-- Every bundle with a base transition has a record. -/
theorem exists_record (h : db.Sound account)
    (htransitions : (Source.fresh account reference).transitions db = .ok transitions)
    (hbundles : db.bundlesOf account = .ok bundles)
    (hconverter : ∀ r ∈ converter.rates, r.rate.fits 10 = true) {id : Uuid}
    (hid : id ∈ firstSeen (baseTransitions bundles transitions)) :
    ∃ r : BundleRecord, id = r.bundle ∧ ∃ d,
      DrawnFrom ((Source.fresh account reference).context db) bundles converter transitions id d ∧
        BundleRecord.OfDraft d r := by
  obtain ⟨facts, hfacts⟩ := h.exists_facts reference
  obtain ⟨event, hevent⟩ := exists_lastOf hid
  obtain ⟨row, hread, hbase, rfl, -⟩ := lastOf_eq htransitions hbundles hevent
  obtain ⟨b, hb, haccount, hbid, bundle, hsnapshot, hlast⟩ := h.exists_listed hbundles hbase
  obtain ⟨latest, hlatest⟩ := h.exists_latestBundle reference hb haccount
  obtain ⟨creation, hcreation⟩ := h.exists_creationAudit reference hb
  -- The amounts fit their columns, so they are numbers and can be converted.
  obtain ⟨-, -, hnext, -⟩ := transition_eq_ok hread
  have hprice : ∀ x ∈ event.next.price, x.fits 6 = true := by
    rw [hnext]
    exact Option.forall_mem_map.2 (h.price_fits row hbase.1 hbase.2.1)
  have hmrr : ∀ x ∈ event.next.mrr, x.fits 6 = true := by
    rw [hnext]
    exact Option.forall_mem_map.2 (h.mrr_fits row hbase.1 hbase.2.1)
  obtain ⟨convertedPrice, hconvertedPrice, hfinitePrice⟩ :=
    Converter.exists_convert hconverter hprice event.next.currency event.next.start
  obtain ⟨convertedMrr, hconvertedMrr, hfiniteMrr⟩ :=
    Converter.exists_convert hconverter hmrr event.next.currency event.next.start
  let d : BundleRecord.Draft :=
    { account := facts.row.snapshot, accountRecordId := .ok facts.row.recordId, bundle
      bundleRecordId := .ok b.recordId, transition := event
      rank := (firstSeen (baseTransitions bundles transitions)).idxOf row.bundle + 1
      isLatest := latest.id = row.bundle, convertedPrice, convertedMrr
      convertedCurrency := converter.reference, creation, tenantRecordId := .ok facts.row.tenantRecordId
      reportGroup := .ok (groupOf facts.tags) }
  have hfinite : ∀ amount ∈ [d.transition.next.price, d.convertedPrice, d.transition.next.mrr, d.convertedMrr],
      ∀ x ∈ amount, x.isFinite = true := by
    simp only [List.forall_mem_cons]
    exact ⟨fun x hx ↦ Decimal.isFinite_of_fits (hprice x hx), hfinitePrice,
      fun x hx ↦ Decimal.isFinite_of_fits (hmrr x hx), hfiniteMrr, List.forall_mem_nil _⟩
  obtain ⟨r, hr⟩ := BundleRecord.exists_ofDraft (d := d) rfl rfl rfl rfl (Nat.succ_pos _) hfinite
  refine ⟨r, ?_, d, ?_, hr⟩
  · rw [hr.bundle, ← hbid]
    exact hsnapshot.id.symm
  · exact
      { account := answer_facts_eq hfacts _, accountRecordId := answer_facts_eq hfacts _
        tenantRecordId := answer_facts_eq hfacts _, reportGroup := answer_facts_eq hfacts _
        bundle := hlast
        bundleRecordId := mapError_eq_ok_iff.2 (map_eq_ok_iff.2 ⟨_, hbid ▸ h.bundleRecordId_eq reference hb, rfl⟩)
        transition := hevent, rank := rfl
        isLatest := ⟨latest.id, mapError_eq_ok_iff.2 (map_eq_ok_iff.2
          ⟨latest, hsnapshot.externalKey ▸ hlatest, rfl⟩), decide_eq_true_iff⟩
        convertedPrice := hconvertedPrice, convertedMrr := hconvertedMrr, convertedCurrency := rfl
        creation := mapError_eq_ok_iff.2 (hbid ▸ hcreation) }

/-- The context that the database gives has a reference list. -/
theorem exists_reference (h : db.Sound account)
    (htransitions : (Source.fresh account reference).transitions db = .ok transitions) :
    ∃ records, IsReference ((Source.fresh account reference).context db) transitions records := by
  obtain ⟨bundles, hbundles⟩ := h.exists_bundles
  obtain ⟨converter, hconverter, hrates⟩ := h.exists_converter reference
  obtain ⟨records, hrecords⟩ := Pairing.exists_partners fun id hid ↦
    h.exists_record htransitions hbundles hrates hid
  refine ⟨records, bundles, converter, mapError_eq_ok_iff.2 (mapError_eq_ok_iff.2 hbundles),
    mapError_eq_ok_iff.2 hconverter, ?_, fun r hr ↦ ?_⟩
  · have hmap := Pairing.map_eq_map (f := fun id : Uuid ↦ id) (hrecords.imp fun _ _ h ↦ h.1)
    rw [← hmap, List.map_id']
  · obtain ⟨id, -, rfl, hdrawn⟩ := Pairing.exists_mem_left hrecords hr
    exact hdrawn

end Database.Sound
end BundleLedger
