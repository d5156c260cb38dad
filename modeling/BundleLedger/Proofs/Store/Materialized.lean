import BundleLedger.Proofs.Store.View

/-!
# The reference list is the view

The transitions that count for an account are the snapshots of its base transitions in the order of events, so
bundles are ranked by their first base transition and have the state of their last one. Main statement: the
reference list of the context that the database gives is the view of the tables
(`materialized_of_isReference`).
-/

set_option autoImplicit false

namespace BundleLedger

open Result
open Database (stored inOrder creationKey)

/-! ### The transitions that count -/

section Reference

variable {db : Database} {account : Uuid} {reference : String} {bundles : List Bundle}
  {transitions : List Transition}

theorem isBase_iff (h : db.bundlesOf account = .ok bundles) (subscription : Uuid) :
    IsBase bundles subscription ↔
      ∃ b ∈ stored db.bundles, b.account = account ∧
        ∃ s ∈ stored db.subscriptions, s.bundle = b.id ∧ s.baseEntitlement = subscription := by
  have hbundles := Database.bundlesOf_eq_ok h
  constructor
  · rintro ⟨b, hb, s, hs, hbase⟩
    obtain ⟨row, hrow, hsnapshot⟩ := Pairing.exists_mem_left hbundles hb
    obtain ⟨own, hown, hs⟩ := Pairing.exists_mem_left hsnapshot.subscriptions hs
    rw [Database.mem_inOrder, List.mem_filter, decide_eq_true_eq] at hrow hown
    exact ⟨row, hrow.1, hrow.2, own, hown.1, hown.2,
      (Database.snapshot_eq_ok hs).1.symm.trans hbase⟩
  · rintro ⟨row, hrow, haccount, own, hown, hbundle, hbase⟩
    obtain ⟨b, hb, hsnapshot⟩ := Pairing.exists_mem_right hbundles
      (Database.mem_inOrder.2 (List.mem_filter.2 ⟨hrow, decide_eq_true haccount⟩))
    obtain ⟨s, hs, hread⟩ := Pairing.exists_mem_right hsnapshot.subscriptions
      (Database.mem_inOrder.2 (List.mem_filter.2 ⟨hown, decide_eq_true hbundle⟩))
    exact ⟨b, hb, s, hs, (Database.snapshot_eq_ok hread).1.trans hbase⟩

/-- The base transitions of an account in the order of events. -/
def baseEvents (db : Database) (account : Uuid) (bundles : List Bundle) : List TransitionRow :=
  (eventsOf db account).filter fun t ↦ IsBase bundles t.subscription

theorem mem_baseEvents (h : db.bundlesOf account = .ok bundles) {t : TransitionRow} :
    t ∈ baseEvents db account bundles ↔ IsBaseTransition db account t := by
  rw [baseEvents, List.mem_filter, mem_eventsOf, decide_eq_true_eq, isBase_iff h, and_assoc]
  rfl

theorem keysOf_baseEvents (h : db.bundlesOf account = .ok bundles) (id : Uuid) :
    FirstAppearance.keysOf (baseEvents db account bundles) (·.bundle) eventKey id =
      eventKeys db account id := by
  ext key
  simp only [FirstAppearance.keysOf, eventKeys, mem_baseEvents h, Set.mem_ofPred_eq]

theorem pairwise_baseEvents :
    (baseEvents db account bundles).Pairwise fun t u ↦ eventKey t ≤ eventKey u :=
  (pairwise_eventsOf db account).filter _

theorem nodup_key_baseEvents : ((baseEvents db account bundles).map eventKey).Nodup :=
  nodup_map_of_sublist _ List.filter_sublist (nodup_eventKey db account)

/-- The transitions that count are the snapshots of the base transitions. -/
theorem baseTransitions_eq_ok (h : (Source.fresh account reference).transitions db = .ok transitions) :
    List.Forall₂ (fun row t ↦ TransitionRow.snapshot row = .ok t) (baseEvents db account bundles)
      (baseTransitions bundles transitions) := by
  refine List.rel_filter (fun row t hread ↦ ?_) (transitions_eq_ok h)
  simp only [decide_eq_true_eq]
  rw [(transition_eq_ok hread).2.1]

theorem firstSeen_eq (h : (Source.fresh account reference).transitions db = .ok transitions) :
    firstSeen (baseTransitions bundles transitions) =
      ((baseEvents db account bundles).map (·.bundle)).eraseDups := by
  have hread : List.Forall₂ (fun row t ↦ TransitionRow.snapshot row = .ok t)
      (baseEvents db account bundles) (baseTransitions bundles transitions) := baseTransitions_eq_ok h
  have hbundles := Pairing.map_eq_map (hread.imp fun row t hrow ↦ (transition_eq_ok hrow).1.symm)
  rw [firstSeen, ← hbundles]

/-- The last transition of a bundle is the snapshot of its base transition with the greatest key. -/
theorem lastOf_eq (h : (Source.fresh account reference).transitions db = .ok transitions)
    (hbundles : db.bundlesOf account = .ok bundles) {id : Uuid} {t : Transition}
    (ht : lastOf (baseTransitions bundles transitions) id = some t) :
    ∃ row, TransitionRow.snapshot row = .ok t ∧ IsBaseTransition db account row ∧ row.bundle = id ∧
      IsGreatest (eventKeys db account id) (eventKey row) := by
  have hown : List.Forall₂ (fun row t ↦ TransitionRow.snapshot row = .ok t)
      ((baseEvents db account bundles).filter fun row ↦ row.bundle = id)
      ((baseTransitions bundles transitions).filter fun t ↦ t.bundle = id) := by
    refine List.rel_filter (fun row t hread ↦ ?_) (baseTransitions_eq_ok h)
    simp only [decide_eq_true_eq]
    rw [(transition_eq_ok hread).1]
  obtain ⟨row, hrow, hread⟩ := Pairing.getLast?_eq_some hown ht
  have hmem := List.mem_filter.1 (List.mem_of_getLast? hrow)
  have hgreatest := FirstAppearance.isGreatest_key_last pairwise_baseEvents hrow
  rw [keysOf_baseEvents hbundles] at hgreatest
  exact ⟨row, hread, (mem_baseEvents hbundles).1 hmem.1, of_decide_eq_true hmem.2, hgreatest⟩

/-! ### What one record holds -/

theorem eq_of_id_eq {b b' : BundleRow} (hb : b ∈ stored db.bundles) (hb' : b' ∈ stored db.bundles)
    (h : b.id = b'.id) : b = b' :=
  List.inj_on_of_nodup_map (Database.consistent_stored db.bundles).2 hb hb' h

theorem eq_of_recordId_eq {b b' : BundleRow} (hb : b ∈ stored db.bundles) (hb' : b' ∈ stored db.bundles)
    (h : b.recordId = b'.recordId) : b = b' :=
  List.inj_on_of_nodup_map (Database.consistent_stored db.bundles).1 hb hb' h

/-- An answer about the account comes from its facts. -/
theorem answer_facts {α : Type} {f : Database.AccountFacts → α} {x : α} {facts : Database.AccountFacts}
    (hfacts : (Source.fresh account reference).factsOr db = .ok facts)
    (h : Source.answer (((Source.fresh account reference).factsOr db).map f) = .ok x) : x = f facts := by
  obtain ⟨read, hread, rfl⟩ := map_eq_ok_iff.1 (mapError_eq_ok_iff.1 h)
  obtain rfl : facts = read := by simpa [hfacts] using hread
  rfl

/-- The charged period of a bundle is that of its first base subscription row. -/
theorem chargedThrough_eq {rows : List SubscriptionRow} {subscriptions : List Subscription}
    (h : List.Forall₂ (fun s subscription ↦ SubscriptionRow.snapshot s = .ok subscription) rows
      subscriptions) :
    (subscriptions.find? fun s ↦ s.lastActiveCategory = some .base).bind (·.chargedThrough) =
      (rows.find? fun s ↦ s.lastActiveCategory = some "BASE").bind (·.chargedThrough) := by
  induction h with
  | nil => rfl
  | cons hread hrest ih =>
    rename_i row subscription rows subscriptions
    obtain ⟨-, hcharged, hbase⟩ := Database.snapshot_eq_ok hread
    by_cases hlast : subscription.lastActiveCategory = some .base
    · have hrow : row.lastActiveCategory = some "BASE" := hbase.1 hlast
      rw [List.find?_cons_of_pos (by simpa using hlast), List.find?_cons_of_pos (by simpa using hrow)]
      exact hcharged
    · have hrow : ¬ row.lastActiveCategory = some "BASE" := mt hbase.2 hlast
      rw [List.find?_cons_of_neg (by simpa using hlast), List.find?_cons_of_neg (by simpa using hrow)]
      exact ih

/-- What a record says of its account comes from the facts of the account. -/
theorem accountFields_eq {bundles : List Bundle} {converter : Converter} {id : Uuid}
    {d : BundleRecord.Draft} {r : BundleRecord}
    (hd : DrawnFrom ((Source.fresh account reference).context db) bundles converter transitions id d)
    (hr : BundleRecord.OfDraft d r) :
    ∃ facts, (Source.fresh account reference).factsOr db = .ok facts ∧ r.account = facts.row.id ∧
      r.accountRecordId = facts.row.recordId ∧ r.accountExternalKey = facts.row.externalKey ∧
      r.accountName = facts.row.name ∧ r.tenantRecordId = facts.row.tenantRecordId ∧
      r.reportGroup = Database.groupOf facts.tags := by
  obtain ⟨facts, hfacts, haccount⟩ := map_eq_ok_iff.1 (mapError_eq_ok_iff.1 hd.account)
  have hrecordId := answer_facts hfacts hd.accountRecordId
  have htenant := answer_facts hfacts hd.tenantRecordId
  have hgroup := answer_facts hfacts hd.reportGroup
  rw [hr.accountRecordId, Except.ok.injEq] at hrecordId
  rw [hr.tenantRecordId, Except.ok.injEq] at htenant
  rw [hr.reportGroup, Except.ok.injEq] at hgroup
  refine ⟨facts, hfacts, ?_, hrecordId, ?_, ?_, htenant, hgroup⟩
  · rw [hr.account, ← haccount]
    rfl
  · rw [hr.accountExternalKey, ← haccount]
    rfl
  · rw [hr.accountName, ← haccount]
    rfl

/-- The newest bundle of an external key is the bundle with the greatest key within the tenant. -/
theorem latestBundle_id_eq_iff {facts : Database.AccountFacts} {b : BundleRow} {latest : Bundle}
    (hfacts : (Source.fresh account reference).factsOr db = .ok facts) (hb : b ∈ stored db.bundles)
    (h : (Source.fresh account reference).latestBundle db b.externalKey = .ok latest) :
    latest.id = b.id ↔
      b.tenantRecordId = facts.row.tenantRecordId ∧ ∀ other ∈ stored db.bundles,
        other.externalKey = b.externalKey → other.tenantRecordId = facts.row.tenantRecordId →
          creationKey other ≤ creationKey b := by
  obtain ⟨top, htop, hkey, htenant, hid, hmax⟩ := latestBundle_eq_ok hfacts h
  rw [hid]
  constructor
  · intro hsame
    obtain rfl := eq_of_id_eq htop hb hsame
    exact ⟨htenant, hmax⟩
  · rintro ⟨hbtenant, hbmax⟩
    have hle := hbmax top htop hkey htenant
    have hge := hmax b hb rfl hbtenant
    have hsame : creationKey top = creationKey b := le_antisymm hle hge
    exact congrArg BundleRow.id (eq_of_recordId_eq htop hb (congrArg (fun key ↦ (ofLex key).2) hsame))

/-- A record has the creation fields of the audit entry of its draft. -/
theorem createdAs_of_draft {d : BundleRecord.Draft} {r : BundleRecord} (hr : BundleRecord.OfDraft d r) :
    CreatedAs r (d.creation.bind (·.createdBy)) (d.creation.bind (·.reasonCode))
      (d.creation.bind (·.comments)) :=
  ⟨hr.createdBy, hr.createdReasonCode, hr.createdComments⟩

/-- A record that is drawn from the context of the database holds what the rows hold. -/
theorem viewOf_of_drawnFrom (htransitions : (Source.fresh account reference).transitions db = .ok transitions)
    (hbundles : db.bundlesOf account = .ok bundles) {converter : Converter}
    (hconverter : (Source.fresh account reference).converter db = .ok converter)
    {d : BundleRecord.Draft} {r : BundleRecord}
    (hd : DrawnFrom ((Source.fresh account reference).context db) bundles converter transitions r.bundle d)
    (hr : BundleRecord.OfDraft d r) : ∃ a b t, ViewOf db reference account a b t r := by
  obtain ⟨facts, hfacts, haccount, hrecordId, hkey, hname, htenant, hgroup⟩ := accountFields_eq hd hr
  obtain ⟨hrow, hid, htags⟩ := facts_eq_ok hfacts
  -- The bundle and its row.
  have hlisted := List.mem_filter.1 (List.mem_of_getLast? hd.bundle)
  obtain ⟨b, hb, hsnapshot⟩ := Pairing.exists_mem_left (Database.bundlesOf_eq_ok hbundles) hlisted.1
  rw [Database.mem_inOrder, List.mem_filter, decide_eq_true_eq] at hb
  have hbid : b.id = r.bundle := hsnapshot.id.symm.trans (of_decide_eq_true hlisted.2)
  obtain ⟨reading, hreading, hdraft⟩ := map_eq_ok_iff.1 (mapError_eq_ok_iff.1 hd.bundleRecordId)
  obtain ⟨b', hb', hid', rfl⟩ := bundleRecordId_eq_ok hreading
  obtain rfl := eq_of_id_eq hb.1 hb' (hbid.trans hid'.symm)
  rw [hr.bundleRecordId, Except.ok.injEq] at hdraft
  -- The last transition and its row.
  obtain ⟨t, hread, hbase, htbundle, hgreatest⟩ := lastOf_eq htransitions hbundles hd.transition
  obtain ⟨-, hsubscription, hnext, hcategory⟩ := transition_eq_ok hread
  rw [← hr.subscription] at hsubscription
  rw [← hr.current] at hnext hcategory
  -- The newest bundle of the external key, and the audit entry of the creation.
  obtain ⟨latest, hlatest, hflag⟩ := hd.isLatest
  obtain ⟨newest, hnewest, rfl⟩ := map_eq_ok_iff.1 (mapError_eq_ok_iff.1 hlatest)
  rw [hsnapshot.externalKey] at hnewest
  have hcreation := creationAudit_eq_ok hfacts (hbid ▸ hreading)
    (hbid ▸ mapError_eq_ok_iff.1 hd.creation)
  have hcreated := createdAs_of_draft hr
  refine ⟨facts.row, b, t,
    { accountRow := ⟨hrow, hid⟩, bundleRow := ⟨hb.1, hb.2, hbid⟩, transitionRow := ⟨hbase, htbundle⟩
      last := hgreatest, account := haccount.trans hid, accountRecordId := hrecordId
      accountExternalKey := hkey, accountName := hname, tenantRecordId := htenant
      reportGroup := htags ▸ hgroup, bundleRecordId := hdraft.symm
      bundleExternalKey := hr.bundleExternalKey.trans hsnapshot.externalKey
      created := hr.created.trans hsnapshot.created, latestForExternalKey := ?_
      chargedThrough := hr.chargedThrough.trans (chargedThrough_eq hsnapshot.subscriptions)
      subscription := hsubscription, current := hnext, productCategory := hcategory, convertedPrice := ?_
      convertedMrr := ?_, convertedCurrency := ?_, creation := ?_, finite := hr.finite }⟩
  · rw [hr.latestForExternalKey, hflag, ← hbid]
    exact latestBundle_id_eq_iff hfacts hb.1 hnewest
  · rw [← converter_eq_ok hconverter, hr.current, hr.convertedPrice]
    exact hd.convertedPrice
  · rw [← converter_eq_ok hconverter, hr.current, hr.convertedMrr]
    exact hd.convertedMrr
  · rw [hr.convertedCurrency, hd.convertedCurrency, converter_eq_ok hconverter]
    rfl
  · rcases hcreation with ⟨c, hc, hfirst, haudit⟩ | ⟨hnone, haudit⟩
    · rw [haudit] at hcreated
      exact .inl ⟨c, hc, hfirst, hcreated⟩
    · rw [haudit] at hcreated
      exact .inr ⟨hnone, hcreated⟩

/-! ### The whole list -/

/-- The reference list of the context that the database gives is the view of the tables. -/
theorem materialized_of_isReference
    (htransitions : (Source.fresh account reference).transitions db = .ok transitions)
    {records : List BundleRecord}
    (h : IsReference ((Source.fresh account reference).context db) transitions records) :
    Materialized db reference account records := by
  obtain ⟨bundles, converter, hbundles, hconverter, hkeys, hdrawn⟩ := h
  replace hbundles : db.bundlesOf account = .ok bundles :=
    mapError_eq_ok_iff.1 (mapError_eq_ok_iff.1 hbundles)
  replace hconverter := mapError_eq_ok_iff.1 hconverter
  rw [firstSeen_eq htransitions] at hkeys
  have hnodup : (records.map (·.bundle)).Nodup := by
    rw [hkeys]
    exact FirstAppearance.nodup_eraseDups _
  have hrank : ∀ r ∈ records, r.rank =
      (((baseEvents db account bundles).map (·.bundle)).eraseDups.idxOf r.bundle + 1 : ℕ) := by
    intro r hr
    obtain ⟨d, hd, hmade⟩ := hdrawn r hr
    rw [hmade.rank.2, hd.rank, firstSeen_eq htransitions]
  have hmem : ∀ r ∈ records, r.bundle ∈ (baseEvents db account bundles).map (·.bundle) := by
    intro r hr
    rw [← List.mem_eraseDups, ← hkeys]
    exact List.mem_map_of_mem hr
  refine ⟨?_, hnodup, fun id ↦ ?_, fun r hr r' hr' ↦ ?_, fun r hr ↦ ?_⟩
  · rw [← hkeys] at hrank
    exact FirstAppearance.map_eq_of_idxOf hnodup hrank
  · rw [hkeys, List.mem_eraseDups, List.mem_map]
    simp only [mem_baseEvents hbundles]
  · obtain ⟨key, key', hleast, hleast', hlt⟩ := FirstAppearance.idxOf_lt_iff_least
      pairwise_baseEvents nodup_key_baseEvents (hmem r hr) (hmem r' hr')
    rw [keysOf_baseEvents hbundles] at hleast hleast'
    refine ⟨key, key', hleast, hleast', ?_⟩
    rw [hrank r hr, hrank r' hr', ← hlt]
    omega
  · obtain ⟨d, hd, hmade⟩ := hdrawn r hr
    exact viewOf_of_drawnFrom htransitions hbundles hconverter hd hmade

end Reference
end BundleLedger
