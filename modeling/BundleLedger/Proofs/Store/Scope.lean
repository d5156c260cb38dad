import BundleLedger.Proofs.Bundle.Complete
import BundleLedger.Proofs.Store.View

/-!
# What a refresh of an account can see

The rows that a refresh of an account can see are the row of the account and its tags, the bundles of the account
and of its tenant with their subscriptions, the transitions of the account, the audit entries under its record
number, and the rates. Two databases agree for the account when these rows are the same in both
(`Database.AgreeFor`). Then the queries of a refresh find the same, but for the order of tags and for bundles that
are not listed, so the answers of its source are the same as far as records are drawn from them
(`Database.AgreeFor.sameAnswers`).
-/

set_option autoImplicit false

namespace BundleLedger

open Result
open Database (stored inOrder query creationKey)

/-! ### Tables with the same rows of a kind -/

/-- Whether two tables have the same rows of which a condition holds; if one of them is dropped, then both. -/
structure SameRows {Row : Type} [Stored Row] (p : Row → Prop) (t t' : Option (Table Row)) : Prop where
  dropped : t'.isSome = t.isSome
  rows : ∀ r, p r → (r ∈ stored t' ↔ r ∈ stored t)

namespace SameRows

variable {Row : Type} [Stored Row] {p : Row → Prop} {q : Row → Bool} {t t' : Option (Table Row)}

/-- A query fails on both tables, or it reads the rows of each. -/
theorem query_cases (h : SameRows p t t') :
    (∃ e, query t = .error e ∧ query t' = .error e) ∨ query t = .ok (stored t) ∧ query t' = .ok (stored t') := by
  have hdropped := h.dropped
  cases t with
  | none =>
    cases t' with
    | none => exact .inl ⟨_, rfl, rfl⟩
    | some rows' => simp at hdropped
  | some rows =>
    cases t' with
    | none => simp at hdropped
    | some rows' => exact .inr ⟨rfl, rfl⟩

/-- What follows a query is the same if it is the same for the rows of each table. -/
theorem bind_query_eq {β : Type} (h : SameRows p t t') {f f' : List Row → Except Cause β}
    (hf : f' (stored t') = f (stored t)) : (query t' >>= f') = (query t >>= f) := by
  rcases h.query_cases with ⟨e, hquery, hquery'⟩ | ⟨hquery, hquery'⟩
  · rw [hquery, hquery']
    rfl
  · rw [hquery, hquery']
    exact hf

/-- Rows of which the condition does not hold may be added. -/
theorem of_added (others : List Row) (hdropped : t'.isSome = t.isSome) (hrows : stored t' = others ++ stored t)
    (hothers : ∀ r ∈ others, ¬p r) : SameRows p t t' where
  dropped := hdropped
  rows r hr := by
    rw [hrows, List.mem_append, or_iff_right fun hother ↦ hothers r hother hr]

theorem mem_filter_iff (h : SameRows p t t') (hq : ∀ r, q r = true → p r) {r : Row} :
    r ∈ (stored t').filter q ↔ r ∈ (stored t).filter q := by
  rw [List.mem_filter, List.mem_filter]
  exact and_congr_left fun hr ↦ h.rows r (hq r hr)

theorem filter_perm (h : SameRows p t t') (hq : ∀ r, q r = true → p r)
    (hnodup : ((stored t).map Stored.recordId).Nodup) (hnodup' : ((stored t').map Stored.recordId).Nodup) :
    ((stored t').filter q).Perm ((stored t).filter q) :=
  (List.perm_ext_iff_of_nodup (hnodup'.of_map.filter q) (hnodup.of_map.filter q)).2 fun _ ↦ h.mem_filter_iff hq

theorem inOrder_filter_eq (h : SameRows p t t') (hq : ∀ r, q r = true → p r)
    (hnodup : ((stored t).map Stored.recordId).Nodup) (hnodup' : ((stored t').map Stored.recordId).Nodup) :
    inOrder ((stored t').filter q) = inOrder ((stored t).filter q) :=
  Database.inOrder_eq_of_perm (h.filter_perm hq hnodup hnodup')
    (nodup_map_of_sublist _ List.filter_sublist hnodup)

end SameRows

namespace Database

/-- The newest of some bundles does not depend on how they are arranged. -/
theorem newest_eq_of_perm {rs rs' : List BundleRow} (h : rs'.Perm rs) (hnodup : (rs.map (·.recordId)).Nodup) :
    newest rs' = newest rs := by
  cases hnewest : newest rs with
  | none =>
    obtain rfl := newest_eq_none hnewest
    rw [h.eq_nil]
    rfl
  | some r =>
    obtain ⟨hr, hgreatest⟩ := newest_eq_some hnewest
    cases hnewest' : newest rs' with
    | none =>
      obtain rfl := newest_eq_none hnewest'
      rw [h.symm.eq_nil] at hr
      exact absurd hr List.not_mem_nil
    | some r' =>
      obtain ⟨hr', hgreatest'⟩ := newest_eq_some hnewest'
      have hmem := h.mem_iff.1 hr'
      have hkey : creationKey r' = creationKey r :=
        le_antisymm (hgreatest r' hmem) (hgreatest' r (h.mem_iff.2 hr))
      rw [List.inj_on_of_nodup_map hnodup hmem hr (congrArg (fun key ↦ (ofLex key).2) hkey)]

/-! ### Databases that agree for an account -/

/-- Whether a bundle is of an account or of the tenant of the account. -/
def InSight (db : Database) (account : Uuid) (r : BundleRow) : Prop :=
  r.account = account ∨ ∃ a ∈ stored db.accounts, a.id = account ∧ r.tenantRecordId = a.tenantRecordId

instance (db : Database) (account : Uuid) : DecidablePred (db.InSight account) := fun r ↦
  inferInstanceAs (Decidable (r.account = account ∨
    ∃ a ∈ stored db.accounts, a.id = account ∧ r.tenantRecordId = a.tenantRecordId))

/-- Whether two databases have the same rows that a refresh of an account can see. Every other row of the source
tables may differ, and so may all stored records. -/
structure AgreeFor (account : Uuid) (db db' : Database) : Prop where
  accounts : SameRows (fun r ↦ r.id = account) db.accounts db'.accounts
  tags : SameRows (fun r ↦ r.account = account) db.tags db'.tags
  bundles : SameRows (db.InSight account) db.bundles db'.bundles
  subscriptions : SameRows (fun r ↦ ∃ b ∈ stored db.bundles, db.InSight account b ∧ r.bundle = b.id)
    db.subscriptions db'.subscriptions
  transitions : SameRows (fun r ↦ r.account = account) db.transitions db'.transitions
  audits : SameRows (fun r ↦ ∃ a ∈ stored db.accounts, a.id = account ∧ r.accountRecordId = a.recordId)
    db.audits db'.audits
  rates : SameRows (fun _ ↦ True) db.rates db'.rates
  entries : db'.entries.isSome = db.entries.isSome

namespace AgreeFor

variable {account : Uuid} {db db' : Database} {reference : String}

/-! ### What queries find -/

theorem accountRow?_eq (h : AgreeFor account db db') : db'.accountRow? account = db.accountRow? account := by
  refine h.accounts.bind_query_eq (congrArg pure ?_)
  cases hfind : (stored db.accounts).find? fun r ↦ r.id = account with
  | none =>
    refine List.find?_eq_none.2 fun r hr hid ↦ List.find?_eq_none.1 hfind r ?_ hid
    exact (h.accounts.rows r (of_decide_eq_true hid)).1 hr
  | some a =>
    have hid := List.find?_some hfind
    have ha := (h.accounts.rows a (of_decide_eq_true hid)).2 (List.mem_of_find?_eq_some hfind)
    refine find?_eq_some_of_unique ha hid fun s hs hsid ↦ ?_
    exact List.inj_on_of_nodup_map (consistent_stored db'.accounts).2 hs ha
      ((of_decide_eq_true hsid).trans (of_decide_eq_true hid).symm)

theorem ratesInto_eq (h : AgreeFor account db db') : db'.ratesInto reference = db.ratesInto reference := by
  refine h.rates.bind_query_eq (congrArg (fun rs : List RateRow ↦ pure (rs.map RateRow.snapshot)) ?_)
  exact h.rates.inOrder_filter_eq (fun _ _ ↦ trivial) (consistent_stored db.rates) (consistent_stored db'.rates)

theorem eventsOf_eq (h : AgreeFor account db db') : eventsOf db' account = eventsOf db account := by
  have hperm := h.transitions.filter_perm (q := fun t ↦ decide (t.account = account))
    (fun _ hown ↦ of_decide_eq_true hown) (consistent_stored db.transitions) (consistent_stored db'.transitions)
  refine Sorting.eq_of_perm (((List.mergeSort_perm _ _).trans hperm).trans (List.mergeSort_perm _ _).symm)
    (pairwise_eventsOf db' account) ?_
  exact (pairwise_eventsOf db account).imp₂ (fun _ _ hle hne ↦ lt_of_le_of_ne hle hne)
    (List.pairwise_map.1 (nodup_eventKey db account))

theorem transitionsOf_eq (h : AgreeFor account db db') : db'.transitionsOf account = db.transitionsOf account :=
  h.transitions.bind_query_eq (congrArg (fun rs : List TransitionRow ↦ rs.mapM TransitionRow.snapshot) h.eventsOf_eq)

theorem creationsOf_eq (h : AgreeFor account db db') {a : AccountRow} (ha : a ∈ stored db.accounts)
    (hid : a.id = account) : db'.creationsOf a.recordId = db.creationsOf a.recordId := by
  refine h.audits.bind_query_eq
    (congrArg (fun rs : List AuditRow ↦ pure (rs.map fun r ↦ (r.targetRecordId, r.snapshot))) ?_)
  refine h.audits.inOrder_filter_eq (fun c hc ↦ ⟨a, ha, hid, ?_⟩) (consistent_stored db.audits)
    (consistent_stored db'.audits)
  rw [Bool.and_eq_true] at hc
  exact of_decide_eq_true hc.1

/-- The subscriptions of a bundle in sight are the same, so its snapshots are. -/
theorem bundleOf_eq (h : AgreeFor account db db') {b : BundleRow} (hb : b ∈ stored db.bundles)
    (hsight : db.InSight account b) :
    bundleOf (stored db'.subscriptions) b = bundleOf (stored db.subscriptions) b := by
  unfold bundleOf
  rw [h.subscriptions.inOrder_filter_eq (fun s hs ↦ ⟨b, hb, hsight, of_decide_eq_true hs⟩)
    (consistent_stored db.subscriptions).1 (consistent_stored db'.subscriptions).1]

theorem bundlesOf_eq (h : AgreeFor account db db') : db'.bundlesOf account = db.bundlesOf account := by
  have hrows : inOrder ((stored db'.bundles).filter fun r ↦ r.account = account) =
      inOrder ((stored db.bundles).filter fun r ↦ r.account = account) :=
    h.bundles.inOrder_filter_eq (fun _ hr ↦ .inl (of_decide_eq_true hr)) (consistent_stored db.bundles).1
      (consistent_stored db'.bundles).1
  have hown : ∀ b ∈ inOrder ((stored db.bundles).filter fun r ↦ r.account = account),
      b ∈ stored db.bundles ∧ b.account = account := by
    intro b hb
    rw [mem_inOrder, List.mem_filter, decide_eq_true_eq] at hb
    exact hb
  unfold bundlesOf bundleRowsOf
  simp only [bind_assoc, pure_bind]
  refine h.bundles.bind_query_eq ?_
  rw [hrows]
  split
  · rfl
  · refine h.subscriptions.bind_query_eq (mapM_congr fun b hb ↦ ?_)
    exact h.bundleOf_eq (hown b hb).1 (.inl (hown b hb).2)

theorem latestBundle?_eq (h : AgreeFor account db db') {a : AccountRow} (ha : a ∈ stored db.accounts)
    (hid : a.id = account) (key : String) :
    db'.latestBundle? a.tenantRecordId key = db.latestBundle? a.tenantRecordId key := by
  have hsight : ∀ b : BundleRow, (decide (b.externalKey = key) && decide (b.tenantRecordId = a.tenantRecordId)) =
      true → db.InSight account b := by
    intro b hb
    rw [Bool.and_eq_true] at hb
    exact .inr ⟨a, ha, hid, of_decide_eq_true hb.2⟩
  have hnewest := newest_eq_of_perm (h.bundles.filter_perm hsight (consistent_stored db.bundles).1
    (consistent_stored db'.bundles).1) (nodup_map_of_sublist _ List.filter_sublist (consistent_stored db.bundles).1)
  unfold latestBundle?
  refine h.bundles.bind_query_eq ?_
  dsimp only
  rw [hnewest]
  split
  · rfl
  · rename_i b hb
    obtain ⟨hmem, hcandidate⟩ := List.mem_filter.1 (newest_eq_some hb).1
    have hsnapshot := h.bundleOf_eq hmem (hsight b hcandidate)
    exact h.subscriptions.bind_query_eq (congrArg (some <$> ·) hsnapshot)

theorem bundleRecordId?_eq (h : AgreeFor account db db') {b : BundleRow} (hb : b ∈ stored db.bundles)
    (hsight : db.InSight account b) : db'.bundleRecordId? b.id = db.bundleRecordId? b.id := by
  refine h.bundles.bind_query_eq (congrArg (fun found : Option BundleRow ↦ pure (found.map (·.recordId))) ?_)
  rw [find?_bundle hb, find?_bundle ((h.bundles.rows b hsight).2 hb)]

/-- The tags are the same but for their order, which does not matter to the group. -/
theorem tagsOf_cases (h : AgreeFor account db db') :
    (∃ e, db.tagsOf account = .error e ∧ db'.tagsOf account = .error e) ∨
      ∃ tags tags', db.tagsOf account = .ok tags ∧ db'.tagsOf account = .ok tags' ∧
        groupOf tags' = groupOf tags := by
  unfold tagsOf
  rcases h.tags.query_cases with ⟨e, hquery, hquery'⟩ | ⟨hquery, hquery'⟩
  · rw [hquery, hquery']
    exact .inl ⟨e, rfl, rfl⟩
  · rw [hquery, hquery']
    have hperm := (h.tags.filter_perm (q := fun r ↦ decide (r.account = account))
      (fun _ hown ↦ of_decide_eq_true hown) (consistent_stored db.tags).1 (consistent_stored db'.tags).1).map
        fun r ↦ Text.upper r.name
    refine .inr ⟨_, _, rfl, rfl, ?_⟩
    unfold groupOf
    rw [hperm.contains_eq, hperm.contains_eq]

/-! ### The answers of a source -/

/-- Looking the account up fails in both databases, or it gives the same row and a group that is the same. -/
theorem factsOr_cases (h : AgreeFor account db db') (reference : String) :
    (∃ e, (Source.fresh account reference).factsOr db = .error e ∧
        (Source.fresh account reference).factsOr db' = .error e) ∨
      ∃ row tags tags', row ∈ stored db.accounts ∧ row.id = account ∧
        (Source.fresh account reference).factsOr db = .ok ⟨row, tags⟩ ∧
        (Source.fresh account reference).factsOr db' = .ok ⟨row, tags'⟩ ∧ groupOf tags' = groupOf tags := by
  simp only [Source.factsOr, Source.fresh, Source.loadFacts, Source.load, h.accountRow?_eq]
  cases haccount : db.accountRow? account with
  | error cause => exact .inl ⟨_, rfl, rfl⟩
  | ok found =>
    cases found with
    | none => exact .inl ⟨_, rfl, rfl⟩
    | some row =>
      obtain ⟨rows, hrows, hfind⟩ := bind_eq_ok_iff.1 haccount
      rw [← query_eq_ok hrows, pure_eq_ok_iff] at hfind
      have hid := List.find?_some hfind
      rcases h.tagsOf_cases with ⟨cause, htags, htags'⟩ | ⟨tags, tags', htags, htags', hgroup⟩
      · rw [htags, htags']
        exact .inl ⟨_, rfl, rfl⟩
      · rw [htags, htags']
        exact .inr ⟨row, tags, tags', List.mem_of_find?_eq_some hfind, of_decide_eq_true hid, rfl, rfl, hgroup⟩

/-- What is looked up by the row of the account is the same if it is for each such row. -/
theorem bind_factsOr_eq {β : Type} (h : AgreeFor account db db') {f f' : AccountFacts → Except RefreshError β}
    (hf : ∀ row ∈ stored db.accounts, row.id = account → ∀ tags tags', f' ⟨row, tags'⟩ = f ⟨row, tags⟩) :
    ((Source.fresh account reference).factsOr db' >>= f') = ((Source.fresh account reference).factsOr db >>= f) := by
  rcases h.factsOr_cases reference with ⟨e, hfacts, hfacts'⟩ | ⟨row, tags, tags', hrow, hid, hfacts, hfacts', -⟩
  · rw [hfacts, hfacts']
    rfl
  · rw [hfacts, hfacts']
    exact hf row hrow hid tags tags'

/-- What is told of the account is the same if it depends on the tags through the group alone. -/
theorem answer_facts_eq {β : Type} (h : AgreeFor account db db') {g : AccountFacts → β}
    (hg : ∀ row tags tags', groupOf tags' = groupOf tags → g ⟨row, tags'⟩ = g ⟨row, tags⟩) :
    Source.answer (((Source.fresh account reference).factsOr db').map g) =
      Source.answer (((Source.fresh account reference).factsOr db).map g) := by
  rcases h.factsOr_cases reference with ⟨e, hfacts, hfacts'⟩ | ⟨row, tags, tags', -, -, hfacts, hfacts', hgroup⟩
  · rw [hfacts, hfacts']
  · rw [hfacts, hfacts']
    exact congrArg _ (congrArg Except.ok (hg row tags tags' hgroup))

theorem transitions_eq (h : AgreeFor account db db') :
    (Source.fresh account reference).transitions db' = (Source.fresh account reference).transitions db :=
  congrArg (Source.load _ _) h.transitionsOf_eq

theorem latestBundle_eq (h : AgreeFor account db db') (key : String) :
    (Source.fresh account reference).latestBundle db' key = (Source.fresh account reference).latestBundle db key := by
  refine h.bind_factsOr_eq fun row hrow hid tags tags' ↦ ?_
  dsimp only
  rw [h.latestBundle?_eq hrow hid]

theorem creationsOr_eq (h : AgreeFor account db db') :
    (Source.fresh account reference).creationsOr db' = (Source.fresh account reference).creationsOr db := by
  refine h.bind_factsOr_eq fun row hrow hid tags tags' ↦ ?_
  rw [h.creationsOf_eq hrow hid]

theorem bundleRecordId_eq (h : AgreeFor account db db') {b : BundleRow} (hb : b ∈ stored db.bundles)
    (hsight : db.InSight account b) :
    (Source.fresh account reference).bundleRecordId db' b.id =
      (Source.fresh account reference).bundleRecordId db b.id := by
  unfold Source.bundleRecordId
  rw [h.bundleRecordId?_eq hb hsight]

/-- The bundles that are listed are those of rows of the account, so they are in sight. -/
theorem exists_row_of_listed {bundles : List Bundle}
    (hbundles : ((Source.fresh account reference).context db).bundles = .ok bundles) {b : Bundle}
    (hb : b ∈ bundles) : ∃ r ∈ stored db.bundles, r.id = b.id ∧ db.InSight account r := by
  have hlisted := mapError_eq_ok_iff.1 (mapError_eq_ok_iff.1 hbundles)
  obtain ⟨r, hr, hsnapshot⟩ := Pairing.exists_mem_left (bundlesOf_eq_ok hlisted) hb
  rw [mem_inOrder, List.mem_filter, decide_eq_true_eq] at hr
  exact ⟨r, hr.1, hsnapshot.id.symm, .inl hr.2⟩

/-- Where databases agree for an account, a refresh of it gets the same answers. -/
theorem sameAnswers (h : AgreeFor account db db') (reference : String) :
    Context.SameAnswers ((Source.fresh account reference).context db)
      ((Source.fresh account reference).context db') where
  account := h.answer_facts_eq fun _ _ _ _ ↦ rfl
  accountRecordId := h.answer_facts_eq fun _ _ _ _ ↦ rfl
  tenantRecordId := h.answer_facts_eq fun _ _ _ _ ↦ rfl
  reportGroup := h.answer_facts_eq fun _ _ _ hgroup ↦ congrArg Except.ok hgroup
  converter := by
    simp only [Source.context, Source.converter, h.ratesInto_eq]
  bundles := by
    simp only [Source.context, Source.fresh, h.bundlesOf_eq]
  bundleRecordId bundles hbundles b hb := by
    obtain ⟨r, hr, hid, hsight⟩ := exists_row_of_listed hbundles hb
    simp only [Source.context, ← hid, h.bundleRecordId_eq hr hsight]
  latestForExternalKey key := by
    simp only [Source.context, h.latestBundle_eq]
  creationAudit bundles hbundles b hb := by
    obtain ⟨r, hr, hid, hsight⟩ := exists_row_of_listed hbundles hb
    simp only [Source.context, Source.creationAudit, ← hid, h.creationsOr_eq, h.bundleRecordId_eq hr hsight]

end AgreeFor
end Database
end BundleLedger
