import BundleLedger.Proofs.Bundle.Reference
import BundleLedger.Proofs.Store.Query

/-!
# The records of an account as a view of the tables

What the records of an account are in terms of the rows of the source tables. A base transition is a
transition row of the account whose subscription is a base subscription of one of the account's bundles; the
order of events puts a missing start first and then goes by record numbers (`eventKey`). `ViewOf` says what
one record holds, and `Materialized` what a list of records is. The answers of a source are the rows that the
view names: the account (`facts_eq_ok`), the newest bundle of a key (`latestBundle_eq_ok`), the first audit row
of a creation (`creationAudit_eq_ok`) and the transitions in the order of events (`transitions_eq_ok`).
-/

set_option autoImplicit false

namespace BundleLedger

open Result
open Database (stored inOrder creationKey)

/-! ### The view -/

/-- Whether a transition row is a base transition of an account. -/
def IsBaseTransition (db : Database) (account : Uuid) (t : TransitionRow) : Prop :=
  t ∈ stored db.transitions ∧ t.account = account ∧
    ∃ b ∈ stored db.bundles, b.account = account ∧
      ∃ s ∈ stored db.subscriptions, s.bundle = b.id ∧ s.baseEntitlement = t.subscription

/-- The place of a start; a missing one comes before every day. -/
def eventDay : Option Date → WithBot ℕ
  | none => ⊥
  | some day => WithBot.some day.rank

/-- The place of a transition in the order of events: by its start, then by its record number. -/
def eventKey (t : TransitionRow) : WithBot ℕ ×ₗ ℤ :=
  toLex (eventDay t.next.start, t.recordId)

/-- The places of the base transitions of a bundle. -/
def eventKeys (db : Database) (account bundle : Uuid) : Set (WithBot ℕ ×ₗ ℤ) :=
  {key | ∃ t, IsBaseTransition db account t ∧ t.bundle = bundle ∧ eventKey t = key}

/-- Whether an audit row tells of the creation of a bundle under the record number of an account. -/
def IsCreationOf (db : Database) (a : AccountRow) (b : BundleRow) (c : AuditRow) : Prop :=
  c ∈ stored db.audits ∧ c.accountRecordId = a.recordId ∧ c.tableName = "BUNDLES" ∧
    c.changeType = "INSERT" ∧ c.targetRecordId = b.recordId

/-- Whether a record has the creation fields of an audit row. -/
def CreatedAs (r : BundleRecord) (createdBy reasonCode comments : Option String) : Prop :=
  r.createdBy = createdBy ∧ r.createdReasonCode = reasonCode ∧ r.createdComments = comments

/-- What the record of a bundle holds, by the rows of its account, of the bundle, and of its last base
transition in the order of events. -/
structure ViewOf (db : Database) (reference : String) (id : Uuid) (a : AccountRow) (b : BundleRow)
    (t : TransitionRow) (r : BundleRecord) : Prop where
  accountRow : a ∈ stored db.accounts ∧ a.id = id
  bundleRow : b ∈ stored db.bundles ∧ b.account = id ∧ b.id = r.bundle
  transitionRow : IsBaseTransition db id t ∧ t.bundle = r.bundle
  last : IsGreatest (eventKeys db id r.bundle) (eventKey t)
  account : r.account = id
  accountRecordId : r.accountRecordId = a.recordId
  accountExternalKey : r.accountExternalKey = a.externalKey
  accountName : r.accountName = a.name
  tenantRecordId : r.tenantRecordId = a.tenantRecordId
  reportGroup : r.reportGroup = Database.groupOf
    (((stored db.tags).filter fun tag ↦ tag.account = id).map fun tag ↦ Text.upper tag.name)
  bundleRecordId : r.bundleRecordId = b.recordId
  bundleExternalKey : r.bundleExternalKey = b.externalKey
  created : r.created = .naive b.created
  latestForExternalKey : r.latestForExternalKey = true ↔
    b.tenantRecordId = a.tenantRecordId ∧ ∀ other ∈ stored db.bundles,
      other.externalKey = b.externalKey → other.tenantRecordId = a.tenantRecordId →
        creationKey other ≤ creationKey b
  chargedThrough : r.chargedThrough =
    ((inOrder ((stored db.subscriptions).filter fun s ↦ s.bundle = b.id)).find? fun s ↦
      s.lastActiveCategory = some "BASE").bind (·.chargedThrough)
  subscription : r.subscription = t.subscription
  current : r.current =
    { t.next with
      productCategory := r.current.productCategory
      price := t.next.price.map Fixed.toDecimal
      mrr := t.next.mrr.map Fixed.toDecimal }
  productCategory : r.current.productCategory.map ProductCategory.text = t.next.productCategory
  convertedPrice : (Converter.of reference
    ((inOrder ((stored db.rates).filter fun rate ↦ rate.reference = reference)).map RateRow.snapshot)).convert
      r.current.price r.current.currency r.current.start = .ok r.convertedPrice
  convertedMrr : (Converter.of reference
    ((inOrder ((stored db.rates).filter fun rate ↦ rate.reference = reference)).map RateRow.snapshot)).convert
      r.current.mrr r.current.currency r.current.start = .ok r.convertedMrr
  convertedCurrency : r.convertedCurrency = Text.upper reference
  creation :
    (∃ c, IsCreationOf db a b c ∧ (∀ other, IsCreationOf db a b other → c.recordId ≤ other.recordId) ∧
      CreatedAs r c.createdBy c.reasonCode c.comments) ∨
    (∀ c, ¬ IsCreationOf db a b c) ∧ CreatedAs r none none none
  finite : ∀ amount ∈ [r.current.price, r.convertedPrice, r.current.mrr, r.convertedMrr],
    ∀ x ∈ amount, x.isFinite = true

/-- Whether a list of records is the view of the tables for an account: one record for each bundle with a base
transition, ranked from one in the order of the bundles' first base transitions, and each with what the rows
hold. -/
structure Materialized (db : Database) (reference : String) (account : Uuid)
    (records : List BundleRecord) : Prop where
  ranks : records.map (·.rank) = (List.range records.length).map fun index : ℕ ↦ ((index + 1 : ℕ) : ℤ)
  nodup : (records.map (·.bundle)).Nodup
  bundles : ∀ id, id ∈ records.map (·.bundle) ↔ ∃ t, IsBaseTransition db account t ∧ t.bundle = id
  order : ∀ r ∈ records, ∀ r' ∈ records, ∃ key key', IsLeast (eventKeys db account r.bundle) key ∧
    IsLeast (eventKeys db account r'.bundle) key' ∧ (r.rank < r'.rank ↔ key < key')
  view : ∀ r ∈ records, ∃ a b t, ViewOf db reference account a b t r

/-! ### The answers of a source -/

section Answers

variable {db : Database} {account : Uuid} {reference : String}

theorem facts_eq_ok {facts : Database.AccountFacts}
    (h : (Source.fresh account reference).factsOr db = .ok facts) :
    facts.row ∈ stored db.accounts ∧ facts.row.id = account ∧
      facts.tags = ((stored db.tags).filter fun tag ↦ tag.account = account).map
        fun tag ↦ Text.upper tag.name := by
  change (Source.fresh account reference).loadFacts db = _ at h
  unfold Source.loadFacts at h
  obtain ⟨found, hfound, h⟩ := bind_eq_ok_iff.1 h
  cases found with
  | none => simp at h
  | some row =>
    obtain ⟨tags, htags, h⟩ := bind_eq_ok_iff.1 h
    obtain rfl := pure_eq_ok_iff.1 h
    obtain ⟨rows, hrows, hrow⟩ := bind_eq_ok_iff.1 (mapError_eq_ok_iff.1 hfound)
    obtain ⟨tagRows, htagRows, htags⟩ := bind_eq_ok_iff.1 (mapError_eq_ok_iff.1 htags)
    rw [pure_eq_ok_iff, ← Database.query_eq_ok hrows] at hrow
    rw [pure_eq_ok_iff, ← Database.query_eq_ok htagRows] at htags
    have hid := List.find?_some hrow
    exact ⟨List.mem_of_find?_eq_some hrow, of_decide_eq_true hid, htags.symm⟩

theorem bundleRecordId_eq_ok {id : Uuid} {n : ℤ}
    (h : (Source.fresh account reference).bundleRecordId db id = .ok n) :
    ∃ b ∈ stored db.bundles, b.id = id ∧ b.recordId = n := by
  unfold Source.bundleRecordId at h
  obtain ⟨found, hfound, h⟩ := bind_eq_ok_iff.1 h
  cases found with
  | none => simp at h
  | some m =>
    obtain rfl := pure_eq_ok_iff.1 h
    obtain ⟨rows, hrows, hrow⟩ := bind_eq_ok_iff.1 (mapError_eq_ok_iff.1 hfound)
    rw [pure_eq_ok_iff, ← Database.query_eq_ok hrows] at hrow
    obtain ⟨b, hb, rfl⟩ := Option.map_eq_some_iff.1 hrow
    exact ⟨b, List.mem_of_find?_eq_some hb, by simpa using List.find?_some hb, rfl⟩

theorem latestBundle_eq_ok {facts : Database.AccountFacts} {key : String} {latest : Bundle}
    (hfacts : (Source.fresh account reference).factsOr db = .ok facts)
    (h : (Source.fresh account reference).latestBundle db key = .ok latest) :
    ∃ b ∈ stored db.bundles, b.externalKey = key ∧ b.tenantRecordId = facts.row.tenantRecordId ∧
      latest.id = b.id ∧ ∀ other ∈ stored db.bundles, other.externalKey = key →
        other.tenantRecordId = facts.row.tenantRecordId → creationKey other ≤ creationKey b := by
  unfold Source.latestBundle at h
  obtain ⟨read, hread, h⟩ := bind_eq_ok_iff.1 h
  obtain rfl : facts = read := by simpa [hfacts] using hread
  obtain ⟨found, hfound, h⟩ := bind_eq_ok_iff.1 h
  cases found with
  | none => simp at h
  | some bundle =>
    obtain rfl := pure_eq_ok_iff.1 h
    obtain ⟨rows, hrows, hrow⟩ := bind_eq_ok_iff.1 (mapError_eq_ok_iff.1 hfound)
    rw [← Database.query_eq_ok hrows] at hrow
    dsimp only at hrow
    split at hrow
    · simp [pure, Except.pure] at hrow
    · rename_i b hb
      obtain ⟨subscriptions, hsubscriptions, hrow⟩ := bind_eq_ok_iff.1 hrow
      rw [← Database.query_eq_ok hsubscriptions] at hrow
      change Except.map some (Database.bundleOf (stored db.subscriptions) b) = _ at hrow
      obtain ⟨snapshot, hsnapshot, heq⟩ := map_eq_ok_iff.1 hrow
      obtain rfl := Option.some.inj heq
      obtain ⟨hmem, hnewest⟩ := Database.newest_eq_some hb
      simp only [List.mem_filter, Bool.and_eq_true, decide_eq_true_eq] at hmem hnewest
      exact ⟨b, hmem.1, hmem.2.1, hmem.2.2, (Database.bundleOf_eq_ok_iff.1 hsnapshot).id,
        fun other hother hkey htenant ↦ hnewest other ⟨hother, hkey, htenant⟩⟩

theorem converter_eq_ok {c : Converter}
    (h : (Source.fresh account reference).converter db = .ok c) :
    c = Converter.of reference
      ((inOrder ((stored db.rates).filter fun rate ↦ rate.reference = reference)).map
        RateRow.snapshot) := by
  obtain ⟨rates, hrates, rfl⟩ := map_eq_ok_iff.1 h
  obtain ⟨rows, hrows, hrates⟩ := bind_eq_ok_iff.1 (mapError_eq_ok_iff.1 hrates)
  rw [pure_eq_ok_iff, ← Database.query_eq_ok hrows] at hrates
  rw [← hrates]
  rfl

theorem isCreationOf_iff {a : AccountRow} {b : BundleRow} {c : AuditRow} :
    IsCreationOf db a b c ↔
      c ∈ (stored db.audits).filter (fun r ↦ r.accountRecordId = a.recordId && Database.isCreation r) ∧
        c.targetRecordId = b.recordId := by
  unfold IsCreationOf Database.isCreation
  simp only [List.mem_filter, Bool.and_eq_true, decide_eq_true_eq, and_assoc]
  rfl

/-- The audit entry of a bundle's creation is the first of its rows under the account, if there is one. -/
theorem creationAudit_eq_ok {facts : Database.AccountFacts} {b : BundleRow} {creation : Option AuditLog}
    (hfacts : (Source.fresh account reference).factsOr db = .ok facts)
    (hb : (Source.fresh account reference).bundleRecordId db b.id = .ok b.recordId)
    (h : (Source.fresh account reference).creationAudit db b.id = .ok creation) :
    (∃ c, IsCreationOf db facts.row b c ∧
        (∀ other, IsCreationOf db facts.row b other → c.recordId ≤ other.recordId) ∧
        creation = some c.snapshot) ∨
      (∀ c, ¬ IsCreationOf db facts.row b c) ∧ creation = none := by
  unfold Source.creationAudit at h
  obtain ⟨creations, hcreations, h⟩ := bind_eq_ok_iff.1 h
  obtain ⟨n, hn, h⟩ := bind_eq_ok_iff.1 h
  obtain rfl : b.recordId = n := by simpa [hb] using hn
  obtain ⟨read, hread, hcreations⟩ := bind_eq_ok_iff.1 hcreations
  obtain rfl : facts = read := by simpa [hfacts] using hread
  obtain ⟨rows, hrows, hcreations⟩ := bind_eq_ok_iff.1 (mapError_eq_ok_iff.1 hcreations)
  rw [← Database.query_eq_ok hrows] at hcreations
  obtain rfl := pure_eq_ok_iff.1 hcreations
  rw [pure_eq_ok_iff, Database.creation?, List.find?_map, Option.map_map] at h
  simp only [isCreationOf_iff]
  subst h
  cases hfound : (inOrder ((stored db.audits).filter fun r ↦ r.accountRecordId = facts.row.recordId &&
      Database.isCreation r)).find? (fun r ↦ r.targetRecordId = b.recordId) with
  | none =>
    right
    refine ⟨fun c hc ↦ Database.find?_inOrder_eq_none hfound c hc.1 (decide_eq_true hc.2), ?_⟩
    exact congrArg (Option.map _) hfound
  | some c =>
    left
    obtain ⟨hmem, hp, hle⟩ := Database.find?_inOrder hfound
    refine ⟨c, ⟨hmem, of_decide_eq_true hp⟩, fun other hother ↦ ?_, congrArg (Option.map _) hfound⟩
    exact hle other hother.1 (decide_eq_true hother.2)

/-! ### Transitions in the order of events -/

theorem startKey_lt_iff (day other : Option Date) :
    Database.startKey day < Database.startKey other ↔ eventDay day < eventDay other := by
  cases day with
  | none =>
    cases other with
    | none => simp
    | some other => exact iff_of_true (Nat.succ_pos _) (WithBot.bot_lt_coe _)
  | some day =>
    cases other with
    | none => exact iff_of_false (Nat.not_lt_zero _) not_lt_bot
    | some other => exact Nat.succ_lt_succ_iff.trans WithBot.coe_lt_coe.symm

theorem happensBefore_iff (t u : TransitionRow) :
    Database.happensBefore t u = true ↔ eventKey t ≤ eventKey u := by
  have heq : Database.startKey t.next.start = Database.startKey u.next.start ↔
      eventDay t.next.start = eventDay u.next.start := by
    have hlt := startKey_lt_iff t.next.start u.next.start
    have hgt := startKey_lt_iff u.next.start t.next.start
    constructor
    · intro h
      refine le_antisymm ?_ ?_
      · rw [← not_lt, ← hgt]
        omega
      · rw [← not_lt, ← hlt]
        omega
    · intro h
      rw [h] at hlt hgt
      simp only [lt_irrefl, iff_false] at hlt hgt
      omega
  unfold Database.happensBefore eventKey
  rw [Prod.Lex.toLex_le_toLex]
  simp only [Bool.or_eq_true, Bool.and_eq_true, decide_eq_true_eq, startKey_lt_iff, heq]

/-- The transition rows of an account in the order of events. -/
def eventsOf (db : Database) (account : Uuid) : List TransitionRow :=
  ((stored db.transitions).filter fun t ↦ t.account = account).mergeSort Database.happensBefore

theorem mem_eventsOf {t : TransitionRow} :
    t ∈ eventsOf db account ↔ t ∈ stored db.transitions ∧ t.account = account := by
  rw [eventsOf, List.mem_mergeSort, List.mem_filter, decide_eq_true_eq]

theorem pairwise_eventsOf (db : Database) (account : Uuid) :
    (eventsOf db account).Pairwise fun t u ↦ eventKey t ≤ eventKey u :=
  Sorting.pairwise_mergeSort happensBefore_iff _

/-- No two transitions of an account have one place in the order of events. -/
theorem nodup_eventKey (db : Database) (account : Uuid) : ((eventsOf db account).map eventKey).Nodup := by
  have hnumbers : ((stored db.transitions).map (·.recordId)).Nodup :=
    Database.consistent_stored db.transitions
  have hown := nodup_map_of_sublist (fun t : TransitionRow ↦ t.recordId)
    (List.filter_sublist (p := fun t ↦ decide (t.account = account))) hnumbers
  have hevents : ((eventsOf db account).map (·.recordId)).Nodup :=
    ((List.mergeSort_perm _ _).map _).nodup_iff.2 hown
  refine List.Nodup.of_map (fun key ↦ (ofLex key).2) ?_
  rw [List.map_map]
  exact hevents

theorem transitions_eq_ok {transitions : List Transition}
    (h : (Source.fresh account reference).transitions db = .ok transitions) :
    List.Forall₂ (fun row t ↦ TransitionRow.snapshot row = .ok t) (eventsOf db account) transitions := by
  obtain ⟨rows, hrows, hsorted⟩ := bind_eq_ok_iff.1 (mapError_eq_ok_iff.1 h)
  rw [← Database.query_eq_ok hrows] at hsorted
  exact mapM_eq_ok_iff.1 hsorted

theorem ofStored_eq_ok {field : String} {x : Option Amount} {d : Option Decimal}
    (h : Amount.ofStored field x = .ok d) :
    d = x.map Fixed.toDecimal ∧ ∀ amount ∈ x, amount.toDecimal.isFinite = true := by
  unfold Amount.ofStored at h
  cases x with
  | none =>
    obtain rfl : none = d := by simpa using h
    simp
  | some amount =>
    dsimp only at h
    split_ifs at h with hfinite
    · obtain rfl : some amount.toDecimal = d := by simpa using h
      simp [hfinite]

theorem category_eq_ok {field : String} {x : Option String} {category : Option ProductCategory}
    (h : ProductCategory.ofStored field x = .ok category) : category.map ProductCategory.text = x := by
  unfold ProductCategory.ofStored at h
  cases x with
  | none =>
    obtain rfl : none = category := by simpa using h
    rfl
  | some text =>
    dsimp only at h
    split at h
    · rename_i found hfound
      obtain rfl : some found = category := by simpa using h
      have hback := List.find?_some hfound
      simpa using hback
    · simp at h

/-- The snapshot of a transition row. -/
theorem transition_eq_ok {row : TransitionRow} {t : Transition} (h : TransitionRow.snapshot row = .ok t) :
    t.bundle = row.bundle ∧ t.subscription = row.subscription ∧
      t.next =
        { row.next with
          productCategory := t.next.productCategory
          price := row.next.price.map Fixed.toDecimal
          mrr := row.next.mrr.map Fixed.toDecimal } ∧
      t.next.productCategory.map ProductCategory.text = row.next.productCategory := by
  unfold TransitionRow.snapshot at h
  obtain ⟨category, hcategory, h⟩ := bind_eq_ok_iff.1 h
  obtain ⟨price, hprice, h⟩ := bind_eq_ok_iff.1 h
  obtain ⟨mrr, hmrr, h⟩ := bind_eq_ok_iff.1 h
  obtain rfl := pure_eq_ok_iff.1 h
  refine ⟨rfl, rfl, ?_, category_eq_ok hcategory⟩
  rw [(ofStored_eq_ok hprice).1, (ofStored_eq_ok hmrr).1]

end Answers

end BundleLedger
