import BundleLedger.Proofs.FirstAppearance
import BundleLedger.Proofs.Reconciliation.Finding
import BundleLedger.Proofs.Reconciliation.Run
import BundleLedger.Proofs.Store.Readable

/-!
# The subscription that a charged period is taken from

A build goes through the subscriptions of a bundle in the order of their record numbers and takes the charged period
of the first one whose last active category is the base one. The check of charged periods goes another way: it
joins each stored record with the subscription that has the least record number of those, and compares the dates,
either of which may be missing (`Finding.chargedThroughOf_eq`). For each record the join gives one row, that of the
subscription which the build takes (`Finding.joinedOn_leastBase?`). So the check reports a record, once, exactly if
its date is not the one that a build takes from the snapshot of its bundle
(`Reconciliation.reports_chargedThrough`).
-/

set_option autoImplicit false

namespace BundleLedger

open Result
open Database (stored inOrder rows)

namespace Finding

variable {db : Database} {scope : Option Uuid} {findings : List Finding}

/-- The subscription whose charged period counts is the first with a base category in the order of record
numbers. -/
theorem firstBase?_eq (db : Database) (bundle : Uuid) :
    firstBase? (stored db.subscriptions) bundle =
      (inOrder ((stored db.subscriptions).filter fun s ↦ s.bundle = bundle)).find? fun s ↦
        s.lastActiveCategory = some ProductCategory.base.text := by
  have hnumbers := (Database.consistent_stored db.subscriptions).1
  have hown := nodup_map_of_sublist SubscriptionRow.recordId
    (List.filter_sublist (p := fun s ↦ decide (s.bundle = bundle))) hnumbers
  rw [← List.head?_filter, ← Database.inOrder_filter hown, List.filter_filter]
  unfold firstBase?
  simp only [Bool.and_comm]

/-! ### The query -/

/-- The disjunction of two truth values of which either may be unknown. -/
def either : Option Bool → Option Bool → Option Bool
  | some true, _ => some true
  | _, some true => some true
  | some false, some false => some false
  | _, _ => none

/-- Whether two dates are unequal, which is unknown if one is missing. -/
def unequal (a b : Option Date) : Option Bool :=
  a.bind fun day ↦ b.map fun other ↦ decide (day ≠ other)

/-- Whether just one of two dates is missing, or they are unequal. -/
def differs (a b : Option Date) : Option Bool :=
  either (some (a.isNone && b.isSome)) (either (some (a.isSome && b.isNone)) (unequal a b))

theorem differs_eq_some_true_iff {a b : Option Date} : differs a b = some true ↔ a ≠ b := by
  unfold differs unequal
  cases a with
  | none => cases b <;> simp [either]
  | some day =>
    cases b with
    | none => simp [either]
    | some other => by_cases h : day = other <;> simp [either, h]

/-- The least record number of the base subscriptions of a bundle. -/
def leastBase? (subscriptions : List SubscriptionRow) (bundle : Uuid) : Option ℤ :=
  ((subscriptions.filter fun s ↦
    s.bundle = bundle && s.lastActiveCategory = some ProductCategory.base.text).map (·.recordId)).min?

/-- The subscriptions that a record is joined with by a record number; a record that none has is kept without one. -/
def joinedOn (subscriptions : List SubscriptionRow) (number : Option ℤ) : List (Option SubscriptionRow) :=
  match subscriptions.filter fun s ↦ some s.recordId = number with
  | [] => [none]
  | matching => matching.map some

/-- The number that a record is joined by is that of the first base subscription of its bundle. -/
theorem leastBase?_eq (db : Database) (bundle : Uuid) :
    leastBase? (stored db.subscriptions) bundle =
      (firstBase? (stored db.subscriptions) bundle).map (·.recordId) := by
  rw [firstBase?_eq]
  have hbase : ∀ s : SubscriptionRow, s ∈ (stored db.subscriptions).filter (fun s ↦
      s.bundle = bundle && s.lastActiveCategory = some ProductCategory.base.text) ↔
        s ∈ (stored db.subscriptions).filter (fun s ↦ s.bundle = bundle) ∧
          decide (s.lastActiveCategory = some ProductCategory.base.text) = true := by
    intro s
    rw [List.mem_filter, List.mem_filter, Bool.and_eq_true, and_assoc]
  cases hfirst : (inOrder ((stored db.subscriptions).filter fun s ↦ s.bundle = bundle)).find? fun s ↦
      s.lastActiveCategory = some ProductCategory.base.text with
  | none =>
    have hnone := Database.find?_inOrder_eq_none hfirst
    unfold leastBase?
    rw [Option.map_none, List.min?_eq_none_iff, List.map_eq_nil_iff, List.eq_nil_iff_forall_not_mem]
    intro s hs
    exact hnone s ((hbase s).1 hs).1 ((hbase s).1 hs).2
  | some s =>
    obtain ⟨hs, hcategory, hle⟩ := Database.find?_inOrder hfirst
    unfold leastBase?
    rw [Option.map_some, List.min?_eq_some_iff]
    refine ⟨List.mem_map_of_mem ((hbase s).2 ⟨hs, hcategory⟩), fun number hnumber ↦ ?_⟩
    obtain ⟨other, hother, rfl⟩ := List.mem_map.1 hnumber
    exact hle other ((hbase other).1 hother).1 ((hbase other).1 hother).2

theorem mem_of_firstBase? {bundle : Uuid} {s : SubscriptionRow}
    (h : firstBase? (stored db.subscriptions) bundle = some s) : s ∈ stored db.subscriptions := by
  rw [firstBase?_eq] at h
  exact (List.mem_filter.1 (Database.find?_inOrder h).1).1

/-- A record is joined with one subscription or kept without one: with the first base one of its bundle. -/
theorem joinedOn_leastBase? (db : Database) (bundle : Uuid) :
    joinedOn (stored db.subscriptions) (leastBase? (stored db.subscriptions) bundle) =
      [firstBase? (stored db.subscriptions) bundle] := by
  rw [leastBase?_eq, joinedOn]
  cases hfirst : firstBase? (stored db.subscriptions) bundle with
  | none => simp
  | some s =>
    have hs := mem_of_firstBase? hfirst
    have hnumbers := (Database.consistent_stored db.subscriptions).1
    have hmatching : ((stored db.subscriptions).filter fun other ↦ some other.recordId = some s.recordId) =
        [s] := by
      apply FirstAppearance.eq_singleton_of_nodup ((List.Nodup.of_map _ hnumbers).filter _)
      intro other
      rw [List.mem_filter, decide_eq_true_eq, Option.some.injEq]
      constructor
      · rintro ⟨hother, hsame⟩
        exact List.inj_on_of_nodup_map hnumbers hother hs hsame
      · rintro rfl
        exact ⟨hs, rfl⟩
    rw [Option.map_some, hmatching]
    rfl

/-- The check as its query runs: the records within the limits that are joined with a subscription, or kept without
one, from whose date their own differs. -/
def chargedThroughJoin (db : Database) (scope : Option Uuid) :
    Except DatabaseFault (List (EntryRow × Option Date)) := do
  let entries ← entriesIn db scope
  let subscriptions ← rows db.subscriptions
  return (entries.flatMap fun r ↦
    (joinedOn subscriptions (leastBase? subscriptions r.entry.bundle)).map fun s ↦
      (r, s.bind (·.chargedThrough))).filter fun (r, expected) ↦
        differs r.entry.chargedThrough expected = some true

theorem chargedThroughOf_eq (db : Database) (scope : Option Uuid) :
    chargedThroughOf db scope = chargedThroughJoin db scope := by
  unfold chargedThroughOf chargedThroughJoin
  cases entriesIn db scope with
  | error fault => rfl
  | ok entries =>
    cases hrows : rows db.subscriptions with
    | error fault => rfl
    | ok subscriptions =>
      obtain rfl := Database.rows_eq_ok hrows
      simp only [Bind.bind, Except.bind, Pure.pure, Except.pure, joinedOn_leastBase?, List.map_singleton,
        differs_eq_some_true_iff]
      rw [← List.map_eq_flatMap]

/-! ### Rows about a stored record -/

/-- The stored record that a row is about. -/
def entry? : Finding → Option EntryRow
  | .bundleOrphaned r | .bundleFields r _ | .accountFields r _ | .creationAudit r _ | .chargedThrough r _ => some r
  | .bundleMissing _ | .ranks _ | .latest _ => none

theorem nodup_chargedThrough (h : find db scope .chargedThroughDate = .ok findings) : findings.Nodup := by
  unfold find chargedThroughOf entriesIn at h
  simp only [map_eq_ok_iff, bind_eq_ok_iff, pure_eq_ok_iff] at h
  obtain ⟨_, ⟨_, ⟨entries, hentries, rfl⟩, subscriptions, -, rfl⟩, rfl⟩ := h
  rw [← Database.rows_eq_ok hentries]
  have hnodup : (stored db.entries).Nodup := .of_map _ (Database.consistent_stored db.entries).1
  refine ((hnodup.filter _).map fun r other hsame ↦ ?_).filter _ |>.map fun found other hsame ↦ ?_
  · exact congrArg Prod.fst hsame
  · exact Prod.ext (Finding.chargedThrough.inj hsame).1 (Finding.chargedThrough.inj hsame).2

/-- A stored record within the limits has one row if its date is not the expected one, and else none. -/
def chargedRowsOf (scope : Option Uuid) (r : EntryRow) (expected : Option Date) : List Finding :=
  if inScope scope r.entry.account = true ∧ r.entry.chargedThrough ≠ expected then [.chargedThrough r expected] else []

theorem filter_chargedThrough (h : find db scope .chargedThroughDate = .ok findings) {r : EntryRow}
    (hr : r ∈ stored db.entries) :
    findings.filter (fun finding ↦ finding.entry? = some r) =
      chargedRowsOf scope r ((firstBase? (stored db.subscriptions) r.entry.bundle).bind (·.chargedThrough)) := by
  apply FirstAppearance.eq_ite_of_nodup ((nodup_chargedThrough h).filter _)
  intro finding
  rw [List.mem_filter, mem_chargedThrough_iff h, decide_eq_true_eq]
  constructor
  · rintro ⟨⟨own, hown, expected, rfl, hscope, rfl, hdiffers⟩, hsame⟩
    obtain rfl : own = r := Option.some.inj hsame
    exact ⟨⟨hscope, hdiffers⟩, rfl⟩
  · rintro ⟨⟨hscope, hdiffers⟩, rfl⟩
    exact ⟨⟨r, hr, _, rfl, hscope, rfl, hdiffers⟩, rfl⟩

end Finding

/-! ### The date that a build takes -/

/-- The charged period of a snapshot is that of the first base subscription row of its bundle. -/
theorem Database.IsSnapshot.chargedThrough_eq {db : Database} {b : BundleRow} {snapshot : Bundle}
    (h : IsSnapshot db b snapshot) :
    snapshot.chargedThrough =
      (Finding.firstBase? (stored db.subscriptions) b.id).bind (·.chargedThrough) := by
  rw [Bundle.chargedThrough, BundleLedger.chargedThrough_eq h.subscriptions, Finding.firstBase?_eq]
  rfl

/-- Whether a date is the one that a build takes from a snapshot: some build makes a record of it, and every record
that is made of it, whatever else it is made from, has the date as the end of its charged period. -/
structure Bundle.TakesChargedThrough (snapshot : Bundle) (day : Option Date) : Prop where
  built : ∃ p item recordId latest record, Build.record p snapshot item recordId latest = .ok record
  taken : ∀ p item recordId latest record, Build.record p snapshot item recordId latest = .ok record →
    record.chargedThrough = day

theorem Bundle.takesChargedThrough (snapshot : Bundle) :
    snapshot.TakesChargedThrough snapshot.chargedThrough where
  built := by
    let p : Prefetched :=
      ⟨⟨snapshot.account, "", none, none⟩, .ok 1, .ok 1, .ok .default, ⟨"USD", []⟩, [snapshot]⟩
    let item : WorkItem :=
      ⟨⟨1, snapshot.id, snapshot.externalKey, snapshot.id, "CREATE",
        ⟨none, none, none, none, none, none, none, none, none, none, none, none, none, none⟩⟩, 1, none⟩
    obtain ⟨record, hrecord⟩ : ∃ record, BundleRecord.OfDraft
        (Build.draft p snapshot item (.ok 1) snapshot.id none none) record :=
      BundleRecord.exists_ofDraft rfl rfl rfl rfl (le_refl 1) (by simp [Build.draft, item])
    exact ⟨p, item, .ok 1, snapshot.id, record, Build.record_eq_ok_iff.2 ⟨none, none, rfl, rfl, hrecord⟩⟩
  taken p item recordId latest record h := by
    obtain ⟨price, mrr, -, -, hmade⟩ := Build.record_eq_ok_iff.1 h
    exact hmade.chargedThrough

theorem Bundle.TakesChargedThrough.unique {snapshot : Bundle} {day other : Option Date}
    (h : snapshot.TakesChargedThrough day) (h' : snapshot.TakesChargedThrough other) : day = other := by
  obtain ⟨p, item, recordId, latest, record, hrecord⟩ := h.built
  exact (h.taken _ _ _ _ _ hrecord).symm.trans (h'.taken _ _ _ _ _ hrecord)

/-- A run reports a stored record, once, exactly if its date is not the one that a build takes from the snapshot of
its bundle, which can be read if the categories of the subscriptions are known. -/
theorem Reconciliation.reports_chargedThrough (db : Database) (scope : Option Uuid) (correlation : Option String)
    (r : EntryRow) (hr : r ∈ stored db.entries) :
    ∀ b ∈ stored db.bundles, b.id = r.entry.bundle →
      (∀ s ∈ stored db.subscriptions, s.bundle = b.id → ProductCategory.IsKnown s.lastActiveCategory) →
      ∃ snapshot day, Database.bundleOf (stored db.subscriptions) b = .ok snapshot ∧
        snapshot.TakesChargedThrough day ∧
        ReportsAbout db scope correlation .chargedThroughDate (fun finding ↦ finding.entry? = some r)
          (Finding.chargedRowsOf scope r day) := by
  intro b _ hbundle hknown
  obtain ⟨snapshot, hsnapshot⟩ := Database.exists_bundleOf hknown
  have hday := (Database.bundleOf_eq_ok_iff.1 hsnapshot).chargedThrough_eq
  refine ⟨snapshot, snapshot.chargedThrough, hsnapshot, snapshot.takesChargedThrough, .of_find fun _ hfind ↦ ?_⟩
  rw [Finding.filter_chargedThrough hfind hr, hday, hbundle]

namespace SeveralBases

def bundle : BundleRow :=
  ⟨1, .ofNat 1, "bundle", .ofNat 9, 1, .epoch⟩

/-- A subscription of the bundle. -/
def subscription (number : ℕ) (category : Option String) (chargedThrough : Option Date) : SubscriptionRow :=
  ⟨number, .ofNat number, .ofNat 1, .ofNat number, "BASE", category, chargedThrough, .epoch⟩

/-- A record of the bundle that shows the date of other subscriptions than the first base one. -/
def record : EntryRow where
  recordId := 1
  entry :=
    { account := .ofNat 9, accountRecordId := 1, accountExternalKey := "account", accountName := none
      bundle := .ofNat 1, bundleRecordId := 1, bundleExternalKey := "bundle", subscription := .ofNat 3, rank := 1
      latestForExternalKey := true, chargedThrough := some default
      current := ⟨none, none, none, none, none, none, none, none, none, none, none, none, none, none⟩
      convertedPrice := none, convertedMrr := none, convertedCurrency := "USD", created := .epoch
      createdBy := none, createdReasonCode := none, createdComments := none, tenantRecordId := 1
      reportGroup := "default" }
  refreshed := .epoch

/-- The bundle has two base subscriptions, of which the first has no date, an add-on and one without a category. -/
def database : Database :=
  { Database.empty with
    bundles := some ⟨[bundle], by decide⟩
    subscriptions := some ⟨[subscription 4 (some "BASE") (some default), subscription 3 (some "BASE") none,
      subscription 2 (some "ADD_ON") (some default), subscription 1 none (some default)], by decide⟩
    entries := some ⟨[record], by decide⟩ }

theorem known : ∀ s ∈ stored database.subscriptions, s.bundle = bundle.id →
    ProductCategory.IsKnown s.lastActiveCategory := by
  unfold ProductCategory.IsKnown
  decide

theorem firstBase?_chargedThrough :
    (Finding.firstBase? (stored database.subscriptions) bundle.id).bind (·.chargedThrough) = none := by
  unfold Finding.firstBase?
  rw [Database.inOrder_eq_insertionSort]
  decide

end SeveralBases

/-- The first base subscription has no date, so a record with the date of another one is reported. -/
theorem Reconciliation.reports_chargedThrough_severalBases :
    SeveralBases.record ∈ stored SeveralBases.database.entries ∧
      SeveralBases.bundle ∈ stored SeveralBases.database.bundles ∧
      SeveralBases.bundle.id = SeveralBases.record.entry.bundle ∧
      ∃ snapshot, Database.bundleOf (stored SeveralBases.database.subscriptions) SeveralBases.bundle = .ok snapshot ∧
        snapshot.TakesChargedThrough none ∧
        ReportsAbout SeveralBases.database none none .chargedThroughDate
          (fun finding ↦ finding.entry? = some SeveralBases.record) [.chargedThrough SeveralBases.record none] := by
  have hrecord : SeveralBases.record ∈ stored SeveralBases.database.entries := List.mem_singleton_self _
  have hbundle : SeveralBases.bundle ∈ stored SeveralBases.database.bundles := List.mem_singleton_self _
  obtain ⟨snapshot, day, hsnapshot, htakes, hreports⟩ := reports_chargedThrough SeveralBases.database none none
    SeveralBases.record hrecord SeveralBases.bundle hbundle rfl SeveralBases.known
  have hday : day = none := by
    rw [htakes.unique snapshot.takesChargedThrough,
      (Database.bundleOf_eq_ok_iff.1 hsnapshot).chargedThrough_eq, SeveralBases.firstBase?_chargedThrough]
  subst hday
  exact ⟨hrecord, hbundle, rfl, snapshot, hsnapshot, htakes, hreports⟩

end BundleLedger
