import BundleLedger.Proofs.Store.Amount
import BundleLedger.Proofs.Store.Transaction
import BundleLedger.Proofs.Store.View

/-!
# The stored records of an account

Replacing the records of an account leaves those of every other account alone (`entriesOf_replaceRecords_ne`)
and stores the new ones (`entriesOf_replaceRecords`). No constraint stands in the way of records of different
bundles (`exists_replaceRecords`). Listing gives them in the order of their ranks
(`listed_eq`). A stored record coincides with its record (`coincides_storedEntry`): field by field, amounts by
their values. A converted amount keeps its value if it was not converted or is below `2 ^ 33`; larger ones
are stored as the nearest number of the binary format.
-/

set_option autoImplicit false

namespace BundleLedger

open Result
open Database (stored storedAmount storedEntry entryRows listedBefore)

/-! ### Replacing and listing -/

/-- The stored records of an account. -/
def entriesOf (db : Database) (account : Uuid) : List EntryRow :=
  (stored db.entries).filter fun r ↦ r.entry.account = account

section Replacing

variable {db after : Database} {account : Uuid} {refreshed : Moment} {records : List BundleRecord}

theorem map_entry_entryRows (refreshed : Moment) (first : ℤ) (records : List BundleRecord) :
    (entryRows refreshed first records).map (·.entry) = records.map storedEntry := by
  induction records generalizing first with
  | nil => rfl
  | cons r rest ih => exact congrArg (storedEntry r :: ·) (ih (first + 1))

/-- Only the stored records change, and of these only those of the account. -/
theorem replaceRecords_eq_ok (h : db.replaceRecords account refreshed records = .ok after) :
    after = { db with entries := after.entries } ∧ db.entries.isSome = true ∧
      after.entries.isSome = true ∧ ∃ first, stored after.entries =
        (stored db.entries).filter (fun r ↦ r.entry.account ≠ account) ++
          entryRows refreshed first records := by
  unfold Database.replaceRecords at h
  obtain ⟨table, htable, h⟩ := bind_eq_ok_iff.1 h
  obtain ⟨entries, hentries, h⟩ := bind_eq_ok_iff.1 h
  obtain rfl := pure_eq_ok_iff.1 h
  cases hdb : db.entries with
  | none => simp [hdb, Database.existing] at htable
  | some rows =>
    obtain rfl : rows = table := by simpa [hdb, Database.existing] using htable
    exact ⟨rfl, rfl, rfl, Table.nextRecordId (rows.filter fun r ↦ r.entry.account ≠ account).rows,
      (Table.ofRows_eq_ok_iff _ _).1 hentries⟩

theorem entriesOf_replaceRecords_ne (h : db.replaceRecords account refreshed records = .ok after)
    (hrecords : ∀ r ∈ records, r.account = account) {other : Uuid} (hne : other ≠ account) :
    entriesOf after other = entriesOf db other := by
  obtain ⟨-, -, -, first, hrows⟩ := replaceRecords_eq_ok h
  have hnew : (entryRows refreshed first records).filter (fun r ↦ r.entry.account = other) = [] := by
    rw [List.filter_eq_nil_iff]
    intro row hrow
    have hentry : row.entry ∈ records.map storedEntry := by
      rw [← map_entry_entryRows refreshed first]
      exact List.mem_map_of_mem hrow
    obtain ⟨r, hr, hstored⟩ := List.mem_map.1 hentry
    rw [decide_eq_true_eq, ← hstored]
    exact fun heq ↦ hne (heq.symm.trans (hrecords r hr))
  unfold entriesOf
  rw [hrows, List.filter_append, hnew, List.append_nil, List.filter_filter]
  refine List.filter_congr fun row _ ↦ ?_
  by_cases hother : row.entry.account = other
  · simp [hother, hne]
  · simp [hother]

theorem entriesOf_replaceRecords (h : db.replaceRecords account refreshed records = .ok after)
    (hrecords : ∀ r ∈ records, r.account = account) :
    (entriesOf after account).map (·.entry) = records.map storedEntry := by
  obtain ⟨-, -, -, first, hrows⟩ := replaceRecords_eq_ok h
  have hkept : ((stored db.entries).filter fun r ↦ r.entry.account ≠ account).filter
      (fun r ↦ r.entry.account = account) = [] := by
    rw [List.filter_filter, List.filter_eq_nil_iff]
    intro row _
    simp
  have hnew : (entryRows refreshed first records).filter (fun r ↦ r.entry.account = account) =
      entryRows refreshed first records := by
    rw [List.filter_eq_self]
    intro row hrow
    have hentry : row.entry ∈ records.map storedEntry := by
      rw [← map_entry_entryRows refreshed first]
      exact List.mem_map_of_mem hrow
    obtain ⟨r, hr, hstored⟩ := List.mem_map.1 hentry
    rw [decide_eq_true_eq, ← hstored]
    exact hrecords r hr
  unfold entriesOf
  rw [hrows, List.filter_append, hkept, hnew, List.nil_append, map_entry_entryRows]

theorem le_recordId_of_mem_entryRows {refreshed : Moment} {first : ℤ} {records : List BundleRecord} {row : EntryRow}
    (h : row ∈ entryRows refreshed first records) : first ≤ row.recordId := by
  induction records generalizing first with
  | nil => simp [entryRows] at h
  | cons r rest ih =>
    rcases List.mem_cons.1 h with rfl | hrest
    · exact le_refl first
    · have hle := ih hrest
      omega

theorem nodup_recordId_entryRows (refreshed : Moment) (first : ℤ) (records : List BundleRecord) :
    ((entryRows refreshed first records).map (·.recordId)).Nodup := by
  induction records generalizing first with
  | nil => exact List.nodup_nil
  | cons r rest ih =>
    refine List.nodup_cons.2 ⟨fun hmem ↦ ?_, ih (first + 1)⟩
    obtain ⟨row, hrow, hnumber⟩ := List.mem_map.1 hmem
    have hle := le_recordId_of_mem_entryRows hrow
    dsimp only at hnumber
    omega

/-- New rows are numbered after all others. -/
theorem nodup_recordId_append {kept : List EntryRow} (h : (kept.map (·.recordId)).Nodup) :
    ((kept ++ entryRows refreshed (Table.nextRecordId kept) records).map (·.recordId)).Nodup := by
  rw [List.map_append]
  refine h.append (nodup_recordId_entryRows _ _ _) fun number hold hnew ↦ ?_
  obtain ⟨row, hrow, rfl⟩ := List.mem_map.1 hold
  obtain ⟨row', hrow', hsame⟩ := List.mem_map.1 hnew
  have hlt : row.recordId < Table.nextRecordId kept := Table.lt_nextRecordId hrow
  have hle := le_recordId_of_mem_entryRows hrow'
  omega

/-- New rows of one account and of different bundles collide neither with each other nor with rows of other
accounts. -/
theorem nodup_key_append {kept : List EntryRow} {first : ℤ} (h : (kept.map EntryRow.key).Nodup)
    (hkept : ∀ row ∈ kept, row.entry.account ≠ account) (hrecords : ∀ r ∈ records, r.account = account)
    (hnodup : (records.map (·.bundle)).Nodup) :
    ((kept ++ entryRows refreshed first records).map EntryRow.key).Nodup := by
  have hentries := map_entry_entryRows refreshed first records
  have hbundles : (entryRows refreshed first records).map (Prod.snd ∘ EntryRow.key) = records.map (·.bundle) := by
    have hmap := congrArg (List.map (·.bundle)) hentries
    rwa [List.map_map, List.map_map] at hmap
  have hnew : ((entryRows refreshed first records).map EntryRow.key).Nodup := by
    refine List.Nodup.of_map Prod.snd ?_
    rwa [List.map_map, hbundles]
  rw [List.map_append]
  refine h.append hnew fun key hold hadded ↦ ?_
  obtain ⟨row, hrow, rfl⟩ := List.mem_map.1 hold
  obtain ⟨row', hrow', hsame⟩ := List.mem_map.1 hadded
  obtain ⟨r, hr, hstored⟩ := List.mem_map.1 (hentries ▸ List.mem_map_of_mem hrow')
  have haccount : row'.entry.account = account := hstored ▸ hrecords r hr
  exact hkept row hrow ((congrArg Prod.fst hsame).symm.trans haccount)

/-- Records of one account and of different bundles can replace those of the account, whatever these are. -/
theorem exists_replaceRecords (hentries : db.entries.isSome = true) (hrecords : ∀ r ∈ records, r.account = account)
    (hnodup : (records.map (·.bundle)).Nodup) (refreshed : Moment) :
    ∃ after, db.replaceRecords account refreshed records = .ok after := by
  obtain ⟨table, htable⟩ := Option.isSome_iff_exists.1 hentries
  let kept := table.filter fun r ↦ r.entry.account ≠ account
  have hkept : ∀ row ∈ kept.rows, row.entry.account ≠ account := fun row hrow ↦
    of_decide_eq_true (List.mem_filter.1 hrow).2
  have hconsistent : Stored.Consistent
      (kept.rows ++ entryRows refreshed (Table.nextRecordId kept.rows) records) :=
    ⟨nodup_recordId_append kept.consistent.1, nodup_key_append kept.consistent.2 hkept hrecords hnodup⟩
  have hadded : kept.add (entryRows refreshed (Table.nextRecordId kept.rows) records) =
      .ok ⟨_, hconsistent⟩ := (Table.ofRows_eq_ok_iff _ _).2 rfl
  refine ⟨{ db with entries := some ⟨_, hconsistent⟩ }, ?_⟩
  unfold Database.replaceRecords
  rw [htable]
  change (kept.add _ >>= fun entries ↦ pure { db with entries := some entries }) = _
  rw [hadded]
  rfl

end Replacing

/-- The place of a stored record in lists. -/
def listKey (r : EntryRow) : ℤ ×ₗ ℕ :=
  toLex (r.entry.rank, r.entry.bundle.toNat)

theorem listedBefore_iff (a b : EntryRow) : listedBefore a b = true ↔ listKey a ≤ listKey b := by
  unfold listedBefore listKey
  rw [Prod.Lex.toLex_le_toLex]
  simp only [Bool.or_eq_true, Bool.and_eq_true, decide_eq_true_eq, beq_iff_eq]

theorem pairwise_listedBefore (rows : List EntryRow) :
    (rows.mergeSort listedBefore).Pairwise fun a b ↦ a.entry.rank ≤ b.entry.rank := by
  refine (Sorting.pairwise_mergeSort listedBefore_iff rows).imp fun {a b} hab ↦ ?_
  rcases (Prod.Lex.toLex_le_toLex ..).1 hab with hlt | ⟨heq, -⟩
  · exact hlt.le
  · exact heq.le

/-- Stored records of distinct ranks are listed in the order of the ranks. -/
theorem listed_eq {db : Database} {account : Uuid} {records : List BundleRecord}
    (hentries : db.entries.isSome = true)
    (hstored : ((entriesOf db account).map (·.entry)).Perm (records.map storedEntry))
    (hranks : records.Pairwise fun r r' ↦ r.rank < r'.rank) :
    ∃ listed, db.recordsOf account = .ok listed ∧ listed.Perm (entriesOf db account) ∧
      listed.map (·.entry) = records.map storedEntry := by
  obtain ⟨table, htable⟩ := Option.isSome_iff_exists.1 hentries
  have hperm := List.mergeSort_perm (entriesOf db account) listedBefore
  refine ⟨(entriesOf db account).mergeSort listedBefore, ?_, hperm, ?_⟩
  · simp only [Database.recordsOf, Database.rows, Database.existing, htable, entriesOf, stored]
    rfl
  · have hsorted : (((entriesOf db account).mergeSort listedBefore).map (·.entry)).Pairwise
        fun e e' ↦ e.rank ≤ e'.rank :=
      List.pairwise_map.2 (pairwise_listedBefore _)
    have hstrict : (records.map storedEntry).Pairwise fun e e' ↦ e.rank < e'.rank :=
      List.pairwise_map.2 hranks
    exact Sorting.eq_of_perm ((hperm.map (·.entry)).trans hstored) hsorted hstrict

/-! ### Records and their stored forms -/

/-- Whether an amount and a stored amount have one value. -/
def Keeps (d : Option Decimal) (x : Option Amount) : Prop :=
  (x.map Fixed.toDecimal).bind Decimal.value? = d.bind Decimal.value?

/-- Whether an amount has a size below `2 ^ 33`. -/
def IsSmall (d : Option Decimal) : Prop :=
  ∀ x ∈ d, ∀ value ∈ x.value?, |value| < 2 ^ 33

/-- Whether a stored record coincides with a record: field by field, amounts by their values. A converted
amount is stored as the nearest number; it has the same value if it is small, or the amount itself. -/
structure Coincides (r : BundleRecord) (e : Entry String Amount Moment String) : Prop where
  account : e.account = r.account
  accountRecordId : e.accountRecordId = r.accountRecordId
  accountExternalKey : e.accountExternalKey = r.accountExternalKey
  accountName : e.accountName = r.accountName
  bundle : e.bundle = r.bundle
  bundleRecordId : e.bundleRecordId = r.bundleRecordId
  bundleExternalKey : e.bundleExternalKey = r.bundleExternalKey
  subscription : e.subscription = r.subscription
  rank : e.rank = r.rank
  latestForExternalKey : e.latestForExternalKey = r.latestForExternalKey
  chargedThrough : e.chargedThrough = r.chargedThrough
  current : e.current =
    { r.current with
      productCategory := r.current.productCategory.map ProductCategory.text
      price := e.current.price
      mrr := e.current.mrr }
  price : Keeps r.current.price e.current.price
  mrr : Keeps r.current.mrr e.current.mrr
  convertedPrice : e.convertedPrice = storedAmount r.convertedPrice ∧
    (IsSmall r.convertedPrice ∨ r.convertedPrice = r.current.price → Keeps r.convertedPrice e.convertedPrice)
  convertedMrr : e.convertedMrr = storedAmount r.convertedMrr ∧
    (IsSmall r.convertedMrr ∨ r.convertedMrr = r.current.mrr → Keeps r.convertedMrr e.convertedMrr)
  convertedCurrency : e.convertedCurrency = r.convertedCurrency
  created : r.created = .naive e.created
  createdBy : e.createdBy = r.createdBy
  createdReasonCode : e.createdReasonCode = r.createdReasonCode
  createdComments : e.createdComments = r.createdComments
  tenantRecordId : e.tenantRecordId = r.tenantRecordId
  reportGroup : e.reportGroup = r.reportGroup.text

theorem keeps_storedAmount_iff {d : Option Decimal} :
    Keeps d (storedAmount d) ↔ ∀ x ∈ d, Fixed.storedValue? x = x.value? := by
  cases d with
  | none => simp [Keeps, storedAmount]
  | some x => simp [Keeps, storedAmount, Fixed.storedValue?]

/-- An amount that was read from a row keeps its value. -/
theorem keeps_read {x : Option Amount}
    (hfinite : ∀ d ∈ x.map Fixed.toDecimal, d.isFinite = true) :
    Keeps (x.map Fixed.toDecimal) (storedAmount (x.map Fixed.toDecimal)) := by
  rw [keeps_storedAmount_iff]
  intro d hd
  obtain ⟨amount, rfl, rfl⟩ := Option.map_eq_some_iff.1 hd
  exact Fixed.storedValue?_toDecimal amount (hfinite _ hd)

/-- A number with six digits after the point. -/
def HasSixPlaces : Decimal → Prop
  | .finite _ _ exponent => exponent = -6
  | .infinite _ | .notANumber .. => False

theorem keeps_small {d : Option Decimal} (hplaces : ∀ x ∈ d, HasSixPlaces x) (hsmall : IsSmall d) :
    Keeps d (storedAmount d) := by
  rw [keeps_storedAmount_iff]
  intro x hx
  have hexponent := hplaces x hx
  cases x with
  | finite negative c exponent =>
    obtain rfl : exponent = -6 := hexponent
    refine Fixed.storedValue?_of_lt ?_
    have hvalue := hsmall _ hx _ rfl
    have habs : |(if negative then (-1 : ℚ) else 1) * (c * 10 ^ (-6 : ℤ))| = c / 10 ^ 6 := by
      have hnonneg : (0 : ℚ) ≤ c * 10 ^ (-6 : ℤ) := by positivity
      rw [abs_mul, abs_of_nonneg hnonneg]
      cases negative <;> simp [div_eq_mul_inv, zpow_neg]
    rwa [habs] at hvalue
  | infinite negative => exact hexponent.elim
  | notANumber negative signaling payload => exact hexponent.elim

theorem hasSixPlaces_quantize {d x : Decimal} (h : Decimal.quantize Converter.places d = .ok x)
    (hfinite : x.isFinite = true) : HasSixPlaces x := by
  cases d with
  | finite negative c exponent =>
    unfold Decimal.quantize at h
    dsimp only at h
    split_ifs at h <;> (rw [Except.ok.injEq] at h; subst h; rfl)
  | infinite negative => simp [Decimal.quantize] at h
  | notANumber negative signaling payload =>
    cases signaling with
    | false =>
      rw [Decimal.quantize, Except.ok.injEq] at h
      subst h
      simp [Decimal.quiet, Decimal.isFinite] at hfinite
    | true => simp [Decimal.quantize] at h

/-- A converted amount is the amount itself or has six digits after the point. -/
theorem hasSixPlaces_convert {c : Converter} {amount converted : Option Decimal} {currency : Option String}
    {day : Option Date} (h : c.convert amount currency day = .ok converted)
    (hfinite : ∀ x ∈ converted, x.isFinite = true) :
    converted = amount ∨ ∀ x ∈ converted, HasSixPlaces x := by
  have hnone : Except.ok none = (.ok converted : Except Decimal.Fault (Option Decimal)) →
      ∀ x ∈ converted, HasSixPlaces x := by
    intro hconverted
    obtain rfl := Except.ok.inj hconverted
    simp
  unfold Converter.convert at h
  split at h
  · split_ifs at h
    · exact .inl (Except.ok.inj h).symm
    · right
      split at h
      · exact hnone h
      · split at h
        · exact hnone h
        · obtain ⟨x, hx, rfl⟩ := map_eq_ok_iff.1 h
          obtain ⟨product, hproduct, hquantized⟩ := bind_eq_ok_iff.1 hx
          intro y hy
          obtain rfl : x = y := by simpa using hy
          exact hasSixPlaces_quantize hquantized (hfinite x rfl)
  · exact .inr (hnone h)

/-- A converted amount keeps its value when it is small, or the amount itself. -/
theorem keeps_converted {c : Converter} {amount : Option Amount} {converted : Option Decimal}
    {currency : Option String} {day : Option Date}
    (h : c.convert (amount.map Fixed.toDecimal) currency day = .ok converted)
    (hfinite : ∀ x ∈ converted, x.isFinite = true)
    (hcase : IsSmall converted ∨ converted = amount.map Fixed.toDecimal) :
    Keeps converted (storedAmount converted) := by
  have hsame : converted = amount.map Fixed.toDecimal → Keeps converted (storedAmount converted) := by
    rintro rfl
    exact keeps_read hfinite
  rcases hcase with hsmall | heq
  · rcases hasSixPlaces_convert h hfinite with heq | hplaces
    · exact hsame heq
    · exact keeps_small hplaces hsmall
  · exact hsame heq

/-- The stored form of a record of the view coincides with the record. -/
theorem coincides_storedEntry {db : Database} {reference : String} {account : Uuid} {a : AccountRow}
    {b : BundleRow} {t : TransitionRow} {r : BundleRecord} (h : ViewOf db reference account a b t r) :
    Coincides r (storedEntry r) := by
  have hfinite := h.finite
  simp only [List.mem_cons, List.not_mem_nil, or_false, forall_eq_or_imp, forall_eq] at hfinite
  have hprice : r.current.price = t.next.price.map Fixed.toDecimal := congrArg PlanState.price h.current
  have hmrr : r.current.mrr = t.next.mrr.map Fixed.toDecimal := congrArg PlanState.mrr h.current
  have hconvertedPrice := h.convertedPrice
  have hconvertedMrr := h.convertedMrr
  rw [hprice] at hfinite hconvertedPrice
  rw [hmrr] at hfinite hconvertedMrr
  obtain ⟨hfinitePrice, hfiniteConvertedPrice, hfiniteMrr, hfiniteConvertedMrr⟩ := hfinite
  refine
    { account := rfl, accountRecordId := rfl, accountExternalKey := rfl, accountName := rfl, bundle := rfl
      bundleRecordId := rfl, bundleExternalKey := rfl, subscription := rfl, rank := rfl
      latestForExternalKey := rfl, chargedThrough := rfl, current := rfl, price := ?_, mrr := ?_
      convertedPrice := ⟨rfl, fun hcase ↦ ?_⟩, convertedMrr := ⟨rfl, fun hcase ↦ ?_⟩
      convertedCurrency := rfl, created := ?_, createdBy := rfl, createdReasonCode := rfl
      createdComments := rfl, tenantRecordId := rfl, reportGroup := rfl }
  · change Keeps r.current.price (storedAmount r.current.price)
    rw [hprice]
    exact keeps_read hfinitePrice
  · change Keeps r.current.mrr (storedAmount r.current.mrr)
    rw [hmrr]
    exact keeps_read hfiniteMrr
  · rw [hprice] at hcase
    exact keeps_converted hconvertedPrice hfiniteConvertedPrice hcase
  · rw [hmrr] at hcase
    exact keeps_converted hconvertedMrr hfiniteConvertedMrr hcase
  · change r.created = .naive r.created.moment
    rw [h.created]
    rfl

end BundleLedger
