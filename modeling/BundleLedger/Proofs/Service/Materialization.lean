import BundleLedger.Proofs.Service.Stored

/-!
# Refreshes materialize the view of the tables

Main statement: a refresh that returns has the view of the source tables as its records, and listing the
account's stored records gives rows that coincide with them one by one
(`Service.refresh_materializes`). Price and recurring revenue always keep their values. A converted amount
need not when it is large (`not_coincidesExactly_sample`), since the tables hold binary numbers.
-/

set_option autoImplicit false

namespace BundleLedger

open Result

/-! ### The rows of a refreshed account -/

/-- What a refresh that returns has made of the tables: its records are the view of the source tables, which
are as they were, and the account's stored records are listed in the same order and coincide with them. -/
structure Materializes (s : Service) (account : Uuid) (result : RefreshResult) (t : Service) : Prop where
  account_eq : result.account = account
  tables : t.database = { s.database with entries := t.database.entries }
  view : ∃ settings, s.settings = .ok settings ∧
    Materialized s.database settings.referenceCurrency account result.records
  listed : ∃ rows, t.database.recordsOf account = .ok rows ∧ rows.Perm (entriesOf t.database account) ∧
    List.Forall₂ (fun r row ↦ Coincides r row.entry) result.records rows

/-- Whether a stored record coincides with a record with all of its amounts. -/
def CoincidesExactly (r : BundleRecord) (e : Entry String Amount Moment String) : Prop :=
  Coincides r e ∧ Keeps r.convertedPrice e.convertedPrice ∧ Keeps r.convertedMrr e.convertedMrr

/-- The stored forms of the records of a view coincide with the records. -/
theorem Materialized.coincides {db : Database} {currency : String} {account : Uuid}
    {records : List BundleRecord} (h : Materialized db currency account records) {rows : List EntryRow}
    (hrows : rows.map (·.entry) = records.map Database.storedEntry) :
    List.Forall₂ (fun r row ↦ Coincides r row.entry) records rows := by
  have hpairs : List.Forall₂ (fun r row ↦ Database.storedEntry r = row.entry) records rows := by
    have heq : List.Forall₂ Eq (records.map Database.storedEntry) (rows.map (·.entry)) := by
      rw [hrows]
      exact List.forall₂_refl _
    rwa [List.forall₂_map_left_iff, List.forall₂_map_right_iff] at heq
  refine ((List.forall₂_and_left _ _).2 ⟨fun r hr ↦ h.view r hr, hpairs⟩).imp ?_
  rintro r row ⟨⟨a, b, t, hrecord⟩, hstored⟩
  rw [← hstored]
  exact coincides_storedEntry hrecord

/-- A refresh that returns materializes the view of the source tables. -/
theorem Service.refresh_materializes (account : Uuid) (given : Option String) (s t : Service)
    (result : RefreshResult) (h : Service.refresh account given s = (.ok result, t)) :
    Materializes s account result t := by
  have hdone := Service.refreshed h
  obtain ⟨settings, hsettings, hview⟩ := hdone.reference.materialized
  obtain ⟨rows, hlisted, hperm, hentries⟩ :=
    listed_eq hdone.exists_entries hdone.stored hview.pairwise_rank
  exact ⟨hdone.account_eq, hdone.evolves.tables, ⟨settings, hsettings, hview⟩,
    rows, hlisted, hperm, hview.coincides hentries⟩

/-! ### A price that is large once it is converted -/

namespace LargePrice

/-- An amount in units of its sixth decimal place. -/
def amount (units : ℕ) : Option Amount :=
  Fixed.ofDecimal? (.finite false units (-6))

def account : AccountRow := ⟨1, .ofNat 9, "account", none, some "USD", 1, .epoch⟩

def bundle (number : ℕ) : BundleRow :=
  ⟨number, .ofNat number, "bundle", .ofNat 9, 1, .epoch⟩

def subscription (number : ℕ) : SubscriptionRow :=
  ⟨number, .ofNat (10 * number), .ofNat number, .ofNat (10 * number), "BASE", some "BASE", none, .epoch⟩

def transition (recordId : ℤ) (number : ℕ) (currency : String) (price : ℕ) : TransitionRow :=
  ⟨recordId, .ofNat 9, .ofNat number, "bundle", .ofNat (10 * number), "CHANGE",
    ⟨none, none, some "BASE", none, none, none, none, amount price, none, some currency, none, none,
      some default, none⟩⟩

def audit (recordId : ℤ) (bundle : ℕ) (createdBy : String) : AuditRow :=
  ⟨recordId, 1, "BUNDLES", bundle, "INSERT", some createdBy, none, none, .epoch⟩

/-- A thousand dollars for one unit of the other currency. -/
def rate : RateRow :=
  ⟨1, "EUR", default, default, (Fixed.ofDecimal? (.finite false 1000 0)).getD default, "USD"⟩

/-- Two bundles, of which the second has the first transition and a price in the other currency. -/
def database : Database :=
  { Database.empty with
    accounts := some ⟨[account], by decide⟩
    bundles := some ⟨[bundle 1, bundle 2], by decide⟩
    subscriptions := some ⟨[subscription 1, subscription 2], by decide⟩
    audits := some ⟨[audit 2 1 "later", audit 1 1 "first"], by decide⟩
    transitions := some ⟨[transition 2 1 "USD" 9950000, transition 1 2 "EUR" 12345678123456], by decide⟩
    rates := some ⟨[rate], by decide⟩ }

def service : Service :=
  { Service.start 0 with database }

/-- What a record shows of its bundle, of its creation and of its converted price. -/
def shown (r : BundleRecord) : ℕ × ℤ × Option String × Option Decimal :=
  (r.bundle.toNat, r.rank, r.createdBy, r.convertedPrice)

/-- The refresh of the account returns; the large price is read back with another last digit. -/
theorem exists_refresh :
    ∃ result t rows, Service.refresh (.ofNat 9) none service = (.ok result, t) ∧
      t.database.recordsOf (.ofNat 9) = .ok rows ∧
      result.records.map shown =
        [(2, 1, none, some (.finite false 12345678123456000 (-6))),
          (1, 2, some "first", some (.finite false 9950000 (-6)))] ∧
      rows.map (fun row ↦ row.entry.convertedPrice.map Fixed.toDecimal) =
        [some (.finite false 12345678123455999 (-6)), some (.finite false 9950000 (-6))] := by
  have hevaluated :
      ((Service.refresh (.ofNat 9) none service).1.toOption.map fun result ↦ result.records.map shown) =
        some [(2, 1, none, some (.finite false 12345678123456000 (-6))),
          (1, 2, some "first", some (.finite false 9950000 (-6)))] ∧
      (((Service.refresh (.ofNat 9) none service).2.database.recordsOf (.ofNat 9)).toOption.map fun rows ↦
          rows.map fun row ↦ row.entry.convertedPrice.map Fixed.toDecimal) =
        some [some (.finite false 12345678123455999 (-6)), some (.finite false 9950000 (-6))] := by
    unfold Service.refresh Refresh.run Refresh.runWith Refresh.work Refresh.build Source.transitions
      Database.transitionsOf Source.context Source.latestBundle Database.latestBundle? Database.bundlesOf
      Database.bundleRowsOf Database.bundleOf Source.creationAudit Source.creationsOr Database.creationsOf
      Database.recordsOf
    simp only [Sorting.mergeSort_eq_insertionSort happensBefore_iff,
      Sorting.mergeSort_eq_insertionSort listedBefore_iff, Database.inOrder_eq_insertionSort,
      Refresh.byRank_eq_insertionSort]
    constructor
    · decide +kernel
    · decide +kernel
  obtain ⟨hrecords, hrows⟩ := hevaluated
  obtain ⟨result, t, h, hshown⟩ := Service.exists_refresh hrecords
  rw [h] at hrows
  obtain ⟨rows, hlisted, hread⟩ := Option.map_eq_some_iff.1 hrows
  exact ⟨result, t, rows, h, toOption_eq_some_iff.1 hlisted, hshown, hread⟩

end LargePrice

/-- The refresh materializes the view for the two bundles, in the order of their first transitions. -/
theorem refresh_materializes_sample :
    ∃ result t, Service.refresh (.ofNat 9) none LargePrice.service = (.ok result, t) ∧
      result.records.map LargePrice.shown =
        [(2, 1, none, some (.finite false 12345678123456000 (-6))),
          (1, 2, some "first", some (.finite false 9950000 (-6)))] ∧
      Materializes LargePrice.service (.ofNat 9) result t := by
  obtain ⟨result, t, rows, h, -, hshown, -⟩ := LargePrice.exists_refresh
  exact ⟨result, t, h, hshown, Service.refresh_materializes _ _ _ _ _ h⟩

/-- Records and rows need not coincide with all of their amounts. -/
theorem not_coincidesExactly_sample :
    ∃ result t rows, Service.refresh (.ofNat 9) none LargePrice.service = (.ok result, t) ∧
      t.database.recordsOf (.ofNat 9) = .ok rows ∧
      ¬ List.Forall₂ (fun r row ↦ CoincidesExactly r row.entry) result.records rows := by
  obtain ⟨result, t, rows, h, hlisted, hshown, hread⟩ := LargePrice.exists_refresh
  refine ⟨result, t, rows, h, hlisted, fun hall ↦ ?_⟩
  obtain ⟨account, records⟩ := result
  cases hall with
  | nil => simp at hshown
  | cons hfirst hrest =>
    rename_i r row records rows
    have hprice : r.convertedPrice = some (.finite false 12345678123456000 (-6)) :=
      congrArg (·.2.2.2) (List.cons.inj hshown).1
    have hstored : row.entry.convertedPrice.map Fixed.toDecimal =
        some (.finite false 12345678123455999 (-6)) := (List.cons.inj hread).1
    have hkeeps : Keeps r.convertedPrice row.entry.convertedPrice := hfirst.2.1
    rw [Keeps, hstored, hprice] at hkeeps
    norm_num [Decimal.value?] at hkeeps

end BundleLedger
