import BundleLedger.Proofs.Service.Materialization

/-!
# Ranks under new history

Bundles are ranked by their first base transitions, which later transitions do not move. So if an account gets further
transitions that all come after its earlier ones in the order of events (`Database.ExtendedBy`), the bundles that it
had records of keep their ranks, and those that get their first base transition are ranked behind them in the order of
these (`Service.ranks_continue`).
-/

set_option autoImplicit false

namespace BundleLedger

open Result
open Database (stored)

/-! ### The first base transitions of bundles -/

/-- Whether the first base transition of a bundle comes before that of another in the order of events. -/
def FirstBefore (db : Database) (account id other : Uuid) : Prop :=
  ∃ key key', IsLeast (eventKeys db account id) key ∧ IsLeast (eventKeys db account other) key' ∧ key < key'

theorem FirstBefore.asymm {db : Database} {account id other : Uuid} (h : FirstBefore db account id other) :
    ¬FirstBefore db account other id := by
  rintro ⟨other', id', hother', hid', hgt⟩
  obtain ⟨key, key', hkey, hkey', hlt⟩ := h
  rw [hother'.unique hkey', hid'.unique hkey] at hgt
  exact lt_asymm hlt hgt

/-- Lists of the same bundles are equal if both are in the order of the first base transitions. -/
theorem eq_of_pairwise_firstBefore {db : Database} {account : Uuid} {ids others : List Uuid}
    (hids : ids.Nodup) (hothers : others.Nodup) (hmem : ∀ id, id ∈ ids ↔ id ∈ others)
    (h : ids.Pairwise (FirstBefore db account)) (h' : others.Pairwise (FirstBefore db account)) : ids = others := by
  have hperm : ids.Perm others := (List.perm_ext_iff_of_nodup hids hothers).2 hmem
  apply hperm.eq_of_pairwise _ h h'
  intro id other _ _ hbefore hafter
  exact absurd hafter hbefore.asymm

/-! ### Longer histories -/

/-- Whether a database has further transitions, of which those of an account come after all that it had; its
bundles and subscriptions are as before. -/
structure Database.ExtendedBy (before after : Database) (account : Uuid) (added : List TransitionRow) : Prop where
  bundles : stored after.bundles = stored before.bundles
  subscriptions : stored after.subscriptions = stored before.subscriptions
  transitions : (stored after.transitions).Perm (stored before.transitions ++ added)
  later : ∀ t ∈ stored before.transitions, t.account = account → ∀ u ∈ added, u.account = account →
    eventKey t < eventKey u

namespace Database.ExtendedBy

variable {before after : Database} {account id other : Uuid} {added : List TransitionRow} {t : TransitionRow}

theorem isBaseTransition (h : before.ExtendedBy after account added) (ht : IsBaseTransition before account t) :
    IsBaseTransition after account t := by
  obtain ⟨hmem, haccount, hbase⟩ := ht
  refine ⟨h.transitions.mem_iff.2 (List.mem_append_left _ hmem), haccount, ?_⟩
  rw [h.bundles, h.subscriptions]
  exact hbase

theorem old_or_added (h : before.ExtendedBy after account added) (ht : IsBaseTransition after account t) :
    IsBaseTransition before account t ∨ t ∈ added := by
  obtain ⟨hmem, haccount, hbase⟩ := ht
  rw [h.bundles, h.subscriptions] at hbase
  rcases List.mem_append.1 (h.transitions.mem_iff.1 hmem) with hold | hnew
  · exact .inl ⟨hold, haccount, hbase⟩
  · exact .inr hnew

/-- Later transitions do not move the first base transition of a bundle. -/
theorem isLeast (h : before.ExtendedBy after account added) {key : WithBot ℕ ×ₗ ℤ}
    (hleast : IsLeast (eventKeys before account id) key) : IsLeast (eventKeys after account id) key := by
  obtain ⟨⟨t, ht, hid, rfl⟩, hle⟩ := hleast
  refine ⟨⟨t, h.isBaseTransition ht, hid, rfl⟩, ?_⟩
  rintro _ ⟨u, hu, hbundle, rfl⟩
  rcases h.old_or_added hu with hold | hnew
  · exact hle ⟨u, hold, hbundle, rfl⟩
  · exact (h.later t ht.1 ht.2.1 u hnew hu.2.1).le

theorem firstBefore (h : before.ExtendedBy after account added) (hbefore : FirstBefore before account id other) :
    FirstBefore after account id other := by
  obtain ⟨key, key', hkey, hkey', hlt⟩ := hbefore
  exact ⟨key, key', h.isLeast hkey, h.isLeast hkey', hlt⟩

/-- A bundle that had a base transition comes before one that had none. -/
theorem firstBefore_of_new (h : before.ExtendedBy after account added) {key key' : WithBot ℕ ×ₗ ℤ}
    (hkey : IsLeast (eventKeys before account id) key) (hkey' : IsLeast (eventKeys after account other) key')
    (hnone : ¬∃ t, IsBaseTransition before account t ∧ t.bundle = other) : FirstBefore after account id other := by
  refine ⟨key, key', h.isLeast hkey, hkey', ?_⟩
  obtain ⟨⟨t, ht, -, rfl⟩, -⟩ := hkey
  obtain ⟨⟨u, hu, hbundle, rfl⟩, -⟩ := hkey'
  rcases h.old_or_added hu with hold | hnew
  · exact absurd ⟨u, hold, hbundle⟩ hnone
  · exact h.later t ht.1 ht.2.1 u hnew hu.2.1

end Database.ExtendedBy

/-! ### The places of records -/

/-- A bundle with its rank. -/
def Entry.place {Category Amount Instant Group : Type} (e : Entry Category Amount Instant Group) : Uuid × ℤ :=
  (e.bundle, e.rank)

/-- Stored records show the places of the records that they are the stored forms of. -/
theorem places_of_stored {rows : List EntryRow} {records : List BundleRecord}
    (h : rows.map (·.entry) = records.map Database.storedEntry) :
    (rows.map fun row ↦ row.entry.place) = records.map Entry.place := by
  have hplaces := congrArg (List.map Entry.place) h
  rw [List.map_map, List.map_map] at hplaces
  exact hplaces

/-- Whether bundles with their ranks are followed by fresh bundles, with the next ranks in the order of their first
base transitions. -/
structure RanksContinue (db : Database) (account : Uuid) (places places' : List (Uuid × ℤ)) (fresh : List Uuid) :
    Prop where
  appended : places' = places ++ fresh.mapIdx fun index id ↦ (id, ((places.length + index + 1 : ℕ) : ℤ))
  mem_iff : ∀ id, id ∈ fresh ↔ id ∈ places'.map Prod.fst ∧ id ∉ places.map Prod.fst
  order : fresh.Pairwise (FirstBefore db account)

namespace Materialized

variable {db before after : Database} {currency currency' : String} {account : Uuid}
  {records records' : List BundleRecord} {added : List TransitionRow}

theorem exists_first (h : Materialized db currency account records) {id : Uuid}
    (hid : id ∈ records.map (·.bundle)) : ∃ key, IsLeast (eventKeys db account id) key := by
  obtain ⟨r, hr, rfl⟩ := List.mem_map.1 hid
  obtain ⟨key, -, hkey, -⟩ := h.order r hr r hr
  exact ⟨key, hkey⟩

theorem pairwise_firstBefore (h : Materialized db currency account records) :
    (records.map (·.bundle)).Pairwise (FirstBefore db account) := by
  rw [List.pairwise_map]
  apply h.pairwise_rank.imp_of_mem
  intro r r' hr hr' hlt
  obtain ⟨key, key', hkey, hkey', hiff⟩ := h.order r hr r' hr'
  exact ⟨key, key', hkey, hkey', hiff.1 hlt⟩

/-- The bundles of a view are ranked by their places in the list. -/
theorem places_eq (h : Materialized db currency account records) :
    records.map Entry.place =
      (records.map (·.bundle)).mapIdx fun index id ↦ (id, ((index + 1 : ℕ) : ℤ)) := by
  refine List.ext_getElem? fun index ↦ ?_
  have hrank := congrArg (fun ranks : List ℤ ↦ ranks[index]?) h.ranks
  rw [List.getElem?_mapIdx, List.getElem?_map, List.getElem?_map]
  cases hr : records[index]? with
  | none => rfl
  | some r =>
    have hindex : index < records.length := (List.getElem?_eq_some_iff.1 hr).1
    simp only [List.getElem?_map, hr, List.getElem?_range hindex, Option.map_some, Option.some.injEq] at hrank
    simp only [Option.map_some, Entry.place, hrank]

/-- The bundles of a view after further history are those of the view before, and the fresh ones behind them. -/
theorem exists_fresh (h : Materialized before currency account records)
    (h' : Materialized after currency' account records') (hextended : before.ExtendedBy after account added) :
    ∃ fresh, records'.map (·.bundle) = records.map (·.bundle) ++ fresh ∧
      (∀ id ∈ fresh, id ∉ records.map (·.bundle)) ∧ fresh.Pairwise (FirstBefore after account) := by
  let fresh := (records'.map (·.bundle)).filter fun id ↦ id ∉ records.map (·.bundle)
  have hfresh : ∀ id, id ∈ fresh ↔ id ∈ records'.map (·.bundle) ∧ id ∉ records.map (·.bundle) := by
    intro id
    rw [List.mem_filter, decide_eq_true_eq]
  have hkept : ∀ id ∈ records.map (·.bundle), id ∈ records'.map (·.bundle) := by
    intro id hid
    obtain ⟨t, ht, hbundle⟩ := (h.bundles id).1 hid
    exact (h'.bundles id).2 ⟨t, hextended.isBaseTransition ht, hbundle⟩
  have horder : fresh.Pairwise (FirstBefore after account) := h'.pairwise_firstBefore.filter _
  refine ⟨fresh, ?_, fun id hid ↦ ((hfresh id).1 hid).2, horder⟩
  refine eq_of_pairwise_firstBefore h'.nodup ?_ ?_ h'.pairwise_firstBefore ?_
  · refine h.nodup.append (h'.nodup.filter _) ?_
    intro id hid hnew
    exact ((hfresh id).1 hnew).2 hid
  · intro id
    rw [List.mem_append, hfresh]
    by_cases hid : id ∈ records.map (·.bundle)
    · simp only [hid, hkept id hid, true_or]
    · simp only [hid, not_false_eq_true, and_true, false_or]
  · rw [List.pairwise_append]
    refine ⟨h.pairwise_firstBefore.imp hextended.firstBefore, horder, ?_⟩
    intro id hid other hother
    obtain ⟨hother, hnew⟩ := (hfresh other).1 hother
    obtain ⟨key, hkey⟩ := h.exists_first hid
    obtain ⟨key', hkey'⟩ := h'.exists_first hother
    exact hextended.firstBefore_of_new hkey hkey' (mt (h.bundles other).2 hnew)

theorem ranksContinue (h : Materialized before currency account records)
    (h' : Materialized after currency' account records') (hextended : before.ExtendedBy after account added) :
    ∃ fresh, RanksContinue after account (records.map Entry.place) (records'.map Entry.place) fresh := by
  obtain ⟨fresh, happended, hnew, horder⟩ := h.exists_fresh h' hextended
  refine ⟨fresh, ?_, ?_, horder⟩
  · rw [h'.places_eq, happended, List.mapIdx_append, ← h.places_eq]
    simp only [List.length_map, Nat.add_comm, Nat.add_assoc]
  · intro id
    rw [List.map_map, List.map_map]
    change id ∈ fresh ↔ id ∈ records'.map (·.bundle) ∧ id ∉ records.map (·.bundle)
    rw [happended, List.mem_append]
    constructor
    · intro hid
      exact ⟨.inr hid, hnew id hid⟩
    · rintro ⟨hid | hid, hnot⟩
      · exact absurd hid hnot
      · exact hid

end Materialized

/-- If an account gets transitions that come after all that it had, then a refresh leaves the ranks of the bundles
that an earlier refresh had records of, and gives the next ranks to the others in the order of their first base
transitions: among the records that are returned and among those that are stored. -/
theorem Service.ranks_continue (account : Uuid) (given given' : Option String) (s s' t t' : Service)
    (result result' : RefreshResult) (added : List TransitionRow)
    (hextended : s.database.ExtendedBy s'.database account added)
    (h : Service.refresh account given s = (.ok result, t))
    (h' : Service.refresh account given' s' = (.ok result', t')) :
    ∃ fresh rows rows',
      RanksContinue s'.database account (result.records.map Entry.place) (result'.records.map Entry.place) fresh ∧
        t.database.recordsOf account = .ok rows ∧ t'.database.recordsOf account = .ok rows' ∧
        RanksContinue s'.database account (rows.map fun row ↦ row.entry.place)
          (rows'.map fun row ↦ row.entry.place) fresh := by
  have hdone := Service.refreshed h
  have hdone' := Service.refreshed h'
  obtain ⟨settings, -, hview⟩ := hdone.reference.materialized
  obtain ⟨settings', -, hview'⟩ := hdone'.reference.materialized
  obtain ⟨fresh, hcontinue⟩ := hview.ranksContinue hview' hextended
  obtain ⟨rows, hlisted, -, hentries⟩ := listed_eq hdone.exists_entries hdone.stored hview.pairwise_rank
  obtain ⟨rows', hlisted', -, hentries'⟩ := listed_eq hdone'.exists_entries hdone'.stored hview'.pairwise_rank
  refine ⟨fresh, rows, rows', hcontinue, hlisted, hlisted', ?_⟩
  rw [places_of_stored hentries, places_of_stored hentries']
  exact hcontinue

namespace LaterHistory

open LargePrice (bundle subscription transition)

/-- Four bundles of one account, of which the first two have a transition each. -/
def before : Service :=
  { Service.start 0 with
    database :=
      { LargePrice.database with
        bundles := some ⟨[bundle 1, bundle 2, bundle 3, bundle 4], by decide⟩
        subscriptions := some ⟨[subscription 1, subscription 2, subscription 3, subscription 4], by decide⟩ } }

/-- Later transitions: of the second bundle another one, and the first of the other two bundles. -/
def added : List TransitionRow :=
  [transition 5 3 "USD" 1, transition 4 4 "USD" 1, transition 3 2 "USD" 1]

def after : Service :=
  { before with
    database :=
      { before.database with
        transitions := some ⟨stored before.database.transitions ++ added, by decide⟩ } }

theorem extendedBy : before.database.ExtendedBy after.database (.ofNat 9) added where
  bundles := rfl
  subscriptions := rfl
  transitions := .refl _
  later := by
    have hlater : ∀ t ∈ stored before.database.transitions, ∀ u ∈ added, ¬Database.happensBefore u t = true := by
      decide
    intro t ht _ u hu _
    rw [← not_le, ← happensBefore_iff]
    exact hlater t ht u hu

/-- The bundles of the records that a refresh returns, with their ranks. -/
def refreshedPlaces (s : Service) : Option (List (Uuid × ℤ)) :=
  (Service.refresh (.ofNat 9) none s).1.toOption.map fun result ↦ result.records.map Entry.place

theorem refreshedPlaces_eq :
    refreshedPlaces before = some [(.ofNat 2, 1), (.ofNat 1, 2)] ∧
      refreshedPlaces after = some [(.ofNat 2, 1), (.ofNat 1, 2), (.ofNat 4, 3), (.ofNat 3, 4)] := by
  unfold refreshedPlaces Service.refresh Refresh.run Refresh.runWith Refresh.work Refresh.build Source.transitions
    Database.transitionsOf Source.context Source.latestBundle Database.latestBundle? Database.bundlesOf
    Database.bundleRowsOf Database.bundleOf Source.creationAudit Source.creationsOr Database.creationsOf
  simp only [Sorting.mergeSort_eq_insertionSort happensBefore_iff, Database.inOrder_eq_insertionSort,
    Refresh.byRank_eq_insertionSort]
  constructor
  · decide +kernel
  · decide +kernel

end LaterHistory

/-- Two bundles keep their ranks, and two others get the next ones in the order of their first transitions. -/
theorem Service.ranks_continue_sample :
    LaterHistory.before.database.ExtendedBy LaterHistory.after.database (.ofNat 9) LaterHistory.added ∧
      ∃ result result' t t' fresh, Service.refresh (.ofNat 9) none LaterHistory.before = (.ok result, t) ∧
        Service.refresh (.ofNat 9) none LaterHistory.after = (.ok result', t') ∧
        result.records.map Entry.place = [(.ofNat 2, 1), (.ofNat 1, 2)] ∧
        result'.records.map Entry.place = [(.ofNat 2, 1), (.ofNat 1, 2), (.ofNat 4, 3), (.ofNat 3, 4)] ∧
        RanksContinue LaterHistory.after.database (.ofNat 9) (result.records.map Entry.place)
          (result'.records.map Entry.place) fresh := by
  obtain ⟨result, t, h, hplaces⟩ := Service.exists_refresh LaterHistory.refreshedPlaces_eq.1
  obtain ⟨result', t', h', hplaces'⟩ := Service.exists_refresh LaterHistory.refreshedPlaces_eq.2
  obtain ⟨fresh, -, -, hcontinue, -⟩ := Service.ranks_continue (.ofNat 9) none none LaterHistory.before
    LaterHistory.after t t' result result' LaterHistory.added LaterHistory.extendedBy h h'
  exact ⟨LaterHistory.extendedBy, result, result', t, t', fresh, h, h', hplaces, hplaces', hcontinue⟩

end BundleLedger
