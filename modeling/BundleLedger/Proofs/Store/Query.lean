import BundleLedger.Proofs.Result
import BundleLedger.Proofs.Sorting
import BundleLedger.Store.Source
import Mathlib.Data.Prod.Lex
import Mathlib.Order.WithBot

/-!
# What queries find

Each query in terms of the rows that the tables hold: the rows of an account, the first row in the order of
record numbers, the newest of some bundles (`newest_eq_some`), the bundles with their subscriptions
(`bundlesOf_eq_ok`), and the answers of a fresh source.
-/

set_option autoImplicit false

namespace BundleLedger

open Result

namespace Database

/-- The only row of which a condition holds is found. -/
theorem find?_eq_some_of_unique {Row : Type} {rs : List Row} {q : Row → Bool} {r : Row} (hr : r ∈ rs)
    (hq : q r = true) (hunique : ∀ s ∈ rs, q s = true → s = r) : rs.find? q = some r := by
  cases hfind : rs.find? q with
  | none => exact absurd hq (List.find?_eq_none.1 hfind r hr)
  | some s => rw [hunique s (List.mem_of_find?_eq_some hfind) (List.find?_some hfind)]

/-! ### Rows -/

section Rows

variable {Row : Type} [Stored Row]

/-- The rows of a table; a dropped table has none. -/
def stored (t : Option (Table Row)) : List Row :=
  match t with
  | some t => t.rows
  | none => []

theorem consistent_stored (t : Option (Table Row)) : Stored.Consistent (stored t) := by
  cases t with
  | none => exact Stored.nil
  | some t => exact t.consistent

theorem rows_eq_ok {t : Option (Table Row)} {rs : List Row} (h : rows t = .ok rs) : stored t = rs := by
  cases t with
  | none => simp [rows, existing, Except.map] at h
  | some t => exact Except.ok.inj h

theorem query_eq_ok {t : Option (Table Row)} {rs : List Row} (h : query t = .ok rs) : stored t = rs :=
  rows_eq_ok (mapError_eq_ok_iff.1 h)

theorem query_eq_ok_iff {t : Option (Table Row)} {rs : List Row} :
    query t = .ok rs ↔ t.isSome = true ∧ stored t = rs := by
  cases t <;> simp [query, rows, existing, stored, Except.map, Except.mapError]

theorem mem_inOrder {rs : List Row} {r : Row} : r ∈ inOrder rs ↔ r ∈ rs :=
  List.mem_mergeSort

theorem pairwise_inOrder (rs : List Row) :
    (inOrder rs).Pairwise fun a b ↦ Stored.recordId a ≤ Stored.recordId b :=
  Sorting.pairwise_mergeSort (fun _ _ ↦ decide_eq_true_iff) rs

theorem inOrder_eq_insertionSort (rs : List Row) :
    inOrder rs = rs.insertionSort fun a b ↦ decide (Stored.recordId a ≤ Stored.recordId b) = true :=
  Sorting.mergeSort_eq_insertionSort (fun _ _ ↦ decide_eq_true_iff) rs

/-- The first of the rows in order that a condition holds of has the smallest record number of them. -/
theorem find?_inOrder {rs : List Row} {p : Row → Bool} {r : Row} (h : (inOrder rs).find? p = some r) :
    r ∈ rs ∧ p r = true ∧ ∀ s ∈ rs, p s = true → Stored.recordId r ≤ Stored.recordId s := by
  obtain ⟨hp, before, after, hsplit, hbefore⟩ := List.find?_eq_some_iff_append.1 h
  have hsorted := pairwise_inOrder rs
  rw [hsplit, List.pairwise_append, List.pairwise_cons] at hsorted
  refine ⟨mem_inOrder.1 (List.mem_of_find?_eq_some h), hp, fun s hs hps ↦ ?_⟩
  have hs' : s ∈ before ++ r :: after := hsplit ▸ mem_inOrder.2 hs
  rcases List.mem_append.1 hs' with hs' | hs'
  · have hnot := hbefore s hs'
    simp [hps] at hnot
  · rcases List.mem_cons.1 hs' with rfl | hs'
    · exact le_refl _
    · exact hsorted.2.1.1 s hs'

/-- Rows without a repeated record number are in strict order. -/
theorem pairwise_lt_inOrder {rs : List Row} (h : (rs.map Stored.recordId).Nodup) :
    (inOrder rs).Pairwise fun a b ↦ Stored.recordId a < Stored.recordId b := by
  have hnodup : ((inOrder rs).map Stored.recordId).Nodup := ((List.mergeSort_perm _ _).map _).nodup_iff.2 h
  exact (pairwise_inOrder rs).imp₂ (fun a b hle hne ↦ lt_of_le_of_ne hle hne) (List.pairwise_map.1 hnodup)

/-- The order does not depend on how the rows are arranged. -/
theorem inOrder_eq_of_perm {rs rs' : List Row} (h : rs.Perm rs') (hnodup : (rs'.map Stored.recordId).Nodup) :
    inOrder rs = inOrder rs' :=
  Sorting.eq_of_perm (((List.mergeSort_perm _ _).trans h).trans (List.mergeSort_perm _ _).symm)
    (pairwise_inOrder rs) (pairwise_lt_inOrder hnodup)

/-- Some of the rows are in the order in which they are among all. -/
theorem inOrder_filter {rs : List Row} (h : (rs.map Stored.recordId).Nodup) (p : Row → Bool) :
    inOrder (rs.filter p) = (inOrder rs).filter p :=
  Sorting.eq_of_perm ((List.mergeSort_perm _ _).trans ((List.mergeSort_perm _ _).filter p).symm)
    (pairwise_inOrder _) ((pairwise_lt_inOrder h).filter p)

theorem find?_inOrder_eq_none {rs : List Row} {p : Row → Bool} (h : (inOrder rs).find? p = none) :
    ∀ s ∈ rs, ¬ p s = true := fun s hs ↦
  List.find?_eq_none.1 h s (mem_inOrder.2 hs)

end Rows

/-- A bundle is found by its identifier, which no other has. -/
theorem find?_bundle {db : Database} {b : BundleRow} (hb : b ∈ stored db.bundles) :
    (stored db.bundles).find? (fun r ↦ r.id = b.id) = some b := by
  refine find?_eq_some_of_unique hb (decide_eq_true rfl) fun s hs hid ↦ ?_
  exact List.inj_on_of_nodup_map (consistent_stored db.bundles).2 hs hb (of_decide_eq_true hid)

/-! ### The newest bundle -/

/-- The place of a bundle in the order of creation: by its time, then by its record number. -/
def creationKey (b : BundleRow) : ℕ ×ₗ ℤ :=
  toLex (b.created.rank, b.recordId)

theorem notNewer_iff (a b : BundleRow) : notNewer a b = true ↔ creationKey a ≤ creationKey b := by
  unfold notNewer creationKey
  rw [Prod.Lex.toLex_le_toLex]
  simp only [Bool.or_eq_true, Bool.and_eq_true, decide_eq_true_eq]
  refine or_congr Iff.rfl (and_congr_left fun _ ↦ ?_)
  exact ⟨fun h ↦ h ▸ rfl, Moment.rank_injective⟩

theorem newest_eq_none {rs : List BundleRow} (h : newest rs = none) : rs = [] := by
  cases rs with
  | nil => rfl
  | cons first rest =>
    unfold newest at h
    split at h
    · simp at h
    · split at h <;> simp at h

/-- The newest of some bundles has the greatest key of them. -/
theorem newest_eq_some {rs : List BundleRow} {r : BundleRow} (h : newest rs = some r) :
    r ∈ rs ∧ ∀ s ∈ rs, creationKey s ≤ creationKey r := by
  induction rs generalizing r with
  | nil => simp [newest] at h
  | cons first rest ih =>
    unfold newest at h
    cases hrest : newest rest with
    | none =>
      have hnil := newest_eq_none hrest
      simp only [hrest, Option.some.injEq] at h
      subst hnil h
      simp
    | some s =>
      obtain ⟨hs, hle⟩ := ih hrest
      simp only [hrest] at h
      split_ifs at h with hnewer
      · obtain rfl : s = r := by simpa using h
        refine ⟨List.mem_cons_of_mem _ hs, fun x hx ↦ ?_⟩
        rcases List.mem_cons.1 hx with rfl | hx
        · exact (notNewer_iff _ _).1 hnewer
        · exact hle x hx
      · obtain rfl : first = r := by simpa using h
        refine ⟨List.mem_cons_self, fun x hx ↦ ?_⟩
        rcases List.mem_cons.1 hx with rfl | hx
        · exact le_refl _
        · rw [notNewer_iff, not_le] at hnewer
          exact (hle x hx).trans hnewer.le

/-! ### Bundles -/

/-- Whether a bundle is the snapshot of a row and its subscriptions. -/
structure IsSnapshot (db : Database) (row : BundleRow) (b : Bundle) : Prop where
  id : b.id = row.id
  externalKey : b.externalKey = row.externalKey
  account : b.account = row.account
  created : b.created = .naive row.created
  subscriptions : List.Forall₂ (fun s subscription ↦ SubscriptionRow.snapshot s = .ok subscription)
    (inOrder ((stored db.subscriptions).filter fun s ↦ s.bundle = row.id)) b.subscriptions

theorem bundleOf_eq_ok_iff {db : Database} {row : BundleRow} {b : Bundle} :
    bundleOf (stored db.subscriptions) row = .ok b ↔ IsSnapshot db row b := by
  unfold bundleOf
  simp only [bind_eq_ok_iff, pure_eq_ok_iff, mapM_eq_ok_iff]
  constructor
  · rintro ⟨subscriptions, h, rfl⟩
    exact ⟨rfl, rfl, rfl, rfl, h⟩
  · rintro ⟨hid, hkey, haccount, hcreated, h⟩
    cases b
    subst hid hkey haccount hcreated
    exact ⟨_, h, rfl⟩

/-- The bundles of an account are the snapshots of its rows in the order of their record numbers. -/
theorem bundlesOf_eq_ok {db : Database} {account : Uuid} {bundles : List Bundle}
    (h : db.bundlesOf account = .ok bundles) :
    List.Forall₂ (IsSnapshot db)
      (inOrder ((stored db.bundles).filter fun r ↦ r.account = account)) bundles := by
  unfold bundlesOf bundleRowsOf at h
  simp only [bind_eq_ok_iff, pure_eq_ok_iff] at h
  obtain ⟨rs, ⟨rows, hrows, rfl⟩, h⟩ := h
  rw [← query_eq_ok hrows] at h
  split at h
  · rename_i hnil
    obtain rfl := pure_eq_ok_iff.1 h
    rw [hnil]
    exact .nil
  · obtain ⟨subscriptions, hsubscriptions, h⟩ := bind_eq_ok_iff.1 h
    rw [← query_eq_ok hsubscriptions] at h
    exact (mapM_eq_ok_iff.1 h).imp fun _ _ ↦ bundleOf_eq_ok_iff.1

theorem snapshot_eq_ok {s : SubscriptionRow} {subscription : Subscription}
    (h : SubscriptionRow.snapshot s = .ok subscription) :
    subscription.baseEntitlement = s.baseEntitlement ∧ subscription.chargedThrough = s.chargedThrough ∧
      (subscription.lastActiveCategory = some .base ↔
        s.lastActiveCategory = some ProductCategory.base.text) := by
  unfold SubscriptionRow.snapshot at h
  obtain ⟨category, hcategory, h⟩ := bind_eq_ok_iff.1 h
  obtain rfl := pure_eq_ok_iff.1 h
  refine ⟨rfl, rfl, ?_⟩
  unfold ProductCategory.ofStored at hcategory
  split at hcategory
  · obtain rfl : none = category := by simpa using hcategory
    simp_all
  · rename_i text htext
    split at hcategory
    · rename_i found hfound
      obtain rfl : some found = category := by simpa using hcategory
      have hback := List.find?_some hfound
      rw [decide_eq_true_eq] at hback
      rw [htext, Option.some.injEq, Option.some.injEq, ← hback]
      cases found <;> decide
    · simp at hcategory

theorem ratesInto_eq_ok_iff {db : Database} {reference : String} {rates : List Rate} :
    db.ratesInto reference = .ok rates ↔ db.rates.isSome = true ∧
      (inOrder ((stored db.rates).filter fun r ↦ r.reference = reference)).map RateRow.snapshot = rates := by
  unfold ratesInto
  simp only [bind_eq_ok_iff, query_eq_ok_iff, pure_eq_ok_iff, and_assoc, exists_and_left, exists_eq_left']

theorem transitionsOf_eq_ok_iff {db : Database} {account : Uuid} {ts : List Transition} :
    db.transitionsOf account = .ok ts ↔ db.transitions.isSome = true ∧
      List.Forall₂ (fun r t ↦ r.snapshot = .ok t)
        (((stored db.transitions).filter fun r ↦ r.account = account).mergeSort happensBefore) ts := by
  unfold transitionsOf
  simp only [bind_eq_ok_iff, query_eq_ok_iff, mapM_eq_ok_iff, and_assoc, exists_and_left, exists_eq_left']

end Database
end BundleLedger
