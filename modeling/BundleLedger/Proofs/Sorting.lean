import Mathlib.Data.List.Nodup
import Mathlib.Data.List.Sort
import Mathlib.Order.Basic
import Mathlib.Tactic.Common

/-!
# Lists sorted by a key

A list that is sorted by a comparison of keys has its keys in order (`pairwise_mergeSort`). When no key repeats,
there is one arrangement with the keys in order (`eq_of_perm`). Equal keys stay in their order, as they do in a
sort by insertion (`mergeSort_eq_insertionSort`), which can be evaluated. So the last member of a kind after
sorting is the latest one of that kind before it (`getLast?_filter_mergeSort_eq_some_iff`).
-/

set_option autoImplicit false

namespace BundleLedger.Sorting

variable {α κ : Type} [LinearOrder κ] {key : α → κ}

/-- A member is inserted after those that come before it, and before those that do not. -/
theorem orderedInsert_append {le : α → α → Bool} {x : α} {before after : List α}
    (hbefore : ∀ y ∈ before, (!le x y) = true) (hafter : ∀ y ∈ after, le x y = true) :
    (before ++ after).orderedInsert (fun a b ↦ le a b = true) x = before ++ x :: after := by
  induction before with
  | nil =>
    cases after with
    | nil => rfl
    | cons y rest => exact List.orderedInsert_cons_of_le _ rest (hafter y List.mem_cons_self)
  | cons y rest ih =>
    have hy : ¬ le x y = true := by
      simpa using hbefore y List.mem_cons_self
    rw [List.cons_append, List.orderedInsert_cons, if_neg hy,
      ih fun z hz ↦ hbefore z (List.mem_cons_of_mem _ hz), List.cons_append]

/-- A member that satisfies a condition and whose key is the greatest of those that do; of members with that key,
the one given last. -/
def IsLatest (key : α → κ) (p : α → Bool) (xs : List α) (x : α) : Prop :=
  ∃ before after, xs = before ++ x :: after ∧ p x = true ∧ (∀ y ∈ before, p y = true → key y ≤ key x) ∧
    ∀ y ∈ after, p y = true → key y < key x

theorem isLatest_cons_iff {p : α → Bool} {first x : α} {rest : List α} :
    IsLatest key p (first :: rest) x ↔
      (IsLatest key p rest x ∧ (p first = true → key first ≤ key x)) ∨
        (x = first ∧ p first = true ∧ ∀ y ∈ rest, p y = true → key y < key first) := by
  constructor
  · rintro ⟨before, after, hsplit, hx, hbefore, hafter⟩
    cases before with
    | nil =>
      obtain ⟨rfl, rfl⟩ := List.cons.inj hsplit
      exact .inr ⟨rfl, hx, hafter⟩
    | cons y before =>
      obtain ⟨rfl, rfl⟩ := List.cons.inj hsplit
      exact .inl ⟨⟨before, after, rfl, hx, fun z hz ↦ hbefore z (List.mem_cons_of_mem _ hz), hafter⟩,
        hbefore _ List.mem_cons_self⟩
  · rintro (⟨⟨before, after, rfl, hx, hbefore, hafter⟩, hfirst⟩ | ⟨rfl, hx, hafter⟩)
    · exact ⟨first :: before, after, rfl, hx, List.forall_mem_cons.2 ⟨hfirst, hbefore⟩, hafter⟩
    · exact ⟨[], rest, rfl, hx, by simp, hafter⟩

theorem isLatest_filter_iff {p q : α → Bool} {xs : List α} {x : α} :
    IsLatest key p (xs.filter q) x ↔ IsLatest key (fun y ↦ q y && p y) xs x := by
  induction xs with
  | nil => simp [IsLatest]
  | cons first rest ih =>
    by_cases hq : q first = true
    · rw [List.filter_cons_of_pos hq, isLatest_cons_iff, isLatest_cons_iff, ih]
      simp [hq]
    · rw [List.filter_cons_of_neg hq, isLatest_cons_iff, ih]
      simp [hq]

section Comparison

variable {le : α → α → Bool} (hkey : ∀ a b, le a b = true ↔ key a ≤ key b)

include hkey

theorem comparison_trans (a b c : α) (hab : le a b = true) (hbc : le b c = true) : le a c = true := by
  rw [hkey] at hab hbc ⊢
  exact hab.trans hbc

theorem comparison_total (a b : α) : (le a b || le b a) = true := by
  rw [Bool.or_eq_true, hkey, hkey]
  exact le_total _ _

theorem pairwise_mergeSort (xs : List α) : (xs.mergeSort le).Pairwise fun a b ↦ key a ≤ key b :=
  (List.pairwise_mergeSort (comparison_trans hkey) (comparison_total hkey) xs).imp fun hab ↦
    (hkey _ _).1 hab

theorem mergeSort_eq_insertionSort (xs : List α) :
    xs.mergeSort le = xs.insertionSort fun a b ↦ le a b = true := by
  induction xs with
  | nil => exact List.mergeSort_nil
  | cons x rest ih =>
    obtain ⟨before, after, hall, hrest, hbefore⟩ :=
      List.mergeSort_cons (comparison_trans hkey) (comparison_total hkey) x rest
    have hsorted := List.pairwise_mergeSort (comparison_trans hkey) (comparison_total hkey) (x :: rest)
    rw [hall, List.pairwise_append, List.pairwise_cons] at hsorted
    rw [List.insertionSort_cons, ← ih, hrest, hall]
    exact (orderedInsert_append hbefore hsorted.2.1.1).symm

/-- A new first member stands before all members whose key is at least its own, and after all others. -/
theorem exists_mergeSort_cons_eq (x : α) (rest : List α) : ∃ before after,
    (x :: rest).mergeSort le = before ++ x :: after ∧ rest.mergeSort le = before ++ after ∧
      (∀ y ∈ before, key y < key x) ∧ ∀ y ∈ after, key x ≤ key y := by
  obtain ⟨before, after, hall, hrest, hbefore⟩ :=
    List.mergeSort_cons (comparison_trans hkey) (comparison_total hkey) x rest
  have hsorted := pairwise_mergeSort hkey (x :: rest)
  rw [hall, List.pairwise_append, List.pairwise_cons] at hsorted
  refine ⟨before, after, hall, hrest, fun y hy ↦ ?_, hsorted.2.1.1⟩
  have hle := hbefore y hy
  rw [Bool.not_eq_true', ← Bool.not_eq_true, hkey] at hle
  exact not_le.1 hle

/-- The last member that satisfies a condition after sorting is the latest one before it. -/
theorem getLast?_filter_mergeSort_eq_some_iff {p : α → Bool} {xs : List α} {x : α} :
    ((xs.mergeSort le).filter p).getLast? = some x ↔ IsLatest key p xs x := by
  induction xs with
  | nil => simp [IsLatest]
  | cons first rest ih =>
    obtain ⟨before, after, hall, hrest, hbefore, hafter⟩ := exists_mergeSort_cons_eq hkey first rest
    have hmem : ∀ y ∈ rest, y ∈ before ∨ y ∈ after := fun y hy ↦
      List.mem_append.1 (hrest ▸ List.mem_mergeSort.2 hy)
    rw [hrest, List.filter_append, List.getLast?_append] at ih
    rw [hall, List.filter_append, List.getLast?_append, isLatest_cons_iff, ← ih, List.filter_cons]
    cases hlast : (after.filter p).getLast? with
    | some last =>
      -- Members that stay after the new one win over it.
      have hlast' := List.mem_filter.1 (List.mem_of_getLast? hlast)
      have hrest' : last ∈ rest := List.mem_mergeSort.1 (hrest ▸ List.mem_append_right _ hlast'.1)
      have hcons : (if p first = true then first :: after.filter p else after.filter p).getLast? = some last := by
        split_ifs
        · rw [List.getLast?_cons, hlast, Option.getD_some]
        · exact hlast
      rw [hcons, Option.some_or]
      constructor
      · intro hx
        obtain rfl := Option.some.inj hx
        exact .inl ⟨rfl, fun _ ↦ hafter _ hlast'.1⟩
      · rintro (⟨hx, -⟩ | ⟨rfl, -, hlt⟩)
        · exact hx
        · exact absurd (hlt _ hrest' hlast'.2) (not_lt.2 (hafter _ hlast'.1))
    | none =>
      have hnone := List.getLast?_eq_none_iff.1 hlast
      have hafter' : ∀ y ∈ after, ¬ p y = true := List.filter_eq_nil_iff.1 hnone
      rw [hnone, Option.none_or]
      by_cases hfirst : p first = true
      · rw [if_pos hfirst, List.getLast?_singleton, Option.some_or]
        constructor
        · intro hx
          obtain rfl := Option.some.inj hx
          exact .inr ⟨rfl, hfirst, fun y hy hpy ↦
            hbefore y ((hmem y hy).resolve_right fun hmem ↦ hafter' y hmem hpy)⟩
        · rintro (⟨hx, hle⟩ | ⟨rfl, -⟩)
          · have hlt := hbefore x (List.mem_filter.1 (List.mem_of_getLast? hx)).1
            exact absurd (hle hfirst) (not_le.2 hlt)
          · rfl
      · simp [hfirst]

end Comparison

theorem eq_of_perm {xs ys : List α} (hperm : xs.Perm ys) (hxs : xs.Pairwise fun a b ↦ key a ≤ key b)
    (hys : ys.Pairwise fun a b ↦ key a < key b) : xs = ys := by
  have hnodup : (ys.map key).Nodup := List.pairwise_map.2 (hys.imp fun hlt ↦ hlt.ne)
  refine hperm.eq_of_pairwise (fun a b ha hb hab hba ↦ ?_) hxs (hys.imp fun hlt ↦ hlt.le)
  exact List.inj_on_of_nodup_map hnodup (hperm.mem_iff.1 ha) hb (le_antisymm hab hba)

end BundleLedger.Sorting
