import Mathlib.Data.List.Induction
import Mathlib.Data.List.Nodup
import Mathlib.Data.List.Perm.Subperm
import Mathlib.Order.Bounds.Basic
import Mathlib.Tactic.Common

/-!
# Lists without repetitions, in the order of first appearance

`List.eraseDups` keeps the first of equal members. Here it is followed from one end of the list to the
other: one more member either has appeared before or comes last (`eraseDups_concat`). In a list that is
sorted by keys, groups of members appear in the order of their least keys (`idxOf_lt_iff_least`), and the last
member of a group has its greatest key (`isGreatest_key_last`).
-/

set_option autoImplicit false

namespace BundleLedger.FirstAppearance

variable {α : Type} [DecidableEq α]

theorem eraseDups_concat (xs : List α) (x : α) :
    (xs ++ [x]).eraseDups = if x ∈ xs then xs.eraseDups else xs.eraseDups ++ [x] := by
  rw [List.eraseDups_append, List.cons_removeAll, List.nil_removeAll]
  split_ifs with h <;> simp_all [List.eraseDups_cons]

theorem nodup_eraseDups (xs : List α) : xs.eraseDups.Nodup := by
  induction xs using List.reverseRecOn with
  | nil => simp
  | append_singleton rest x ih =>
    rw [eraseDups_concat]
    split_ifs with h
    · exact ih
    · exact ih.append (List.nodup_singleton x) (by simpa using h)

/-- A list without repetitions stays as it is. -/
theorem eraseDups_of_nodup {xs : List α} (h : xs.Nodup) : xs.eraseDups = xs := by
  induction xs using List.reverseRecOn with
  | nil => rfl
  | append_singleton rest x ih =>
    have hparts := List.nodup_append.1 h
    have hnot : x ∉ rest := fun hmem ↦ hparts.2.2 x hmem x (by simp) rfl
    rw [eraseDups_concat, if_neg hnot, ih hparts.1]

/-- A list that is as long without its repetitions has none. -/
theorem nodup_of_length_eraseDups {xs : List α} (h : xs.eraseDups.length = xs.length) : xs.Nodup := by
  have hsubset : xs.eraseDups ⊆ xs := fun _ hx ↦ List.mem_eraseDups.1 hx
  have hsubperm : xs.eraseDups.Subperm xs := List.subperm_of_subset (nodup_eraseDups xs) hsubset
  have hperm : xs.eraseDups.Perm xs := List.Subperm.perm_of_length_le hsubperm h.ge
  exact hperm.nodup_iff.1 (nodup_eraseDups xs)

omit [DecidableEq α] in
/-- A list without repetitions that has one member. -/
theorem eq_singleton_of_nodup {xs : List α} {x : α} (hnodup : xs.Nodup) (h : ∀ y, y ∈ xs ↔ y = x) : xs = [x] := by
  rw [← List.perm_singleton, List.perm_ext_iff_of_nodup hnodup (List.nodup_singleton x)]
  intro y
  rw [h, List.mem_singleton]

omit [DecidableEq α] in
/-- A list without repetitions that has one member under a condition, and else none. -/
theorem eq_ite_of_nodup {xs : List α} {x : α} {p : Prop} [Decidable p] (hnodup : xs.Nodup)
    (h : ∀ y, y ∈ xs ↔ p ∧ y = x) : xs = if p then [x] else [] := by
  by_cases hp : p
  · rw [if_pos hp]
    apply eq_singleton_of_nodup hnodup
    intro y
    rw [h, and_iff_right hp]
  · rw [if_neg hp, List.eq_nil_iff_forall_not_mem]
    intro y hy
    exact hp ((h y).1 hy).1

/-- Some of the members are the same ones before and after repetitions are left out. -/
theorem eraseDups_filter (p : α → Bool) (xs : List α) : (xs.filter p).eraseDups = xs.eraseDups.filter p := by
  induction xs using List.reverseRecOn with
  | nil => rfl
  | append_singleton rest x ih =>
    rw [List.filter_append, eraseDups_concat]
    by_cases hp : p x = true
    · rw [List.filter_singleton, hp, cond_true, eraseDups_concat, ih]
      by_cases hx : x ∈ rest
      · rw [if_pos (List.mem_filter.2 ⟨hx, hp⟩), if_pos hx]
      · rw [if_neg fun h ↦ hx (List.mem_filter.1 h).1, if_neg hx, List.filter_append, List.filter_singleton, hp,
          cond_true]
    · rw [Bool.not_eq_true] at hp
      rw [List.filter_singleton, hp, cond_false, List.append_nil, ih]
      split_ifs
      · rfl
      · rw [List.filter_append, List.filter_singleton, hp, cond_false, List.append_nil]

/-- Members stand in the order of their first appearances. -/
theorem idxOf_eraseDups_lt_iff {xs : List α} {a b : α} (ha : a ∈ xs) (hb : b ∈ xs) :
    xs.eraseDups.idxOf a < xs.eraseDups.idxOf b ↔ xs.idxOf a < xs.idxOf b := by
  induction xs using List.reverseRecOn generalizing a b with
  | nil => simp at ha
  | append_singleton rest x ih =>
    -- Where a member stands: as in the rest if it is there, else behind all of them.
    have hplace : ∀ c ∈ rest ++ [x], c ∉ rest → c = x := by
      intro c hc hnot
      simpa [hnot] using hc
    rw [eraseDups_concat]
    by_cases hx : x ∈ rest
    · have hrest : ∀ c ∈ rest ++ [x], c ∈ rest := by
        intro c hc
        by_contra hnot
        exact hnot (hplace c hc hnot ▸ hx)
      rw [if_pos hx, List.idxOf_append_of_mem (hrest a ha), List.idxOf_append_of_mem (hrest b hb)]
      exact ih (hrest a ha) (hrest b hb)
    · rw [if_neg hx]
      by_cases har : a ∈ rest <;> by_cases hbr : b ∈ rest
      · rw [List.idxOf_append_of_mem har, List.idxOf_append_of_mem hbr,
          List.idxOf_append_of_mem (List.mem_eraseDups.2 har),
          List.idxOf_append_of_mem (List.mem_eraseDups.2 hbr)]
        exact ih har hbr
      · rw [List.idxOf_append_of_mem har, List.idxOf_append_of_notMem hbr,
          List.idxOf_append_of_mem (List.mem_eraseDups.2 har),
          List.idxOf_append_of_notMem (mt List.mem_eraseDups.1 hbr)]
        have h := List.idxOf_lt_length_of_mem har
        have h' := List.idxOf_lt_length_of_mem (List.mem_eraseDups.2 har)
        omega
      · rw [List.idxOf_append_of_notMem har, List.idxOf_append_of_mem hbr,
          List.idxOf_append_of_notMem (mt List.mem_eraseDups.1 har),
          List.idxOf_append_of_mem (List.mem_eraseDups.2 hbr)]
        have h := List.idxOf_lt_length_of_mem hbr
        have h' := List.idxOf_lt_length_of_mem (List.mem_eraseDups.2 hbr)
        omega
      · rw [hplace a ha har, hplace b hb hbr]
        simp

/-- One member stands before another when the list has a front that ends with the one and lacks the other. -/
theorem idxOf_lt_iff_exists_front {xs : List α} {a b : α} (ha : a ∈ xs) :
    xs.idxOf a < xs.idxOf b ↔ ∃ before after, xs = before ++ a :: after ∧ b ∉ before ++ [a] := by
  constructor
  · intro hlt
    obtain ⟨before, after, rfl, hnot⟩ := List.eq_append_cons_of_mem ha
    refine ⟨before, after, rfl, fun hb ↦ ?_⟩
    have hfront : (before ++ a :: after).idxOf a = before.length := by
      rw [List.idxOf_append_of_notMem hnot, List.idxOf_cons_self, Nat.add_zero]
    have hback : (before ++ a :: after).idxOf b < (before ++ [a]).length := by
      rw [List.append_cons, List.idxOf_append_of_mem hb]
      exact List.idxOf_lt_length_of_mem hb
    rw [List.length_append, List.length_singleton] at hback
    omega
  · rintro ⟨before, after, rfl, hnot⟩
    have hmem : a ∈ before ++ [a] := List.mem_append_right _ (List.mem_singleton_self a)
    have hfront := List.idxOf_lt_length_of_mem hmem
    rw [List.append_cons, List.idxOf_append_of_mem hmem, List.idxOf_append_of_notMem hnot]
    omega

/-- Lists without repetitions are equal when they have the same members in the same order. -/
theorem eq_of_idxOf_lt_iff {xs ys : List α} (hx : xs.Nodup) (hy : ys.Nodup) (hmem : ∀ a, a ∈ xs ↔ a ∈ ys)
    (h : ∀ a ∈ xs, ∀ b ∈ xs, (xs.idxOf a < xs.idxOf b ↔ ys.idxOf a < ys.idxOf b)) : xs = ys := by
  have hsorted : ∀ {zs : List α}, zs.Nodup → zs.Pairwise fun a b ↦ zs.idxOf a < zs.idxOf b := by
    intro zs hz
    refine List.pairwise_iff_getElem.2 fun i j hi hj hij ↦ ?_
    rwa [hz.idxOf_getElem i hi, hz.idxOf_getElem j hj]
  have hys : ys.Pairwise fun a b ↦ xs.idxOf a < xs.idxOf b :=
    (hsorted hy).imp_of_mem fun ha hb hlt ↦ (h _ ((hmem _).2 ha) _ ((hmem _).2 hb)).2 hlt
  refine List.Perm.eq_of_pairwise (fun a b _ _ hab hba ↦ ?_) (hsorted hx) hys
    ((List.perm_ext_iff_of_nodup hx hy).2 hmem)
  exact absurd hba (lt_asymm hab)

/-- Members that are counted by the places of their distinct keys are counted from one. -/
theorem map_eq_of_idxOf {β : Type} {xs : List β} {key : β → α} {rank : β → ℤ}
    (hnodup : (xs.map key).Nodup)
    (hrank : ∀ x ∈ xs, rank x = ((xs.map key).idxOf (key x) + 1 : ℕ)) :
    xs.map rank = (List.range xs.length).map fun index : ℕ ↦ ((index + 1 : ℕ) : ℤ) := by
  refine List.ext_getElem (by simp) fun index hi hj ↦ ?_
  rw [List.length_map] at hi
  have hplace : (xs.map key).idxOf (key xs[index]) = index := by
    have hfound := hnodup.idxOf_getElem index (by simpa using hi)
    rwa [List.getElem_map] at hfound
  rw [List.getElem_map, List.getElem_map, hrank _ (List.getElem_mem hi), hplace, List.getElem_range]

/-! ### Groups in a list that is sorted by keys -/

section Groups

variable {β κ : Type} [LinearOrder κ] {xs : List β} {group : β → α} {key : β → κ}

/-- The keys of the members of a group. -/
def keysOf (xs : List β) (group : β → α) (key : β → κ) (a : α) : Set κ :=
  {k | ∃ x ∈ xs, group x = a ∧ key x = k}

theorem lt_length_of_mem_map {a : α} (ha : a ∈ xs.map group) : (xs.map group).idxOf a < xs.length := by
  simpa using List.idxOf_lt_length_of_mem ha

theorem group_first {a : α} (ha : a ∈ xs.map group) (hi : (xs.map group).idxOf a < xs.length) :
    group xs[(xs.map group).idxOf a] = a := by
  have hfirst := List.getElem_idxOf (List.idxOf_lt_length_of_mem ha)
  rwa [List.getElem_map] at hfirst

/-- The first member of a group has its least key. -/
theorem isLeast_key_first (h : xs.Pairwise fun x y ↦ key x ≤ key y) {a : α} (ha : a ∈ xs.map group)
    (hi : (xs.map group).idxOf a < xs.length) :
    IsLeast (keysOf xs group key a) (key xs[(xs.map group).idxOf a]) := by
  refine ⟨⟨_, List.getElem_mem _, group_first ha hi, rfl⟩, ?_⟩
  rintro k ⟨x, hx, hxa, rfl⟩
  obtain ⟨j, hj, rfl⟩ := List.mem_iff_getElem.1 hx
  have hle : (xs.map group).idxOf a ≤ j := by
    by_contra hlt
    have hearlier : j < (xs.map group).findIdx (· == a) := not_le.1 hlt
    have hnot := List.not_of_lt_findIdx hearlier
    rw [List.getElem_map, hxa] at hnot
    simp at hnot
  rcases hle.eq_or_lt with heq | hlt
  · simp only [heq, le_refl]
  · exact List.pairwise_iff_getElem.1 h _ _ _ hj hlt

/-- Groups appear in the order of their least keys, when no key repeats. -/
theorem idxOf_lt_iff_least (h : xs.Pairwise fun x y ↦ key x ≤ key y) (hkeys : (xs.map key).Nodup)
    {a b : α} (ha : a ∈ xs.map group) (hb : b ∈ xs.map group) :
    ∃ k l, IsLeast (keysOf xs group key a) k ∧ IsLeast (keysOf xs group key b) l ∧
      ((xs.map group).eraseDups.idxOf a < (xs.map group).eraseDups.idxOf b ↔ k < l) := by
  have hi := lt_length_of_mem_map ha
  have hj := lt_length_of_mem_map hb
  refine ⟨_, _, isLeast_key_first h ha hi, isLeast_key_first h hb hj, ?_⟩
  rw [idxOf_eraseDups_lt_iff ha hb]
  have hpairs := List.pairwise_iff_getElem.1 h
  constructor
  · intro hlt
    refine lt_of_le_of_ne (hpairs _ _ hi hj hlt) fun heq ↦ ?_
    have hsame := List.inj_on_of_nodup_map hkeys (List.getElem_mem hi) (List.getElem_mem hj) heq
    have hgroups : a = b := by rw [← group_first ha hi, hsame, group_first hb hj]
    rw [hgroups] at hlt
    exact lt_irrefl _ hlt
  · intro hlt
    by_contra hnot
    rcases (not_lt.1 hnot).eq_or_lt with heq | hgt
    · simp only [heq, lt_self_iff_false] at hlt
    · exact absurd (hpairs _ _ hj hi hgt) (not_le.2 hlt)

/-- The last member of a group has its greatest key. -/
theorem isGreatest_key_last (h : xs.Pairwise fun x y ↦ key x ≤ key y) {a : α} {x : β}
    (hx : (xs.filter fun x ↦ group x = a).getLast? = some x) :
    IsGreatest (keysOf xs group key a) (key x) := by
  have hmem := List.mem_of_getLast? hx
  rw [List.mem_filter, decide_eq_true_eq] at hmem
  refine ⟨⟨x, hmem.1, hmem.2, rfl⟩, ?_⟩
  rintro k ⟨y, hy, hya, rfl⟩
  obtain ⟨before, hsplit⟩ := List.getLast?_eq_some_iff.1 hx
  have hsorted : (before ++ [x]).Pairwise fun x y ↦ key x ≤ key y := hsplit ▸ h.filter _
  have hy' : y ∈ before ++ [x] := by
    rw [← hsplit, List.mem_filter, decide_eq_true_eq]
    exact ⟨hy, hya⟩
  rcases List.mem_append.1 hy' with hbefore | hlast
  · exact (List.pairwise_append.1 hsorted).2.2 y hbefore x (by simp)
  · rw [List.mem_singleton.1 hlast]

end Groups

end BundleLedger.FirstAppearance
