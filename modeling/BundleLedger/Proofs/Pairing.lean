import Mathlib.Data.List.Forall2
import Mathlib.Tactic.Common

/-!
# Lists related member by member

`List.Forall₂` between two lists of one length: each member has its partner (`exists_mem_left`,
`exists_mem_right`), relations compose (`comp`) and can be taken apart (`exists_between`), partners stay together in
sorted lists (`mergeSort`), and an equation between members is one between the lists (`map_eq_map_iff`).
-/

set_option autoImplicit false

namespace BundleLedger.Pairing

variable {α β γ : Type} {R : α → β → Prop} {S : β → γ → Prop}

theorem exists_mem_left {xs : List α} {ys : List β} (h : List.Forall₂ R xs ys) {y : β} (hy : y ∈ ys) :
    ∃ x ∈ xs, R x y := by
  induction h with
  | nil => simp at hy
  | cons hxy hrest ih =>
    rcases List.mem_cons.1 hy with rfl | hy
    · exact ⟨_, List.mem_cons_self, hxy⟩
    · obtain ⟨x, hx, hxy⟩ := ih hy
      exact ⟨x, List.mem_cons_of_mem _ hx, hxy⟩

theorem exists_mem_right {xs : List α} {ys : List β} (h : List.Forall₂ R xs ys) {x : α} (hx : x ∈ xs) :
    ∃ y ∈ ys, R x y :=
  exists_mem_left (R := flip R) h.flip hx

theorem comp {xs : List α} {ys : List β} {zs : List γ} (h : List.Forall₂ R xs ys)
    (h' : List.Forall₂ S ys zs) : List.Forall₂ (fun x z ↦ ∃ y, R x y ∧ S y z) xs zs := by
  induction h generalizing zs with
  | nil =>
    rw [List.forall₂_nil_left_iff] at h'
    exact h' ▸ .nil
  | cons hxy hrest ih =>
    obtain ⟨z, zs, hyz, hzs, rfl⟩ := List.forall₂_cons_left_iff.1 h'
    exact .cons ⟨_, hxy, hyz⟩ (ih hzs)

theorem exists_between {xs : List α} {zs : List γ} (h : List.Forall₂ (fun x z ↦ ∃ y, R x y ∧ S y z) xs zs) :
    ∃ ys, List.Forall₂ R xs ys ∧ List.Forall₂ S ys zs := by
  induction h with
  | nil => exact ⟨[], .nil, .nil⟩
  | cons hxz hrest ih =>
    obtain ⟨y, hxy, hyz⟩ := hxz
    obtain ⟨ys, hxs, hys⟩ := ih
    exact ⟨y :: ys, .cons hxy hxs, .cons hyz hys⟩

theorem exists_partners {xs : List α} (h : ∀ x ∈ xs, ∃ y, R x y) : ∃ ys, List.Forall₂ R xs ys := by
  induction xs with
  | nil => exact ⟨[], .nil⟩
  | cons x rest ih =>
    obtain ⟨y, hxy⟩ := h x List.mem_cons_self
    obtain ⟨ys, hys⟩ := ih fun z hz ↦ h z (List.mem_cons_of_mem _ hz)
    exact ⟨y :: ys, .cons hxy hys⟩

theorem map_eq_map_iff {xs : List α} {ys : List β} {f : α → γ} {g : β → γ} :
    xs.map f = ys.map g ↔ List.Forall₂ (fun x y ↦ f x = g y) xs ys := by
  rw [← List.forall₂_eq_eq_eq, List.forall₂_map_left_iff, List.forall₂_map_right_iff]

theorem map_eq_map {xs : List α} {ys : List β} {f : α → γ} {g : β → γ}
    (h : List.Forall₂ (fun x y ↦ f x = g y) xs ys) : xs.map f = ys.map g :=
  map_eq_map_iff.2 h

/-- Members that are taken from the left list are partners if one is taken for each. -/
theorem filterMap_left {xs : List α} {ys : List β} {f : α → Option γ} {T : γ → β → Prop} (h : List.Forall₂ R xs ys)
    (hf : ∀ x y, R x y → ∃ z, f x = some z ∧ T z y) : List.Forall₂ T (xs.filterMap f) ys := by
  induction h with
  | nil => exact .nil
  | cons hxy hrest ih =>
    obtain ⟨z, hz, hzy⟩ := hf _ _ hxy
    rw [List.filterMap_cons_some hz]
    exact .cons hzy ih

/-- The last members are partners. -/
theorem getLast?_eq_some {xs : List α} {ys : List β} (h : List.Forall₂ R xs ys) {y : β}
    (hy : ys.getLast? = some y) : ∃ x, xs.getLast? = some x ∧ R x y := by
  obtain ⟨before, rfl⟩ := List.getLast?_eq_some_iff.1 hy
  have hreverse := List.forall₂_reverse_iff.2 h
  rw [List.reverse_concat] at hreverse
  obtain ⟨x, rest, hxy, -, hxs⟩ := List.forall₂_cons_right_iff.1 hreverse
  refine ⟨x, ?_, hxy⟩
  rw [List.getLast?_eq_head?_reverse, hxs, List.head?_cons]

/-- Partners stay together when both lists are sorted by comparisons that do not tell them apart. -/
theorem mergeSort {le : α → α → Bool} {le' : β → β → Bool} {xs : List α} {ys : List β} (h : List.Forall₂ R xs ys)
    (hle : ∀ x y x' y', R x y → R x' y' → le x x' = le' y y') :
    List.Forall₂ R (xs.mergeSort le) (ys.mergeSort le') := by
  obtain ⟨hlength, hpairs⟩ := List.forall₂_iff_zip.1 h
  have hfst : (xs.zip ys).map Prod.fst = xs := List.map_fst_zip (Nat.le_of_eq hlength)
  have hsnd : (xs.zip ys).map Prod.snd = ys := List.map_snd_zip (Nat.le_of_eq hlength.symm)
  let sorted := (xs.zip ys).mergeSort fun p q ↦ le p.1 q.1
  have hleft : sorted.map Prod.fst = xs.mergeSort le := by
    rw [List.map_mergeSort (s := le) fun _ _ _ _ ↦ rfl, hfst]
  have hright : sorted.map Prod.snd = ys.mergeSort le' := by
    rw [List.map_mergeSort (s := le') fun p hp q hq ↦ hle _ _ _ _ (hpairs hp) (hpairs hq), hsnd]
  rw [← hleft, ← hright, List.forall₂_map_left_iff, List.forall₂_map_right_iff, List.forall₂_same]
  intro p hp
  exact hpairs (List.mem_mergeSort.1 hp)

/-- Partners are found around a member as around its partner. -/
theorem exists_append {xs : List α} {before : List β} {y : β} {after : List β}
    (h : List.Forall₂ R xs (before ++ y :: after)) : ∃ before' x after', xs = before' ++ x :: after' ∧
      List.Forall₂ R before' before ∧ R x y ∧ List.Forall₂ R after' after := by
  induction before generalizing xs with
  | nil =>
    obtain ⟨x, after', hxy, hafter, rfl⟩ := List.forall₂_cons_right_iff.1 h
    exact ⟨[], x, after', rfl, .nil, hxy, hafter⟩
  | cons z rest ih =>
    obtain ⟨w, xs', hwz, hrest, rfl⟩ := List.forall₂_cons_right_iff.1 h
    obtain ⟨before', x, after', rfl, hbefore, hxy, hafter⟩ := ih hrest
    exact ⟨w :: before', x, after', rfl, .cons hwz hbefore, hxy, hafter⟩

end BundleLedger.Pairing
