import BundleLedger.Bundle.Schedule
import BundleLedger.Proofs.FirstAppearance
import Mathlib.Data.List.Perm.Basic

/-!
# Orders of completion

A schedule completes every task once: its order of completion is a permutation of the task numbers
(`completion_perm`), and every permutation is the order of some schedule (`completion_of_perm`).
`arrange` puts what belongs to the tasks into that order.
-/

set_option autoImplicit false

namespace BundleLedger.Schedule

open FirstAppearance

variable (s : Schedule)

theorem nodup_completion (count : ℕ) : (s.completion count).Nodup := by
  unfold completion
  refine List.Nodup.append (nodup_eraseDups _) (List.nodup_range.filter _) ?_
  intro index hstated hrest
  simp only [List.mem_filter, Bool.not_eq_true', List.contains_eq_mem, decide_eq_false_iff_not] at hrest
  exact hrest.2 hstated

/-- Every task completes exactly once. -/
theorem completion_perm (count : ℕ) : (s.completion count).Perm (List.range count) := by
  rw [List.perm_ext_iff_of_nodup (s.nodup_completion count) List.nodup_range]
  intro index
  rw [mem_completion, List.mem_range]

/-- Every order of the tasks is the order of completion of a schedule that states it. -/
theorem completion_of_perm {count : ℕ} {order : List ℕ} (h : order.Perm (List.range count))
    (horder : s.order = order) : s.completion count = order := by
  have hlt : ∀ index ∈ order, index < count := fun index hmem ↦ List.mem_range.1 (h.mem_iff.1 hmem)
  have hstated : (s.order.filter (· < count)).eraseDups = order := by
    rw [horder, List.filter_eq_self.2 (by simpa using hlt),
      eraseDups_of_nodup (h.nodup_iff.2 List.nodup_range)]
  have hrest : ((List.range count).filter fun index ↦ !order.contains index) = [] := by
    rw [List.filter_eq_nil_iff]
    intro index hmem
    simpa using h.mem_iff.2 hmem
  unfold completion
  dsimp only
  rw [hstated, hrest, List.append_nil]

theorem length_completion (count : ℕ) : (s.completion count).length = count := by
  rw [(s.completion_perm count).length_eq, List.length_range]

/-- No task completes twice before the pool stalls, and only tasks do. -/
theorem sublist_finished (count : ℕ) : (s.finished count).Sublist (s.completion count) := by
  unfold finished
  split
  · exact List.take_sublist _ _
  · exact List.Sublist.refl _

theorem lt_of_mem_finished {count index : ℕ} (h : index ∈ s.finished count) : index < count :=
  (s.mem_completion count index).1 ((s.sublist_finished count).subset h)

/-- A pool that does not stall gets through all tasks. -/
theorem finished_of_stalls_eq_false {count : ℕ} (h : s.stalls count = false) :
    s.finished count = s.completion count := by
  unfold stalls at h
  unfold finished
  split
  · rename_i k hk
    simp only [hk, decide_eq_false_iff_not, Nat.not_lt] at h
    exact List.take_of_length_le (by rwa [length_completion])
  · rfl

/-- What belongs to the tasks, in the order of completion instead of that of submission. -/
def arrange {α : Type} (items : List α) : List α :=
  (s.completion items.length).filterMap fun index ↦ items[index]?

theorem filterMap_getElem?_range {α : Type} (items : List α) :
    (List.range items.length).filterMap (fun index ↦ items[index]?) = items := by
  induction items using List.reverseRecOn with
  | nil => rfl
  | append_singleton rest x ih =>
    have hrest : (List.range rest.length).filterMap (fun index ↦ (rest ++ [x])[index]?) = rest := by
      refine (List.filterMap_congr fun index hindex ↦ ?_).trans ih
      exact List.getElem?_append_left (List.mem_range.1 hindex)
    rw [List.length_append, List.length_singleton, List.range_succ, List.filterMap_append, hrest]
    simp

/-- In the order of submission everything stays in its place. -/
theorem arrange_fifo {α : Type} (items : List α) : fifo.arrange items = items := by
  have h : fifo.completion items.length = List.range items.length := by
    simp [completion, fifo]
  rw [arrange, h, filterMap_getElem?_range]

theorem arrange_perm {α : Type} (items : List α) : (s.arrange items).Perm items := by
  have h := (s.completion_perm items.length).filterMap fun index ↦ items[index]?
  rwa [filterMap_getElem?_range] at h

theorem map_arrange {α β : Type} (f : α → β) (items : List α) :
    (s.arrange items).map f = s.arrange (items.map f) := by
  unfold arrange
  rw [List.map_filterMap, List.length_map]
  simp only [List.getElem?_map]

end BundleLedger.Schedule
