import BundleLedger.Bundle.Ranking
import BundleLedger.Proofs.FirstAppearance

/-!
# What the ranking scan computes

The scan ranks bundles by first appearance and keeps the last transition of each. `Scan.Follows` ties
its state to the transitions it has read: the ranked bundles are those transitions' bundles without
repetition, numbered from one, and the bundle ranked last is the last of them. Every step keeps this
(`Scan.Follows.step`), so it holds of a whole scan (`follows_foldl`). Main statements: the ranks
(`ranks_ofTransitions`), the bundles with a latest transition (`keys_latest_ofTransitions`) and those
transitions (`get?_latest_ofTransitions`).
-/

set_option autoImplicit false

namespace BundleLedger

/-! ### Maps that keep their order -/

namespace Keyed

variable {Value : Type}

theorem set_of_not_mem {m : Keyed Value} {key : Uuid} (h : key ∉ keys m) (value : Value) :
    set m key value = m ++ [(key, value)] := by
  induction m with
  | nil => rfl
  | cons entry rest ih =>
    simp only [keys, List.map_cons, List.mem_cons, not_or] at h
    rw [set, if_neg (Ne.symm h.1), ih h.2, List.cons_append]

/-- Without repeated keys, looking a key up finds its entry. -/
theorem get?_eq_some_iff {m : Keyed Value} (hm : (keys m).Nodup) (key : Uuid) (value : Value) :
    get? m key = some value ↔ (key, value) ∈ m := by
  induction m with
  | nil => simp [get?_nil]
  | cons entry rest ih =>
    simp only [keys, List.map_cons, List.nodup_cons] at hm
    rw [get?_cons]
    split_ifs with hkey
    · have hrest : (key, value) ∉ rest := fun hmem ↦
        hm.1 (hkey ▸ List.mem_map_of_mem (f := (·.1)) hmem)
      simp [hrest, Prod.ext_iff, hkey, eq_comm]
    · rw [ih hm.2]
      simp [Prod.ext_iff, Ne.symm hkey]

end Keyed

/-! ### First and last appearances -/

/-- The bundles of some transitions in the order of their first appearance. -/
def firstSeen (transitions : List Transition) : List Uuid :=
  (transitions.map (·.bundle)).eraseDups

/-- The last transition of a bundle. -/
def lastOf (transitions : List Transition) (bundle : Uuid) : Option Transition :=
  (transitions.filter fun t ↦ t.bundle = bundle).getLast?

theorem mem_firstSeen {transitions : List Transition} {bundle : Uuid} :
    bundle ∈ firstSeen transitions ↔ ∃ t ∈ transitions, t.bundle = bundle := by
  simp [firstSeen]

theorem nodup_firstSeen (transitions : List Transition) : (firstSeen transitions).Nodup :=
  FirstAppearance.nodup_eraseDups _

theorem firstSeen_concat (transitions : List Transition) (t : Transition) :
    firstSeen (transitions ++ [t]) =
      if t.bundle ∈ firstSeen transitions then firstSeen transitions
      else firstSeen transitions ++ [t.bundle] := by
  unfold firstSeen
  rw [List.map_append, List.map_singleton, FirstAppearance.eraseDups_concat]
  simp only [List.mem_eraseDups]

theorem lastOf_concat (transitions : List Transition) (t : Transition) (bundle : Uuid) :
    lastOf (transitions ++ [t]) bundle =
      if t.bundle = bundle then some t else lastOf transitions bundle := by
  unfold lastOf
  split_ifs with h <;> simp [h]

theorem exists_lastOf {transitions : List Transition} {bundle : Uuid} (h : bundle ∈ firstSeen transitions) :
    ∃ t, lastOf transitions bundle = some t := by
  obtain ⟨t, ht, hbundle⟩ := mem_firstSeen.1 h
  have hmem : t ∈ transitions.filter fun t ↦ t.bundle = bundle :=
    List.mem_filter.2 ⟨ht, decide_eq_true hbundle⟩
  cases hlast : lastOf transitions bundle with
  | none => exact absurd hmem (List.getLast?_eq_none_iff.1 hlast ▸ List.not_mem_nil)
  | some last => exact ⟨last, rfl⟩

theorem bundle_of_lastOf {transitions : List Transition} {bundle : Uuid} {t : Transition}
    (h : lastOf transitions bundle = some t) : t.bundle = bundle := by
  simpa using (List.mem_filter.1 (List.mem_of_getLast? h)).2

/-! ### The scan -/

namespace Ranking

/-- The state of the scan after it has read some transitions. -/
structure Scan.Follows (s : Scan) (seen : List Transition) : Prop where
  ranks : s.ranking.ranks = (firstSeen seen).zipIdx 1
  keys : s.ranking.latest.keys = firstSeen seen
  latest : ∀ bundle, s.ranking.latest.get? bundle = lastOf seen bundle
  lastRank : s.lastRank = (firstSeen seen).length
  lastBundle : s.lastBundle = (firstSeen seen).getLast?

theorem Scan.follows_start : Scan.start.Follows [] where
  ranks := rfl
  keys := rfl
  latest _ := rfl
  lastRank := rfl
  lastBundle := rfl

namespace Scan.Follows

variable {s : Scan} {seen : List Transition}

theorem keys_ranks (h : s.Follows seen) : s.ranking.ranks.keys = firstSeen seen := by
  rw [h.ranks, Keyed.keys, List.zipIdx_map_fst]

/-- The bundle ranked last has a rank, so remembering it changes nothing: a bundle is new exactly when
it has not appeared. -/
theorem isNew_iff (h : s.Follows seen) (bundle : Uuid) :
    s.isNew bundle = true ↔ bundle ∉ firstSeen seen := by
  have hcontains : s.ranking.ranks.contains bundle = true ↔ bundle ∈ firstSeen seen := by
    rw [Keyed.contains_iff_mem_keys, h.keys_ranks]
  unfold Scan.isNew
  split
  · rename_i hlast
    rw [h.lastBundle, List.getLast?_eq_none_iff] at hlast
    simp [hlast]
  · rename_i last hlast
    rw [h.lastBundle] at hlast
    have hmem : last ∈ firstSeen seen := List.mem_of_getLast? hlast
    have hne : bundle ∉ firstSeen seen → bundle ≠ last := by
      rintro hnot rfl
      exact hnot hmem
    rw [Bool.and_eq_true, decide_eq_true_eq, Bool.not_eq_true', ← Bool.not_eq_true, hcontains]
    exact and_iff_right_of_imp hne

theorem step (h : s.Follows seen) (t : Transition) : (s.step t).Follows (seen ++ [t]) := by
  have hset : ∀ bundle, (s.ranking.latest.set t.bundle t).get? bundle = lastOf (seen ++ [t]) bundle := by
    intro bundle
    rw [lastOf_concat]
    split_ifs with hb
    · rw [← hb, Keyed.get?_set_self]
    · rw [Keyed.get?_set_of_ne _ _ (Ne.symm hb), h.latest]
  have hkeys : (s.ranking.latest.set t.bundle t).keys = firstSeen (seen ++ [t]) := by
    rw [Keyed.keys_set, h.keys, firstSeen_concat]
  by_cases hnew : s.isNew t.bundle = true
  · have hnot := (h.isNew_iff t.bundle).1 hnew
    have hseen : firstSeen (seen ++ [t]) = firstSeen seen ++ [t.bundle] := by
      rw [firstSeen_concat, if_neg hnot]
    simp only [Scan.step, hnew, if_true]
    refine ⟨?_, hkeys, hset, ?_, ?_⟩
    · rw [Keyed.set_of_not_mem (h.keys_ranks ▸ hnot), h.ranks, hseen, List.zipIdx_append, h.lastRank,
        List.zipIdx_singleton, Nat.add_comm]
    · rw [hseen, h.lastRank, List.length_append, List.length_singleton]
    · rw [hseen, List.getLast?_concat]
  · have hmem : t.bundle ∈ firstSeen seen := by
      by_contra hnot
      exact hnew ((h.isNew_iff t.bundle).2 hnot)
    have hseen : firstSeen (seen ++ [t]) = firstSeen seen := by
      rw [firstSeen_concat, if_pos hmem]
    simp only [Scan.step, hnew]
    exact ⟨hseen ▸ h.ranks, hkeys, hset, hseen ▸ h.lastRank, hseen ▸ h.lastBundle⟩

end Scan.Follows

theorem follows_foldl (transitions : List Transition) :
    (transitions.foldl Scan.step Scan.start).Follows transitions := by
  induction transitions using List.reverseRecOn with
  | nil => exact Scan.follows_start
  | append_singleton rest t ih =>
    rw [List.foldl_append]
    exact ih.step t

variable (base : List Uuid) (transitions : List Transition)

/-- Bundles are ranked from one in the order of their first transition that counts. -/
theorem ranks_ofTransitions :
    (ofTransitions base transitions).ranks = (firstSeen (qualifying base transitions)).zipIdx 1 :=
  (follows_foldl _).ranks

theorem keys_latest_ofTransitions :
    (ofTransitions base transitions).latest.keys = firstSeen (qualifying base transitions) :=
  (follows_foldl _).keys

/-- The latest transition of a bundle is its last one that counts. -/
theorem get?_latest_ofTransitions (bundle : Uuid) :
    (ofTransitions base transitions).latest.get? bundle =
      lastOf (qualifying base transitions) bundle :=
  (follows_foldl _).latest bundle

/-- Each entry of the latest transitions has its last transition and its rank. -/
theorem mem_latest_ofTransitions {bundle : Uuid} {t : Transition}
    (h : (bundle, t) ∈ (ofTransitions base transitions).latest) :
    lastOf (qualifying base transitions) bundle = some t ∧
      (ofTransitions base transitions).rankOf bundle =
        (firstSeen (qualifying base transitions)).idxOf bundle + 1 := by
  have hkeys := keys_latest_ofTransitions base transitions
  have hranks := ranks_ofTransitions base transitions
  have hmem : bundle ∈ firstSeen (qualifying base transitions) := by
    rw [← hkeys]
    exact List.mem_map_of_mem (f := (·.1)) h
  constructor
  · have hnodup : (ofTransitions base transitions).latest.keys.Nodup := by
      rw [hkeys]
      exact nodup_firstSeen _
    rw [← get?_latest_ofTransitions, Keyed.get?_eq_some_iff hnodup]
    exact h
  · have hnodup : (ofTransitions base transitions).ranks.keys.Nodup := by
      rw [hranks, Keyed.keys, List.zipIdx_map_fst]
      exact nodup_firstSeen _
    have hranked : (bundle, (firstSeen (qualifying base transitions)).idxOf bundle + 1) ∈
        (ofTransitions base transitions).ranks := by
      rw [hranks]
      refine List.mem_of_getElem? (i := (firstSeen (qualifying base transitions)).idxOf bundle) ?_
      rw [List.getElem?_zipIdx, List.getElem?_idxOf hmem, Option.map_some, Nat.add_comm]
    rw [rankOf, (Keyed.get?_eq_some_iff hnodup _ _).2 hranked, Option.getD_some]

end Ranking
end BundleLedger
