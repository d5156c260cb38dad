import BundleLedger.Proofs.Bundle.Ranking

/-!
# What a ranking means

A ranking is said without the scan: which bundles have ranks, in which order, and which transition is the latest
of each (`Ranking.Means`). Transitions and base subscriptions have exactly one such ranking, the one that the scan
computes (`means_iff`). The scan that remembers the bundle ranked last takes the same steps as the one that looks
every rank up (`ranking_step`). Main statement: `ofTransitions_means`.
-/

set_option autoImplicit false

namespace BundleLedger

/-! ### Maps that keep their order -/

namespace Keyed

variable {Value : Type} {m m' : Keyed Value}

theorem length_eq_of_keys_eq (hkeys : m.keys = m'.keys) : m.length = m'.length := by
  simpa [keys] using congrArg List.length hkeys

theorem key_eq_of_keys_eq (hkeys : m.keys = m'.keys) {index : ℕ} (hi : index < m.length) (hj : index < m'.length) :
    m[index].1 = m'[index].1 := by
  have hget : m.keys[index]? = m'.keys[index]? := by rw [hkeys]
  simpa [keys, hi, hj] using hget

/-- Without repeated keys, the order of the keys and the entries determine a map. -/
theorem eq_of_keys_eq (hkeys : m.keys = m'.keys) (hnodup : m'.keys.Nodup) (h : ∀ entry ∈ m, entry ∈ m') :
    m = m' := by
  apply List.ext_getElem (length_eq_of_keys_eq hkeys)
  intro index hi hj
  exact List.inj_on_of_nodup_map hnodup (h _ (List.getElem_mem hi)) (List.getElem_mem hj)
    (key_eq_of_keys_eq hkeys hi hj)

end Keyed

namespace Ranking

open FirstAppearance

/-- Whether a ranking is that of some transitions under base subscriptions. A bundle is ranked if it has a
transition that counts; bundles stand in the order of their first such transitions, are numbered from one, and
each has its last such transition. -/
structure Means (r : Ranking) (base : List Uuid) (transitions : List Transition) : Prop where
  sameKeys : r.latest.keys = r.ranks.keys
  nodup : r.ranks.keys.Nodup
  mem_iff : ∀ id, id ∈ r.ranks.keys ↔ ∃ t ∈ transitions, t.subscription ∈ base ∧ t.bundle = id
  /-- Of two bundles the one comes first that has a transition that counts before any of the other. -/
  ordered : ∀ first ∈ r.ranks.keys, ∀ second ∈ r.ranks.keys,
    (r.ranks.keys.idxOf first < r.ranks.keys.idxOf second ↔
      ∃ before t after, transitions = before ++ t :: after ∧ t.subscription ∈ base ∧ t.bundle = first ∧
        ∀ u ∈ before ++ [t], u.subscription ∈ base → u.bundle ≠ second)
  ranked : ∀ index (h : index < r.ranks.length), r.ranks[index].2 = index + 1
  /-- No transition that counts follows the latest of its bundle. -/
  latest : ∀ id t, (id, t) ∈ r.latest ↔
    ∃ before after, transitions = before ++ t :: after ∧ t.subscription ∈ base ∧ t.bundle = id ∧
      ∀ u ∈ after, u.subscription ∈ base → u.bundle ≠ id

variable {base : List Uuid} {transitions : List Transition} {r r' : Ranking}

/-! ### Transitions that count -/

theorem qualifying_append (before after : List Transition) :
    qualifying base (before ++ after) = qualifying base before ++ qualifying base after :=
  List.filter_append ..

theorem qualifying_cons_of_mem {t : Transition} (h : t.subscription ∈ base) (rest : List Transition) :
    qualifying base (t :: rest) = t :: qualifying base rest :=
  List.filter_cons_of_pos (by simpa using h)

theorem mem_qualifying {t : Transition} :
    t ∈ qualifying base transitions ↔ t ∈ transitions ∧ t.subscription ∈ base := by
  simp [qualifying]

/-- A transition that does not count can be left out. -/
theorem qualifying_without {t : Transition} (h : t.subscription ∉ base) (before after : List Transition) :
    qualifying base (before ++ t :: after) = qualifying base (before ++ after) := by
  have ht : qualifying base (t :: after) = qualifying base after := List.filter_cons_of_neg (by simpa using h)
  rw [qualifying_append, ht, qualifying_append]

/-- The last transition of a bundle that counts is followed by none that does. -/
theorem lastOf_qualifying_eq_some_iff {id : Uuid} {t : Transition} :
    lastOf (qualifying base transitions) id = some t ↔
      ∃ before after, transitions = before ++ t :: after ∧ t.subscription ∈ base ∧ t.bundle = id ∧
        ∀ u ∈ after, u.subscription ∈ base → u.bundle ≠ id := by
  rw [lastOf, qualifying, List.filter_filter, List.getLast?_eq_head?_reverse, ← List.filter_reverse,
    List.head?_filter, List.find?_eq_some_iff_append]
  constructor
  · rintro ⟨ht, after, before, hsplit, hafter⟩
    simp only [Bool.and_eq_true, decide_eq_true_eq, List.contains_iff_mem] at ht
    refine ⟨before.reverse, after.reverse, ?_, ht.2, ht.1, ?_⟩
    · rw [← List.reverse_reverse transitions, hsplit]
      simp
    · intro u hu hbase hid
      simpa [hbase, hid] using hafter u (List.mem_reverse.1 hu)
  · rintro ⟨before, after, rfl, hbase, hid, hafter⟩
    refine ⟨by simp [hbase, hid], after.reverse, before.reverse, by simp, ?_⟩
    intro u hu
    have hnot := hafter u (List.mem_reverse.1 hu)
    simp only [Bool.not_eq_true', Bool.and_eq_false_iff, decide_eq_false_iff_not]
    by_cases hu' : u.subscription ∈ base
    · exact .inl (hnot hu')
    · exact .inr (by simpa using hu')

/-- Of two bundles that appear, the one appears first of which a transition stands before any of the other. -/
theorem idxOf_firstSeen_lt_iff {first second : Uuid} (hfirst : first ∈ firstSeen (qualifying base transitions))
    (hsecond : second ∈ firstSeen (qualifying base transitions)) :
    (firstSeen (qualifying base transitions)).idxOf first <
        (firstSeen (qualifying base transitions)).idxOf second ↔
      ∃ before t after, transitions = before ++ t :: after ∧ t.subscription ∈ base ∧ t.bundle = first ∧
        ∀ u ∈ before ++ [t], u.subscription ∈ base → u.bundle ≠ second := by
  have hmem : ∀ {id}, id ∈ firstSeen (qualifying base transitions) →
      id ∈ (qualifying base transitions).map (·.bundle) := fun h ↦ List.mem_eraseDups.1 h
  unfold firstSeen
  rw [idxOf_eraseDups_lt_iff (hmem hfirst) (hmem hsecond), idxOf_lt_iff_exists_front (hmem hfirst)]
  constructor
  · rintro ⟨front, back, hsplit, hnot⟩
    obtain ⟨shown, rest, hqualifying, rfl, hrest⟩ := List.map_eq_append_iff.1 hsplit
    obtain ⟨t, others, rfl, hbundle, -⟩ := List.map_eq_cons_iff.1 hrest
    obtain ⟨before, tail, rfl, rfl, htail⟩ := List.filter_eq_append_iff.1 hqualifying
    obtain ⟨skipped, after, rfl, hskipped, hbase, -⟩ := List.filter_eq_cons_iff.1 htail
    refine ⟨before ++ skipped, t, after, by simp, by simpa using hbase, hbundle, ?_⟩
    intro u hu hcounts hsecond'
    have hmem' : u ∈ before ++ [t] := by
      simp only [List.mem_append, List.mem_singleton] at hu ⊢
      rcases hu with (hu | hu) | hu
      · exact .inl hu
      · exact absurd hcounts (by simpa using hskipped u hu)
      · exact .inr hu
    apply hnot
    rw [List.mem_append, List.mem_singleton, ← hsecond']
    rcases List.mem_append.1 hmem' with hu' | hu'
    · exact .inl (List.mem_map_of_mem (mem_qualifying.2 ⟨hu', hcounts⟩))
    · exact .inr (by rw [List.mem_singleton.1 hu', hbundle])
  · rintro ⟨before, t, after, rfl, hbase, hbundle, hnot⟩
    refine ⟨(qualifying base before).map (·.bundle), (qualifying base after).map (·.bundle), ?_, ?_⟩
    · rw [qualifying_append, qualifying_cons_of_mem hbase, List.map_append, List.map_cons, hbundle]
    · intro hmem'
      rcases List.mem_append.1 hmem' with hmem' | hmem'
      · obtain ⟨u, hu, hsecond'⟩ := List.mem_map.1 hmem'
        obtain ⟨hu, hcounts⟩ := mem_qualifying.1 hu
        exact hnot u (List.mem_append_left _ hu) hcounts hsecond'
      · have hlast : second = first := List.mem_singleton.1 hmem'
        exact hnot t (List.mem_append_right _ (List.mem_singleton_self t)) hbase (hbundle.trans hlast.symm)

/-! ### The ranking that the scan computes -/

theorem means_ofTransitions (base : List Uuid) (transitions : List Transition) :
    (ofTransitions base transitions).Means base transitions := by
  have hranks := ranks_ofTransitions base transitions
  have hlatest := keys_latest_ofTransitions base transitions
  have hkeys : (ofTransitions base transitions).ranks.keys = firstSeen (qualifying base transitions) := by
    rw [hranks, Keyed.keys, List.zipIdx_map_fst]
  refine
    { sameKeys := hlatest.trans hkeys.symm
      nodup := hkeys ▸ nodup_firstSeen _
      mem_iff := fun id ↦ ?_
      ordered := fun first hfirst second hsecond ↦ ?_
      ranked := fun index h ↦ ?_
      latest := fun id t ↦ ?_ }
  · rw [hkeys, mem_firstSeen]
    simp only [mem_qualifying, and_assoc]
  · rw [hkeys] at hfirst hsecond ⊢
    exact idxOf_firstSeen_lt_iff hfirst hsecond
  · simp only [hranks, List.getElem_zipIdx, Nat.add_comm]
  · rw [← Keyed.get?_eq_some_iff (hlatest ▸ nodup_firstSeen _), get?_latest_ofTransitions,
      lastOf_qualifying_eq_some_iff]

/-- Transitions have no more than one ranking. -/
theorem Means.unique (h : r.Means base transitions) (h' : r'.Means base transitions) : r = r' := by
  have hkeys : r.ranks.keys = r'.ranks.keys := by
    refine eq_of_idxOf_lt_iff h.nodup h'.nodup (fun id ↦ by rw [h.mem_iff, h'.mem_iff]) ?_
    intro first hfirst second hsecond
    have hmem : ∀ {id}, id ∈ r.ranks.keys → id ∈ r'.ranks.keys := by
      intro id hid
      rwa [h'.mem_iff, ← h.mem_iff]
    rw [h.ordered first hfirst second hsecond, h'.ordered first (hmem hfirst) second (hmem hsecond)]
  have hranks : r.ranks = r'.ranks := by
    apply List.ext_getElem (Keyed.length_eq_of_keys_eq hkeys)
    intro index hi hj
    apply Prod.ext (Keyed.key_eq_of_keys_eq hkeys hi hj)
    rw [h.ranked index hi, h'.ranked index hj]
  have hlatest : r.latest = r'.latest := by
    refine Keyed.eq_of_keys_eq (by rw [h.sameKeys, h'.sameKeys, hkeys]) (h'.sameKeys ▸ h'.nodup) ?_
    rintro ⟨id, t⟩ hentry
    exact (h'.latest id t).2 ((h.latest id t).1 hentry)
  exact congrArg₂ Ranking.mk hranks hlatest

theorem means_iff : r.Means base transitions ↔ r = ofTransitions base transitions := by
  constructor
  · intro h
    exact h.unique (means_ofTransitions base transitions)
  · rintro rfl
    exact means_ofTransitions base transitions

/-! ### The scan without memory -/

/-- After the same transitions the scan that remembers the bundle ranked last does what the plain one does. -/
theorem ranking_step {s : Scan} {seen : List Transition} (h : s.Follows seen) (t : Transition) :
    (s.step t).ranking = plainStep s.ranking t := by
  have hlength : s.lastRank = s.ranking.ranks.length := by
    rw [h.lastRank, h.ranks, List.length_zipIdx]
  have hnew : s.isNew t.bundle = !s.ranking.ranks.contains t.bundle := by
    rw [Bool.eq_iff_iff, h.isNew_iff, ← h.keys_ranks, ← Keyed.contains_iff_mem_keys]
    simp
  unfold Scan.step plainStep
  rw [hnew, hlength]
  cases s.ranking.ranks.contains t.bundle <;> rfl

theorem ofTransitions_eq_plain (base : List Uuid) (transitions : List Transition) :
    ofTransitions base transitions = plain base transitions := by
  unfold ofTransitions plain
  generalize qualifying base transitions = seen
  induction seen using List.reverseRecOn with
  | nil => rfl
  | append_singleton rest t ih =>
    rw [List.foldl_append, List.foldl_append, ← ih]
    exact ranking_step (follows_foldl rest) t

/-- The scan computes the ranking that base subscriptions and transitions mean; transitions that do not count make
no difference, and neither does the memory of the scan. -/
theorem ofTransitions_means (base : List Uuid) (transitions : List Transition) :
    (∀ r : Ranking, r.Means base transitions ↔ r = ofTransitions base transitions) ∧
      (∀ before t after, t.subscription ∉ base →
        ofTransitions base (before ++ t :: after) = ofTransitions base (before ++ after)) ∧
      ofTransitions base transitions = plain base transitions := by
  refine ⟨fun r ↦ means_iff, ?_, ofTransitions_eq_plain base transitions⟩
  intro before t after hnot
  rw [ofTransitions, ofTransitions, qualifying_without hnot]

end Ranking
end BundleLedger
