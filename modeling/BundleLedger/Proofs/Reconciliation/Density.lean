import BundleLedger.Proofs.FirstAppearance
import BundleLedger.Proofs.Reconciliation.Scoping

/-!
# Accounts whose ranks are not dense

The check of ranks looks at four sums of an account: how many records it has, their least and their greatest rank,
and how many different ranks there are. These decide whether the ranks are the numbers from one to how many they
are (`Finding.isSparse_iff`): ranks within these bounds that do not repeat are as many as the numbers there, so none
is missing. The check therefore reports the accounts whose ranks are anything else, each once
(`Reconciliation.reports_sparse`).
-/

set_option autoImplicit false

namespace BundleLedger

open Result
open Database (stored)

/-! ### Dense ranks -/

/-- The numbers from one to a count. -/
def countedTo (count : ℕ) : List ℤ :=
  (List.range count).map fun index : ℕ ↦ ((index + 1 : ℕ) : ℤ)

theorem mem_countedTo {count : ℕ} {rank : ℤ} : rank ∈ countedTo count ↔ 1 ≤ rank ∧ rank ≤ count := by
  unfold countedTo
  rw [List.mem_map]
  constructor
  · rintro ⟨index, hindex, rfl⟩
    rw [List.mem_range] at hindex
    omega
  · rintro ⟨hone, hcount⟩
    refine ⟨(rank - 1).toNat, List.mem_range.2 ?_, ?_⟩
    · omega
    · omega

theorem nodup_countedTo (count : ℕ) : (countedTo count).Nodup := by
  apply List.nodup_range.map
  intro index other heq
  have hnext : index + 1 = other + 1 := Int.ofNat_inj.1 heq
  omega

theorem length_countedTo (count : ℕ) : (countedTo count).length = count := by
  rw [countedTo, List.length_map, List.length_range]

/-- Whether ranks are exactly the numbers from one to how many they are, in any order. -/
def IsDense (ranks : List ℤ) : Prop :=
  ranks.Perm (countedTo ranks.length)

instance (ranks : List ℤ) : Decidable (IsDense ranks) :=
  inferInstanceAs (Decidable (ranks.Perm _))

namespace IsDense

variable {ranks : List ℤ}

theorem nodup (h : IsDense ranks) : ranks.Nodup :=
  h.nodup_iff.2 (nodup_countedTo _)

theorem mem_iff (h : IsDense ranks) {rank : ℤ} : rank ∈ ranks ↔ 1 ≤ rank ∧ rank ≤ ranks.length := by
  rw [List.Perm.mem_iff h, mem_countedTo]

theorem nil : IsDense [] :=
  List.Perm.nil

theorem of_perm {count : ℕ} (h : ranks.Perm (countedTo count)) : IsDense ranks := by
  have hlength : ranks.length = count := by
    rw [h.length_eq, length_countedTo]
  rw [IsDense, hlength]
  exact h

/-- Ranks within the bounds that do not repeat are dense: they are as many as the numbers there. -/
theorem of_nodup (hnodup : ranks.Nodup) (h : ∀ rank ∈ ranks, 1 ≤ rank ∧ rank ≤ ranks.length) :
    IsDense ranks := by
  have hsubset : ranks ⊆ countedTo ranks.length := fun rank hrank ↦ mem_countedTo.2 (h rank hrank)
  have hsubperm : ranks.Subperm (countedTo ranks.length) := List.subperm_of_subset hnodup hsubset
  exact List.Subperm.perm_of_length_le hsubperm (length_countedTo _).le

/-- Ranks are dense exactly if the least is one, and the greatest and the number of different ones are how many
they are. -/
theorem iff_sums (hpos : ranks ≠ []) :
    IsDense ranks ↔
      ranks.min? = some 1 ∧ ranks.max? = some (ranks.length : ℤ) ∧ ranks.eraseDups.length = ranks.length := by
  have hlength : 1 ≤ ranks.length := List.length_pos_iff.2 hpos
  constructor
  · intro h
    refine ⟨List.min?_eq_some_iff.2 ⟨h.mem_iff.2 ?_, ?_⟩, List.max?_eq_some_iff.2 ⟨h.mem_iff.2 ?_, ?_⟩, ?_⟩
    · omega
    · intro rank hrank
      exact (h.mem_iff.1 hrank).1
    · omega
    · intro rank hrank
      exact (h.mem_iff.1 hrank).2
    · rw [FirstAppearance.eraseDups_of_nodup h.nodup]
  · rintro ⟨hleast, hgreatest, hdistinct⟩
    refine of_nodup (FirstAppearance.nodup_of_length_eraseDups hdistinct) fun rank hrank ↦ ⟨?_, ?_⟩
    · exact (List.min?_eq_some_iff.1 hleast).2 rank hrank
    · exact (List.max?_eq_some_iff.1 hgreatest).2 rank hrank

end IsDense

/-- Ranks may repeat although their least and their greatest are those of dense ones. -/
example : ¬IsDense [1, 1, 3] ∧ IsDense [2, 3, 1] := by decide

/-! ### The check -/

namespace Finding

variable {db : Database} {scope : Option Uuid} {findings : List Finding} {entries : List EntryRow} {account : Uuid}

/-- The ranks of the records of an account. -/
def ranksOf (entries : List EntryRow) (account : Uuid) : List ℤ :=
  (entries.filter fun r ↦ r.entry.account = account).map fun r ↦ r.entry.rank

theorem ranksOf_ne_nil_iff : ranksOf entries account ≠ [] ↔ account ∈ entries.map (·.entry.account) := by
  unfold ranksOf
  rw [ne_eq, List.map_eq_nil_iff, List.filter_eq_nil_iff]
  simp [eq_comm]

/-- An account with records is found exactly if its ranks are not dense. -/
theorem isSparse_iff (h : ranksOf entries account ≠ []) :
    isSparse entries account = true ↔ ¬IsDense (ranksOf entries account) := by
  obtain ⟨least, hleast⟩ := Option.ne_none_iff_exists'.1 (mt List.min?_eq_none_iff.1 h)
  obtain ⟨greatest, hgreatest⟩ := Option.ne_none_iff_exists'.1 (mt List.max?_eq_none_iff.1 h)
  rw [IsDense.iff_sums h, hleast, hgreatest]
  unfold ranksOf at hleast hgreatest
  unfold isSparse rankSummary distinctRanks ranksOf
  simp only [hleast, hgreatest, Option.getD_some, Bool.or_eq_true, decide_eq_true_eq, Option.some.injEq, ne_eq]
  tauto

theorem nodup_sparseRanks (h : find db scope .rankDensity = .ok findings) : findings.Nodup := by
  unfold find sparseRanks at h
  simp only [map_eq_ok_iff, bind_eq_ok_iff, pure_eq_ok_iff] at h
  obtain ⟨_, ⟨own, -, rfl⟩, rfl⟩ := h
  have haccounts : ((own.map fun r ↦ r.entry.account).eraseDups.filter (isSparse own)).Nodup :=
    (FirstAppearance.nodup_eraseDups _).filter _
  rw [List.map_map]
  apply haccounts.map
  intro account other heq
  exact congrArg RankSummary.account (Finding.ranks.inj heq)

/-- An account has one row if its ranks are not dense, and else none. -/
def sparseRowsOf (db : Database) (scope : Option Uuid) (account : Uuid) : List Finding :=
  if inScope scope account = true ∧ ¬IsDense (ranksOf (stored db.entries) account) then
    [.ranks (rankSummary (stored db.entries) account)]
  else []

theorem filter_sparseRanks (h : find db scope .rankDensity = .ok findings) (account : Uuid) :
    findings.filter (fun finding ↦ finding.account? = some account) = sparseRowsOf db scope account := by
  apply FirstAppearance.eq_ite_of_nodup ((nodup_sparseRanks h).filter _)
  intro finding
  rw [List.mem_filter, mem_sparseRanks_iff h, decide_eq_true_eq]
  constructor
  · rintro ⟨⟨r, hr, rfl, hscope, hsparse⟩, haccount⟩
    obtain rfl : r.entry.account = account := Option.some.inj haccount
    have hown := ranksOf_ne_nil_iff.2 (List.mem_map_of_mem hr)
    exact ⟨⟨hscope, (isSparse_iff hown).1 hsparse⟩, rfl⟩
  · rintro ⟨⟨hscope, hsparse⟩, rfl⟩
    have hown : ranksOf (stored db.entries) account ≠ [] := by
      intro hnone
      exact hsparse (hnone ▸ IsDense.nil)
    obtain ⟨r, hr, rfl⟩ := List.mem_map.1 (ranksOf_ne_nil_iff.1 hown)
    exact ⟨⟨r, hr, rfl, hscope, (isSparse_iff hown).2 hsparse⟩, rfl⟩

end Finding

/-- Whatever ranks are stored, a run reports of an account its sums, once, if its ranks are not those from one to
how many records it has, and nothing if they are. -/
theorem Reconciliation.reports_sparse (db : Database) (scope : Option Uuid) (correlation : Option String)
    (account : Uuid) :
    ReportsAbout db scope correlation .rankDensity (fun finding ↦ finding.account? = some account)
      (Finding.sparseRowsOf db scope account) :=
  .of_find fun _ hfind ↦ Finding.filter_sparseRanks hfind account

end BundleLedger
