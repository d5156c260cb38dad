import BundleLedger.Text.Category

/-!
# Cutting text

Cutting text: blanks off both ends, a separator once, a number of characters.
-/

set_option autoImplicit false

namespace BundleLedger.Text

/-- A list without the leading and trailing elements of which `p` holds. -/
def trimBy (p : Char → Bool) (s : List Char) : List Char :=
  ((s.dropWhile p).reverse.dropWhile p).reverse

/-- Text without the blanks at its ends. -/
def strip (s : String) : String :=
  String.ofList (trimBy isBlank s.toList)

/-- What stands before the first `separator`, and what stands after it if there is one. -/
def splitFirst (separator : Char) : List Char → List Char × Option (List Char)
  | [] => ([], none)
  | c :: rest =>
    if c = separator then ([], some rest)
    else
      let (before, after) := splitFirst separator rest
      (c :: before, after)

/-- The pieces of a text between occurrences of `separator`; there is always at least one. -/
def splitAll (separator : Char) : List Char → List (List Char)
  | [] => [[]]
  | c :: rest =>
    if c = separator then [] :: splitAll separator rest
    else
      match splitAll separator rest with
      | [] => [[c]]
      | piece :: pieces => (c :: piece) :: pieces

/-- Every occurrence of the characters `target` in turn, from the left, taken out. -/
def erase (target : List Char) (s : List Char) : List Char :=
  match s with
  | [] => []
  | c :: rest =>
    if target ≠ [] ∧ target.isPrefixOf (c :: rest) then erase target ((c :: rest).drop target.length)
    else c :: erase target rest
termination_by s.length
decreasing_by
  · rename_i h
    have : 0 < target.length := List.length_pos_iff.2 h.1
    simp only [List.length_drop, List.length_cons]
    omega
  · simp

/-- The first `count` characters. -/
def cut (count : Nat) (s : String) : String :=
  String.ofList (s.toList.take count)

/-- What stands before the first separator has none. -/
theorem splitFirst_eq_some_iff {separator : Char} {s before after : List Char} :
    splitFirst separator s = (before, some after) ↔ s = before ++ separator :: after ∧ separator ∉ before := by
  induction s generalizing before with
  | nil => simp [splitFirst]
  | cons c rest ih =>
    unfold splitFirst
    by_cases hc : c = separator
    · rw [if_pos hc]
      cases before with
      | nil => simp [hc, eq_comm]
      | cons b before' =>
        simp only [Prod.mk.injEq, List.nil_eq, reduceCtorEq, false_and, List.cons_append, List.cons.injEq,
          List.mem_cons, not_or, false_iff, not_and]
        rintro ⟨rfl, -⟩ hne
        exact absurd hc.symm hne
    · rw [if_neg hc]
      cases before with
      | nil => simp [hc]
      | cons b before' =>
        have hsplit := @ih before'
        simp only [Prod.ext_iff] at hsplit ⊢
        simp only [List.cons.injEq, List.cons_append, List.mem_cons, not_or]
        constructor
        · rintro ⟨⟨rfl, hbefore⟩, hafter⟩
          obtain ⟨hrest, hnot⟩ := hsplit.1 ⟨hbefore, hafter⟩
          exact ⟨⟨rfl, hrest⟩, Ne.symm hc, hnot⟩
        · rintro ⟨⟨rfl, hrest⟩, -, hnot⟩
          obtain ⟨hbefore, hafter⟩ := hsplit.2 ⟨hrest, hnot⟩
          exact ⟨⟨rfl, hbefore⟩, hafter⟩

theorem splitAll_ne_nil (separator : Char) (s : List Char) : splitAll separator s ≠ [] := by
  cases s with
  | nil => simp [splitAll]
  | cons c rest =>
    simp only [splitAll]
    split
    · simp
    · split <;> simp

theorem splitAll_concat (separator : Char) (s : List Char) :
    splitAll separator (s ++ [separator]) = splitAll separator s ++ [[]] := by
  induction s with
  | nil => simp [splitAll]
  | cons c rest ih =>
    by_cases hc : c = separator
    · simp [splitAll, hc, ih]
    · obtain ⟨piece, pieces, hpieces⟩ := List.exists_cons_of_ne_nil (splitAll_ne_nil separator rest)
      simp [splitAll, hc, ih, hpieces]

theorem toList_cut (count : Nat) (s : String) : (cut count s).toList = s.toList.take count := by
  simp [cut]

end BundleLedger.Text
