import BundleLedger.Bundle.Snapshot

/-!
# Ranks of bundles

Ranks of bundles by first appearance. Transitions come in the order of events, not grouped by bundle.
Only those of base subscriptions count: the first of a bundle gives its rank, the last its current
state. The scan remembers the bundle it ranked last and so often need not look the rank up; `plain`
is the scan without that memory.
-/

set_option autoImplicit false

namespace BundleLedger

/-- A map that keeps its keys in the order of their first insertion. -/
abbrev Keyed (Value : Type) := List (Uuid × Value)

namespace Keyed

variable {Value : Type}

def get? (m : Keyed Value) (key : Uuid) : Option Value :=
  (m.find? fun entry ↦ entry.1 = key).map (·.2)

def contains (m : Keyed Value) (key : Uuid) : Bool :=
  m.any fun entry ↦ entry.1 = key

/-- The map with a key set, in its place if it is there and at the end otherwise. -/
def set (m : Keyed Value) (key : Uuid) (value : Value) : Keyed Value :=
  match m with
  | [] => [(key, value)]
  | entry :: rest => if entry.1 = key then (key, value) :: rest else entry :: set rest key value

def keys (m : Keyed Value) : List Uuid :=
  m.map (·.1)

theorem get?_nil (key : Uuid) : get? ([] : Keyed Value) key = none := rfl

theorem get?_cons (entry : Uuid × Value) (rest : Keyed Value) (key : Uuid) :
    get? (entry :: rest) key = if entry.1 = key then some entry.2 else get? rest key := by
  unfold get?
  by_cases h : entry.1 = key <;> simp [h]

theorem contains_iff_mem_keys (m : Keyed Value) (key : Uuid) :
    contains m key = true ↔ key ∈ keys m := by
  simp [contains, keys]

theorem get?_set_self (m : Keyed Value) (key : Uuid) (value : Value) :
    get? (set m key value) key = some value := by
  induction m with
  | nil => simp [set, get?_cons]
  | cons entry rest ih =>
    unfold set
    split
    · simp [get?_cons]
    · rename_i h
      simp [get?_cons, h, ih]

theorem get?_set_of_ne (m : Keyed Value) {key other : Uuid} (value : Value) (h : other ≠ key) :
    get? (set m key value) other = get? m other := by
  induction m with
  | nil => simp [set, get?_cons, get?_nil, Ne.symm h]
  | cons entry rest ih =>
    unfold set
    split
    · rename_i he
      simp [get?_cons, he, Ne.symm h]
    · simp [get?_cons, ih]

theorem keys_set (m : Keyed Value) (key : Uuid) (value : Value) :
    keys (set m key value) = if key ∈ keys m then keys m else keys m ++ [key] := by
  induction m with
  | nil => simp [set, keys]
  | cons entry rest ih =>
    unfold set
    simp only [keys, List.map_cons, List.mem_cons] at ih ⊢
    by_cases he : entry.1 = key
    · simp [he]
    · simp only [he, if_false, List.map_cons, ih, Ne.symm he, false_or]
      split <;> simp_all

end Keyed

/-- Ranks and latest transitions of the ranked bundles, both in the order of the ranks. -/
structure Ranking where
  ranks : Keyed Nat
  latest : Keyed Transition

namespace Ranking

def empty : Ranking := ⟨[], []⟩

/-- The state of the scan: the ranking so far, and the bundle that was ranked last. -/
structure Scan where
  ranking : Ranking
  lastBundle : Option Uuid
  lastRank : Nat

def Scan.start : Scan := ⟨.empty, none, 0⟩

/-- Whether a bundle gets a rank: it is not the one ranked last, and has none yet. -/
def Scan.isNew (s : Scan) (bundle : Uuid) : Bool :=
  match s.lastBundle with
  | none => true
  | some last => bundle ≠ last && !s.ranking.ranks.contains bundle

/-- One transition of a base subscription. -/
def Scan.step (s : Scan) (t : Transition) : Scan :=
  let s :=
    if s.isNew t.bundle then
      { ranking := { s.ranking with ranks := s.ranking.ranks.set t.bundle (s.lastRank + 1) }
        lastBundle := some t.bundle
        lastRank := s.lastRank + 1 }
    else s
  { s with ranking := { s.ranking with latest := s.ranking.latest.set t.bundle t } }

/-- The transitions that count: those of base subscriptions. -/
def qualifying (base : List Uuid) (transitions : List Transition) : List Transition :=
  transitions.filter fun t ↦ base.contains t.subscription

/-- Ranks of bundles by first appearance, with the latest transition of each. -/
def ofTransitions (base : List Uuid) (transitions : List Transition) : Ranking :=
  ((qualifying base transitions).foldl Scan.step Scan.start).ranking

/-- One step of the scan that looks every rank up. -/
def plainStep (r : Ranking) (t : Transition) : Ranking where
  ranks := if r.ranks.contains t.bundle then r.ranks else r.ranks.set t.bundle (r.ranks.length + 1)
  latest := r.latest.set t.bundle t

/-- The ranking by the scan that looks every rank up. -/
def plain (base : List Uuid) (transitions : List Transition) : Ranking :=
  (qualifying base transitions).foldl plainStep .empty

/-- The rank of a bundle; zero if it has none. -/
def rankOf (r : Ranking) (bundle : Uuid) : Nat :=
  (r.ranks.get? bundle).getD 0

end Ranking
end BundleLedger
