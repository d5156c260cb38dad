/-!
# Schedules of builds

How a pool of workers gets through submitted tasks: the order in which they complete, which of them
are cancelled, from which submission on the pool refuses, and after how many completions it stalls.
-/

set_option autoImplicit false

namespace BundleLedger

/-- The behaviour of a worker pool. Tasks are numbered in the order of their submission. -/
structure Schedule where
  order : List Nat := []
  cancelled : List Nat := []
  rejectAt : Option Nat := none
  stallAfter : Option Nat := none
deriving DecidableEq, Repr

namespace Schedule

/-- Tasks complete in the order of their submission. -/
def fifo : Schedule := {}

/-- Every submission is refused. -/
def closed : Schedule := { rejectAt := some 0 }

/-- The number of submissions that are accepted out of `count`. -/
def accepted (s : Schedule) (count : Nat) : Nat :=
  match s.rejectAt with
  | some k => min k count
  | none => count

/-- The order in which `count` tasks would complete: the stated order without repetitions and unknown
tasks, then the tasks that it does not state, in the order of submission. -/
def completion (s : Schedule) (count : Nat) : List Nat :=
  let stated := (s.order.filter (· < count)).eraseDups
  stated ++ (List.range count).filter fun index ↦ !stated.contains index

/-- The tasks that complete before the pool stalls, in order. -/
def finished (s : Schedule) (count : Nat) : List Nat :=
  match s.stallAfter with
  | some k => (s.completion count).take k
  | none => s.completion count

/-- Whether some of `count` tasks never complete. -/
def stalls (s : Schedule) (count : Nat) : Bool :=
  match s.stallAfter with
  | some k => k < count
  | none => false

def isCancelled (s : Schedule) (index : Nat) : Bool :=
  s.cancelled.contains index

theorem accepted_le (s : Schedule) (count : Nat) : s.accepted count ≤ count := by
  unfold accepted
  split
  · exact Nat.min_le_right _ _
  · exact Nat.le_refl _

theorem mem_completion (s : Schedule) (count index : Nat) :
    index ∈ s.completion count ↔ index < count := by
  simp only [completion, List.mem_append, List.mem_eraseDups, List.mem_filter, decide_eq_true_eq,
    List.mem_range]
  constructor
  · rintro (⟨_, h⟩ | ⟨h, _⟩) <;> exact h
  · intro h
    by_cases hs : index ∈ (s.order.filter (· < count)).eraseDups
    · left
      simpa using hs
    · right
      simp_all

end Schedule
end BundleLedger
