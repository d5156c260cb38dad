import Mathlib.Data.List.Forall2
import Mathlib.Tactic.Common

/-!
# When a computation has a value

A computation that may fail has a value exactly when each of its parts has one. The lemmas take it apart
at its binds, maps and lists of steps.
-/

set_option autoImplicit false

namespace BundleLedger.Result

variable {ε ε' α β : Type}

theorem bind_eq_ok_iff {x : Except ε α} {f : α → Except ε β} {value : β} :
    (x >>= f) = .ok value ↔ ∃ u, x = .ok u ∧ f u = .ok value := by
  cases x with
  | error e => simp [Bind.bind, Except.bind]
  | ok u => simp [Bind.bind, Except.bind]

theorem bind_eq_error_iff {x : Except ε α} {f : α → Except ε β} :
    (∃ e, (x >>= f) = .error e) ↔ (∃ e, x = .error e) ∨ ∃ u, x = .ok u ∧ ∃ e, f u = .error e := by
  cases x with
  | error e => simp [Bind.bind, Except.bind]
  | ok u => simp [Bind.bind, Except.bind]

theorem pure_eq_ok_iff {u value : α} : (pure u : Except ε α) = .ok value ↔ u = value := by
  simp [pure, Except.pure]

theorem map_eq_ok_iff {x : Except ε α} {f : α → β} {value : β} :
    x.map f = .ok value ↔ ∃ u, x = .ok u ∧ f u = value := by
  cases x <;> simp [Except.map]

theorem map_some_inj {x y : Except ε α} : x.map some = y.map some ↔ x = y := by
  cases x <;> cases y <;> simp [Except.map]

theorem mapError_eq_ok_iff {x : Except ε α} {f : ε → ε'} {value : α} :
    x.mapError f = .ok value ↔ x = .ok value := by
  cases x <;> simp [Except.mapError]

theorem mapError_eq_error_iff {x : Except ε α} {f : ε → ε'} {e : ε'} :
    x.mapError f = .error e ↔ ∃ cause, x = .error cause ∧ f cause = e := by
  cases x <;> simp [Except.mapError]

theorem toOption_eq_some_iff {x : Except ε α} {value : α} : x.toOption = some value ↔ x = .ok value := by
  cases x <;> simp [Except.toOption]

theorem toBool_map (x : Except ε α) (f : α → β) : (x.map f).toBool = x.toBool := by
  cases x <;> rfl

theorem not_toBool_iff {x : Except ε α} : (!x.toBool) = true ↔ ∃ e, x = .error e := by
  cases x <;> simp [Except.toBool]

/-- A list of steps has a value exactly when every step has one. -/
theorem mapM_eq_ok_iff {f : α → Except ε β} {xs : List α} {ys : List β} :
    xs.mapM f = .ok ys ↔ List.Forall₂ (fun x y ↦ f x = .ok y) xs ys := by
  induction xs generalizing ys with
  | nil =>
    rw [List.mapM_nil, pure_eq_ok_iff, List.forall₂_nil_left_iff, eq_comm]
  | cons x rest ih =>
    simp only [List.mapM_cons, bind_eq_ok_iff, pure_eq_ok_iff, ih, List.forall₂_cons_left_iff]
    constructor
    · rintro ⟨u, hu, values, hvalues, rfl⟩
      exact ⟨u, values, hu, hvalues, rfl⟩
    · rintro ⟨u, values, hu, hvalues, rfl⟩
      exact ⟨u, hu, values, hvalues, rfl⟩

/-- Steps that are the same for all members are the same for the list. -/
theorem mapM_congr {f g : α → Except ε β} {xs : List α} (h : ∀ x ∈ xs, f x = g x) : xs.mapM f = xs.mapM g := by
  induction xs with
  | nil => rfl
  | cons x rest ih =>
    rw [List.mapM_cons, List.mapM_cons, h x List.mem_cons_self, ih fun y hy ↦ h y (List.mem_cons_of_mem _ hy)]

end BundleLedger.Result
