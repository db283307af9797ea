/-
The list `true, false, true, …`: what a log of the switches of something that starts switched off has to be,
when it is only switched on while it is off and only switched off while it is on.
-/
import Mathlib.Data.List.Basic

namespace AugmentedInsanity.Alternation

/-- The first `n` switches. -/
def alternating (n : ℕ) : List Bool := (List.range n).map fun i => decide (i % 2 = 0)

@[simp] theorem alternating_zero : alternating 0 = [] := rfl

theorem alternating_succ (n : ℕ) : alternating (n + 1) = alternating n ++ [decide (n % 2 = 0)] := by
  unfold alternating
  rw [List.range_succ, List.map_append]
  rfl

@[simp] theorem length_alternating (n : ℕ) : (alternating n).length = n := by simp [alternating]

theorem take_alternating {m n : ℕ} (h : m ≤ n) : (alternating n).take m = alternating m := by
  unfold alternating
  rw [← List.map_take, List.take_range, Nat.min_eq_left h]

/-- One switch more keeps the alternation exactly when it is to the other side. -/
theorem alternating_snoc {n : ℕ} {on : Bool} : alternating n ++ [on] = alternating (n + 1) ↔ on = decide (n % 2 = 0) := by
  rw [alternating_succ]
  simp

end AugmentedInsanity.Alternation
