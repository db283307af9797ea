/-
Lists with elements of a kind put in. What a fold that passes over such elements computes does not depend on them.
-/
import Mathlib.Data.List.Basic

namespace AugmentedInsanity.Padding

variable {α β : Type*} {P : α → Prop}

/-- The second list is the first one with elements of the kind put in, anywhere. -/
inductive Padded (P : α → Prop) : List α → List α → Prop
  | nil : Padded P [] []
  | keep (a : α) {l m : List α} : Padded P l m → Padded P (a :: l) (a :: m)
  | pad {a : α} {l m : List α} : P a → Padded P l m → Padded P l (a :: m)

namespace Padded

theorem refl (l : List α) : Padded P l l := by
  induction l with
  | nil => exact .nil
  | cons a l ih => exact .keep a ih

/-- One element put in at any place. -/
theorem insert {a : α} (ha : P a) (l m : List α) : Padded P (l ++ m) (l ++ a :: m) := by
  induction l with
  | nil => exact .pad ha (refl m)
  | cons b l ih => exact .keep b ih

variable {l m : List α}

theorem length_le (h : Padded P l m) : l.length ≤ m.length := by
  induction h with
  | nil => exact Nat.le_refl 0
  | keep a _ ih => exact Nat.succ_le_succ ih
  | pad _ _ ih => exact Nat.le_succ_of_le ih

/-- A list that is not longer has nothing put in. -/
theorem eq_of_length_le (h : Padded P l m) (hle : m.length ≤ l.length) : m = l := by
  induction h with
  | nil => rfl
  | keep a _ ih => rw [ih (Nat.le_of_succ_le_succ hle)]
  | pad _ h _ => exact absurd (Nat.lt_of_lt_of_le (Nat.lt_succ_of_le h.length_le) hle) (Nat.lt_irrefl _)

/-- Elements that a test does not meet do not show. -/
theorem any_eq (h : Padded P l m) {p : α → Bool} (hp : ∀ a, P a → p a = false) : m.any p = l.any p := by
  induction h with
  | nil => rfl
  | keep a _ ih => simp only [List.any_cons, ih]
  | pad ha _ ih => simp only [List.any_cons, hp _ ha, ih, Bool.false_or]

/-- Nor do elements that a fold passes over. -/
theorem foldl_eq (h : Padded P l m) {f : β → α → β} (hf : ∀ b a, P a → f b a = b) (b : β) :
    m.foldl f b = l.foldl f b := by
  induction h generalizing b with
  | nil => rfl
  | keep a _ ih => exact ih (f b a)
  | pad ha _ ih =>
    rw [List.foldl_cons, hf b _ ha]
    exact ih b

end Padded

end AugmentedInsanity.Padding
