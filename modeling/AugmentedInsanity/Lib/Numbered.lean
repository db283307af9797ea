/-
Lists of which some entries are counted, from 0 on, and of those the ones with certain numbers are taken out. What
happens to an entry depends on how many are counted before it, and nothing else is taken out
(`length_eraseNumbered`).
-/
import Mathlib.Data.List.Range

namespace AugmentedInsanity.Numbered

variable {α β : Type*} {p : α → Bool} {numbers numbers' : ℕ → Bool} {a : α} {l m : List α}

/-- The entries that `p` counts are taken out if they have one of the numbers. -/
def eraseNumbered (p : α → Bool) : (ℕ → Bool) → List α → List α
  | _, [] => []
  | numbers, a :: l =>
    if p a then
      if numbers 0 then eraseNumbered p (fun n => numbers (n + 1)) l
      else a :: eraseNumbered p (fun n => numbers (n + 1)) l
    else a :: eraseNumbered p numbers l

/-- How many of the numbers below `n` there are. -/
def countNumbers (numbers : ℕ → Bool) (n : ℕ) : ℕ := (List.range n).countP numbers

@[simp] theorem eraseNumbered_nil : eraseNumbered p numbers [] = [] := rfl

theorem eraseNumbered_of_not (h : p a = false) :
    eraseNumbered p numbers (a :: l) = a :: eraseNumbered p numbers l := by
  rw [eraseNumbered, h]
  rfl

theorem eraseNumbered_of_kept (h : p a = true) (hzero : numbers 0 = false) :
    eraseNumbered p numbers (a :: l) = a :: eraseNumbered p (fun n => numbers (n + 1)) l := by
  rw [eraseNumbered, h, hzero]
  rfl

theorem eraseNumbered_of_erased (h : p a = true) (hzero : numbers 0 = true) :
    eraseNumbered p numbers (a :: l) = eraseNumbered p (fun n => numbers (n + 1)) l := by
  rw [eraseNumbered, h, hzero]
  rfl

/-- If none of the numbers is reached, nothing is taken out. -/
theorem eraseNumbered_of_none (h : ∀ n < l.countP p, numbers n = false) : eraseNumbered p numbers l = l := by
  induction l generalizing numbers with
  | nil => rfl
  | cons a l ih =>
    cases hp : p a with
    | false =>
      rw [List.countP_cons_of_neg (by simp [hp])] at h
      rw [eraseNumbered_of_not hp, ih h]
    | true =>
      rw [List.countP_cons_of_pos hp] at h
      rw [eraseNumbered_of_kept hp (h 0 (Nat.zero_lt_succ _)), ih fun n hn => h (n + 1) (Nat.succ_lt_succ hn)]

@[simp] theorem countNumbers_zero : countNumbers numbers 0 = 0 := rfl

theorem countNumbers_succ (n : ℕ) :
    countNumbers numbers (n + 1) = (if numbers 0 then 1 else 0) + countNumbers (fun n => numbers (n + 1)) n := by
  rw [countNumbers, List.range_succ_eq_map, List.countP_cons, List.countP_map, Nat.add_comm]
  rfl

theorem length_eraseNumbered :
    (eraseNumbered p numbers l).length + countNumbers numbers (l.countP p) = l.length := by
  induction l generalizing numbers with
  | nil => rfl
  | cons a l ih =>
    cases hp : p a with
    | false =>
      have hl := @ih numbers
      rw [eraseNumbered_of_not hp, List.countP_cons_of_neg (by simp [hp]), List.length_cons, List.length_cons]
      omega
    | true =>
      have hl := @ih fun n => numbers (n + 1)
      rw [List.countP_cons_of_pos hp, countNumbers_succ, List.length_cons]
      cases hzero : numbers 0 with
      | false =>
        rw [eraseNumbered_of_kept hp hzero, List.length_cons]
        simp only [Bool.false_eq_true, if_false]
        omega
      | true =>
        rw [eraseNumbered_of_erased hp hzero]
        simp only [if_true]
        omega

/-- Entries that are counted by what they are mapped to. -/
theorem map_eraseNumbered {f : α → β} {q : β → Bool} :
    (eraseNumbered (fun a => q (f a)) numbers l).map f = eraseNumbered q numbers (l.map f) := by
  induction l generalizing numbers with
  | nil => rfl
  | cons a l ih =>
    rw [List.map_cons]
    unfold eraseNumbered
    split
    · split
      · exact ih
      · exact congrArg _ ih
    · exact congrArg _ ih

theorem eraseNumbered_congr (h : ∀ n, numbers n = numbers' n) :
    eraseNumbered p numbers l = eraseNumbered p numbers' l :=
  congrArg (eraseNumbered p · l) (funext h)

end AugmentedInsanity.Numbered
