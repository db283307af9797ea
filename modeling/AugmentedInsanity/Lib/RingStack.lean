/-
A ring that is written backwards: the newest element is at `latest`, older ones follow it and go round, and a new one is
put before the newest, over the oldest. What is in the ring is a list of its size, the newest element first
(`contents_push`).
-/
import Mathlib.Data.List.Basic

namespace AugmentedInsanity

/-- A ring of `c` slots. -/
structure RingStack (c : ℕ) (β : Type*) where
  slots : Fin c → β
  latest : Fin c

namespace RingStack

variable {c : ℕ} {β : Type*}

/-- The slot of the element of an age. -/
def index (latest : Fin c) (age : ℕ) : Fin c := ⟨(latest + age) % c, Nat.mod_lt _ latest.pos⟩

/-- The slot before another. -/
def previous (latest : Fin c) : Fin c :=
  if latest.val = 0 then ⟨c - 1, Nat.sub_lt latest.pos Nat.one_pos⟩
  else ⟨latest - 1, Nat.lt_of_le_of_lt (Nat.sub_le _ _) latest.isLt⟩

def push (r : RingStack c β) (x : β) : RingStack c β :=
  ⟨Function.update r.slots (previous r.latest) x, previous r.latest⟩

/-- What is in the ring, the newest first. -/
def contents (r : RingStack c β) : List β := List.ofFn fun age : Fin c => r.slots (index r.latest age)

variable {r : RingStack c β} {latest : Fin c}

@[simp] theorem length_contents : r.contents.length = c := List.length_ofFn

theorem getElem?_contents (age : ℕ) :
    r.contents[age]? = if age < c then some (r.slots (index r.latest age)) else none := by
  unfold contents
  rw [List.getElem?_ofFn]
  split <;> rfl

theorem val_index {age : ℕ} (hage : age < c) :
    (index latest age).val = if latest.val + age < c then latest.val + age else latest.val + age - c := by
  have hlatest := latest.isLt
  show (latest.val + age) % c = _
  split
  · rename_i hlt
    exact Nat.mod_eq_of_lt hlt
  · rename_i hge
    rw [Nat.mod_eq_sub_mod (by omega)]
    exact Nat.mod_eq_of_lt (by omega)

theorem val_previous : (previous latest).val = if latest.val = 0 then c - 1 else latest.val - 1 := by
  unfold previous
  split <;> rfl

theorem index_zero : index latest 0 = latest := Fin.ext (Nat.mod_eq_of_lt latest.isLt)

/-- Every element is one older. -/
theorem index_previous {age : ℕ} (hage : age + 1 < c) : index (previous latest) (age + 1) = index latest age := by
  have hlatest := latest.isLt
  refine Fin.ext ?_
  rw [val_index hage, val_index (by omega), val_previous]
  split <;> split <;> split <;> omega

/-- The slot that is written is that of the oldest. -/
theorem index_ne_previous {age : ℕ} (hage : age + 1 < c) : index latest age ≠ previous latest := by
  have hlatest := latest.isLt
  intro h
  have hval := congrArg Fin.val h
  rw [val_index (by omega), val_previous] at hval
  split at hval <;> split at hval <;> omega

theorem contents_push (x : β) : (r.push x).contents = x :: r.contents.dropLast := by
  have hpos := r.latest.pos
  refine List.ext_getElem? fun age => ?_
  rw [getElem?_contents]
  cases age with
  | zero =>
    rw [if_pos hpos, List.getElem?_cons_zero, index_zero]
    exact congrArg some (Function.update_self ..)
  | succ age =>
    rw [List.getElem?_cons_succ, List.getElem?_dropLast, length_contents, getElem?_contents]
    by_cases hage : age + 1 < c
    · rw [if_pos hage, if_pos (by omega), if_pos (by omega)]
      refine congrArg some ?_
      show Function.update r.slots (previous r.latest) x (index (previous r.latest) (age + 1)) = _
      rw [index_previous hage, Function.update_of_ne (index_ne_previous hage)]
    · rw [if_neg hage, if_neg (by omega)]

/-- A ring after many have been put, one after the other. -/
theorem contents_push_all (xs : List β) : (xs.foldl push r).contents = (xs.reverse ++ r.contents).take c := by
  induction xs generalizing r with
  | nil =>
    rw [List.reverse_nil, List.nil_append, List.take_of_length_le (Nat.le_of_eq length_contents)]
    rfl
  | cons x xs ih =>
    have hpos := r.latest.pos
    have hdrop : x :: r.contents.dropLast = (x :: r.contents).take c := by
      rw [List.dropLast_eq_take, length_contents]
      obtain ⟨n, rfl⟩ : ∃ n, c = n + 1 := ⟨c - 1, by omega⟩
      rfl
    rw [List.foldl_cons, ih, contents_push, hdrop, List.reverse_cons, List.append_assoc, List.singleton_append,
      List.take_append, List.take_append, List.take_take, Nat.min_eq_left (Nat.sub_le _ _)]

end RingStack

end AugmentedInsanity
