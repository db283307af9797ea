/-
Arrays of cells of which the first `count` are in use. A new element goes into the first cell that is not; an element
goes when those behind it move down by one cell (`contents_removed`).
-/
import Mathlib.Data.List.Basic
import Mathlib.Order.Nat

namespace AugmentedInsanity.CellArrays

variable {α : Type*}

/-- What the array holds. -/
def contents (cells : ℕ → α) (count : ℕ) : List α := (List.range count).map cells

section
variable {cells cells' : ℕ → α} {count k : ℕ}

@[simp] theorem contents_zero (cells : ℕ → α) : contents cells 0 = [] := rfl

@[simp] theorem length_contents (cells : ℕ → α) (count : ℕ) : (contents cells count).length = count := by
  simp [contents]

theorem getElem?_contents {i : ℕ} (h : i < count) : (contents cells count)[i]? = some (cells i) := by
  simp [contents, h]

theorem mem_contents {a : α} : a ∈ contents cells count ↔ ∃ i < count, cells i = a := by
  simp [contents]

theorem contents_congr (h : ∀ i < count, cells' i = cells i) : contents cells' count = contents cells count :=
  List.map_congr_left fun i hi => h i (List.mem_range.1 hi)

/-- A new element is the last one. -/
theorem contents_update (cells : ℕ → α) (count : ℕ) (a : α) :
    contents (Function.update cells count a) (count + 1) = contents cells count ++ [a] := by
  unfold contents
  rw [List.range_succ, List.map_append]
  congr 1
  · refine List.map_congr_left fun i hi => Function.update_of_ne ?_ _ _
    exact (List.mem_range.1 hi).ne
  · simp

/-! ## Moving down -/

/-- The cells before `k` are as they were, and those from `k` on hold what the next ones held. -/
structure MovedDown (cells cells' : ℕ → α) (count k : ℕ) : Prop where
  before : ∀ i < k, cells' i = cells i
  after : ∀ i, k ≤ i → i + 1 < count → cells' i = cells (i + 1)

theorem contents_movedDown (h : MovedDown cells cells' count k) (hk : k < count) :
    contents cells' (count - 1) = (contents cells count).eraseIdx k := by
  apply List.ext_getElem?
  intro i
  rw [List.getElem?_eraseIdx]
  by_cases hi : i < count - 1
  · rw [getElem?_contents hi]
    split
    · rename_i hik
      rw [getElem?_contents (by omega), h.before i hik]
    · rename_i hik
      rw [getElem?_contents (by omega), h.after i (by omega) (by omega)]
  · rw [List.getElem?_eq_none (by rw [length_contents]; omega)]
    split
    · omega
    · rw [List.getElem?_eq_none (by rw [length_contents]; omega)]

/-- The loop that moves the `rest` cells from `dst + 1` on down. -/
def moveDown (cells : ℕ → α) (dst : ℕ) : ℕ → ℕ → α
  | 0 => cells
  | rest + 1 => moveDown (Function.update cells dst (cells (dst + 1))) (dst + 1) rest

theorem moveDown_before {dst i : ℕ} (h : i < dst) (rest : ℕ) : moveDown cells dst rest i = cells i := by
  induction rest generalizing cells dst with
  | zero => rfl
  | succ rest ih =>
    rw [moveDown, ih (Nat.lt_succ_of_lt h), Function.update_of_ne h.ne]

theorem moveDown_after {dst i rest : ℕ} (h : dst ≤ i) (hi : i < dst + rest) :
    moveDown cells dst rest i = cells (i + 1) := by
  induction rest generalizing cells dst with
  | zero => omega
  | succ rest ih =>
    rw [moveDown]
    rcases eq_or_lt_of_le h with rfl | hlt
    · rw [moveDown_before (Nat.lt_succ_self _), Function.update_self]
    · rw [ih hlt (by omega), Function.update_of_ne (by omega)]

theorem moveDown_movedDown (cells : ℕ → α) (hk : k < count) : MovedDown cells (moveDown cells k (count - 1 - k)) count k :=
  ⟨fun _ h => moveDown_before h _, fun _ h hi => moveDown_after h (by omega)⟩

/-! ## Searching -/

/-- The loop that looks at `rest` cells from `dst` on for one that meets the test. -/
def searchFrom (p : ℕ → Bool) (dst : ℕ) : ℕ → ℕ
  | 0 => dst
  | rest + 1 => if p dst then dst else searchFrom p (dst + 1) rest

theorem searchFrom_spec (p : ℕ → Bool) (dst rest : ℕ) :
    (∀ i, dst ≤ i → i < searchFrom p dst rest → p i = false) ∧ dst ≤ searchFrom p dst rest ∧
      (searchFrom p dst rest < dst + rest → p (searchFrom p dst rest) = true) := by
  induction rest generalizing dst with
  | zero => exact ⟨fun i h hi => absurd hi (not_lt.2 h), le_rfl, fun h => absurd h (lt_irrefl _)⟩
  | succ rest ih =>
    rw [searchFrom]
    split
    · rename_i hp
      exact ⟨fun i h hi => absurd hi (not_lt.2 h), le_rfl, fun _ => hp⟩
    · rename_i hp
      obtain ⟨hbefore, hle, hfound⟩ := ih (dst + 1)
      refine ⟨fun i h hi => ?_, by omega, fun h => hfound (by omega)⟩
      rcases eq_or_lt_of_le h with rfl | hlt
      · exact Bool.eq_false_iff.2 hp
      · exact hbefore i hlt hi

/-- The first element that meets the test is at `k`. -/
theorem eraseP_contents {p : α → Bool} (hk : k < count) (hp : p (cells k) = true)
    (hbefore : ∀ i < k, p (cells i) = false) : (contents cells count).eraseP p = (contents cells count).eraseIdx k := by
  have hfind : (contents cells count).findIdx? p = some k := by
    rw [List.findIdx?_eq_some_iff_getElem]
    refine ⟨by rwa [length_contents], ?_, ?_⟩
    · simpa [contents] using hp
    · intro j hj
      simpa [contents] using hbefore j hj
  rw [List.eraseP_eq_eraseIdx, hfind]

theorem contents_removed {p : α → Bool} (h : MovedDown cells cells' count k) (hk : k < count)
    (hp : p (cells k) = true) (hbefore : ∀ i < k, p (cells i) = false) :
    contents cells' (count - 1) = (contents cells count).eraseP p := by
  rw [contents_movedDown h hk, eraseP_contents hk hp hbefore]

end

end AugmentedInsanity.CellArrays
