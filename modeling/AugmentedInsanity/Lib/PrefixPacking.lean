/-
Items of different sizes packed one after the other into a number of slots, until one does not fit. The items that are
packed are a prefix (`packed_cut`), and each has slots of its own (`start_add_le`, `exists_slot`).
-/
import Mathlib

namespace AugmentedInsanity.PrefixPacking

variable {ι : Type*} (size : ι → ℕ) (capacity : ℕ)

/-- The items that fit behind `used` slots; the first that does not ends it. -/
def packed : ℕ → List ι → List ι
  | _, [] => []
  | used, i :: l => if used + size i ≤ capacity then i :: packed (used + size i) l else []

/-- The slots of all items. -/
def total (l : List ι) : ℕ := (l.map size).sum

/-- The first slot of the item at a position. -/
def start (l : List ι) (k : ℕ) : ℕ := total size (l.take k)

variable {size capacity} {used k m slot : ℕ} {l : List ι} {i : ι}

@[simp] theorem total_nil : total size [] = 0 := rfl

@[simp] theorem total_cons (i : ι) (l : List ι) : total size (i :: l) = size i + total size l := by
  simp [total]

@[simp] theorem total_append (l m : List ι) : total size (l ++ m) = total size l + total size m := by
  simp [total]

theorem total_packed_le (hused : used ≤ capacity) : used + total size (packed size capacity used l) ≤ capacity := by
  induction l generalizing used with
  | nil => exact hused
  | cons i l ih =>
    unfold packed
    split_ifs with hfits
    · have hrest := ih hfits
      rw [total_cons]
      omega
    · exact hused

/-- What is packed is everything, or ends before an item that does not fit. -/
theorem packed_cut (size : ι → ℕ) (capacity used : ℕ) (l : List ι) : packed size capacity used l = l ∨ ∃ i rest,
    l = packed size capacity used l ++ i :: rest ∧
      capacity < used + total size (packed size capacity used l) + size i := by
  induction l generalizing used with
  | nil => exact .inl rfl
  | cons i l ih =>
    unfold packed
    split_ifs with hfits
    · rcases ih (used + size i) with hall | ⟨j, rest, hl, hlt⟩
      · exact .inl (by rw [hall])
      · refine .inr ⟨j, rest, ?_, ?_⟩
        · rw [List.cons_append, ← hl]
        · rw [total_cons]
          omega
    · exact .inr ⟨i, l, rfl, Nat.lt_of_not_le hfits⟩

theorem packed_le (used : ℕ) (l : List ι) : packed size capacity used l <+: l := by
  rcases packed_cut size capacity used l with hall | ⟨i, rest, hl, -⟩
  · exact hall.symm ▸ List.prefix_rfl
  · exact ⟨_, hl.symm⟩

theorem start_append_of_lt {l' : List ι} (hk : k ≤ l.length) : start size (l ++ l') k = start size l k := by
  unfold start
  rw [List.take_append_of_le_length hk]

theorem start_length (l : List ι) : start size l l.length = total size l := by
  unfold start
  rw [List.take_length]

theorem start_succ (hi : l[k]? = some i) : start size l (k + 1) = start size l k + size i := by
  unfold start
  rw [List.take_add_one, hi, total_append]
  simp

theorem start_mono (h : k ≤ m) : start size l k ≤ start size l m := by
  obtain ⟨d, rfl⟩ := Nat.exists_eq_add_of_le h
  unfold start
  rw [List.take_add, total_append]
  exact Nat.le_add_right _ _

/-- The slots of an item are before those of the later items. -/
theorem start_add_le (hi : l[k]? = some i) (hkm : k < m) : start size l k + size i ≤ start size l m := by
  rw [← start_succ hi]
  exact start_mono hkm

theorem start_add_le_total (hi : l[k]? = some i) : start size l k + size i ≤ total size l := by
  rw [← start_length l]
  exact start_add_le hi (List.getElem?_eq_some_iff.mp hi).1

/-- Each slot that is used belongs to an item. -/
theorem exists_slot (hslot : slot < total size l) :
    ∃ k i, l[k]? = some i ∧ start size l k ≤ slot ∧ slot < start size l k + size i := by
  induction l generalizing slot with
  | nil => exact absurd hslot (Nat.not_lt_zero slot)
  | cons j l ih =>
    rcases Nat.lt_or_ge slot (size j) with hlt | hge
    · exact ⟨0, j, rfl, Nat.zero_le _, by simpa [start] using hlt⟩
    · rw [total_cons] at hslot
      obtain ⟨k, i, hi, hlow, hhigh⟩ := ih (by omega : slot - size j < total size l)
      have hstart : start size (j :: l) (k + 1) = size j + start size l k := by
        unfold start
        rw [List.take_succ_cons, total_cons]
      exact ⟨k + 1, i, hi, by omega, by omega⟩

end AugmentedInsanity.PrefixPacking
