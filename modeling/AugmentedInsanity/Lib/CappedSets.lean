/-
Sets that are kept in lists, in the order in which their elements have come, and for which there are only so many
places. If an addition wants a free place also for an element that is there already, a list can be added iff all of it
but the last element leaves a place (`addAll?_eq_some_iff`).
-/
import Mathlib.Data.Finset.Card

namespace AugmentedInsanity.CappedSets

variable {α : Type*} [DecidableEq α] {cap : ℕ} {l r as : List α} {a b : α}

/-- An element that is not there yet becomes the last one. -/
def add (l : List α) (a : α) : List α := if a ∈ l then l else l ++ [a]

/-- The elements are added one after the other. -/
def addAll (l as : List α) : List α := as.foldl add l

/-- An addition that wants a free place. -/
def add? (cap : ℕ) (l : List α) (a : α) : Option (List α) := if l.length < cap then some (add l a) else none

/-- Additions that each want a free place. -/
def addAll? (cap : ℕ) (l as : List α) : Option (List α) := as.foldlM (add? cap) l

/-! ## One addition -/

@[simp] theorem mem_add : b ∈ add l a ↔ b ∈ l ∨ b = a := by
  unfold add
  split
  · rename_i ha
    exact ⟨Or.inl, fun h => h.elim id fun h => h ▸ ha⟩
  · rw [List.mem_append, List.mem_singleton]

theorem nodup_add (hl : l.Nodup) : (add l a).Nodup := by
  unfold add
  split
  · exact hl
  · rename_i ha
    exact hl.append (List.nodup_singleton a) (List.disjoint_singleton.2 ha)

theorem length_le_length_add : l.length ≤ (add l a).length := by
  unfold add
  split
  · exact le_rfl
  · rw [List.length_append]
    exact Nat.le_add_right _ _

/-! ## Many additions -/

@[simp] theorem addAll_nil : addAll l [] = l := rfl

@[simp] theorem addAll_cons : addAll l (a :: as) = addAll (add l a) as := rfl

@[simp] theorem addAll?_nil : addAll? cap l [] = some l := rfl

theorem addAll?_cons : addAll? cap l (a :: as) = (add? cap l a).bind fun l => addAll? cap l as := rfl

@[simp] theorem mem_addAll : b ∈ addAll l as ↔ b ∈ l ∨ b ∈ as := by
  induction as generalizing l with
  | nil => simp
  | cons a as ih => rw [addAll_cons, ih, mem_add, List.mem_cons, or_assoc]

theorem nodup_addAll (hl : l.Nodup) : (addAll l as).Nodup := by
  induction as generalizing l with
  | nil => exact hl
  | cons a as ih => exact ih (nodup_add hl)

theorem length_le_length_addAll : l.length ≤ (addAll l as).length := by
  induction as generalizing l with
  | nil => exact le_rfl
  | cons a as ih => exact length_le_length_add.trans ih

/-- There is one place for each element. -/
theorem length_addAll_nil : (addAll [] as).length = as.toFinset.card := by
  rw [← List.toFinset_card_of_nodup (nodup_addAll List.nodup_nil)]
  congr 1
  ext b
  simp

/-- The place that is wanted is there for all elements if it is there for the last one. -/
theorem addAll?_eq_some_iff :
    addAll? cap l as = some r ↔ (as ≠ [] → (addAll l as.dropLast).length < cap) ∧ r = addAll l as := by
  induction as generalizing l with
  | nil => simp [eq_comm]
  | cons a as ih =>
    have hadd : addAll? cap l (a :: as) = some r ↔ l.length < cap ∧ addAll? cap (add l a) as = some r := by
      rw [addAll?_cons, add?]
      split
      · rename_i hlt
        exact (and_iff_right hlt).symm
      · rename_i hlt
        simp [hlt]
    rw [hadd, ih, addAll_cons, ← and_assoc]
    refine and_congr_left fun _ => ?_
    cases as with
    | nil => simp
    | cons b as =>
      have hle : l.length ≤ (addAll (add l a) (b :: as).dropLast).length :=
        length_le_length_add.trans length_le_length_addAll
      rw [List.dropLast_cons_cons, addAll_cons]
      constructor
      · rintro ⟨-, hrest⟩ -
        exact hrest (List.cons_ne_nil _ _)
      · intro hrest
        exact ⟨hle.trans_lt (hrest (List.cons_ne_nil _ _)), fun _ => hrest (List.cons_ne_nil _ _)⟩

end AugmentedInsanity.CappedSets
