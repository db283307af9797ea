/-
Forests given by links to parents: a partial function that a rank makes free of cycles. What is under a node is its
subtree; subtrees of siblings are disjoint, and cutting one off leaves the others as they are.
-/
import Mathlib.Data.Nat.Notation
import Mathlib.Logic.Function.Basic
import Mathlib.Logic.Relation

namespace AugmentedInsanity.Forests

variable {α : Type*}

/-- One is reached from the other by going from child to parent. -/
def Under (parent : α → Option α) : α → α → Prop := Relation.ReflTransGen fun a p => parent a = some p

/-- Links to parents go round nowhere, and end at a root. -/
structure Forest (parent : α → Option α) : Prop where
  acyclic : ∀ a p, parent a = some p → ¬ Under parent p a
  root : ∀ a, ∃ r, Under parent a r ∧ parent r = none

variable {parent : α → Option α} {a b c p : α} {parent' : α → Option α}

theorem Under.refl (a : α) : Under parent a a := Relation.ReflTransGen.refl

theorem Under.head (h : parent a = some p) (hp : Under parent p b) : Under parent a b :=
  Relation.ReflTransGen.head h hp

theorem Under.tail (h : Under parent a b) (hb : parent b = some p) : Under parent a p :=
  Relation.ReflTransGen.tail h hb

/-- The parent of what is properly under something is under it. -/
theorem Under.cases_head (h : Under parent a b) : a = b ∨ ∃ p, parent a = some p ∧ Under parent p b :=
  Relation.ReflTransGen.cases_head h

/-- Of two that something is under, one is under the other. -/
theorem Under.total (hb : Under parent a b) (hc : Under parent a c) : Under parent b c ∨ Under parent c b :=
  Relation.ReflTransGen.total_of_right_unique (fun _ _ _ h h' => Option.some.inj (h.symm.trans h')) hb hc

theorem Under.mono (h : Under parent' a b) (hsub : ∀ x y, parent' x = some y → parent x = some y) : Under parent a b :=
  Relation.ReflTransGen.mono hsub _ _ h

/-! ## Ranks -/

/-- Parents have smaller ranks. -/
def Ranked (rank : α → ℕ) (parent : α → Option α) : Prop := ∀ a p, parent a = some p → rank p < rank a

variable {rank : α → ℕ}

theorem Ranked.le_of_under (h : Ranked rank parent) (hab : Under parent a b) : rank b ≤ rank a := by
  induction hab with
  | refl => exact Nat.le_refl _
  | tail _ hlink ih => exact Nat.le_trans (Nat.le_of_lt (h _ _ hlink)) ih

theorem Ranked.not_under (h : Ranked rank parent) (hp : parent a = some p) : ¬ Under parent p a := by
  intro hpa
  have hle := h.le_of_under hpa
  have hlt := h a p hp
  omega

theorem Ranked.forest (h : Ranked rank parent) : Forest parent := by
  refine ⟨fun a p => h.not_under, fun a => ?_⟩
  induction hrank : rank a using Nat.strongRecOn generalizing a with
  | ind n ih =>
    subst hrank
    cases hp : parent a with
    | none => exact ⟨a, .refl a, hp⟩
    | some p =>
      obtain ⟨r, hr, hroot⟩ := ih (rank p) (h a p hp) p rfl
      exact ⟨r, .head hp hr, hroot⟩

/-- Nothing is under two children of one parent. -/
theorem Ranked.disjoint_siblings (h : Ranked rank parent) (hb : parent b = some p) (hc : parent c = some p)
    (hne : b ≠ c) (hab : Under parent a b) : ¬ Under parent a c := by
  have hnot : ∀ b c, parent b = some p → parent c = some p → b ≠ c → ¬ Under parent b c := by
    intro b c hb hc hne hbc
    rcases hbc.cases_head with rfl | ⟨q, hq, hqc⟩
    · exact hne rfl
    · rw [hb] at hq
      cases hq
      exact h.not_under hc hqc
  intro hac
  rcases hab.total hac with hbc | hcb
  · exact hnot b c hb hc hne hbc
  · exact hnot c b hc hb (Ne.symm hne) hcb

/-! ## Cutting links -/

/-- Cutting the link of a node to its parent leaves what is under it. -/
theorem under_update_none [DecidableEq α] : Under (Function.update parent b none) a b ↔ Under parent a b := by
  constructor
  · intro h
    refine h.mono fun x y hxy => ?_
    by_cases hx : x = b
    · subst hx
      rw [Function.update_self] at hxy
      cases hxy
    · rwa [Function.update_of_ne hx] at hxy
  · intro h
    induction h using Relation.ReflTransGen.head_induction_on with
    | refl => exact .refl b
    | @head x y hxy _ ih =>
      by_cases hx : x = b
      · subst hx
        exact .refl x
      · exact .head (by rw [Function.update_of_ne hx, hxy]) ih

/-- Cutting links outside of a subtree leaves what is in it. -/
theorem under_congr (hsub : ∀ x y, parent' x = some y → parent x = some y)
    (hsame : ∀ x, Under parent x b → parent' x = parent x) : Under parent' a b ↔ Under parent a b := by
  constructor
  · exact fun h => h.mono hsub
  · intro h
    induction h using Relation.ReflTransGen.head_induction_on with
    | refl => exact .refl b
    | head hxy hyb ih => exact .head ((hsame _ (.head hxy hyb)).trans hxy) ih

end AugmentedInsanity.Forests
