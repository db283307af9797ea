/-
Stable sorting by a key, stated without an algorithm: an arrangement of a list is the listing of
its elements by ascending (key, position). It is unique (`Arrangement.unique`), and sorting with a
stable sort that compares keys only produces it (`stableSort_arrangement`).
-/
import Mathlib.Data.List.Perm.Basic
import Mathlib.Data.List.Sort

namespace AugmentedInsanity.StableOrder

variable {α β : Type*} [LinearOrder β] (key : α → β)

/-- `(a, i)` comes before `(b, j)` by ascending (key, position). -/
def Before (a b : α × ℕ) : Prop := key a.1 < key b.1 ∨ (key a.1 = key b.1 ∧ a.2 < b.2)

/-- `m` lists the elements of `l` by ascending (key, position in `l`). -/
def Arrangement (l m : List α) : Prop :=
  ∃ p : List (α × ℕ), p.Perm l.zipIdx ∧ p.Pairwise (Before key) ∧ m = p.map Prod.fst

/-- A stable sort that looks at the keys only. -/
def stableSort (l : List α) : List α := l.mergeSort fun a b => decide (key a ≤ key b)

variable {key}

/-! ## Uniqueness -/

theorem Before.asymm {a b : α × ℕ} (h : Before key a b) : ¬ Before key b a := by
  rintro (h' | ⟨h1, h2⟩) <;> rcases h with h | ⟨h3, h4⟩
  · exact lt_asymm h h'
  · rw [h3] at h'; exact lt_irrefl _ h'
  · rw [h1] at h; exact lt_irrefl _ h
  · omega

theorem Arrangement.unique {l m m' : List α} (h : Arrangement key l m) (h' : Arrangement key l m') :
    m = m' := by
  obtain ⟨p, hp, hs, rfl⟩ := h
  obtain ⟨p', hp', hs', rfl⟩ := h'
  have : p = p' := by
    have hasymm : ∀ a b, a ∈ p → b ∈ p' → Before key a b → Before key b a → a = b :=
      fun a b _ _ hab hba => absurd hba hab.asymm
    exact List.Perm.eq_of_pairwise hasymm hs hs' (hp.trans hp'.symm)
  rw [this]

/-! ## A stable sort produces it -/

theorem zipIdx_snd_injective (l : List α) : ∀ a ∈ l.zipIdx, ∀ b ∈ l.zipIdx, a.2 = b.2 → a = b := by
  rintro ⟨x, i⟩ ha ⟨y, j⟩ hb hij
  simp only at hij
  subst hij
  rw [List.mem_zipIdx_iff_getElem?] at ha hb
  simp only at ha hb
  rw [ha] at hb
  cases hb; rfl

theorem stableSort_arrangement (l : List α) : Arrangement key l (stableSort key l) := by
  let le : α → α → Bool := fun a b => decide (key a ≤ key b)
  refine ⟨l.zipIdx.mergeSort (List.zipIdxLE le), List.mergeSort_perm _ _, ?_, ?_⟩
  · -- sorted for "key, then position", which on distinct positions is strict
    have hsorted : (l.zipIdx.mergeSort (List.zipIdxLE le)).Pairwise fun a b => List.zipIdxLE le a b = true :=
      List.pairwise_mergeSort (List.zipIdxLE_trans fun a b c => by simp only [le, decide_eq_true_eq]; exact le_trans)
      (List.zipIdxLE_total fun a b => by simp only [le, Bool.or_eq_true, decide_eq_true_eq]; exact le_total _ _)
      l.zipIdx
    have hnodup : (l.zipIdx.mergeSort (List.zipIdxLE le)).Nodup := by
      rw [(List.mergeSort_perm _ _).nodup_iff]
      exact List.Nodup.of_map Prod.snd (by rw [List.zipIdx_map_snd]; exact List.nodup_range' ..)
    refine (hsorted.and hnodup).imp_of_mem ?_
    rintro ⟨a, i⟩ ⟨b, j⟩ ha hb ⟨hle, hne⟩
    rw [(List.mergeSort_perm _ _).mem_iff] at ha hb
    have hij : i ≠ j := fun h => hne (zipIdx_snd_injective l _ ha _ hb h)
    simp only [List.zipIdxLE, le, decide_eq_true_eq] at hle
    split at hle
    · rename_i h1
      split at hle
      · rename_i h2
        simp only [decide_eq_true_eq] at hle
        exact Or.inr ⟨le_antisymm h1 h2, by simp only; omega⟩
      · rename_i h2
        exact Or.inl (not_le.1 h2)
    · cases hle
  · exact (List.mergeSort_zipIdx : (l.zipIdx.mergeSort (List.zipIdxLE le)).map Prod.fst = l.mergeSort le).symm

theorem Arrangement.perm {l m : List α} (h : Arrangement key l m) : m.Perm l := by
  obtain ⟨p, hp, -, rfl⟩ := h
  have := hp.map Prod.fst
  rwa [List.zipIdx_map_fst] at this

theorem Arrangement.length_eq {l m : List α} (h : Arrangement key l m) : m.length = l.length :=
  h.perm.length_eq

end AugmentedInsanity.StableOrder
