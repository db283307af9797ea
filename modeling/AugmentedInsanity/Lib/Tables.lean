/-
Fixed-size tables, indexed by `Fin n`: the search of the first and of the last slot that meets a test,
as a `for` loop with and without `break` does it, and the number of slots that meet it. `tally_flip` is the rule behind
every "counter equals number of occupied slots" proof: setting one slot moves the tally by one. In a table that is only
ever filled an entry stays where it was put, and no two places have entries with one key.
-/
import Mathlib.Algebra.BigOperators.Group.Finset.Basic
import Mathlib.Data.Fintype.Card

namespace AugmentedInsanity.Tables

variable {n : ℕ} {β : Type*}

/-! ## The first slot that meets a test -/

/-- The first index at which `p` holds. -/
def firstIndex (p : Fin n → Bool) : Option (Fin n) := (List.finRange n).find? p

variable {p : Fin n → Bool} {i : Fin n} {q : Fin n → Bool}

theorem firstIndex_eq_none : firstIndex p = none ↔ ∀ i, p i = false := by
  unfold firstIndex
  rw [List.find?_eq_none]
  simp [List.mem_finRange]

theorem firstIndex_spec (h : firstIndex p = some i) : p i = true :=
  List.find?_some h

/-- A slot that meets the test makes the search succeed. -/
theorem exists_firstIndex (h : p i = true) : ∃ j, firstIndex p = some j := by
  rcases hf : firstIndex p with _ | j
  · rw [firstIndex_eq_none.1 hf i] at h; cases h
  · exact ⟨j, rfl⟩

/-! ## The last slot that meets a test -/

/-- The last index at which `p` holds, as a loop that overwrites its result finds it. -/
def lastIndex (p : Fin n → Bool) : Option (Fin n) :=
  (List.finRange n).foldl (fun found i => if p i then some i else found) none

theorem foldl_lastIndex {acc : Option (Fin n)} {l : List (Fin n)}
    (h : l.foldl (fun found i => if p i then some i else found) acc = some i) : p i = true ∨ acc = some i := by
  induction l generalizing acc with
  | nil => exact Or.inr h
  | cons a l ih =>
    rw [List.foldl_cons] at h
    by_cases ha : p a = true
    · rw [if_pos ha] at h
      rcases ih h with h | h
      · exact Or.inl h
      · cases h; exact Or.inl ha
    · rw [if_neg ha] at h
      exact ih h

theorem lastIndex_spec (h : lastIndex p = some i) : p i = true := by
  rcases foldl_lastIndex h with h | h
  · exact h
  · cases h

/-! ## The number of slots that meet a test -/

/-- The number of indices at which `p` holds. -/
def tally (p : Fin n → Bool) : ℕ := (Finset.univ.filter fun i => p i = true).card

theorem tally_le (p : Fin n → Bool) : tally p ≤ n := by
  unfold tally
  exact (Finset.card_le_univ _).trans_eq (Fintype.card_fin n)

theorem tally_eq_zero : tally p = 0 ↔ ∀ i, p i = false := by
  unfold tally
  rw [Finset.card_eq_zero, Finset.filter_eq_empty_iff]
  simp

/-- Turning one slot from failing the test to meeting it adds one. -/
theorem tally_flip (hp : p i = false) (hq : q i = true) (h : ∀ j, j ≠ i → q j = p j) : tally q = tally p + 1 := by
  unfold tally
  have hi : i ∉ Finset.univ.filter fun j => p j = true := by simp [hp]
  rw [← Finset.card_insert_of_notMem hi]
  congr 1
  ext j
  by_cases hj : j = i
  · subst hj; simp [hq]
  · simp [hj, h j hj]

theorem tally_congr (h : ∀ j, q j = p j) : tally q = tally p := by
  have : q = p := funext h
  rw [this]

theorem tally_mono (h : ∀ i, p i = true → q i = true) : tally p ≤ tally q :=
  Finset.card_le_card fun i hi => Finset.mem_filter.2 ⟨Finset.mem_univ i, h i (Finset.mem_filter.1 hi).2⟩

/-- What changing one entry of a table does to the tally of a test of its entries. -/
theorem tally_update (p : β → Bool) (f : Fin n → β) (i : Fin n) (b : β) :
    tally (fun j => p (Function.update f i b j)) + (p (f i)).toNat = tally (fun j => p (f j)) + (p b).toNat := by
  have hself : p (Function.update f i b i) = p b := by rw [Function.update_self]
  have hother : ∀ j, j ≠ i → p (Function.update f i b j) = p (f j) := fun j hj => by
    rw [Function.update_of_ne hj]
  have hsame : p (f i) = p b → tally (fun j => p (Function.update f i b j)) = tally fun j => p (f j) := by
    intro h
    apply tally_congr
    intro j
    by_cases hj : j = i
    · subst hj; rw [hself, h]
    · exact hother j hj
  cases hold : p (f i) <;> cases hnew : p b
  · rw [hsame (hold.trans hnew.symm)]
  · rw [tally_flip hold (hself.trans hnew) hother]; rfl
  · rw [tally_flip (hself.trans hnew) hold fun j hj => (hother j hj).symm]; rfl
  · rw [hsame (hold.trans hnew.symm)]

/-- The same, for a table whose entries in use are those of a finite set. -/
theorem card_filter_update {ι : Type*} [DecidableEq ι] {s : Finset ι} {i : ι} (hi : i ∈ s) (p : β → Bool) (f : ι → β)
    (b : β) :
    (s.filter fun j => p (Function.update f i b j) = true).card + (p (f i)).toNat =
      (s.filter fun j => p (f j) = true).card + (p b).toNat := by
  have hcard : ∀ g : ι → β, (∀ j ∈ s.erase i, g j = f j) →
      (s.filter fun j => p (g j) = true).card =
        ((s.erase i).filter fun j => p (f j) = true).card + (p (g i)).toNat := by
    intro g hg
    have hrest : ((s.erase i).filter fun j => p (g j) = true) = (s.erase i).filter fun j => p (f j) = true :=
      Finset.filter_congr fun j hj => by rw [hg j hj]
    have hnot : i ∉ (s.erase i).filter fun j => p (g j) = true := fun hmem =>
      Finset.notMem_erase i s (Finset.mem_filter.1 hmem).1
    rw [← Finset.insert_erase hi, Finset.filter_insert, Finset.insert_erase hi, ← hrest]
    cases hgi : p (g i)
    · rw [if_neg Bool.false_ne_true]
      rfl
    · rw [if_pos rfl, Finset.card_insert_of_notMem hnot]
      rfl
  have hupdate : ∀ j ∈ s.erase i, Function.update f i b j = f j := fun j hj =>
    Function.update_of_ne (Finset.ne_of_mem_erase hj) ..
  rw [hcard f fun _ _ => rfl, hcard (Function.update f i b) hupdate, Function.update_self]
  omega

/-! ## Sums over a table -/

/-- What changing one entry of a table does to the sum of what its entries stand for. -/
theorem sum_update (F : β → ℤ) (f : Fin n → β) (i : Fin n) (b : β) :
    ∑ j, F (Function.update f i b j) = ∑ j, F (f j) + (F b - F (f i)) := by
  have hnew := Finset.add_sum_erase Finset.univ (fun j => F (Function.update f i b j)) (Finset.mem_univ i)
  have hold := Finset.add_sum_erase Finset.univ (fun j => F (f j)) (Finset.mem_univ i)
  have hrest : ∑ j ∈ Finset.univ.erase i, F (Function.update f i b j) = ∑ j ∈ Finset.univ.erase i, F (f j) :=
    Finset.sum_congr rfl fun j hj => by rw [Function.update_of_ne (Finset.ne_of_mem_erase hj)]
  rw [Function.update_self, hrest] at hnew
  omega

end AugmentedInsanity.Tables

/-! ## Tables that are only filled -/

namespace AugmentedInsanity.Tables

variable {n : ℕ} {β γ : Type*} {t t₁ t₂ : Fin n → Option β} {key : β → γ} {i : Fin n} {b : β}

/-- What is in the first table is at the same place in the second. -/
def Grows (t t' : Fin n → Option β) : Prop := ∀ i b, t i = some b → t' i = some b

/-- No key is at two places. -/
def DistinctBy (key : β → γ) (t : Fin n → Option β) : Prop :=
  ∀ i j b c, t i = some b → t j = some c → key b = key c → i = j

theorem Grows.refl (t : Fin n → Option β) : Grows t t := fun _ _ h => h

theorem Grows.trans (h : Grows t t₁) (h' : Grows t₁ t₂) : Grows t t₂ := fun i b hb => h' i b (h i b hb)

/-- A free place is filled. -/
theorem Grows.update (hfree : t i = none) (b : β) : Grows t (Function.update t i (some b)) := by
  intro j c hc
  have hj : j ≠ i := fun h => by rw [h, hfree] at hc; cases hc
  rwa [Function.update_of_ne hj]

theorem distinctBy_empty (key : β → γ) : DistinctBy key (fun _ : Fin n => none) := fun _ _ _ _ h => by cases h

/-- An entry whose key is not in the table is put there. -/
theorem DistinctBy.update (h : DistinctBy key t) (hnew : ∀ j c, t j = some c → key c ≠ key b) :
    DistinctBy key (Function.update t i (some b)) := by
  have hother : ∀ j c, j ≠ i → Function.update t i (some b) j = some c → key c ≠ key b := fun j c hj hc =>
    hnew j c (by rwa [Function.update_of_ne hj] at hc)
  intro j k c d hc hd hkey
  by_cases hj : j = i
  · by_cases hk : k = i
    · rw [hj, hk]
    · rw [hj, Function.update_self] at hc
      obtain rfl := Option.some.inj hc
      exact absurd hkey.symm (hother k d hk hd)
  · by_cases hk : k = i
    · rw [hk, Function.update_self] at hd
      obtain rfl := Option.some.inj hd
      exact absurd hkey (hother j c hj hc)
    · rw [Function.update_of_ne hj] at hc
      rw [Function.update_of_ne hk] at hd
      exact h j k c d hc hd hkey

end AugmentedInsanity.Tables
