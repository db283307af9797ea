/-
Weighted means of integers with a division that truncates towards zero. The mean of two numbers is between them, whatever
their signs are; it is the first of them only if the other is near enough (`near_of_mean_eq`). A sequence that always moves
towards a number, or stays, stays from some point on (`eventually_const`).
-/
import Mathlib

namespace AugmentedInsanity.TruncatedMeans

/-- `n` parts of `d` of `x`, and the rest of `s`. -/
def mean (n d s x : ℤ) : ℤ := ((d - n) * s + n * x).tdiv d

variable {n d s x lo hi : ℤ}

theorem tdiv_between {m : ℤ} (hd : 0 < d) (hlo : lo * d ≤ m) (hhi : m ≤ hi * d) : lo ≤ m.tdiv d ∧ m.tdiv d ≤ hi := by
  constructor
  · have hle := Int.tdiv_le_tdiv hd hlo
    rwa [Int.mul_tdiv_cancel _ (Int.ne_of_gt hd)] at hle
  · have hle := Int.tdiv_le_tdiv hd hhi
    rwa [Int.mul_tdiv_cancel _ (Int.ne_of_gt hd)] at hle

theorem mean_mem_uIcc (hn : 0 ≤ n) (hnd : n ≤ d) (hd : 0 < d) (s x : ℤ) : mean n d s x ∈ Set.uIcc s x := by
  rw [Set.mem_uIcc]
  rcases le_total s x with hle | hle
  · exact .inl (tdiv_between hd (by nlinarith) (by nlinarith))
  · exact .inr (tdiv_between hd (by nlinarith) (by nlinarith))

theorem near_of_mean_eq (hd : 0 < d) (hfixed : mean n d s x = s) : |x - s| * n < d := by
  have hexact := Int.mul_tdiv_add_tmod ((d - n) * s + n * x) d
  have hmod := Int.tmod_lt_of_pos ((d - n) * s + n * x) hd
  have hmod' := Int.lt_tmod_of_pos ((d - n) * s + n * x) hd
  unfold mean at hfixed
  rw [hfixed] at hexact
  have hrest : n * (x - s) = ((d - n) * s + n * x).tmod d := by linarith
  rcases abs_cases (x - s) with ⟨habs, -⟩ | ⟨habs, -⟩
  · rw [habs]
    linarith
  · rw [habs]
    linarith

/-- What moves between where it is and a number comes no further from it. -/
theorem natAbs_sub_le {s' : ℤ} (hmove : s' ∈ Set.uIcc s x) : (x - s').natAbs ≤ (x - s).natAbs := by
  rcases Set.mem_uIcc.mp hmove with ⟨h₁, h₂⟩ | ⟨h₁, h₂⟩ <;> omega

theorem eq_of_natAbs_sub_eq {s' : ℤ} (hmove : s' ∈ Set.uIcc s x) (heq : (x - s').natAbs = (x - s).natAbs) : s' = s := by
  rcases Set.mem_uIcc.mp hmove with ⟨h₁, h₂⟩ | ⟨h₁, h₂⟩ <;> omega

variable {f : ℕ → ℤ}

theorem eventually_const (hmove : ∀ k, f (k + 1) ∈ Set.uIcc (f k) x) : ∃ k, ∀ j, k ≤ j → f j = f k := by
  have hanti : Antitone fun k => (x - f k).natAbs := antitone_nat_of_succ_le fun k => natAbs_sub_le (hmove k)
  obtain ⟨_, ⟨k, rfl⟩, hmin⟩ :=
    WellFounded.has_min (wellFounded_lt (α := ℕ)) (Set.range fun k => (x - f k).natAbs) ⟨_, 0, rfl⟩
  have hsame : ∀ j, k ≤ j → (x - f j).natAbs = (x - f k).natAbs := fun j hj =>
    le_antisymm (hanti hj) (Nat.le_of_not_lt (hmin _ ⟨j, rfl⟩))
  refine ⟨k, fun j hj => ?_⟩
  induction j, hj using Nat.le_induction with
  | base => rfl
  | succ j hj ih =>
    have hstay := eq_of_natAbs_sub_eq (hmove j) ((hsame (j + 1) (Nat.le_succ_of_le hj)).trans (hsame j hj).symm)
    rw [hstay, ih]

theorem monotone_or_antitone (hmove : ∀ k, f (k + 1) ∈ Set.uIcc (f k) x) :
    (Monotone f ∧ ∀ k, f k ≤ x) ∨ (Antitone f ∧ ∀ k, x ≤ f k) := by
  rcases le_total (f 0) x with hle | hle
  · have hbelow : ∀ k, f k ≤ x := by
      intro k
      induction k with
      | zero => exact hle
      | succ k ih => exact (Set.uIcc_of_le ih ▸ hmove k).2
    exact .inl ⟨monotone_nat_of_le_succ fun k => (Set.uIcc_of_le (hbelow k) ▸ hmove k).1, hbelow⟩
  · have habove : ∀ k, x ≤ f k := by
      intro k
      induction k with
      | zero => exact hle
      | succ k ih => exact (Set.uIcc_of_ge ih ▸ hmove k).1
    exact .inr ⟨antitone_nat_of_succ_le fun k => (Set.uIcc_of_ge (habove k) ▸ hmove k).2, habove⟩

end AugmentedInsanity.TruncatedMeans
