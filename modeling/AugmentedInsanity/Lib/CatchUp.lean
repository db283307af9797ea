/-
Catch-up loops: `while (val <= bound) val += period`. A loop with a positive period ends, and at the first of the
times `val`, `val + period`, `val + 2 * period`, ... that is past the bound (`advance_isLeast`); so it ends late
enough for a purpose exactly when none of these times is past the bound and too early (`le_advance_iff`).
-/
import Mathlib.Tactic.Linarith
import Mathlib.Tactic.Ring

namespace AugmentedInsanity.CatchUp

/-- Where the loop ends, or `none` if it goes on forever. -/
def advance (period bound val : ℤ) : Option ℤ :=
  if bound < val then some val
  else if 0 < period then advance period bound (val + period)
  else none
termination_by (bound + 1 - val).toNat

section
variable {period bound val : ℤ} {r : ℤ}

theorem advance_of_lt (h : bound < val) : advance period bound val = some val := by
  rw [advance, if_pos h]

theorem advance_of_le (hpos : 0 < period) (h : val ≤ bound) :
    advance period bound val = advance period bound (val + period) := by
  rw [advance, if_neg (not_lt.2 h), if_pos hpos]

/-- The loop ends after some number of rounds, and not before it is past the bound. -/
theorem advance_spec (hpos : 0 < period) (bound val : ℤ) :
    ∃ k : ℕ, advance period bound val = some (val + k * period) ∧ bound < val + k * period ∧
      ∀ j : ℕ, j < k → val + j * period ≤ bound := by
  induction val using advance.induct period bound with
  | case1 val h =>
    refine ⟨0, ?_, ?_, ?_⟩
    · rw [advance_of_lt h]
      simp
    · simpa using h
    · intro j hj
      exact absurd hj (Nat.not_lt_zero j)
  | case2 val h _ ih =>
    obtain ⟨k, hk, hpast, hbefore⟩ := ih
    have hround : ∀ j : ℕ, val + period + j * period = val + (j + 1 : ℕ) * period := by
      intro j
      push_cast
      ring
    refine ⟨k + 1, ?_, ?_, ?_⟩
    · rw [advance_of_le hpos (not_lt.1 h), hk, hround]
    · rw [← hround]
      exact hpast
    · intro j hj
      rcases j with _ | j
      · simpa using not_lt.1 h
      · rw [← hround]
        exact hbefore j (Nat.lt_of_succ_lt_succ hj)
  | case3 val _ hnot => exact absurd hpos hnot

theorem advance_ends (hpos : 0 < period) (bound val : ℤ) : ∃ r, advance period bound val = some r := by
  obtain ⟨k, hk, -⟩ := advance_spec hpos bound val
  exact ⟨_, hk⟩

theorem advance_past (h : advance period bound val = some r) : bound < r := by
  induction val using advance.induct period bound with
  | case1 val hlt =>
    rw [advance_of_lt hlt] at h
    cases h
    exact hlt
  | case2 val hle hpos ih =>
    rw [advance_of_le hpos (not_lt.1 hle)] at h
    exact ih h
  | case3 val hle hnot =>
    rw [advance, if_neg hle, if_neg hnot] at h
    cases h

theorem le_advance (h : advance period bound val = some r) : val ≤ r := by
  induction val using advance.induct period bound with
  | case1 val hlt =>
    rw [advance_of_lt hlt] at h
    cases h
    exact le_rfl
  | case2 val hle hpos ih =>
    rw [advance_of_le hpos (not_lt.1 hle)] at h
    have := ih h
    omega
  | case3 val hle hnot =>
    rw [advance, if_neg hle, if_neg hnot] at h
    cases h

/-- The loop ends at `x` or later exactly when no time of the progression is past the bound and before `x`. -/
theorem le_advance_iff (hpos : 0 < period) (h : advance period bound val = some r) (x : ℤ) :
    x ≤ r ↔ ∀ j : ℕ, bound < val + j * period → x ≤ val + j * period := by
  obtain ⟨k, hk, hpast, hbefore⟩ := advance_spec hpos bound val
  obtain rfl : val + k * period = r := Option.some.inj (hk.symm.trans h)
  constructor
  · intro hx j hj
    have hkj : k ≤ j := by
      by_contra hlt
      exact absurd (hbefore j (not_le.1 hlt)) (not_le.2 hj)
    have hmul : (k : ℤ) * period ≤ j * period := mul_le_mul_of_nonneg_right (by exact_mod_cast hkj) hpos.le
    omega
  · exact fun hall => hall k hpast

/-- The loop ends at the least time of the progression that is past the bound. -/
theorem advance_isLeast (hpos : 0 < period) (h : advance period bound val = some r) :
    IsLeast {t : ℤ | ∃ k : ℕ, t = val + k * period ∧ bound < t} r := by
  obtain ⟨k, hk, hpast, -⟩ := advance_spec hpos bound val
  obtain rfl : val + k * period = r := Option.some.inj (hk.symm.trans h)
  constructor
  · exact ⟨k, rfl, hpast⟩
  · rintro t ⟨j, rfl, hj⟩
    exact (le_advance_iff hpos h _).1 le_rfl j hj

/-- A loop with a later bound ends later. -/
theorem advance_mono {bound' : ℤ} (hpos : 0 < period) (hle : bound ≤ bound') {r r' : ℤ}
    (h : advance period bound val = some r) (h' : advance period bound' val = some r') : r ≤ r' := by
  apply (le_advance_iff hpos h' r).2
  intro j hj
  exact (le_advance_iff hpos h r).1 le_rfl j (lt_of_le_of_lt hle hj)

/-- The loop keeps the phase. -/
theorem advance_emod (hpos : 0 < period) (h : advance period bound val = some r) : r % period = val % period := by
  obtain ⟨k, hk, -⟩ := advance_spec hpos bound val
  obtain rfl : val + k * period = r := Option.some.inj (hk.symm.trans h)
  rw [Int.add_mul_emod_self_right]

end

end AugmentedInsanity.CatchUp
