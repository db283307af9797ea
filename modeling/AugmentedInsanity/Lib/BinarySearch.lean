/-
Searching what is sorted by halving. The search goes through iterators that are only moved on and asked whether what
they point at is below; where the answers are all yes up to some place and all no from there on, that place is found
(`lowerBound_spec`).
-/
import Mathlib.Tactic.Common

namespace AugmentedInsanity.BinarySearch

variable {It ε : Type*} (advance : It → ℕ → It) (below : It → Except ε Bool)

/-- `std::lower_bound`, of `length` elements from `first`; half of them are left at most after a step. -/
def lowerBoundLoop : ℕ → It → ℕ → Except ε It
  | 0, first, _ => .ok first
  | fuel + 1, first, length =>
    if length = 0 then .ok first
    else
      let half := length / 2
      let middle := advance first half
      match below middle with
      | .error e => .error e
      | .ok true => lowerBoundLoop fuel (advance middle 1) (length - half - 1)
      | .ok false => lowerBoundLoop fuel first half

def lowerBound (first : It) (length : ℕ) : Except ε It := lowerBoundLoop advance below length first length

variable {advance below} {p : ℕ → Bool}

/-- The first `n` are below and the rest is not. -/
structure Splits (p : ℕ → Bool) (length n : ℕ) : Prop where
  le : n ≤ length
  below : ∀ i < n, p i = true
  notBelow : ∀ i < length, n ≤ i → p i = false

/-- There is one place only where the answers change. -/
theorem Splits.unique {length n m : ℕ} (hn : Splits p length n) (hm : Splits p length m) : n = m := by
  rcases Nat.lt_trichotomy n m with h | h | h
  · have hyes := hm.below n h
    rw [hn.notBelow n (Nat.lt_of_lt_of_le h hm.le) (Nat.le_refl _)] at hyes
    cases hyes
  · exact h
  · have hyes := hn.below m h
    rw [hm.notBelow m (Nat.lt_of_lt_of_le h hn.le) (Nat.le_refl _)] at hyes
    cases hyes

/-- What is left after a step has the place in it: all before it is below, and all behind it is not. -/
theorem lowerBoundLoop_spec (hadvance : ∀ it a b, advance (advance it a) b = advance it (a + b)) (start : It)
    {total : ℕ} (hbelow : ∀ i < total, below (advance start i) = .ok (p i))
    (hsorted : ∀ i j, i < j → j < total → p j = true → p i = true) {fuel length lo : ℕ} (hfuel : length ≤ fuel)
    (htotal : lo + length ≤ total) (hlo : ∀ i < lo, p i = true) (hhi : ∀ i < total, lo + length ≤ i → p i = false) :
    ∃ n, lowerBoundLoop advance below fuel (advance start lo) length = .ok (advance start n) ∧ Splits p total n := by
  induction fuel generalizing length lo with
  | zero =>
    obtain rfl : length = 0 := by omega
    exact ⟨lo, rfl, htotal, hlo, hhi⟩
  | succ fuel ih =>
    unfold lowerBoundLoop
    by_cases hlength : length = 0
    · rw [if_pos hlength]
      subst hlength
      exact ⟨lo, rfl, htotal, hlo, hhi⟩
    · rw [if_neg hlength]
      have hmiddle : lo + length / 2 < total := by omega
      simp only [hadvance, hbelow _ hmiddle]
      cases hp : p (lo + length / 2) with
      | true =>
        refine ih (by omega) (by omega) (fun i hi => ?_) fun i hi hle => hhi i hi (by omega)
        rcases Nat.lt_or_eq_of_le (show i ≤ lo + length / 2 by omega) with hlt | rfl
        · exact hsorted i _ hlt hmiddle hp
        · exact hp
      | false =>
        refine ih (by omega) (by omega) hlo fun i hi hle => ?_
        rcases Nat.lt_or_eq_of_le hle with hlt | rfl
        · -- a yes behind the middle would be a yes in the middle
          cases hi' : p i with
          | true =>
            rw [hsorted _ i hlt hi hi'] at hp
            cases hp
          | false => rfl
        · exact hp

/-- The place is found. -/
theorem lowerBound_spec (hadvance : ∀ it a b, advance (advance it a) b = advance it (a + b)) {start : It}
    (hzero : advance start 0 = start) {length : ℕ} (hbelow : ∀ i < length, below (advance start i) = .ok (p i))
    (hsorted : ∀ i j, i < j → j < length → p j = true → p i = true) :
    ∃ n, lowerBound advance below start length = .ok (advance start n) ∧ Splits p length n := by
  have htotal : 0 + length ≤ length := by omega
  have h := lowerBoundLoop_spec hadvance start hbelow hsorted (Nat.le_refl length) htotal
    (fun i hi => absurd hi (Nat.not_lt_zero i)) fun i hi hle => absurd hi (by omega)
  rwa [hzero] at h

end AugmentedInsanity.BinarySearch
