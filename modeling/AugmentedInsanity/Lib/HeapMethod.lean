/-
Heap's method: the arrangements of the positions below `n`, each from the one before it by one swap. The positions below
`k + 1` are arranged in `k + 1` rounds, each of which arranges the positions below `k`; between two rounds the last
position is swapped with the first one if `k` is even, and else with the one that has the number of the round. Over all
its rounds the method then swaps the first and the last position if they are odd in number, and goes once through a cycle
of all positions if they are even in number (`total_spec`), so that in every round another position comes last
(`start_last`) and every arrangement is visited once (`visits_nodup`, `length_visits`).
-/
import Mathlib.GroupTheory.Perm.List
import Mathlib.Data.Nat.ModEq

namespace AugmentedInsanity.HeapMethod

open Equiv

/-! ## The method -/

/-- The position that is swapped with position `k` after round `i`. -/
def partner (k i : ℕ) : ℕ := if k % 2 = 0 then 0 else i

/-- What was done before round `i`, where each round does `t` in all. -/
def start (t : Perm ℕ) (k : ℕ) : ℕ → Perm ℕ
  | 0 => 1
  | i + 1 => start t k i * t * swap (partner k i) k

/-- What arranging the positions below `k` does in all. -/
def total : ℕ → Perm ℕ
  | 0 => 1
  | k + 1 => start (total k) k k * total k

/-- All that is visited, from the arrangement that was there at first. -/
def visits : ℕ → List (Perm ℕ)
  | 0 => [1]
  | k + 1 => (List.range (k + 1)).flatMap fun i => (visits k).map (start (total k) k i * ·)

/-- What is visited in the first `c` rounds of position `k`. -/
def firstRounds (k c : ℕ) : List (Perm ℕ) :=
  (List.range c).flatMap fun i => (visits k).map (start (total k) k i * ·)

theorem visits_succ (k : ℕ) : visits (k + 1) = firstRounds k (k + 1) := rfl

theorem firstRounds_succ (k c : ℕ) :
    firstRounds k (c + 1) = firstRounds k c ++ (visits k).map (start (total k) k c * ·) := by
  simp [firstRounds, List.range_succ]

theorem visits_eq_cons (k : ℕ) : visits k = 1 :: (visits k).tail := by
  induction k with
  | zero => rfl
  | succ k ih =>
    have hfirst : ∃ l, firstRounds k (k + 1) = 1 :: l := by
      refine ⟨(visits k).tail.map (start (total k) k 0 * ·) ++
        (List.range' 1 k).flatMap fun i => (visits k).map (start (total k) k i * ·), ?_⟩
      rw [firstRounds, List.range_succ_eq_map, List.flatMap_cons, ih]
      simp [start, List.range'_eq_map_range, List.flatMap_map, Nat.add_comm]
    obtain ⟨l, hl⟩ := hfirst
    rw [visits_succ, hl, List.tail_cons]

/-! ## What is arranged -/

/-- Only positions below `k` are moved. -/
def Below (k : ℕ) (σ : Perm ℕ) : Prop := ∀ x, k ≤ x → σ x = x

theorem below_one (k : ℕ) : Below k 1 := fun _ _ => rfl

variable {k : ℕ} {i : ℕ} {l : List ℕ} {t : Perm ℕ}

theorem Below.mul {σ τ : Perm ℕ} (hσ : Below k σ) (hτ : Below k τ) : Below k (σ * τ) := fun x hx => by
  rw [Perm.mul_apply, hτ x hx, hσ x hx]

theorem Below.mono {l : ℕ} {σ : Perm ℕ} (h : Below k σ) (hkl : k ≤ l) : Below l σ := fun x hx => h x (hkl.trans hx)

theorem below_swap {a b : ℕ} (ha : a < k) (hb : b < k) : Below k (swap a b) := fun x hx =>
  swap_apply_of_ne_of_ne (by omega) (by omega)

theorem partner_le (hi : i ≤ k) : partner k i ≤ k := by
  unfold partner
  split <;> omega

theorem below_start (ht : Below k t) (hi : i ≤ k) : Below (k + 1) (start t k i) := by
  induction i with
  | zero => exact below_one _
  | succ i ih =>
    have hpartner : partner k i < k + 1 := Nat.lt_succ_of_le (partner_le (by omega))
    exact ((ih (by omega)).mul (ht.mono (Nat.le_succ k))).mul (below_swap hpartner (Nat.lt_succ_self k))

theorem below_total (k : ℕ) : Below k (total k) := by
  induction k with
  | zero => exact below_one _
  | succ k ih => exact (below_start ih le_rfl).mul (ih.mono (Nat.le_succ k))

theorem below_visits {σ : Perm ℕ} (h : σ ∈ visits k) : Below k σ := by
  induction k generalizing σ with
  | zero =>
    rw [List.mem_singleton.1 h]
    exact below_one _
  | succ k ih =>
    obtain ⟨i, hi, h⟩ := List.mem_flatMap.1 h
    obtain ⟨τ, hτ, rfl⟩ := List.mem_map.1 h
    have hi : i ≤ k := Nat.le_of_lt_succ (List.mem_range.1 hi)
    exact (below_start (below_total k) hi).mul ((ih hτ).mono (Nat.le_succ k))

/-! ## Cycles -/

/-- A cycle may be written from its second element on. -/
theorem formPerm_turn {x : ℕ} (h : (x :: l).Nodup) : (l ++ [x]).formPerm = (x :: l).formPerm := by
  have := List.formPerm_rotate_one (x :: l) h
  rwa [List.rotate_cons_succ, List.rotate_zero] at this

/-- A cycle through the positions below `k`, of which the first is written last. -/
def FullCycle (k : ℕ) (σ : Perm ℕ) : Prop :=
  ∃ l : List ℕ, (l ++ [0]).Nodup ∧ (∀ x, x ∈ l ++ [0] ↔ x < k) ∧ σ = (l ++ [0]).formPerm

/-- A new element goes before the last one of a cycle. -/
theorem formPerm_insert {a b c : ℕ} (h : (l ++ [a, b, c]).Nodup) :
    (l ++ [a, c]).formPerm * swap b a = (l ++ [a, b, c]).formPerm := by
  have hall : (c :: (l ++ [a, b])).Nodup := by
    have : ((l ++ [a, b, c]).rotate (l ++ [a, b]).length).Nodup := List.nodup_rotate.2 h
    rwa [show l ++ [a, b, c] = (l ++ [a, b]) ++ [c] by simp, List.rotate_append_length_eq] at this
  have hless : (c :: (l ++ [a])).Nodup := hall.sublist (by simp)
  calc (l ++ [a, c]).formPerm * swap b a = ((l ++ [a]) ++ [c]).formPerm * swap b a := by simp
    _ = (c :: l ++ [a]).formPerm * swap a b := by rw [formPerm_turn hless, swap_comm, List.cons_append]
    _ = (c :: (l ++ [a, b])).formPerm := by rw [← List.formPerm_append_pair, List.cons_append]
    _ = (l ++ [a, b, c]).formPerm := by rw [← formPerm_turn hall]; simp

/-- A new element goes to the front of a cycle. -/
theorem formPerm_cons {x c : ℕ} (h : (x :: (l ++ [c])).Nodup) :
    (l ++ [c]).formPerm * swap x c = (x :: (l ++ [c])).formPerm := by
  calc (l ++ [c]).formPerm * swap x c = (l ++ [c, x]).formPerm := by rw [List.formPerm_append_pair, swap_comm]
    _ = (x :: (l ++ [c])).formPerm := by rw [← formPerm_turn h]; simp

theorem length_of_full (hnodup : l.Nodup) (hmem : ∀ x, x ∈ l ↔ x < k) : l.length = k := by
  have hperm : l.Perm (List.range k) :=
    (List.perm_ext_iff_of_nodup hnodup List.nodup_range).2 fun x => (hmem x).trans List.mem_range.symm
  rw [hperm.length_eq, List.length_range]

/-! ## Rounds with the first position -/

theorem start_of_even (hk : k % 2 = 0) (t : Perm ℕ) (i : ℕ) : start t k i = (t * swap 0 k) ^ i := by
  induction i with
  | zero => rfl
  | succ i ih => rw [start, ih, partner, if_pos hk, pow_succ, mul_assoc]

/-- With one position more the cycle goes through that as well. -/
theorem FullCycle.extend (h : FullCycle k t) :
    ∃ m : List ℕ, m.Nodup ∧ (∀ x, x ∈ m ↔ x < k + 1) ∧ t * swap 0 k = m.formPerm := by
  obtain ⟨l, hnodup, hmem, rfl⟩ := h
  have hk : k ∉ l ++ [0] := fun hk => Nat.lt_irrefl k ((hmem k).1 hk)
  refine ⟨l ++ [0, k], ?_, fun x => ?_, (List.formPerm_append_pair l 0 k).symm⟩
  · rw [List.append_cons]
    exact hnodup.append (List.nodup_singleton k) (by simpa using hk)
  · rw [List.append_cons, List.mem_append, hmem, List.mem_singleton]
    omega

theorem FullCycle.start_last (h : FullCycle k t) (hk : k % 2 = 0) {i j : ℕ} (hi : i ≤ k) (hj : j ≤ k)
    (heq : start t k i k = start t k j k) : i = j := by
  obtain ⟨m, hnodup, hmem, hturn⟩ := h.extend
  have hlength := length_of_full hnodup hmem
  obtain ⟨p, hp, hat⟩ := List.mem_iff_getElem.1 ((hmem k).2 (Nat.lt_succ_self k))
  rw [start_of_even hk, start_of_even hk, hturn] at heq
  have hpow : ∀ n, (m.formPerm ^ n) k = getElem m ((p + n) % m.length) (Nat.mod_lt _ (by omega)) := fun n => by
    rw [← List.formPerm_pow_apply_getElem m hnodup n p hp, hat]
  rw [hpow, hpow, hnodup.getElem_inj_iff, hlength] at heq
  have hmod : Nat.ModEq (k + 1) i j := Nat.ModEq.add_left_cancel' p heq
  exact Nat.ModEq.eq_of_lt_of_lt hmod (by omega) (by omega)

/-- As a cycle of all positions is gone round, only the last swap is left. -/
theorem FullCycle.total_succ (h : FullCycle k (total k)) (hk : k % 2 = 0) : total (k + 1) = swap 0 k := by
  obtain ⟨m, hnodup, hmem, hturn⟩ := h.extend
  have hround : (total k * swap 0 k) ^ (k + 1) = 1 := by
    rw [hturn, ← length_of_full hnodup hmem, List.formPerm_pow_length_eq_one_of_nodup m hnodup]
  calc total (k + 1) = (total k * swap 0 k) ^ k * total k := by rw [total, start_of_even hk]
    _ = (total k * swap 0 k) ^ (k + 1) * swap 0 k := by
        rw [pow_succ, mul_assoc, mul_assoc (total k), swap_mul_self, mul_one]
    _ = swap 0 k := by rw [hround, one_mul]

/-! ## Rounds with one position after the other -/

/-- The positions from `i` down to one. -/
def down : ℕ → List ℕ
  | 0 => []
  | i + 1 => (i + 1) :: down i

theorem mem_down {i x : ℕ} : x ∈ down i ↔ 0 < x ∧ x ≤ i := by
  induction i with
  | zero => simp [down]; omega
  | succ i ih => rw [down, List.mem_cons, ih]; omega

theorem nodup_down (i : ℕ) : (down i).Nodup := by
  induction i with
  | zero => exact List.nodup_nil
  | succ i ih =>
    refine List.nodup_cons.2 ⟨fun hmem => ?_, ih⟩
    exact Nat.not_succ_le_self i (mem_down.1 hmem).2

/-- The cycle that was done before round `i + 1`. -/
def cycleOf (k i : ℕ) : List ℕ := down i ++ (k - 1) :: (if i % 2 = 0 then [0, k] else [k])

theorem nodup_cycleOf (hi : i + 2 ≤ k) : (cycleOf k i).Nodup := by
  refine (nodup_down i).append ?_ ?_
  · split
    · simp; omega
    · simp; omega
  · intro x hx hx'
    have := mem_down.1 hx
    split at hx'
    · simp at hx'; omega
    · simp at hx'; omega

theorem formPerm_cycleOf_succ (hi : i + 3 ≤ k) :
    (cycleOf k i).formPerm * swap 0 (k - 1) * swap (i + 1) k = (cycleOf k (i + 1)).formPerm := by
  have hnext := nodup_cycleOf (k := k) (i := i + 1) (by omega)
  have hnodup := nodup_cycleOf (k := k) (i := i) (by omega)
  unfold cycleOf down at hnext
  unfold cycleOf
  by_cases heven : i % 2 = 0
  · have hodd : ¬(i + 1) % 2 = 0 := by omega
    unfold cycleOf at hnodup
    rw [if_pos heven] at hnodup ⊢
    rw [if_neg hodd] at hnext ⊢
    rw [← formPerm_insert hnodup, mul_assoc (down i ++ [k - 1, k]).formPerm, swap_mul_self, mul_one]
    have := formPerm_cons (l := down i ++ [k - 1]) (x := i + 1) (c := k) (by simpa using hnext)
    simpa [down] using this
  · have hodd : (i + 1) % 2 = 0 := by omega
    rw [if_neg heven]
    rw [if_pos hodd] at hnext ⊢
    have hinsert : (down i ++ [k - 1, 0, k]).Nodup := hnext.sublist (by simp)
    rw [formPerm_insert hinsert]
    have := formPerm_cons (l := down i ++ [k - 1, 0]) (x := i + 1) (c := k) (by simpa using hnext)
    simpa [down] using this

theorem start_of_odd (hk : k % 2 = 1) (hi : i + 2 ≤ k) : start (swap 0 (k - 1)) k (i + 1) = (cycleOf k i).formPerm := by
  have hpartner : ∀ j, partner k j = j := fun j => if_neg (by omega)
  induction i with
  | zero =>
    rw [start, start, hpartner, one_mul, swap_comm 0 (k - 1)]
    rfl
  | succ i ih => rw [start, ih (by omega), hpartner, formPerm_cycleOf_succ (by omega)]

/-- The position that comes last in a round. -/
def lastOf (k i : ℕ) : ℕ := if i = 0 then k else if i = 1 then k - 1 else if i = k then 0 else i - 1

theorem lastOf_inj {i j : ℕ} (hi : i ≤ k) (hj : j ≤ k) (h : lastOf k i = lastOf k j) : i = j := by
  unfold lastOf at h
  split_ifs at h <;> omega

/-- The last element of a cycle goes to the first one. -/
theorem cycleOf_last : (cycleOf k i).formPerm k = if i = 0 then k - 1 else i := by
  have hsplit : ∃ l, cycleOf k i = (if i = 0 then k - 1 else i) :: (l ++ [k]) := by
    cases i with
    | zero => exact ⟨[0], rfl⟩
    | succ i =>
      by_cases heven : (i + 1) % 2 = 0
      · exact ⟨down i ++ [k - 1, 0], by simp [cycleOf, down, heven]⟩
      · exact ⟨down i ++ [k - 1], by simp [cycleOf, down, heven]⟩
  obtain ⟨l, hl⟩ := hsplit
  rw [hl, List.formPerm_cons_concat_apply_last]

theorem start_before_last (hk : k % 2 = 1) (hk' : 3 ≤ k) :
    start (swap 0 (k - 1)) k k =
      (down (k - 2) ++ [k - 1, k]).formPerm * swap 0 (k - 1) * swap (k - 1) k := by
  obtain ⟨j, rfl⟩ : ∃ j, k = j + 2 := ⟨k - 2, by omega⟩
  have hodd : ¬j % 2 = 0 := by omega
  have hpartner : partner (j + 2) (j + 1) = j + 1 := if_neg (by omega)
  rw [start, start_of_odd hk le_rfl, hpartner, cycleOf, if_neg hodd]
  rfl

theorem start_last_of_odd (hk : k % 2 = 1) (hi : i ≤ k) : start (swap 0 (k - 1)) k i k = lastOf k i := by
  unfold lastOf
  rcases i with _ | i
  · rfl
  rw [if_neg (Nat.succ_ne_zero i)]
  by_cases hlast : i + 1 = k
  · -- the last round: the element that was first is swapped in
    subst hlast
    rcases Nat.lt_or_ge (i + 1) 3 with hsmall | hlarge
    · obtain rfl : i = 0 := by omega
      rw [if_pos rfl, start, start, partner, if_neg (by omega), swap_self, one_mul]
      exact swap_apply_right 0 1
    · have hzero : (0 : ℕ) ∉ down (i + 1 - 2) ++ [i + 1 - 1, i + 1] := by
        simp [mem_down]
        omega
      rw [start_before_last hk hlarge, Perm.mul_apply, swap_apply_right, Perm.mul_apply, swap_apply_right,
        List.formPerm_apply_of_notMem hzero, if_neg (by omega), if_pos rfl]
  · rw [start_of_odd hk (by omega), cycleOf_last]
    split_ifs <;> omega

theorem total_succ_of_odd (hk : k % 2 = 1) (h : total k = swap 0 (k - 1)) : FullCycle (k + 1) (total (k + 1)) := by
  rw [total, h]
  rcases Nat.lt_or_ge k 3 with hsmall | hlarge
  · obtain rfl : k = 1 := by omega
    refine ⟨[1], by decide, fun x => ?_, ?_⟩
    · simp
      omega
    · rw [start, start, partner, if_neg (by omega), swap_self, one_mul]
      show 1 * swap 0 1 * 1 = [1, 0].formPerm
      rw [one_mul, mul_one, List.formPerm_pair, swap_comm]
  · refine ⟨down (k - 2) ++ [k - 1, k], ?_, fun x => ?_, ?_⟩
    · refine ((nodup_down _).append (by simp; omega) fun x hx hx' => ?_).append (List.nodup_singleton 0) fun x hx hx' => ?_
      · have := mem_down.1 hx
        simp at hx'
        omega
      · simp [mem_down] at hx hx'
        omega
    · simp [mem_down]
      omega
    · have hconj : swap 0 (k - 1) * swap (k - 1) k * swap 0 (k - 1) = swap k 0 := by
        rw [swap_comm 0 (k - 1), swap_comm (k - 1) k, swap_mul_swap_mul_swap (by omega) (by omega), swap_comm]
      have hall : start (swap 0 (k - 1)) k k * swap 0 (k - 1) = (down (k - 2) ++ [k - 1, k]).formPerm * swap k 0 := by
        rw [start_before_last hk hlarge, mul_assoc, mul_assoc, ← mul_assoc (swap 0 (k - 1)), hconj]
      have hturn := List.formPerm_append_pair (down (k - 2) ++ [k - 1]) k 0
      rw [List.append_assoc, List.append_assoc] at hturn
      rw [List.append_assoc]
      exact hall.trans hturn.symm

/-! ## All rounds -/

/-- What the method does in all: it swaps the first and the last of an odd number of positions, and goes through a cycle of
an even number of them. -/
theorem total_spec (k : ℕ) :
    (k % 2 = 1 → total k = swap 0 (k - 1)) ∧ (k % 2 = 0 → 0 < k → FullCycle k (total k)) := by
  induction k with
  | zero => exact ⟨nofun, fun _ h => absurd h (Nat.lt_irrefl 0)⟩
  | succ k ih =>
    refine ⟨fun hodd => ?_, fun heven _ => total_succ_of_odd (by omega) (ih.1 (by omega))⟩
    rcases Nat.eq_zero_or_pos k with rfl | hpos
    · rw [total, start, total, swap_self]
      rfl
    · exact (ih.2 (by omega) hpos).total_succ (by omega)

/-- In every round another position comes last. -/
theorem start_last {i j : ℕ} (hi : i ≤ k) (hj : j ≤ k) (h : start (total k) k i k = start (total k) k j k) : i = j := by
  rcases Nat.mod_two_eq_zero_or_one k with heven | hodd
  · rcases Nat.eq_zero_or_pos k with rfl | hpos
    · omega
    · exact ((total_spec k).2 heven hpos).start_last heven hi hj h
  · rw [(total_spec k).1 hodd, start_last_of_odd hodd hi, start_last_of_odd hodd hj] at h
    exact lastOf_inj hi hj h

/-! ## What is visited -/

theorem length_visits (k : ℕ) : (visits k).length = k.factorial := by
  induction k with
  | zero => rfl
  | succ k ih =>
    rw [visits, List.length_flatMap]
    simp [ih, Nat.factorial_succ]

theorem nodup_visits (k : ℕ) : (visits k).Nodup := by
  induction k with
  | zero => exact List.nodup_singleton 1
  | succ k ih =>
    refine List.nodup_flatMap.2 ⟨fun i _ => ih.map (mul_right_injective _), ?_⟩
    refine List.nodup_range.pairwise_of_forall_ne fun i hi j hj hij σ hσ hσ' => ?_
    -- the rounds differ in what comes last
    obtain ⟨τ, hτ, rfl⟩ := List.mem_map.1 hσ
    obtain ⟨τ', hτ', heq⟩ := List.mem_map.1 hσ'
    have hlast := congrArg (· k) heq
    simp only [Perm.mul_apply, below_visits hτ k le_rfl, below_visits hτ' k le_rfl] at hlast
    rw [List.mem_range] at hi hj
    exact hij (start_last (by omega) (by omega) hlast.symm)

end AugmentedInsanity.HeapMethod
