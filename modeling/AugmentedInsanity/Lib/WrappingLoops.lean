/-
Loops over machine numbers, `for (x = 0; x < bound; x += step)`. The sum wraps, so that the loop ends at the first multiple
of the step that is not below the bound after it has wrapped, if there is one (`exists_stops`); a step of zero never ends
it. Then the bodies of two such loops, one in the other, that count towards a limit.
-/
import Mathlib.Data.UInt

namespace AugmentedInsanity.WrappingLoops

variable {σ ι : Type*}

/-- `for (x = x₀; x < bound; x += step)`, with fuel; `none` if the fuel does not last or a body fails. -/
def forLoop (bound step : UInt32) (body : UInt32 → σ → Option σ) : ℕ → UInt32 → σ → Option σ
  | 0, _, _ => none
  | fuel + 1, x, s => if x < bound then (body x s).bind (forLoop bound step body fuel (x + step)) else some s

/-- The loop variable after `k` rounds from zero. -/
def nth (step : UInt32) (k : ℕ) : UInt32 := .ofNat (k * step.toNat)

variable {bound step : UInt32} {body : UInt32 → σ → Option σ} {n k j fuel : ℕ} {s : σ}

theorem nth_zero (step : UInt32) : nth step 0 = 0 := by
  unfold nth
  rw [Nat.zero_mul]
  rfl

theorem toNat_nth (step : UInt32) (k : ℕ) : (nth step k).toNat = k * step.toNat % 2 ^ 32 := UInt32.toNat_ofNat

theorem nth_succ (step : UInt32) (k : ℕ) : nth step (k + 1) = nth step k + step := by
  apply UInt32.toNat_inj.mp
  rw [UInt32.toNat_add, toNat_nth, toNat_nth, Nat.succ_mul, Nat.mod_add_mod]

/-- The loop ends after `n` rounds. -/
structure Stops (bound step : UInt32) (n : ℕ) : Prop where
  before : ∀ k < n, nth step k < bound
  after : ¬nth step n < bound

theorem Stops.pos (h : Stops bound step n) (hbound : 0 < bound) : 0 < n := by
  refine Nat.pos_of_ne_zero ?_
  rintro rfl
  exact h.after (nth_zero step ▸ hbound)

theorem not_lt_iff : ¬nth step k < bound ↔ bound.toNat ≤ k * step.toNat % 2 ^ 32 := by
  rw [UInt32.lt_iff_toNat_lt, toNat_nth, Nat.not_lt]

/-- A loop that ever comes to its bound stops when it does so first. -/
theorem exists_stops (hk : ¬nth step k < bound) : ∃ n ≤ k, Stops bound step n := by
  have hex : ∃ k, ¬nth step k < bound := ⟨k, hk⟩
  exact ⟨Nat.find hex, Nat.find_min' hex hk, fun j hj => by_contra fun hnot => Nat.find_min hex hj hnot,
    Nat.find_spec hex⟩

theorem forLoop_from (h : Stops bound step n) (hj : j ≤ n) (hfuel : n - j < fuel) (s : σ) :
    forLoop bound step body fuel (nth step j) s =
      (List.range' j (n - j)).foldlM (fun s k => body (nth step k) s) s := by
  induction fuel generalizing j s with
  | zero => omega
  | succ fuel ih =>
    unfold forLoop
    rcases Nat.lt_or_eq_of_le hj with hlt | rfl
    · obtain ⟨m, hm⟩ : ∃ m, n - j = m + 1 := ⟨n - j - 1, by omega⟩
      have hrest : n - (j + 1) = m := by omega
      rw [if_pos (h.before j hlt), hm, List.range'_succ, List.foldlM_cons, ← nth_succ]
      refine Option.bind_congr fun s' _ => ?_
      rw [ih hlt (by omega), hrest]
    · rw [if_neg h.after, Nat.sub_self]
      rfl

/-- A loop that stops runs its body once for each round. -/
theorem forLoop_of_stops (h : Stops bound step n) (hfuel : n < fuel) (s : σ) :
    forLoop bound step body fuel 0 s = (List.range n).foldlM (fun s k => body (nth step k) s) s := by
  rw [← nth_zero step, forLoop_from h (Nat.zero_le n) hfuel, List.range_eq_range', Nat.sub_zero]

/-- A loop that does not come to its bound has no end. -/
theorem forLoop_endless (hall : ∀ k, nth step k < bound) (j : ℕ) (s : σ) :
    forLoop bound step body fuel (nth step j) s = none := by
  induction fuel generalizing j s with
  | zero => rfl
  | succ fuel ih =>
    unfold forLoop
    rw [if_pos (hall j), ← nth_succ]
    cases body (nth step j) s with
    | none => rfl
    | some s' => exact ih (j + 1) s'

/-- Fuel for fewer rounds than the loop has does not last. -/
theorem forLoop_short (h : Stops bound step n) (hfuel : fuel + j ≤ n) (s : σ) :
    forLoop bound step body fuel (nth step j) s = none := by
  induction fuel generalizing j s with
  | zero => rfl
  | succ fuel ih =>
    unfold forLoop
    rw [if_pos (h.before j (by omega)), ← nth_succ]
    cases body (nth step j) s with
    | none => rfl
    | some s' => exact ih (by omega) s'

/-- A loop that gives something has stopped, and its body has run once for each round. -/
theorem forLoop_eq_some {s' : σ} (hsome : forLoop bound step body fuel 0 s = some s') :
    ∃ n, Stops bound step n ∧ n < fuel ∧ (List.range n).foldlM (fun s k => body (nth step k) s) s = some s' := by
  have hex : ∃ k, ¬nth step k < bound := by
    by_contra hno
    rw [← nth_zero step, forLoop_endless fun k => by_contra fun hk => hno ⟨k, hk⟩] at hsome
    cases hsome
  obtain ⟨k, hk⟩ := hex
  obtain ⟨n, -, h⟩ := exists_stops hk
  have hfuel : n < fuel := by
    by_contra hnot
    rw [← nth_zero step, forLoop_short h (by omega)] at hsome
    cases hsome
  exact ⟨n, h, hfuel, (forLoop_of_stops h hfuel s).symm.trans hsome⟩

/-! ## Counting towards a limit -/

/-- A step that adds `amount` to a count, unless something is wrong with what it is about or the count passes the limit. -/
structure Counted (count : σ → ℕ) (limit amount : ℕ) (Good : ι → Prop) (f : σ → ι → Option σ) : Prop where
  isSome_iff : ∀ s i, (f s i).isSome ↔ Good i ∧ count s + amount ≤ limit
  adds : ∀ s i s', f s i = some s' → count s' = count s + amount

variable {count : σ → ℕ} {limit amount : ℕ} {Good : ι → Prop} {f : σ → ι → Option σ} {l : List ι}

theorem Counted.foldlM_adds (h : Counted count limit amount Good f) {s' : σ} (hfold : l.foldlM f s = some s') :
    count s' = count s + l.length * amount := by
  induction l generalizing s with
  | nil =>
    obtain rfl : s = s' := Option.some.inj hfold
    rw [List.length_nil, Nat.zero_mul, Nat.add_zero]
  | cons i l ih =>
    rw [List.foldlM_cons] at hfold
    obtain ⟨s₁, hstep, hrest⟩ := Option.bind_eq_some_iff.mp hfold
    rw [ih hrest, h.adds s i s₁ hstep, List.length_cons, Nat.succ_mul]
    omega

theorem Counted.foldlM_isSome_iff (h : Counted count limit amount Good f) (hl : l ≠ []) (s : σ) :
    (l.foldlM f s).isSome ↔ (∀ i ∈ l, Good i) ∧ count s + l.length * amount ≤ limit := by
  induction l generalizing s with
  | nil => exact absurd rfl hl
  | cons i l ih =>
    have hstep : ((i :: l).foldlM f s).isSome ↔ ∃ s', f s i = some s' ∧ (l.foldlM f s').isSome := by
      rw [List.foldlM_cons]
      cases hf : f s i with
      | none => exact iff_of_false nofun (by rintro ⟨s', ⟨⟩, -⟩)
      | some s₁ => exact ⟨fun hsome => ⟨s₁, rfl, hsome⟩, by rintro ⟨s', ⟨⟩, hsome⟩; exact hsome⟩
    have hgood := h.isSome_iff s i
    rw [hstep]
    rcases eq_or_ne l [] with rfl | hne
    · constructor
      · rintro ⟨s', hs', -⟩
        obtain ⟨hi, hle⟩ := hgood.mp (Option.isSome_iff_exists.mpr ⟨s', hs'⟩)
        refine ⟨fun j hj => List.mem_singleton.mp hj ▸ hi, ?_⟩
        rwa [List.length_singleton, Nat.one_mul]
      · rintro ⟨hall, hle⟩
        rw [List.length_singleton, Nat.one_mul] at hle
        obtain ⟨s', hs'⟩ := Option.isSome_iff_exists.mp (hgood.mpr ⟨hall i (List.mem_singleton_self i), hle⟩)
        exact ⟨s', hs', rfl⟩
    · have hsum : ∀ s', f s i = some s' →
          count s' + l.length * amount = count s + (i :: l).length * amount := by
        intro s' hs'
        rw [h.adds s i s' hs', List.length_cons, Nat.succ_mul]
        omega
      constructor
      · rintro ⟨s', hs', hsome⟩
        obtain ⟨hi, -⟩ := hgood.mp (Option.isSome_iff_exists.mpr ⟨s', hs'⟩)
        obtain ⟨hall, hle⟩ := (ih hne s').mp hsome
        exact ⟨List.forall_mem_cons.mpr ⟨hi, hall⟩, hsum s' hs' ▸ hle⟩
      · rintro ⟨hall, hle⟩
        obtain ⟨hi, hrest⟩ := List.forall_mem_cons.mp hall
        have hone : count s + amount ≤ limit := by
          rw [List.length_cons, Nat.succ_mul] at hle
          omega
        obtain ⟨s', hs'⟩ := Option.isSome_iff_exists.mp (hgood.mpr ⟨hi, hone⟩)
        exact ⟨s', hs', (ih hne s').mpr ⟨hrest, (hsum s' hs').symm ▸ hle⟩⟩

/-- The inner loop of two is a step of the outer one. -/
theorem Counted.inner {κ : Type*} {Good : ι → κ → Prop} {f : κ → σ → ι → Option σ} (hl : l ≠ [])
    (h : ∀ k, Counted count limit amount (fun i => Good i k) (f k)) :
    Counted count limit (l.length * amount) (fun k => ∀ i ∈ l, Good i k) fun s k => l.foldlM (f k) s :=
  ⟨fun s k => (h k).foldlM_isSome_iff hl s, fun _ k _ hfold => (h k).foldlM_adds hfold⟩

end AugmentedInsanity.WrappingLoops
