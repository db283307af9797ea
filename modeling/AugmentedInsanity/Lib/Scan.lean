/-
`for` loops that can stop early. `collect` looks things up one after the other and stops at the first that
is missing or cannot be looked at; `collect_cases` says what it returns, and every proof about one starts
from it. `forFrom` updates a state; `forFrom_inv` is its invariant rule.
-/
import Mathlib.Data.List.Basic

namespace AugmentedInsanity.Scan

variable {ε α : Type*}

/-- `for (; k < k + n; k++)`: what `f` finds at each `k`, or nothing from the first `k` at which it finds
nothing. -/
def collect (f : ℕ → Except ε (Option α)) : ℕ → ℕ → Except ε (Option (List α))
  | _, 0 => .ok (some [])
  | k, n + 1 =>
    match f k with
    | .error e => .error e
    | .ok none => .ok none
    | .ok (some a) => (collect f (k + 1) n).map (Option.map (a :: ·))

/-- The loop gets past the first `j` lookups. -/
def FindsBelow (f : ℕ → Except ε (Option α)) (k j : ℕ) : Prop := ∀ m, m < j → ∃ a, f (k + m) = .ok (some a)

variable {f : ℕ → Except ε (Option α)} {k n : ℕ}

theorem FindsBelow.cons {k j : ℕ} {a : α} (ha : f k = .ok (some a)) (h : FindsBelow f (k + 1) j) :
    FindsBelow f k (j + 1) := by
  intro m hm
  rcases m with _ | m
  · exact ⟨a, ha⟩
  · obtain ⟨b, hb⟩ := h m (by omega)
    exact ⟨b, by rw [← hb]; congr 1; omega⟩

/-- The loop finds everything, misses something, or fails at a lookup; in the latter cases it got that far. -/
theorem collect_cases (f : ℕ → Except ε (Option α)) (k n : ℕ) :
    (∃ l, collect f k n = .ok (some l) ∧ ∀ m, m < n → ∃ a, l[m]? = some a ∧ f (k + m) = .ok (some a)) ∨
    (collect f k n = .ok none ∧ ∃ j, j < n ∧ f (k + j) = .ok none ∧ FindsBelow f k j) ∨
    ∃ e, collect f k n = .error e ∧ ∃ j, j < n ∧ f (k + j) = .error e ∧ FindsBelow f k j := by
  induction n generalizing k with
  | zero => exact Or.inl ⟨[], rfl, fun m hm => absurd hm (Nat.not_lt_zero m)⟩
  | succ n ih =>
    unfold collect
    have hnone : FindsBelow f k 0 := fun m hm => absurd hm (Nat.not_lt_zero m)
    rcases hk : f k with e | _ | a
    · exact Or.inr (Or.inr ⟨e, rfl, 0, by omega, hk, hnone⟩)
    · exact Or.inr (Or.inl ⟨rfl, 0, by omega, hk, hnone⟩)
    · have hshift : ∀ j, k + 1 + j = k + (j + 1) := fun j => by omega
      rcases ih (k + 1) with ⟨l, hl, hfound⟩ | ⟨hl, j, hj, hmiss, hbelow⟩ | ⟨e, hl, j, hj, herr, hbelow⟩
      · left
        refine ⟨a :: l, by rw [hl]; rfl, ?_⟩
        intro m hm
        rcases m with _ | m
        · exact ⟨a, rfl, hk⟩
        · obtain ⟨b, hb, hfb⟩ := hfound m (by omega)
          exact ⟨b, hb, by rw [← hshift]; exact hfb⟩
      · right; left
        exact ⟨by rw [hl]; rfl, j + 1, by omega, by rw [← hshift]; exact hmiss, hbelow.cons hk⟩
      · right; right
        exact ⟨e, by rw [hl]; rfl, j + 1, by omega, by rw [← hshift]; exact herr, hbelow.cons hk⟩

theorem collect_length {l : List α} (h : collect f k n = .ok (some l)) : l.length = n := by
  induction n generalizing k l with
  | zero => cases h; rfl
  | succ n ih =>
    unfold collect at h
    rcases hk : f k with e | _ | a
    · rw [hk] at h; cases h
    · rw [hk] at h; cases h
    · rw [hk] at h
      rcases hc : collect f (k + 1) n with e | _ | l'
      · simp only [hc] at h; cases h
      · simp only [hc] at h; cases h
      · simp only [hc] at h
        obtain rfl : a :: l' = l := Option.some.inj (Except.ok.inj h)
        rw [List.length_cons, ih hc]

/-- Finding everything is what the loop does when every lookup finds something. -/
theorem collect_of_found (h : FindsBelow f k n) :
    ∃ l, collect f k n = .ok (some l) ∧ ∀ m, m < n → ∃ a, l[m]? = some a ∧ f (k + m) = .ok (some a) := by
  rcases collect_cases f k n with hl | ⟨-, j, hj, hmiss, -⟩ | ⟨e, -, j, hj, herr, -⟩
  · exact hl
  · obtain ⟨a, ha⟩ := h j hj
    rw [ha] at hmiss; cases hmiss
  · obtain ⟨a, ha⟩ := h j hj
    rw [ha] at herr; cases herr

/-- The loop stops without a result at the first lookup that finds nothing. -/
theorem collect_of_missing {k n j : ℕ} (hj : j < n) (hmiss : f (k + j) = .ok none) (hbelow : FindsBelow f k j) :
    collect f k n = .ok none := by
  rcases collect_cases f k n with ⟨l, -, hfound⟩ | ⟨hl, -⟩ | ⟨e, -, j', hj', herr, hbelow'⟩
  · obtain ⟨a, -, ha⟩ := hfound j hj
    rw [ha] at hmiss; cases hmiss
  · exact hl
  · rcases Nat.lt_trichotomy j j' with hlt | rfl | hlt
    · obtain ⟨a, ha⟩ := hbelow' j hlt
      rw [ha] at hmiss; cases hmiss
    · rw [hmiss] at herr; cases herr
    · obtain ⟨a, ha⟩ := hbelow j' hlt
      rw [ha] at herr; cases herr

/-- The loop finds everything exactly when every lookup finds something. -/
theorem collect_found_iff : (∃ l, collect f k n = .ok (some l)) ↔ FindsBelow f k n := by
  constructor
  · rintro ⟨l, hl⟩
    rcases collect_cases f k n with ⟨_, -, hfound⟩ | ⟨hnone, -⟩ | ⟨e, herr, -⟩
    · intro m hm
      obtain ⟨a, -, ha⟩ := hfound m hm
      exact ⟨a, ha⟩
    · rw [hnone] at hl; cases hl
    · rw [herr] at hl; cases hl
  · intro h
    obtain ⟨l, hl, -⟩ := collect_of_found h
    exact ⟨l, hl⟩

/-- The loop fails at the first lookup that does not find something, if that one fails. -/
theorem collect_of_error {k n j : ℕ} {e : ε} (hj : j < n) (herr : f (k + j) = .error e) (hbelow : FindsBelow f k j) :
    collect f k n = .error e := by
  rcases collect_cases f k n with ⟨l, -, hfound⟩ | ⟨-, j', hj', hmiss, hbelow'⟩ | ⟨e', hl, j', hj', herr', hbelow'⟩
  · obtain ⟨a, -, ha⟩ := hfound j hj
    rw [ha] at herr; cases herr
  · rcases Nat.lt_trichotomy j j' with hlt | rfl | hlt
    · obtain ⟨a, ha⟩ := hbelow' j hlt
      rw [ha] at herr; cases herr
    · rw [hmiss] at herr; cases herr
    · obtain ⟨a, ha⟩ := hbelow j' hlt
      rw [ha] at hmiss; cases hmiss
  · rcases Nat.lt_trichotomy j j' with hlt | rfl | hlt
    · obtain ⟨a, ha⟩ := hbelow' j hlt
      rw [ha] at herr; cases herr
    · exact hl.trans (congrArg Except.error (Except.error.inj (herr'.symm.trans herr)))
    · obtain ⟨a, ha⟩ := hbelow j' hlt
      rw [ha] at herr'; cases herr'

theorem collect_error_iff {e : ε} :
    collect f k n = .error e ↔ ∃ j, j < n ∧ f (k + j) = .error e ∧ FindsBelow f k j := by
  constructor
  · intro h
    rcases collect_cases f k n with ⟨l, hl, -⟩ | ⟨hl, -⟩ | ⟨e', hl, hfail⟩
    · rw [hl] at h; cases h
    · rw [hl] at h; cases h
    · rw [hl] at h; cases h; exact hfail
  · rintro ⟨j, hj, herr, hbelow⟩
    exact collect_of_error hj herr hbelow

/-! ## Loops over a state -/

variable {σ : Type*}

/-- `for (; i < i + n; i++)` around a body that updates a state or fails. -/
def forFrom (body : ℕ → σ → Except ε σ) : ℕ → ℕ → σ → Except ε σ
  | _, 0, s => .ok s
  | i, n + 1, s =>
    match body i s with
    | .error e => .error e
    | .ok t => forFrom body (i + 1) n t

/-- A body that does not fail under an invariant, and carries it from one round to the next, makes a loop
that does not fail and ends with it. -/
theorem forFrom_inv {b : ℕ → σ → Except ε σ} {I : ℕ → σ → Prop} {i n : ℕ} {s : σ}
    (hbody : ∀ j t, i ≤ j → j < i + n → I j t → ∃ u, b j t = .ok u ∧ I (j + 1) u) (hs : I i s) :
    ∃ u, forFrom b i n s = .ok u ∧ I (i + n) u := by
  induction n generalizing i s with
  | zero => exact ⟨s, rfl, hs⟩
  | succ n ih =>
    obtain ⟨t, ht, hI⟩ := hbody i s (Nat.le_refl i) (by omega) hs
    obtain ⟨u, hu, hend⟩ := ih (fun j t' hij hj => hbody j t' (by omega) (by omega)) hI
    have hsum : i + (n + 1) = i + 1 + n := by omega
    refine ⟨u, ?_, by rw [hsum]; exact hend⟩
    unfold forFrom
    rw [ht]
    exact hu

/-! ## The first element that is different -/

/-- A list whose elements all meet `p`, or its part before the first one that does not. -/
theorem all_or_first (p : α → Prop) (l : List α) :
    (∀ a ∈ l, p a) ∨ ∃ before a after, l = before ++ a :: after ∧ (∀ b ∈ before, p b) ∧ ¬ p a := by
  induction l with
  | nil => exact Or.inl fun a ha => by cases ha
  | cons a l ih =>
    by_cases ha : p a
    · rcases ih with hall | ⟨before, b, after, rfl, hbefore, hb⟩
      · exact Or.inl (List.forall_mem_cons.2 ⟨ha, hall⟩)
      · exact Or.inr ⟨a :: before, b, after, rfl, List.forall_mem_cons.2 ⟨ha, hbefore⟩, hb⟩
    · exact Or.inr ⟨[], a, l, rfl, fun b hb => (by cases hb), ha⟩

/-- The first element that does not meet `p` is the same however the list is split at it. -/
theorem first_unique {p : α → Prop} {before before' : List α} {a a' : α} {after after' : List α}
    (h : before ++ a :: after = before' ++ a' :: after') (hbefore : ∀ b ∈ before, p b) (ha : ¬ p a)
    (hbefore' : ∀ b ∈ before', p b) (ha' : ¬ p a') : a = a' := by
  induction before generalizing before' with
  | nil =>
    cases before' with
    | nil => exact (List.cons.inj h).1
    | cons b' before' =>
      obtain rfl : a = b' := (List.cons.inj h).1
      exact absurd (hbefore' a (List.mem_cons_self ..)) ha
  | cons b before ih =>
    cases before' with
    | nil =>
      obtain rfl : b = a' := (List.cons.inj h).1
      exact absurd (hbefore b (List.mem_cons_self ..)) ha'
    | cons b' before' =>
      exact ih (List.cons.inj h).2 (List.forall_mem_cons.1 hbefore).2 (List.forall_mem_cons.1 hbefore').2

end AugmentedInsanity.Scan
