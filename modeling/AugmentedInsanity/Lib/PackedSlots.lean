/-
A fixed number of slots whose entries come first and whose free slots follow. An entry is added at the first
free slot (`set_packed`), and one of them can be moved to the front with a loop that shifts those before it
(`toFront_packed`).
-/
import Mathlib.Algebra.Ring.Nat
import Mathlib.Data.List.Induction
import Mathlib.Data.List.ReduceOption

namespace AugmentedInsanity.PackedSlots

variable {α β : Type*}

/-- The entries and the free slots behind them. -/
def packed (n : ℕ) (l : List α) : List (Option α) := l.map some ++ List.replicate (n - l.length) none

@[simp] theorem packed_nil (n : ℕ) : packed n ([] : List α) = List.replicate n none := rfl

variable {l : List α} {n : ℕ}

theorem length_packed (h : l.length ≤ n) : (packed n l).length = n := by
  simp only [packed, List.length_append, List.length_map, List.length_replicate]
  omega

theorem map_packed (f : α → β) (n : ℕ) (l : List α) : (packed n l).map (Option.map f) = packed n (l.map f) := by
  simp [packed]

theorem reduceOption_packed (n : ℕ) (l : List α) : (packed n l).reduceOption = l := by
  simp [packed, List.reduceOption]

theorem packed_cons (n : ℕ) (a : α) (l : List α) : packed (n + 1) (a :: l) = some a :: packed n l := by
  simp [packed]

/-- The first free slot is behind the entries. -/
theorem findIdx_packed (h : l.length ≤ n) : (packed n l).findIdx Option.isNone = l.length := by
  induction l generalizing n with
  | nil => cases n <;> simp [List.replicate_succ, List.findIdx_cons]
  | cons a l ih =>
    obtain ⟨n, rfl⟩ : ∃ m, n = m + 1 := ⟨n - 1, by simp only [List.length_cons] at h; omega⟩
    rw [packed_cons, List.findIdx_cons, ih (by simpa using h)]
    rfl

theorem set_packed (h : l.length < n) (a : α) : (packed n l).set l.length (some a) = packed n (l ++ [a]) := by
  induction l generalizing n with
  | nil =>
    obtain ⟨n, rfl⟩ : ∃ m, n = m + 1 := ⟨n - 1, by simp only [List.length_nil] at h; omega⟩
    simp [packed, List.replicate_succ]
  | cons b l ih =>
    obtain ⟨n, rfl⟩ : ∃ m, n = m + 1 := ⟨n - 1, by omega⟩
    rw [packed_cons, List.cons_append, packed_cons, List.length_cons, List.set_cons_succ, ih (by simpa using h)]

/-- Only the first slot is kept. -/
theorem take_one_packed (h : l.length ≤ n) :
    (packed n l).take 1 ++ List.replicate (n - 1) none = packed n (l.take 1) := by
  cases n with
  | zero =>
    rw [List.length_eq_zero_iff.1 (Nat.le_zero.1 h)]
    rfl
  | succ n => cases l <;> simp [packed, List.replicate_succ]

theorem drop_one_packed (h : l.length ≤ n) : ((packed n l).drop 1).reduceOption = l.tail := by
  cases l with
  | nil => simp [List.reduceOption]
  | cons a l =>
    obtain ⟨n, rfl⟩ : ∃ m, n = m + 1 := ⟨n - 1, by simp only [List.length_cons] at h; omega⟩
    rw [packed_cons]
    exact reduceOption_packed n l

/-- Free slots are not found. -/
theorem findIdx?_packed (p : α → Bool) (n : ℕ) (l : List α) :
    (packed n l).findIdx? (fun x => x.any p) = l.findIdx? p := by
  have hfree : (List.replicate (n - l.length) (none : Option α)).findIdx? (fun x => x.any p) = none := by
    rw [List.findIdx?_eq_none_iff]
    intro x hx
    rw [(List.mem_replicate.1 hx).2]
    rfl
  rw [packed, List.findIdx?_append, hfree, List.findIdx?_map]
  simp [Function.comp_def]

theorem findIdx?_tail_packed (p : α → Bool) (h : l.length ≤ n) :
    (packed n l).tail.findIdx? (fun x => x.any p) = l.tail.findIdx? p := by
  cases l with
  | nil =>
    rw [packed_nil, List.tail_replicate]
    exact findIdx?_packed p (n - 1) []
  | cons a l =>
    obtain ⟨n, rfl⟩ : ∃ m, n = m + 1 := ⟨n - 1, by simp only [List.length_cons] at h; omega⟩
    rw [packed_cons]
    exact findIdx?_packed p n l

/-- What a search finds, and what it has passed. -/
theorem findIdx?_split {p : α → Bool} {i : ℕ} (h : l.findIdx? p = some i) :
    ∃ a x b, l = a ++ x :: b ∧ a.length = i ∧ p x = true ∧ ∀ y ∈ a, p y = false := by
  induction l generalizing i with
  | nil => cases h
  | cons y l ih =>
    rw [List.findIdx?_cons] at h
    split at h
    · next hy =>
      cases h
      exact ⟨[], y, l, rfl, rfl, hy, by simp⟩
    · next hy =>
      obtain ⟨j, hj, rfl⟩ := Option.map_eq_some_iff.1 h
      obtain ⟨a, x, b, rfl, rfl, hx, ha⟩ := ih hj
      refine ⟨y :: a, x, b, rfl, rfl, hx, fun z hz => ?_⟩
      rcases List.mem_cons.1 hz with rfl | hz
      · exact Bool.eq_false_iff.2 hy
      · exact ha z hz

/-! ## To the front -/

/-- The loop from `k` down to one: every slot gets what the slot before it holds. -/
def shiftUp : ℕ → List (Option α) → List (Option α)
  | 0, l => l
  | k + 1, l => shiftUp k (l.set (k + 1) l[k]?.join)

/-- Slot `i` goes first, those before it move up. -/
def toFront (l : List (Option α)) (i : ℕ) : List (Option α) := (shiftUp i l).set 0 l[i]?.join

theorem shiftUp_eq (a : List (Option α)) (x : Option α) (b : List (Option α)) :
    shiftUp a.length (a ++ x :: b) = (a ++ [x]).take 1 ++ a ++ b := by
  induction a using List.reverseRecOn generalizing x b with
  | nil => rfl
  | append_singleton a y ih =>
    have hget : (a ++ [y] ++ x :: b)[a.length]?.join = y := by simp
    have hset : (a ++ [y] ++ x :: b).set (a.length + 1) y = a ++ y :: y :: b := by simp
    rw [List.length_append, List.length_singleton, shiftUp, hget, hset, ih]
    cases a <;> simp

theorem toFront_eq (a : List (Option α)) (x : Option α) (b : List (Option α)) :
    toFront (a ++ x :: b) a.length = x :: (a ++ b) := by
  have hget : (a ++ x :: b)[a.length]?.join = x := by simp
  rw [toFront, hget, shiftUp_eq]
  cases a <;> simp

/-- An entry goes before the others, whose order stays. -/
theorem toFront_packed (n : ℕ) (a : List α) (x : α) (b : List α) :
    toFront (packed n (a ++ x :: b)) a.length = packed n (x :: (a ++ b)) := by
  have hsplit : packed n (a ++ x :: b) =
      a.map some ++ some x :: (b.map some ++ List.replicate (n - (a ++ x :: b).length) none) := by
    simp [packed]
  have hlen : a.length = (a.map some).length := by simp
  rw [hsplit, hlen, toFront_eq]
  simp [packed, Nat.add_assoc]

end AugmentedInsanity.PackedSlots
