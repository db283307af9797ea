/-
Reading from a buffer of bytes where a read outside of it, or an assertion that does not hold, is an error. `Ok m Q`
says that `m` meets no error and gives a result with `Q`; a buffer is read safely when that is derived step by step.
-/
import Mathlib.Data.List.Basic

namespace AugmentedInsanity.BoundedReads

inductive ReadError
  | assertion
  | outside
  deriving DecidableEq

abbrev ReadM (α : Type) := Except ReadError α

/-- The `n` bytes from `pos` on. -/
def bytesAt (buffer : List UInt8) (pos n : ℕ) : ReadM (List UInt8) :=
  if pos + n ≤ buffer.length then .ok ((buffer.drop pos).take n) else .error .outside

def assert (p : Prop) [Decidable p] : ReadM Unit := if p then .ok () else .error .assertion

/-- A loop over the first `n` numbers that stops at an error. -/
def forEach : ℕ → (ℕ → ReadM Unit) → ReadM Unit
  | 0, _ => pure ()
  | n + 1, f => do
    forEach n f
    f n

variable {α β : Type}

/-- A loop of `n` rounds that carries a value along. -/
def rounds : ℕ → (α → ReadM α) → α → ReadM α
  | 0, _, a => pure a
  | n + 1, f, a => do
    let a ← f a
    rounds n f a

def Ok (m : ReadM α) (Q : α → Prop) : Prop := ∃ a, m = .ok a ∧ Q a

namespace Ok

variable {m : ReadM α} {f : α → ReadM β} {P Q : α → Prop} {R : β → Prop}

theorem pure {a : α} (h : Q a) : Ok (Pure.pure a : ReadM α) Q := ⟨a, rfl, h⟩

theorem bind (hm : Ok m Q) (hf : ∀ a, m = .ok a → Q a → Ok (f a) R) : Ok (m >>= f) R := by
  obtain ⟨a, hm, ha⟩ := hm
  subst hm
  exact hf a rfl ha

theorem bytesAt {buffer : List UInt8} {pos n : ℕ} (h : pos + n ≤ buffer.length) :
    Ok (bytesAt buffer pos n) (fun bytes => bytes.length = n) := by
  refine ⟨_, if_pos h, ?_⟩
  show ((buffer.drop pos).take n).length = n
  rw [List.length_take, List.length_drop]
  omega

theorem assert {p : Prop} [Decidable p] (h : p) : Ok (assert p) (fun _ => True) := ⟨(), if_pos h, trivial⟩

theorem rounds {n : ℕ} {f : α → ReadM α} {a : α} (ha : Q a) (hf : ∀ a, Q a → Ok (f a) Q) : Ok (rounds n f a) Q := by
  induction n generalizing a with
  | zero => exact .pure ha
  | succ n ih => exact .bind (hf a ha) fun b _ hb => ih hb

end Ok

/-- Two steps meet no error exactly when the first gives something that the second meets none with. -/
theorem bind_ok_iff {m : ReadM α} {f : α → ReadM β} {b : β} :
    (m >>= f) = .ok b ↔ ∃ a, m = .ok a ∧ f a = .ok b := by
  cases m with
  | error e =>
    constructor
    · rintro ⟨⟩
    · rintro ⟨a, ⟨⟩, -⟩
  | ok a =>
    constructor
    · intro h
      exact ⟨a, rfl, h⟩
    · rintro ⟨a, ⟨⟩, h⟩
      exact h

theorem forEach_ok_iff {n : ℕ} {f : ℕ → ReadM Unit} : forEach n f = .ok () ↔ ∀ i < n, f i = .ok () := by
  induction n with
  | zero => exact iff_of_true rfl fun i hi => absurd hi (Nat.not_lt_zero i)
  | succ n ih =>
    rw [forEach, bind_ok_iff]
    constructor
    · rintro ⟨⟨⟩, hn, hlast⟩ i hi
      rcases Nat.lt_succ_iff_lt_or_eq.mp hi with hlt | rfl
      · exact ih.mp hn i hlt
      · exact hlast
    · intro h
      exact ⟨(), ih.mpr fun i hi => h i (Nat.lt_succ_of_lt hi), h n (Nat.lt_succ_self n)⟩

end AugmentedInsanity.BoundedReads
