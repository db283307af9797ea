/-
Checks made one after the other, each with the error that it fails with. A sequence of checks succeeds exactly when
every one of them does, and so does a loop over a list; the rules read the success of such a program as a conjunction.
-/
import Mathlib.Data.Nat.Notation

namespace AugmentedInsanity.Checks

variable {ε α β : Type} {f : ℕ → α → Except ε Unit}

/-- Fails where something is wrong. -/
def failIf (wrong : Bool) (e : ε) : Except ε Unit := if wrong then .error e else .ok ()

/-- What there is, or an error. -/
def require (x : Option α) (e : ε) : Except ε α := x.elim (.error e) .ok

/-- Checks the elements of a list in their order, which are counted from a number on. -/
def checkEach (f : ℕ → α → Except ε Unit) : ℕ → List α → Except ε Unit
  | _, [] => .ok ()
  | i, x :: xs => f i x >>= fun _ => checkEach f (i + 1) xs

/-- A check that yields nothing, and then the others. -/
theorem check_step_eq_ok {x : Except ε Unit} {f : Unit → Except ε β} {b : β} :
    x >>= f = .ok b ↔ x = .ok () ∧ f () = .ok b := by
  constructor
  · intro h
    cases x with
    | error e => cases h
    | ok a => exact ⟨rfl, h⟩
  · rintro ⟨rfl, hf⟩
    exact hf

/-- Something that has to be there, and then the others. -/
theorem require_step_eq_ok {x : Option α} {e : ε} {f : α → Except ε β} {b : β} :
    require x e >>= f = .ok b ↔ ∃ a, x = some a ∧ f a = .ok b := by
  constructor
  · intro h
    cases x with
    | none => cases h
    | some a => exact ⟨a, rfl, h⟩
  · rintro ⟨a, rfl, hf⟩
    exact hf

theorem failIf_step {wrong : Bool} {e : ε} {f : Unit → Except ε β} :
    failIf wrong e >>= f = if wrong then .error e else f () := by
  cases wrong <;> rfl

@[simp] theorem failIf_eq_ok {wrong : Bool} {e : ε} : failIf wrong e = .ok () ↔ wrong = false := by
  cases wrong <;> simp [failIf]

theorem checkEach_eq_ok {n : ℕ} {l : List α} :
    checkEach f n l = .ok () ↔ ∀ i x, l[i]? = some x → f (n + i) x = .ok () := by
  induction l generalizing n with
  | nil => simp [checkEach]
  | cons y l ih =>
    rw [checkEach, check_step_eq_ok, ih]
    constructor
    · rintro ⟨hy, hl⟩ i x hx
      cases i with
      | zero =>
        simp only [List.getElem?_cons_zero, Option.some.injEq] at hx
        rwa [← hx]
      | succ i =>
        have h := hl i x (by simpa using hx)
        rwa [Nat.add_right_comm, Nat.add_assoc] at h
    · intro h
      refine ⟨h 0 y rfl, fun i x hx => ?_⟩
      rw [Nat.add_right_comm]
      exact h (i + 1) x (by simpa using hx)

/-- Where the number does not matter. -/
theorem checkEach_eq_ok_of_const {P : α → Prop} {n : ℕ} {l : List α} (h : ∀ i x, f i x = .ok () ↔ P x) :
    checkEach f n l = .ok () ↔ ∀ x ∈ l, P x := by
  rw [checkEach_eq_ok]
  constructor
  · intro hf x hx
    obtain ⟨i, hi⟩ := List.mem_iff_getElem?.1 hx
    exact (h _ x).1 (hf i x hi)
  · intro hP i x hx
    exact (h _ x).2 (hP x (List.mem_of_getElem? hx))

end AugmentedInsanity.Checks
