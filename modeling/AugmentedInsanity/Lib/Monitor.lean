/-
Threads that share a lock and the data behind it. The place in its program that a thread is at tells whether it holds
the lock and what it knows of the data; without the lock it knows nothing. As only the holder changes the data, what it
knows stays true until it releases the lock, whatever the other threads do.
-/
import Mathlib.Logic.Function.Basic

namespace AugmentedInsanity

/-- The places where a thread holds the lock, and what it knows there of the data. -/
structure Monitor (π δ : Type*) where
  Holds : π → Prop
  Knows : π → δ → Prop
  outside : ∀ p d, ¬ Holds p → Knows p d

namespace Monitor

variable {τ π δ : Type*} {M : Monitor π δ} {owner : Option τ} {place : τ → π} {d : δ}

/-- The threads at places where the lock is held are those that have it, and what all of them know is true. -/
structure Kept (M : Monitor π δ) (owner : Option τ) (place : τ → π) (d : δ) : Prop where
  holds : ∀ t, M.Holds (place t) ↔ owner = some t
  knows : ∀ t, M.Knows (place t) d

/-- No thread has started. -/
theorem kept_init {p : π} (hp : ¬ M.Holds p) (d : δ) : M.Kept (none : Option τ) (fun _ => p) d :=
  ⟨fun t => iff_of_false hp (Option.some_ne_none t).symm, fun _ => M.outside p d hp⟩

namespace Kept

variable [DecidableEq τ] {t : τ} {p : π}

/-- A thread that is at another place afterwards; the others have the lock as before. -/
theorem update (h : M.Kept owner place d) {owner' : Option τ} {d' : δ} (hself : M.Holds p ↔ owner' = some t)
    (hother : ∀ u, u ≠ t → (owner' = some u ↔ owner = some u)) (hp : M.Knows p d')
    (hknows : ∀ u, u ≠ t → M.Knows (place u) d') : M.Kept owner' (Function.update place t p) d' := by
  constructor
  · intro u
    by_cases hu : u = t
    · rw [hu, Function.update_self]
      exact hself
    · rw [Function.update_of_ne hu, h.holds u]
      exact (hother u hu).symm
  · intro u
    by_cases hu : u = t
    · rw [hu, Function.update_self]
      exact hp
    · rw [Function.update_of_ne hu]
      exact hknows u hu

/-- A thread goes on, with the lock or without. -/
theorem move (h : M.Kept owner place d) (hholds : M.Holds p ↔ M.Holds (place t)) (hp : M.Knows p d) :
    M.Kept owner (Function.update place t p) d :=
  h.update (hholds.trans (h.holds t)) (fun _ _ => Iff.rfl) hp fun u _ => h.knows u

/-- The holder changes the data; the others have nothing to know. -/
theorem write (h : M.Kept owner place d) (hheld : M.Holds (place t)) (hholds : M.Holds p) {d' : δ}
    (hp : M.Knows p d') : M.Kept owner (Function.update place t p) d' := by
  have howner := (h.holds t).1 hheld
  refine h.update (iff_of_true hholds howner) (fun _ _ => Iff.rfl) hp fun u hu => M.outside _ _ fun hheldU => ?_
  have hsame := howner.symm.trans ((h.holds u).1 hheldU)
  exact hu (Option.some.inj hsame).symm

theorem acquire (h : M.Kept none place d) (hholds : M.Holds p) (hp : M.Knows p d) :
    M.Kept (some t) (Function.update place t p) d := by
  refine h.update (iff_of_true hholds rfl) (fun u hu => ?_) hp fun u _ => h.knows u
  exact iff_of_false (fun heq => hu (Option.some.inj heq).symm) (Option.some_ne_none u).symm

theorem release (h : M.Kept owner place d) (hheld : M.Holds (place t)) (hholds : ¬ M.Holds p) :
    M.Kept none (Function.update place t p) d := by
  have howner := (h.holds t).1 hheld
  refine h.update (iff_of_false hholds (Option.some_ne_none t).symm) (fun u hu => ?_) (M.outside p d hholds)
    fun u _ => h.knows u
  rw [howner]
  exact iff_of_false (Option.some_ne_none u).symm fun heq => hu (Option.some.inj heq).symm

end Kept

end Monitor

end AugmentedInsanity
