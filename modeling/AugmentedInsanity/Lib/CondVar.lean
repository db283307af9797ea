/-
Condition variables, as lists of the threads that wait on them. A thread that waits is blocked until it is woken, by a
signal or for no reason, and goes on once it has the mutex again. A signal wakes one of the threads that are blocked,
whichever it is told to, and is lost when there is none.
-/
import Mathlib.Data.List.Perm.Basic

namespace AugmentedInsanity

/-- The threads that wait: those that nothing has woken yet, and those that will go on by themselves. -/
structure CondVar (θ : Type*) where
  blocked : List θ
  woken : List θ
  deriving DecidableEq

namespace CondVar

variable {θ : Type*}

/-! ## Operations -/

def empty : CondVar θ := ⟨[], []⟩

/-- All that wait. -/
def waiting (c : CondVar θ) : List θ := c.blocked ++ c.woken

def wait (c : CondVar θ) (t : θ) : CondVar θ := { c with blocked := t :: c.blocked }

variable [DecidableEq θ]

/-- The thread goes on by itself from here. -/
def wake (c : CondVar θ) (t : θ) : CondVar θ := ⟨c.blocked.erase t, t :: c.woken⟩

/-- Which thread a signal wakes: the chosen one if it is blocked, or else any. -/
def target (c : CondVar θ) (choice : Option θ) : Option θ := (choice.filter fun t => t ∈ c.blocked).or c.blocked.head?

def signal (c : CondVar θ) (choice : Option θ) : CondVar θ :=
  match c.target choice with
  | none => c
  | some t => c.wake t

omit [DecidableEq θ] in
def broadcast (c : CondVar θ) : CondVar θ := ⟨[], c.blocked ++ c.woken⟩

/-- A wake-up for no reason. -/
def spurious (c : CondVar θ) (t : θ) : Option (CondVar θ) := if t ∈ c.blocked then some (c.wake t) else none

/-- A thread that was woken has the mutex again. -/
def resume (c : CondVar θ) (t : θ) : Option (CondVar θ) :=
  if t ∈ c.woken then some { c with woken := c.woken.erase t } else none

/-! ## Who waits -/

variable {c c' : CondVar θ} {t u : θ} {choice : Option θ}

theorem target_mem (h : c.target choice = some t) : t ∈ c.blocked := by
  unfold target at h
  rcases Option.or_eq_some_iff.1 h with h | ⟨-, h⟩
  · exact of_decide_eq_true (Option.filter_eq_some_iff.1 h).2
  · exact List.mem_of_head? h

theorem target_eq_none_iff : c.target choice = none ↔ c.blocked = [] := by
  constructor
  · intro h
    exact List.head?_eq_none_iff.1 (Option.or_eq_none_iff.1 h).2
  · intro h
    cases htarget : c.target choice with
    | none => rfl
    | some t =>
      have hmem := target_mem htarget
      rw [h] at hmem
      cases hmem

theorem waiting_wake (h : t ∈ c.blocked) : (c.wake t).waiting.Perm c.waiting := by
  have hblocked := List.perm_cons_erase h
  calc (c.blocked.erase t ++ t :: c.woken).Perm (t :: (c.blocked.erase t ++ c.woken)) := List.perm_middle
    _ |>.Perm (c.blocked ++ c.woken) := hblocked.symm.append_right _

theorem waiting_signal : (c.signal choice).waiting.Perm c.waiting := by
  unfold signal
  split
  · exact .refl _
  · rename_i t htarget
    exact waiting_wake (target_mem htarget)

theorem waiting_spurious (h : c.spurious t = some c') : c'.waiting.Perm c.waiting := by
  unfold spurious at h
  split at h
  · rename_i hmem
    cases h
    exact waiting_wake hmem
  · cases h

theorem waiting_resume (h : c.resume t = some c') : c.waiting.Perm (t :: c'.waiting) := by
  unfold resume at h
  split at h
  · rename_i hmem
    cases h
    calc (c.blocked ++ c.woken).Perm (c.blocked ++ t :: c.woken.erase t) := (List.perm_cons_erase hmem).append_left _
      _ |>.Perm (t :: (c.blocked ++ c.woken.erase t)) := List.perm_middle
  · cases h

/-- A wake-up for no reason leaves nobody blocked who was not. -/
theorem blocked_spurious (h : c.spurious t = some c') (hnil : c.blocked = []) : c'.blocked = [] := by
  unfold spurious at h
  rw [hnil] at h
  cases h

theorem blocked_resume (h : c.resume t = some c') : c'.blocked = c.blocked := by
  unfold resume at h
  split at h
  · cases h
    rfl
  · cases h

/-- The same threads wait, and none that was woken is blocked again. -/
structure Roused (c c' : CondVar θ) : Prop where
  waiting : c'.waiting.Perm c.waiting
  woken : c.woken ≠ [] → c'.woken ≠ []

omit [DecidableEq θ] in
theorem Roused.refl (c : CondVar θ) : Roused c c := ⟨.refl _, id⟩

theorem roused_signal : Roused c (c.signal choice) := by
  refine ⟨waiting_signal, fun h => ?_⟩
  unfold signal
  split
  · exact h
  · exact List.cons_ne_nil _ _

theorem roused_spurious (h : c.spurious t = some c') : Roused c c' := by
  refine ⟨waiting_spurious h, fun _ => ?_⟩
  unfold spurious at h
  split at h
  · cases h
    exact List.cons_ne_nil _ _
  · cases h

/-! ## Signals are lost only where nobody is blocked -/

theorem woken_signal_ne_nil (h : c.waiting ≠ []) : (c.signal choice).woken ≠ [] := by
  unfold signal
  split
  · rename_i htarget
    intro hwoken
    exact h (List.append_eq_nil_iff.2 ⟨target_eq_none_iff.1 htarget, hwoken⟩)
  · exact List.cons_ne_nil _ _

end CondVar

end AugmentedInsanity
