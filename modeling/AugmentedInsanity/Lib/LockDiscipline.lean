/-
Threads that share one lock. A thread is in a call, and runs its program one instruction after the other: it takes the
lock, releases it, or writes a field. The discipline is that only the holder releases the lock and writes the fields
that it guards. Programs that take and release the lock in turn keep it in every interleaving, as long as no thread
gets to a release in a program that never takes the lock (`disciplined_iff`).
-/
import AugmentedInsanity.Lib.Runs

namespace AugmentedInsanity.LockDiscipline

open Runs

variable {τ κ φ : Type*}

inductive Instr (φ : Type*)
  | acquire
  | release
  | write (field : φ)
  deriving DecidableEq

/-- The holder of the lock, and for each thread the call that it is in, with the rest of its program. -/
structure Threads (τ κ φ : Type*) where
  owner : Option τ
  call : τ → Option κ
  rest : τ → List (Instr φ)

def Threads.init : Threads τ κ φ := ⟨none, fun _ => none, fun _ => []⟩

/-- A thread enters a call, or runs its next instruction. -/
inductive Move (τ κ : Type*)
  | enter (thread : τ) (call : κ)
  | run (thread : τ)
  deriving DecidableEq

def Threads.go [DecidableEq τ] (s : Threads τ κ φ) (owner : Option τ) (t : τ) (rest : List (Instr φ)) : Threads τ κ φ :=
  { s with owner := owner, rest := Function.update s.rest t rest }

/-- A thread waits for the lock while it is held; a release frees it, whoever holds it. -/
def Threads.step [DecidableEq τ] (program : κ → List (Instr φ)) (s : Threads τ κ φ) : Move τ κ → Option (Threads τ κ φ)
  | .enter t c =>
    match s.rest t with
    | [] => some { s with call := Function.update s.call t (some c), rest := Function.update s.rest t (program c) }
    | _ :: _ => none
  | .run t =>
    match s.rest t with
    | [] => none
    | .acquire :: rest =>
      match s.owner with
      | none => some (s.go (some t) t rest)
      | some _ => none
    | .release :: rest => some (s.go none t rest)
    | .write _ :: rest => some (s.go s.owner t rest)

/-! ## The discipline -/

/-- The lock is released by its holder, and guarded fields are written by its holder. -/
def Disciplined (guarded : φ → Prop) (s : Threads τ κ φ) : Move τ κ → Prop
  | .enter _ _ => True
  | .run t => (∀ rest, s.rest t = .release :: rest → s.owner = some t) ∧
    ∀ field rest, s.rest t = .write field :: rest → guarded field → s.owner = some t

/-- No thread is at a release of a stray call. -/
def NoStrayRelease (stray : κ → Prop) (s : Threads τ κ φ) : Move τ κ → Prop
  | .enter _ _ => True
  | .run t => ∀ call rest, s.call t = some call → stray call → s.rest t ≠ .release :: rest

/-- What is left of a program takes and releases the lock in turn, from the lock held or not, and writes guarded fields
in between. -/
def Balanced (guarded : φ → Prop) : List (Instr φ) → Prop → Prop
  | [], held => ¬ held
  | .acquire :: rest, held => ¬ held ∧ Balanced guarded rest True
  | .release :: rest, held => held ∧ Balanced guarded rest False
  | .write field :: rest, held => (guarded field → held) ∧ Balanced guarded rest held

/-- What is left of a program does not take the lock, and writes no guarded field. -/
def Lockless (guarded : φ → Prop) (rest : List (Instr φ)) : Prop :=
  .acquire ∉ rest ∧ ∀ field, .write field ∈ rest → ¬ guarded field

variable {guarded : φ → Prop}

theorem Balanced.congr {rest : List (Instr φ)} {p q : Prop} (h : Balanced guarded rest p) (hpq : p ↔ q) :
    Balanced guarded rest q := by
  rwa [← propext hpq]

theorem Balanced.append {a b : List (Instr φ)} {held : Prop} (ha : Balanced guarded a held)
    (hb : Balanced guarded b False) : Balanced guarded (a ++ b) held := by
  induction a generalizing held with
  | nil => exact hb.congr (iff_of_false not_false ha)
  | cons i a ih =>
    cases i with
    | acquire => exact ⟨ha.1, ih ha.2⟩
    | release => exact ⟨ha.1, ih ha.2⟩
    | write field => exact ⟨ha.1, ih ha.2⟩

/-- The fields are written in one hold of the lock. -/
def critical (fields : List φ) : List (Instr φ) := .acquire :: (fields.map .write ++ [.release])

theorem critical_balanced (fields : List φ) : Balanced guarded (critical fields) False := by
  refine ⟨not_false, ?_⟩
  induction fields with
  | nil => exact ⟨trivial, not_false⟩
  | cons field fields ih => exact ⟨fun _ => trivial, ih⟩

/-- Fields that the lock does not guard are written without it. -/
theorem writes_balanced {fields : List φ} (h : ∀ field ∈ fields, ¬ guarded field) :
    Balanced guarded (fields.map .write) False := by
  induction fields with
  | nil => exact not_false
  | cons field fields ih =>
    refine ⟨fun hg => h field (List.mem_cons_self ..) hg, ih fun f hf => ?_⟩
    exact h f (List.mem_cons_of_mem _ hf)

/-! ## The rule -/

/-- Each thread in a stray call does not hold the lock, and takes it no more; what the others are left with is balanced
from whether they hold it. -/
structure LockInv (guarded : φ → Prop) (stray : κ → Prop) (s : Threads τ κ φ) : Prop where
  lockless : ∀ t call, s.call t = some call → stray call → Lockless guarded (s.rest t) ∧ s.owner ≠ some t
  balanced : ∀ t, (∀ call, s.call t = some call → ¬ stray call) → Balanced guarded (s.rest t) (s.owner = some t)

variable {stray : κ → Prop} {program : κ → List (Instr φ)}

theorem init_lockInv : LockInv guarded stray (Threads.init : Threads τ κ φ) :=
  ⟨fun _ _ hcall => absurd hcall (Option.some_ne_none _).symm, fun t _ => (Option.some_ne_none t).symm⟩

variable {s : Threads τ κ φ}

/-- A thread that has run its program does not hold the lock. -/
theorem LockInv.idle (h : LockInv guarded stray s) {t : τ} (hrest : s.rest t = []) : s.owner ≠ some t := by
  by_cases hstray : ∀ call, s.call t = some call → ¬ stray call
  · have hbalanced := h.balanced t hstray
    rw [hrest] at hbalanced
    exact hbalanced
  · push Not at hstray
    obtain ⟨call, hcall, hstray⟩ := hstray
    exact (h.lockless t call hcall hstray).2

/-- An instruction of a thread that leaves the lock to the other threads as it was to them. -/
theorem LockInv.go [DecidableEq τ] (h : LockInv guarded stray s) {owner : Option τ} {t : τ} {i : Instr φ}
    {rest : List (Instr φ)} (hrest : s.rest t = i :: rest) (hother : ∀ u, u ≠ t → (s.owner = some u ↔ owner = some u))
    (hstray : ∀ call, s.call t = some call → stray call → owner ≠ some t)
    (hbalanced : (∀ call, s.call t = some call → ¬ stray call) → Balanced guarded rest (owner = some t)) :
    LockInv guarded stray (s.go owner t rest) := by
  constructor
  · intro u call hcall hs
    obtain ⟨⟨hacquire, hwrite⟩, howner⟩ := h.lockless u call hcall hs
    by_cases hu : u = t
    · subst hu
      rw [hrest] at hacquire hwrite
      simp only [Threads.go, Function.update_self]
      refine ⟨⟨fun hmem => hacquire (List.mem_cons_of_mem _ hmem), fun field hmem => ?_⟩, hstray call hcall hs⟩
      exact hwrite field (List.mem_cons_of_mem _ hmem)
    · simp only [Threads.go, Function.update_of_ne hu]
      exact ⟨⟨hacquire, hwrite⟩, fun heq => howner ((hother u hu).2 heq)⟩
  · intro u hs
    by_cases hu : u = t
    · subst hu
      simp only [Threads.go, Function.update_self]
      exact hbalanced hs
    · simp only [Threads.go, Function.update_of_ne hu]
      exact (h.balanced u hs).congr (hother u hu)

/-- A thread that enters a call. -/
theorem LockInv.enter [DecidableEq τ] (hbalanced : ∀ c, ¬ stray c → Balanced guarded (program c) False)
    (hlockless : ∀ c, stray c → Lockless guarded (program c)) (h : LockInv guarded stray s) {t : τ}
    (hrest : s.rest t = []) (c : κ) :
    LockInv guarded stray { s with
      call := Function.update s.call t (some c), rest := Function.update s.rest t (program c) } := by
  have howner := h.idle hrest
  constructor
  · intro u call hcall hstray
    dsimp only at hcall ⊢
    by_cases hu : u = t
    · subst hu
      rw [Function.update_self] at hcall ⊢
      cases hcall
      exact ⟨hlockless c hstray, howner⟩
    · rw [Function.update_of_ne hu] at hcall ⊢
      exact h.lockless u call hcall hstray
  · intro u hstray
    dsimp only at hstray ⊢
    by_cases hu : u = t
    · subst hu
      rw [Function.update_self] at hstray ⊢
      exact (hbalanced c (hstray c rfl)).congr (iff_of_false id howner)
    · rw [Function.update_of_ne hu] at hstray ⊢
      exact h.balanced u hstray

theorem step_lockInv [DecidableEq τ] (hbalanced : ∀ c, ¬ stray c → Balanced guarded (program c) False)
    (hlockless : ∀ c, stray c → Lockless guarded (program c)) {s' : Threads τ κ φ} {m : Move τ κ}
    (h : LockInv guarded stray s) (hm : NoStrayRelease stray s m) (hs : s.step program m = some s') :
    LockInv guarded stray s' := by
  cases m with
  | enter t c =>
    simp only [Threads.step] at hs
    split at hs
    · rename_i hrest
      cases hs
      exact h.enter hbalanced hlockless hrest c
    · cases hs
  | run t =>
    simp only [Threads.step] at hs
    split at hs
    · cases hs
    · rename_i rest hrest
      split at hs
      · rename_i hfree
        cases hs
        refine h.go hrest (fun u hu => ?_) (fun call hcall hstray => ?_) fun hstray => ?_
        · rw [hfree]
          exact iff_of_false (Option.some_ne_none u).symm fun heq => hu (Option.some.inj heq).symm
        · -- a stray call takes the lock no more
          have hacquire := (h.lockless t call hcall hstray).1.1
          rw [hrest] at hacquire
          exact absurd (List.mem_cons_self ..) hacquire
        · have hthread := h.balanced t hstray
          rw [hrest] at hthread
          exact hthread.2.congr (iff_of_true trivial rfl)
      · cases hs
    · rename_i rest hrest
      cases hs
      -- only a call that is not stray can be at a release
      have hstray : ∀ call, s.call t = some call → ¬ stray call := fun call hcall hstray => hm call rest hcall hstray hrest
      have hthread := h.balanced t hstray
      rw [hrest] at hthread
      refine h.go hrest (fun u hu => ?_) (fun _ _ _ => (Option.some_ne_none t).symm) fun _ => ?_
      · rw [hthread.1]
        exact iff_of_false (fun heq => hu (Option.some.inj heq).symm) (Option.some_ne_none u).symm
      · exact hthread.2.congr (iff_of_false id (Option.some_ne_none t).symm)
    · rename_i field rest hrest
      cases hs
      refine h.go hrest (fun _ _ => Iff.rfl) (fun call hcall hstray => (h.lockless t call hcall hstray).2) fun hstray => ?_
      have hthread := h.balanced t hstray
      rw [hrest] at hthread
      exact hthread.2

theorem LockInv.disciplined_iff (h : LockInv guarded stray s) (m : Move τ κ) :
    Disciplined guarded s m ↔ NoStrayRelease stray s m := by
  cases m with
  | enter t c => exact Iff.rfl
  | run t =>
    constructor
    · rintro ⟨hrelease, -⟩ call rest hcall hstray hrest
      exact (h.lockless t call hcall hstray).2 (hrelease rest hrest)
    · intro hm
      by_cases hstray : ∀ call, s.call t = some call → ¬ stray call
      · have hthread := h.balanced t hstray
        refine ⟨fun rest hrest => ?_, fun field rest hrest hguarded => ?_⟩
        · rw [hrest] at hthread
          exact hthread.1
        · rw [hrest] at hthread
          exact hthread.1 hguarded
      · push Not at hstray
        obtain ⟨call, hcall, hstray⟩ := hstray
        refine ⟨fun rest hrest => absurd hrest (hm call rest hcall hstray), fun field rest hrest hguarded => ?_⟩
        have hwrite := (h.lockless t call hcall hstray).1.2 field
        rw [hrest] at hwrite
        exact absurd hguarded (hwrite (List.mem_cons_self ..))

/-- Where all programs are balanced but stray ones that never take the lock, the discipline holds along a run exactly
when no thread gets to a release of a stray one. -/
theorem disciplined_iff [DecidableEq τ] (hbalanced : ∀ c, ¬ stray c → Balanced guarded (program c) False)
    (hlockless : ∀ c, stray c → Lockless guarded (program c)) (moves : List (Move τ κ)) :
    Along (Threads.step program) (Disciplined guarded) (Threads.init : Threads τ κ φ) moves ↔
      Along (Threads.step program) (NoStrayRelease stray) Threads.init moves :=
  along_iff (fun _ m h => LockInv.disciplined_iff h m) (fun _ _ _ h hm hs => step_lockInv hbalanced hlockless h hm hs)
    init_lockInv moves

end AugmentedInsanity.LockDiscipline
