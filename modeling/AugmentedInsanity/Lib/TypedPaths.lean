/-
Paths of steps that each have a type to start from and one to end in, and the lists of instructions that are left of
them without the types. A machine that takes the instructions one after the other, and may change them, comes through a
path with what the steps make of the value that it was given (`runAll_eraseAll`), if it does so for each step.
-/
import Mathlib.Combinatorics.Quiver.Path
import Mathlib.Data.List.Basic

namespace AugmentedInsanity.TypedPaths

open Quiver

/-! ## Running instructions -/

section
variable {I S : Type*} {process : I → S → I × Option S} {l l' m : List I} {s s' : S}

/-- The instructions are taken one after the other; at one that fails the rest are left as they are. -/
def runAll (process : I → S → I × Option S) : List I → S → List I × Option S
  | [], s => ([], some s)
  | i :: l, s =>
    match process i s with
    | (i, none) => (i :: l, none)
    | (i, some s) =>
      let (l, out) := runAll process l s
      (i :: l, out)

@[simp] theorem runAll_nil : runAll process [] s = ([], some s) := rfl

theorem runAll_cons {i i' : I} (h : process i s = (i', some s')) :
    runAll process (i :: l) s = (i' :: (runAll process l s').1, (runAll process l s').2) := by
  rw [runAll, h]

/-- What comes later goes on from where the first instructions have come. -/
theorem runAll_append (h : runAll process l s = (l', some s')) :
    runAll process (l ++ m) s = (l' ++ (runAll process m s').1, (runAll process m s').2) := by
  induction l generalizing s l' with
  | nil =>
    cases h
    rfl
  | cons i l ih =>
    cases hprocess : process i s with
    | mk i' out =>
      cases out with
      | none =>
        rw [runAll, hprocess] at h
        cases h
      | some next =>
        rw [runAll_cons hprocess] at h
        obtain ⟨rfl, hrest⟩ := Prod.mk.inj h
        rw [List.cons_append, runAll_cons hprocess, ih (Prod.ext rfl hrest)]
        rfl

end

/-! ## Paths -/

section
variable {T : Type*} [Quiver T] {I S : Type*} {V : T → Type*} {a b c : T}
  {erase : ∀ {a b : T}, (a ⟶ b) → I} {apply : ∀ {a b : T}, (a ⟶ b) → V a → V b}

/-- The instructions of a path. -/
def eraseAll (erase : ∀ {a b : T}, (a ⟶ b) → I) : ∀ {b : T}, Path a b → List I
  | _, .nil => []
  | _, .cons p e => eraseAll erase p ++ [erase e]

/-- What the steps of a path make of a value. -/
def applyAll (apply : ∀ {a b : T}, (a ⟶ b) → V a → V b) : ∀ {b : T}, Path a b → V a → V b
  | _, .nil, v => v
  | _, .cons p e, v => apply e (applyAll apply p v)

@[simp] theorem eraseAll_nil : eraseAll erase (.nil : Path a a) = [] := rfl

@[simp] theorem eraseAll_cons (p : Path a b) (e : b ⟶ c) :
    eraseAll erase (p.cons e) = eraseAll erase p ++ [erase e] := rfl

@[simp] theorem eraseAll_comp (p : Path a b) (q : Path b c) :
    eraseAll erase (p.comp q) = eraseAll erase p ++ eraseAll erase q := by
  induction q with
  | nil => rw [Path.comp_nil, eraseAll_nil, List.append_nil]
  | cons q e ih => rw [Path.comp_cons, eraseAll_cons, eraseAll_cons, ih, List.append_assoc]

@[simp] theorem length_eraseAll (p : Path a b) : (eraseAll erase p).length = p.length := by
  induction p with
  | nil => rfl
  | cons p e ih => rw [eraseAll_cons, List.length_append, ih, List.length_singleton, Path.length_cons]

/-- A machine that follows each step, and leaves its instruction as it is, follows paths. -/
theorem runAll_eraseAll (process : I → S → I × Option S) (erase : ∀ {a b : T}, (a ⟶ b) → I)
    (apply : ∀ {a b : T}, (a ⟶ b) → V a → V b) (Holds : ∀ a : T, S → V a → Prop)
    (hstep : ∀ {a b : T} (e : a ⟶ b) {s : S} {v : V a}, Holds a s v →
      ∃ s', process (erase e) s = (erase e, some s') ∧ Holds b s' (apply e v))
    (p : Path a b) {s : S} {v : V a} (h : Holds a s v) :
    ∃ s', runAll process (eraseAll erase p) s = (eraseAll erase p, some s') ∧ Holds b s' (applyAll apply p v) := by
  induction p with
  | nil => exact ⟨s, rfl, h⟩
  | cons p e ih =>
    obtain ⟨next, hrun, hnext⟩ := ih
    obtain ⟨s', hprocess, hs'⟩ := hstep e hnext
    refine ⟨s', ?_, hs'⟩
    rw [eraseAll_cons, runAll_append hrun, runAll_cons hprocess]
    rfl

end

end AugmentedInsanity.TypedPaths
