/-
The Aug-Ins dispatch registry (`dispatch.cpp`): function name to the entries modules registered for
it. A registry built by any registrations and then sorted lists, under each name, the entries
registered for that name by ascending (priority, registration order).
-/
import AugmentedInsanity.Lib.StableOrder

namespace AugmentedInsanity.Augins

open StableOrder

/-- A raw symbol address, as `dlsym` returns it. -/
abbrev Symbol := ℕ

/-- `InternalEntry`: one entry of the dispatch map. -/
structure InternalEntry where
  fn : Symbol
  moduleId : String
  dataDir : String
  priority : Int
  deriving DecidableEq

/-- `struct aug_module_entry`: what an adapter sees of an entry. -/
structure AugModuleEntry where
  fn : Symbol
  moduleId : String
  dataDir : String
  deriving DecidableEq

def InternalEntry.toModuleEntry (e : InternalEntry) : AugModuleEntry := ⟨e.fn, e.moduleId, e.dataDir⟩

/-- `g_map`; a name without a key maps to `none`. -/
abbrev Registry := String → Option (List InternalEntry)

/-- The entries under a name, none for a name without a key. -/
def Registry.entries (r : Registry) (name : String) : List InternalEntry := (r name).getD []

def Registry.empty : Registry := fun _ => none

/-! ## The operations -/

/-- `aug_get_modules_for`: the number returned and what is written to the buffer. `outBuf` is the
capacity of the buffer, `none` when the pointer is null. -/
def augGetModulesFor (r : Registry) (xrName : Option String) (outBuf : Option ℕ) : ℕ × List AugModuleEntry :=
  match xrName with
  | none => (0, [])
  | some name =>
    match r name with
    | none => (0, [])
    | some v =>
      match outBuf with
      | none => (v.length, [])
      | some capacity =>
        if capacity = 0 then (v.length, [])
        else
          let n := min v.length capacity
          (n, (v.take n).map InternalEntry.toModuleEntry)

/-- The arguments of one `aug_dispatch_register` call; the name and the symbol may be null. -/
structure Registration where
  xrName : Option String
  fn : Option Symbol
  moduleId : String
  dataDir : String
  priority : Int
  deriving DecidableEq

def augDispatchRegister (r : Registry) (g : Registration) : Registry :=
  match g.xrName, g.fn with
  | some name, some fn =>
    Function.update r name (some (r.entries name ++ [⟨fn, g.moduleId, g.dataDir, g.priority⟩]))
  | _, _ => r

def augDispatchSortByPriority (r : Registry) : Registry :=
  fun name => (r name).map (stableSort InternalEntry.priority)

def augDispatchClear (_ : Registry) : Registry := Registry.empty

/-! ## What the registry holds -/

/-- The entries the registrations ask for under `name`, in registration order. -/
def registeredFor (gs : List Registration) (name : String) : List InternalEntry :=
  gs.filterMap fun g =>
    match g.xrName, g.fn with
    | some n, some fn => if n = name then some ⟨fn, g.moduleId, g.dataDir, g.priority⟩ else none
    | _, _ => none

@[simp] theorem entries_empty (name : String) : Registry.empty.entries name = [] := rfl

theorem entries_register (r : Registry) (g : Registration) (name : String) :
    (augDispatchRegister r g).entries name = r.entries name ++ registeredFor [g] name := by
  obtain ⟨xrName, fn, id, dir, prio⟩ := g
  cases xrName with
  | none => simp [augDispatchRegister, registeredFor]
  | some n =>
    cases fn with
    | none => simp [augDispatchRegister, registeredFor]
    | some f =>
      by_cases h : n = name
      · subst h; simp [augDispatchRegister, registeredFor, Registry.entries]
      · simp [augDispatchRegister, registeredFor, Registry.entries, Function.update_of_ne (Ne.symm h), h]

theorem registeredFor_append (gs hs : List Registration) (name : String) :
    registeredFor (gs ++ hs) name = registeredFor gs name ++ registeredFor hs name := by
  unfold registeredFor; exact List.filterMap_append

theorem entries_foldl_register (gs : List Registration) :
    ∀ (r : Registry) (name : String),
      (gs.foldl augDispatchRegister r).entries name = r.entries name ++ registeredFor gs name := by
  induction gs with
  | nil => intro r name; simp [registeredFor]
  | cons g gs ih =>
    intro r name
    rw [List.foldl_cons, ih, entries_register, List.append_assoc, ← registeredFor_append]
    rfl

theorem entries_sort (r : Registry) (name : String) :
    (augDispatchSortByPriority r).entries name = stableSort InternalEntry.priority (r.entries name) := by
  unfold augDispatchSortByPriority Registry.entries
  rcases hr : r name with _ | v
  · simp [hr, stableSort]
  · simp [hr]

/-- The registry after the registrations `gs` and one sort. -/
def registryOf (gs : List Registration) : Registry :=
  augDispatchSortByPriority (gs.foldl augDispatchRegister Registry.empty)

theorem registryOf_arrangement (gs : List Registration) (name : String) :
    Arrangement InternalEntry.priority (registeredFor gs name) ((registryOf gs).entries name) := by
  unfold registryOf
  rw [entries_sort, entries_foldl_register, entries_empty, List.nil_append]
  exact stableSort_arrangement _

/-! ## The bounded snapshot -/

theorem augGetModulesFor_snapshot (r : Registry) (name : String) {capacity : ℕ} (h : 0 < capacity) :
    augGetModulesFor r (some name) (some capacity) =
      (min (r.entries name).length capacity,
        ((r.entries name).take capacity).map InternalEntry.toModuleEntry) := by
  unfold augGetModulesFor Registry.entries
  rcases hr : r name with _ | v
  · simp [hr]
  · simp only [hr, Option.getD_some, if_neg (Nat.ne_of_gt h), Prod.mk.injEq, true_and]
    rcases Nat.le_total v.length capacity with hle | hle
    · rw [Nat.min_eq_left hle, List.take_length, List.take_of_length_le hle]
    · rw [Nat.min_eq_right hle]

end AugmentedInsanity.Augins
