/-
The Aug-Ins loader over the life of a process (`loader.cpp`, `lifecycle.cpp`): calls of `augins_loader_init` and
`augins_loader_shutdown` in any order. They come to cycles of one list of modules each (`refines_run`), so the registry
never has an entry of a library that is closed (`entry_mapped`). What `preload_siblings` opens and never closes is left
out: the events are those of the main libraries.
-/
import AugmentedInsanity.Augins.Loader
import Mathlib.Data.List.Count

namespace AugmentedInsanity.Augins

open StableOrder

/-! ## The process -/

inductive LoaderCall
  | init (fs : FileSystem) (modulesDir cacheDir : Option String)
  | shutdown

/-- What becomes of the main library of a module, as the linker and the module see it. -/
inductive ModuleEvent
  | dlopen (handle : ℕ)
  | hook (call : HookCall)
  | dlclose (handle : ℕ)
  deriving DecidableEq

structure LoaderProcess where
  loader : LoaderState
  events : List ModuleEvent

namespace LoaderProcess

def step (p : LoaderProcess) : LoaderCall → LoaderProcess
  | .init fs modulesDir cacheDir =>
    let (loader, _, calls) := auginsLoaderInit fs modulesDir cacheDir p.loader
    -- the modules are added at the end, each when it has been mapped
    let opened := loader.loaded.drop p.loader.loaded.length
    ⟨loader, p.events ++ opened.map (.dlopen ·.handle) ++ calls.map .hook⟩
  | .shutdown =>
    let (loader, calls, closed) := auginsLoaderShutdown p.loader
    ⟨loader, p.events ++ calls.map .hook ++ closed.map .dlclose⟩

def run (calls : List LoaderCall) : LoaderProcess := calls.foldl step ⟨.fresh, []⟩

end LoaderProcess

/-! ## Cycles -/

/-- The cycles of a process: the modules that are up, if any, and those of the cycles that have ended. -/
structure Cycles where
  up : Option (List OpenedModule)
  ended : List (List OpenedModule)

namespace Cycles

def step (c : Cycles) : LoaderCall → Cycles
  | .init fs modulesDir cacheDir => { c with up := some (c.up.getD (openedModules fs modulesDir cacheDir)) }
  | .shutdown => ⟨none, c.ended ++ c.up.toList⟩

def run (calls : List LoaderCall) : Cycles := calls.foldl step ⟨none, []⟩

/-- The loader of a process in these cycles. -/
def loader (c : Cycles) : LoaderState :=
  match c.up with
  | none => .fresh
  | some ms => ⟨true, registryOf (ms.flatMap OpenedModule.registrations), ms.map OpenedModule.loaded⟩

/-- All are mapped before the first hook is called, in the order of their files. -/
def startEvents (ms : List OpenedModule) : List ModuleEvent :=
  ms.map (.dlopen ·.so.handle) ++
    ms.filterMap fun m => m.loaded.onLoad.map fun hook => .hook (.load hook.fn m.extractDir)

/-- All hooks are called before the first is closed, the other way round. -/
def stopEvents (ms : List OpenedModule) : List ModuleEvent :=
  (ms.reverse.filterMap fun m => m.loaded.onUnload.map fun fn => .hook (.unload fn m.extractDir)) ++
    ms.reverse.map (.dlclose ·.so.handle)

def events (c : Cycles) : List ModuleEvent :=
  (c.ended.flatMap fun ms => startEvents ms ++ stopEvents ms) ++ startEvents (c.up.getD [])

end Cycles

/-! ## One call -/

theorem fireLoad_calls (ms : List LoadedModule) :
    (auginsLifecycleFireLoad ms).2 = ms.filterMap fun m => m.onLoad.map fun hook => .load hook.fn m.dataDir := by
  induction ms with
  | nil => rfl
  | cons m ms ih =>
    rw [auginsLifecycleFireLoad]
    cases hload : m.onLoad with
    | none => simp [hload, ih]
    | some hook => simp [hload, ih]

theorem fireUnload_calls (ms : List OpenedModule) :
    (auginsLifecycleFireUnload (ms.map OpenedModule.loaded)).map ModuleEvent.hook =
      ms.reverse.filterMap fun m => m.loaded.onUnload.map fun fn => .hook (.unload fn m.extractDir) := by
  unfold auginsLifecycleFireUnload
  rw [← List.map_reverse, List.filterMap_map, List.map_filterMap]
  apply List.filterMap_congr
  intro m _
  simp [OpenedModule.loaded, Function.comp_def]

theorem step_init_fresh (fs : FileSystem) (modulesDir cacheDir : Option String) (events : List ModuleEvent) :
    LoaderProcess.step ⟨.fresh, events⟩ (.init fs modulesDir cacheDir) =
      ⟨Cycles.loader ⟨some (openedModules fs modulesDir cacheDir), []⟩,
        events ++ Cycles.startEvents (openedModules fs modulesDir cacheDir)⟩ := by
  have hloader := auginsLoaderInit_eq fs modulesDir cacheDir
  have hcalls : (auginsLoaderInit fs modulesDir cacheDir .fresh).2.2.map ModuleEvent.hook =
      (openedModules fs modulesDir cacheDir).filterMap fun m =>
        m.loaded.onLoad.map fun hook => .hook (.load hook.fn m.extractDir) := by
    by_cases hp : (missingPath modulesDir || missingPath cacheDir) = true
    · simp [auginsLoaderInit, openedModules, LoaderState.fresh, hp]
    · have hfire : (auginsLoaderInit fs modulesDir cacheDir .fresh).2.2 =
          (auginsLifecycleFireLoad (auginsLoaderInit fs modulesDir cacheDir .fresh).1.loaded).2 := by
        simp [auginsLoaderInit, LoaderState.fresh, hp]
      rw [hfire, hloader, fireLoad_calls, List.filterMap_map, List.map_filterMap]
      apply List.filterMap_congr
      intro m _
      simp [OpenedModule.loaded, Function.comp_def]
  simp only [LoaderProcess.step, Cycles.loader, LoaderProcess.mk.injEq]
  refine ⟨hloader, ?_⟩
  rw [hcalls, hloader, Cycles.startEvents, List.append_assoc]
  simp [LoaderState.fresh, OpenedModule.loaded, Function.comp_def]

variable {p : LoaderProcess}

theorem step_init_up (h : p.loader.initialised = true) (fs : FileSystem) (modulesDir cacheDir : Option String) :
    p.step (.init fs modulesDir cacheDir) = p := by
  simp [LoaderProcess.step, auginsLoaderInit, h]

theorem step_shutdown_down (h : p.loader.initialised = false) : p.step .shutdown = p := by
  simp [LoaderProcess.step, auginsLoaderShutdown, h]

theorem step_shutdown_up (ms : List OpenedModule) (events : List ModuleEvent) :
    LoaderProcess.step ⟨Cycles.loader ⟨some ms, []⟩, events⟩ .shutdown =
      ⟨.fresh, events ++ Cycles.stopEvents ms⟩ := by
  have hfresh : (auginsLoaderShutdown (Cycles.loader ⟨some ms, []⟩)).1 = .fresh := auginsLoaderShutdown_fresh rfl
  simp only [LoaderProcess.step, hfresh, LoaderProcess.mk.injEq, true_and, List.append_assoc]
  simp [auginsLoaderShutdown, Cycles.loader, auginsLifecycleDlcloseAll, fireUnload_calls, Cycles.stopEvents,
    OpenedModule.loaded, Function.comp_def]

/-! ## Runs -/

/-- The process is in these cycles. -/
structure Refines (p : LoaderProcess) (c : Cycles) : Prop where
  loader : p.loader = c.loader
  events : p.events = c.events

theorem Refines.step {c : Cycles} (h : Refines p c) (call : LoaderCall) : Refines (p.step call) (c.step call) := by
  obtain ⟨loader, events⟩ := p
  obtain ⟨up, ended⟩ := c
  obtain ⟨rfl, rfl⟩ := h
  cases up with
  | none =>
    cases call with
    | init fs modulesDir cacheDir =>
      constructor
      · exact congrArg LoaderProcess.loader (step_init_fresh fs modulesDir cacheDir _)
      · refine (congrArg LoaderProcess.events (step_init_fresh fs modulesDir cacheDir _)).trans ?_
        simp [Cycles.events, Cycles.step, Cycles.startEvents]
    | shutdown =>
      rw [step_shutdown_down rfl]
      constructor
      · rfl
      · simp [Cycles.events, Cycles.step]
  | some ms =>
    cases call with
    | init fs modulesDir cacheDir =>
      rw [step_init_up rfl]
      constructor
      · rfl
      · rfl
    | shutdown =>
      constructor
      · exact congrArg LoaderProcess.loader (step_shutdown_up ms _)
      · refine (congrArg LoaderProcess.events (step_shutdown_up ms _)).trans ?_
        simp [Cycles.events, Cycles.step, Cycles.startEvents]

theorem Refines.foldl {c : Cycles} (h : Refines p c) (calls : List LoaderCall) :
    Refines (calls.foldl LoaderProcess.step p) (calls.foldl Cycles.step c) := by
  induction calls generalizing p c with
  | nil => exact h
  | cons call calls ih => exact ih (h.step call)

theorem refines_fresh : Refines ⟨.fresh, []⟩ ⟨none, []⟩ := by
  constructor
  · rfl
  · simp [Cycles.events, Cycles.startEvents]

theorem refines_run (calls : List LoaderCall) : Refines (LoaderProcess.run calls) (Cycles.run calls) :=
  refines_fresh.foldl calls

/-! ## Handles -/

theorem count_dlopen (c : Cycles) (handle : ℕ) :
    c.events.count (.dlopen handle) =
      c.events.count (.dlclose handle) + ((c.up.getD []).map (·.so.handle)).count handle := by
  have hopen (ms : List OpenedModule) :
      (Cycles.startEvents ms).count (.dlopen handle) = (ms.map (·.so.handle)).count handle ∧
        (Cycles.startEvents ms).count (.dlclose handle) = 0 := by
    constructor
    · have hhook : ModuleEvent.dlopen handle ∉ ms.filterMap fun m =>
          m.loaded.onLoad.map fun hook => .hook (.load hook.fn m.extractDir) := by simp
      rw [Cycles.startEvents, List.count_append, List.count_eq_zero_of_not_mem hhook, Nat.add_zero]
      simp only [List.count, List.countP_map]
      apply List.countP_congr
      simp
    · apply List.count_eq_zero_of_not_mem
      simp [Cycles.startEvents]
  have hclose (ms : List OpenedModule) :
      (Cycles.stopEvents ms).count (.dlclose handle) = (ms.map (·.so.handle)).count handle ∧
        (Cycles.stopEvents ms).count (.dlopen handle) = 0 := by
    constructor
    · have hhook : ModuleEvent.dlclose handle ∉ ms.reverse.filterMap fun m =>
          m.loaded.onUnload.map fun fn => .hook (.unload fn m.extractDir) := by simp
      rw [Cycles.stopEvents, List.count_append, List.count_eq_zero_of_not_mem hhook, Nat.zero_add,
        List.map_reverse, List.count_reverse]
      simp only [List.count, List.countP_map]
      apply List.countP_congr
      simp
    · apply List.count_eq_zero_of_not_mem
      simp [Cycles.stopEvents]
  have hover : ∀ ended : List (List OpenedModule),
      (ended.flatMap fun ms => Cycles.startEvents ms ++ Cycles.stopEvents ms).count (.dlopen handle) =
        (ended.flatMap fun ms => Cycles.startEvents ms ++ Cycles.stopEvents ms).count (.dlclose handle) := by
    intro ended
    induction ended with
    | nil => rfl
    | cons ms ended ih => simp [hopen, hclose, ih]
  rw [Cycles.events, List.count_append, List.count_append, hover, (hopen _).1, (hopen _).2, Nat.add_zero]

theorem exists_module_of_mem {ms : List OpenedModule} {name : String} {e : InternalEntry}
    (h : e ∈ (registryOf (ms.flatMap OpenedModule.registrations)).entries name) :
    ∃ m ∈ ms, e.moduleId = m.manifest.id ∧ e.dataDir = m.extractDir := by
  rw [(registryOf_arrangement _ name).perm.mem_iff] at h
  simp only [registeredFor, List.mem_filterMap, List.mem_flatMap, OpenedModule.registrations,
    Option.map_eq_some_iff] at h
  obtain ⟨g, ⟨m, hm, _, _, sym, _, rfl⟩, he⟩ := h
  obtain ⟨-, he⟩ := Option.ite_none_right_eq_some.1 he
  cases he
  exact ⟨m, hm, rfl, rfl⟩

/-- An entry of the registry is of a module that is mapped: its library was opened more often than closed. -/
theorem entry_mapped (calls : List LoaderCall) (name : String) :
    ∀ e ∈ (LoaderProcess.run calls).loader.map.entries name, ∃ m ∈ (LoaderProcess.run calls).loader.loaded,
      e.moduleId = m.moduleId ∧ e.dataDir = m.dataDir ∧
        (LoaderProcess.run calls).events.count (.dlclose m.handle) <
          (LoaderProcess.run calls).events.count (.dlopen m.handle) := by
  obtain ⟨hloader, hevents⟩ : Refines (LoaderProcess.run calls) (Cycles.run calls) := refines_fresh.foldl calls
  rw [hloader, hevents]
  intro e he
  have hcount := count_dlopen (Cycles.run calls)
  unfold Cycles.loader at he ⊢
  split at he
  · simp [LoaderState.fresh] at he
  · next ms hup =>
    obtain ⟨m, hm, hid, hdir⟩ := exists_module_of_mem he
    refine ⟨m.loaded, List.mem_map_of_mem hm, hid, hdir, ?_⟩
    have hpos : 0 < (ms.map (·.so.handle)).count m.so.handle :=
      List.count_pos_iff.2 (List.mem_map.2 ⟨m, hm, rfl⟩)
    rw [hcount, hup]
    exact Nat.lt_add_of_pos_right hpos

/-- Even the entry of a module that refuses to load. -/
theorem entry_mapped_refusing :
    let p := LoaderProcess.run [.init refusingModule (some "/m") (some "/c")]
    ∃ m ∈ p.loader.loaded, "a" = m.moduleId ∧ "/c/_staged/a.augins" = m.dataDir ∧
      p.events.count (.dlclose m.handle) < p.events.count (.dlopen m.handle) := by
  have hopened : openedModules refusingModule (some "/m") (some "/c") =
      [⟨⟨1, "a", "1", ["xrLocateSpace"], "a", "", 100⟩, "/c/_staged/a.augins", refusingSo⟩] := rfl
  have hmem := mem_entries_init.2 ⟨_, by rw [hopened]; exact List.mem_singleton_self _,
    List.mem_singleton_self "xrLocateSpace", 16, rfl, rfl⟩
  exact entry_mapped [.init refusingModule (some "/m") (some "/c")] "xrLocateSpace" _ hmem

end AugmentedInsanity.Augins
