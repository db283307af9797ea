/-
The modules the Aug-Ins loader has mapped (`manifest.cpp`, `lifecycle.cpp`): the checks on a module's
`metadata.json`, and the list of loaded modules with the fan-out of their two lifecycle hooks.
A hook is a symbol together with what calling it returns; every call made is recorded.
-/
import AugmentedInsanity.Augins.Dispatch

namespace AugmentedInsanity.Augins

/-! ## The manifest -/

inductive CJson
  | number (valueint : Int)
  | string (valuestring : String)
  | array (items : List CJson)
  | other

abbrev CJsonObject := String → Option CJson

abbrev AUG_MANIFEST_VERSION : Int := 1

structure Manifest where
  manifestVersion : Int := 0
  id : String
  version : String
  implementedFunctions : List String
  name : String
  description : String
  priority : Int := 100

def cJsonStrings (items : List CJson) : List String :=
  items.filterMap fun
    | .string s => some s
    | _ => none

/-- `manifest_parse_file`; `root` is what opening and parsing the file gave. -/
def manifestParseFile (root : Option CJsonObject) : Option Manifest :=
  match root with
  | none => none
  | some root =>
    match root "Manifest_Version" with
    | some (.number version) =>
      if version ≠ AUG_MANIFEST_VERSION then none
      else
        match root "ID", root "Version", root "Implemented_Functions" with
        | some (.string id), some (.string ver), some (.array impl) =>
          if id = "" then none
          else some {
            manifestVersion := version
            id := id
            version := ver
            implementedFunctions := cJsonStrings impl
            name := match root "Name" with
              | some (.string s) => s
              | _ => id
            description := match root "Description" with
              | some (.string s) => s
              | _ => ""
            priority := match root "Priority" with
              | some (.number n) => n
              | _ => 100 }
        | _, _, _ => none
    | _ => none

/-! ## Hooks -/

/-- An `aug_on_module_load` export and the code it returns. -/
structure LoadHook where
  fn : Symbol
  rc : Int
  deriving DecidableEq

/-- A call into a module's hook, with the data directory pushed around it. -/
inductive HookCall
  | load (fn : Symbol) (dataDir : String)
  | unload (fn : Symbol) (dataDir : String)
  deriving DecidableEq

structure LoadedModule where
  handle : ℕ
  moduleId : String
  dataDir : String
  onLoad : Option LoadHook
  onUnload : Option Symbol
  deriving DecidableEq

def auginsLifecycleRegisterModule (loaded : List LoadedModule) (m : LoadedModule) : List LoadedModule :=
  loaded ++ [m]

/-- The number of hooks that returned non-zero, and the calls made. -/
def auginsLifecycleFireLoad : List LoadedModule → ℕ × List HookCall
  | [] => (0, [])
  | m :: rest =>
    match m.onLoad with
    | none => auginsLifecycleFireLoad rest
    | some hook =>
      let (rejected, calls) := auginsLifecycleFireLoad rest
      (if hook.rc ≠ 0 then rejected + 1 else rejected, .load hook.fn m.dataDir :: calls)

def auginsLifecycleFireUnload (loaded : List LoadedModule) : List HookCall :=
  loaded.reverse.filterMap fun m => m.onUnload.map fun fn => .unload fn m.dataDir

def auginsLifecycleDlcloseAll (loaded : List LoadedModule) : List ℕ × List LoadedModule :=
  (loaded.reverse.map LoadedModule.handle, [])

def LoadedModule.rejected (m : LoadedModule) : Bool :=
  match m.onLoad with
  | none => false
  | some hook => hook.rc != 0

theorem mem_fireUnload {loaded : List LoadedModule} {c : HookCall} :
    c ∈ auginsLifecycleFireUnload loaded ↔
      ∃ m ∈ loaded, ∃ fn, m.onUnload = some fn ∧ c = .unload fn m.dataDir := by
  unfold auginsLifecycleFireUnload
  simp only [List.mem_filterMap, List.mem_reverse, Option.map_eq_some_iff]
  constructor
  · rintro ⟨m, hm, fn, hfn, rfl⟩; exact ⟨m, hm, fn, hfn, rfl⟩
  · rintro ⟨m, hm, fn, hfn, rfl⟩; exact ⟨m, hm, fn, hfn, rfl⟩

end AugmentedInsanity.Augins
