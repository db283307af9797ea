/-
The Aug-Ins module loader (`loader.cpp`): scan the modules directory, stage and map each archive,
register what resolves, sort, then fire the load hooks. `module_abi.h` promises that a module whose
load hook returns non-zero is rejected: none of its functions is called afterwards. The loader only
counts such modules, so the promise is kept exactly when they left nothing behind
(`honoursRejections_iff`).
-/
import AugmentedInsanity.Augins.Lifecycle
import Mathlib.Data.String.Basic

namespace AugmentedInsanity.Augins

/-! ## What the loader reads -/

/-- A shared object `dlopen` mapped. `loadResult` is what its `aug_on_module_load` returns. -/
structure SharedObject where
  handle : ℕ
  dlsym : String → Option Symbol
  loadResult : Int

/-- An `.augins` file: whether it extracts, the `metadata.json` of the extracted tree, and the shared
objects of that tree that can be mapped, by file name. -/
structure Archive where
  extracts : Bool
  metadata : Option CJsonObject
  dlopen : String → Option SharedObject

/-- The names `readdir` lists. -/
structure Directory where
  names : List String
  noSlash : ∀ name ∈ names, '/' ∉ name.toList

structure FileSystem where
  opendir : String → Option Directory
  archive : String → Archive

/-! ## The loader -/

def isAuginsFile (name : String) : Bool :=
  decide (".augins".length < name.length) && ".augins".toList.isSuffixOf name.toList

def listAuginsFiles (fs : FileSystem) (dirPath : String) : List String :=
  match fs.opendir dirPath with
  | none => []
  | some dir => ((dir.names.filter isAuginsFile).map fun name => dirPath ++ "/" ++ name).insertionSort (· ≤ ·)

/-- What follows the last slash of a path, the whole path if there is none. -/
def fileName (path : String) : String :=
  String.ofList (path.toList.reverse.takeWhile (· ≠ '/')).reverse

/-- `extract_augins_zip`: the directory it extracted to. -/
def extractAuginsZip (fs : FileSystem) (auginsPath stagingSubdir cacheRoot : String) : Option String :=
  if (fs.archive auginsPath).extracts then some (cacheRoot ++ "/" ++ stagingSubdir) else none

structure OpenedModule where
  manifest : Manifest
  extractDir : String
  so : SharedObject

/-- `load_one` up to the mapped shared object, without the siblings of it that are mapped before and stay so. -/
def openModule (fs : FileSystem) (auginsPath cacheRoot : String) : Option OpenedModule :=
  match extractAuginsZip fs auginsPath ("_staged/" ++ fileName auginsPath) cacheRoot with
  | none => none
  | some extractDir =>
    match manifestParseFile (fs.archive auginsPath).metadata with
    | none => none
    | some m =>
      match (fs.archive auginsPath).dlopen (m.id ++ ".so") with
      | none => none
      | some so => some ⟨m, extractDir, so⟩

/-- The lifecycle entry of an opened module, with the hooks it exports. -/
def OpenedModule.loaded (m : OpenedModule) : LoadedModule where
  handle := m.so.handle
  moduleId := m.manifest.id
  dataDir := m.extractDir
  onLoad := (m.so.dlsym "aug_on_module_load").map fun fn => ⟨fn, m.so.loadResult⟩
  onUnload := m.so.dlsym "aug_on_module_unload"

/-- The registrations of an opened module: its implemented functions that resolve. -/
def OpenedModule.registrations (m : OpenedModule) : List Registration :=
  m.manifest.implementedFunctions.filterMap fun name =>
    (m.so.dlsym name).map fun sym =>
      { xrName := some name, fn := some sym, moduleId := m.manifest.id, dataDir := m.extractDir,
        priority := m.manifest.priority }

/-- The globals of the loader, the dispatch registry and the lifecycle list. -/
structure LoaderState where
  initialised : Bool
  map : Registry
  loaded : List LoadedModule

def LoaderState.fresh : LoaderState := ⟨false, Registry.empty, []⟩

/-- Registering an opened module: the second half of `load_one`. -/
def registerModule (st : LoaderState) (m : OpenedModule) : LoaderState :=
  { st with
    loaded := auginsLifecycleRegisterModule st.loaded m.loaded
    map := m.registrations.foldl augDispatchRegister st.map }

def loadOne (fs : FileSystem) (st : LoaderState) (auginsPath cacheRoot : String) : LoaderState × Bool :=
  match openModule fs auginsPath cacheRoot with
  | none => (st, false)
  | some m => (registerModule st m, true)

def missingPath (path : Option String) : Bool := path.getD "" = ""

/-- `augins_loader_init`: the state, the number of rejected modules and the hooks called. -/
def auginsLoaderInit (fs : FileSystem) (modulesDir cacheDir : Option String) (st : LoaderState) :
    LoaderState × ℕ × List HookCall :=
  if st.initialised then (st, 0, [])
  else
    let st := { st with initialised := true }
    if missingPath modulesDir || missingPath cacheDir then (st, 0, [])
    else
      let files := listAuginsFiles fs (modulesDir.getD "")
      let st := files.foldl (fun st p => (loadOne fs st p (cacheDir.getD "")).1) st
      let st := { st with map := augDispatchSortByPriority st.map }
      (st, auginsLifecycleFireLoad st.loaded)

/-- `augins_loader_shutdown`: the state, the hooks called and the handles closed. -/
def auginsLoaderShutdown (st : LoaderState) : LoaderState × List HookCall × List ℕ :=
  if !st.initialised then (st, [], [])
  else
    let calls := auginsLifecycleFireUnload st.loaded
    let (closed, loaded) := auginsLifecycleDlcloseAll st.loaded
    (⟨false, augDispatchClear st.map, loaded⟩, calls, closed)

/-! ## Staging directories -/

theorem fileName_slash {dirPath name : String} (h : '/' ∉ name.toList) :
    fileName (dirPath ++ "/" ++ name) = name := by
  unfold fileName
  have hrev : (dirPath ++ "/" ++ name).toList.reverse =
      name.toList.reverse ++ '/' :: dirPath.toList.reverse := by simp
  have hall : ∀ c ∈ name.toList.reverse, (c ≠ '/') = true := by
    intro c hc
    have : c ≠ '/' := by rintro rfl; exact h (List.mem_reverse.1 hc)
    simpa using this
  rw [hrev, List.takeWhile_append_of_pos (by simpa using hall)]
  simp

variable {fs : FileSystem}

theorem openModule_extractDir {path cacheRoot : String} {m : OpenedModule} (h : openModule fs path cacheRoot = some m) :
    m.extractDir = cacheRoot ++ "/" ++ ("_staged/" ++ fileName path) := by
  unfold openModule at h
  split at h
  · cases h
  · rename_i dir hdir
    split at h
    · cases h
    · split at h
      · cases h
      · cases h
        unfold extractAuginsZip at hdir
        split at hdir
        · exact (Option.some.inj hdir).symm
        · cases hdir

theorem mem_listAuginsFiles {dirPath path : String} (h : path ∈ listAuginsFiles fs dirPath) :
    ∃ name, '/' ∉ name.toList ∧ path = dirPath ++ "/" ++ name := by
  unfold listAuginsFiles at h
  split at h
  · cases h
  · rename_i dir _
    rw [(List.perm_insertionSort _ _).mem_iff] at h
    obtain ⟨name, hname, rfl⟩ := List.mem_map.1 h
    exact ⟨name, dir.noSlash name (List.mem_of_mem_filter hname), rfl⟩

/-- The modules of the directory that get as far as a mapped shared object, in load order. -/
def openedModules (fs : FileSystem) (modulesDir cacheDir : Option String) : List OpenedModule :=
  if missingPath modulesDir || missingPath cacheDir then []
  else (listAuginsFiles fs (modulesDir.getD "")).filterMap fun p => openModule fs p (cacheDir.getD "")

variable {modulesDir cacheDir : Option String}

theorem openedModules_inj {m m' : OpenedModule} (h : m ∈ openedModules fs modulesDir cacheDir)
    (h' : m' ∈ openedModules fs modulesDir cacheDir) (hdir : m.extractDir = m'.extractDir) : m = m' := by
  unfold openedModules at h h'
  split at h
  · cases h
  · rename_i hp
    rw [if_neg hp] at h'
    obtain ⟨p, hp, hm⟩ := List.mem_filterMap.1 h
    obtain ⟨p', hp', hm'⟩ := List.mem_filterMap.1 h'
    obtain ⟨name, hname, rfl⟩ := mem_listAuginsFiles hp
    obtain ⟨name', hname', rfl⟩ := mem_listAuginsFiles hp'
    rw [openModule_extractDir hm, openModule_extractDir hm', fileName_slash hname,
      fileName_slash hname'] at hdir
    have : name = name' := by simpa [← String.toList_inj] using hdir
    subst this
    rw [hm] at hm'
    exact Option.some.inj hm'

/-! ## What initialisation leaves -/

theorem foldl_loadOne (fs : FileSystem) (cacheRoot : String) : ∀ (files : List String) (st : LoaderState),
    files.foldl (fun st p => (loadOne fs st p cacheRoot).1) st =
      (files.filterMap fun p => openModule fs p cacheRoot).foldl registerModule st
  | [], _ => rfl
  | p :: files, st => by
    rw [List.foldl_cons, foldl_loadOne fs cacheRoot files, List.filterMap_cons]
    unfold loadOne
    rcases openModule fs p cacheRoot with _ | m
    · rfl
    · rfl

theorem foldl_registerModule : ∀ (ms : List OpenedModule) (st : LoaderState),
    ms.foldl registerModule st =
      { st with
        loaded := st.loaded ++ ms.map OpenedModule.loaded
        map := (ms.flatMap OpenedModule.registrations).foldl augDispatchRegister st.map }
  | [], st => by simp
  | m :: ms, st => by
    rw [List.foldl_cons, foldl_registerModule ms]
    simp [registerModule, auginsLifecycleRegisterModule, List.foldl_append]

theorem auginsLoaderInit_eq (fs : FileSystem) (modulesDir cacheDir : Option String) :
    (auginsLoaderInit fs modulesDir cacheDir .fresh).1 =
      { initialised := true
        map := registryOf ((openedModules fs modulesDir cacheDir).flatMap OpenedModule.registrations)
        loaded := (openedModules fs modulesDir cacheDir).map OpenedModule.loaded } := by
  unfold auginsLoaderInit openedModules
  by_cases hp : (missingPath modulesDir || missingPath cacheDir) = true
  · rw [if_neg (by simp [LoaderState.fresh]), if_pos hp, if_pos hp]
    simp [LoaderState.fresh, registryOf]
    rfl
  · rw [if_neg (by simp [LoaderState.fresh]), if_neg hp, if_neg hp]
    simp only [foldl_loadOne, foldl_registerModule]
    rfl

theorem auginsLoaderShutdown_fresh {st : LoaderState} (h : st.initialised = true) :
    (auginsLoaderShutdown st).1 = LoaderState.fresh := by
  unfold auginsLoaderShutdown
  rw [if_neg (by simp [h])]
  rfl

/-- The entry of a registry that an implemented function of a module resolves to. -/
def OpenedModule.entry (m : OpenedModule) (sym : Symbol) : InternalEntry :=
  ⟨sym, m.manifest.id, m.extractDir, m.manifest.priority⟩

theorem mem_entries_init {name : String} {e : InternalEntry} :
    e ∈ (auginsLoaderInit fs modulesDir cacheDir .fresh).1.map.entries name ↔
      ∃ m ∈ openedModules fs modulesDir cacheDir, name ∈ m.manifest.implementedFunctions ∧
        ∃ sym, m.so.dlsym name = some sym ∧ e = m.entry sym := by
  rw [auginsLoaderInit_eq, (registryOf_arrangement _ name).perm.mem_iff]
  simp only [registeredFor, List.mem_filterMap, List.mem_flatMap, OpenedModule.registrations,
    Option.map_eq_some_iff]
  constructor
  · rintro ⟨g, ⟨m, hm, n, hn, sym, hsym, rfl⟩, hg⟩
    simp only [Option.ite_none_right_eq_some] at hg
    obtain ⟨rfl, he⟩ := hg
    exact ⟨m, hm, hn, sym, hsym, (Option.some.inj he).symm⟩
  · rintro ⟨m, hm, hn, sym, hsym, rfl⟩
    exact ⟨_, ⟨m, hm, name, hn, sym, hsym, rfl⟩, by simp [OpenedModule.entry]⟩

theorem mem_shutdown_init {c : HookCall} :
    c ∈ (auginsLoaderShutdown (auginsLoaderInit fs modulesDir cacheDir .fresh).1).2.1 ↔
      ∃ m ∈ openedModules fs modulesDir cacheDir, ∃ fn,
        m.so.dlsym "aug_on_module_unload" = some fn ∧ c = .unload fn m.extractDir := by
  rw [auginsLoaderInit_eq]
  unfold auginsLoaderShutdown
  rw [if_neg (by simp)]
  simp only [mem_fireUnload, List.mem_map]
  constructor
  · rintro ⟨_, ⟨m, hm, rfl⟩, fn, hfn, rfl⟩; exact ⟨m, hm, fn, hfn, rfl⟩
  · rintro ⟨m, hm, fn, hfn, rfl⟩; exact ⟨m.loaded, ⟨m, hm, rfl⟩, fn, hfn, rfl⟩

/-! ## Rejected modules -/

/-- What `module_abi.h` and `lifecycle.h` promise of the registry after initialisation: rejected
modules have no entry in it and get no unload call at shutdown, accepted ones have all of theirs. -/
structure HonoursRejections (ms : List OpenedModule) (st : LoaderState) : Prop where
  dropped : ∀ m ∈ ms, m.loaded.rejected = true → ∀ name, ∀ e ∈ st.map.entries name, e.dataDir ≠ m.extractDir
  kept : ∀ m ∈ ms, m.loaded.rejected = false → ∀ name ∈ m.manifest.implementedFunctions, ∀ sym,
    m.so.dlsym name = some sym → m.entry sym ∈ st.map.entries name
  silent : ∀ m ∈ ms, m.loaded.rejected = true → ∀ fn,
    HookCall.unload fn m.extractDir ∉ (auginsLoaderShutdown st).2.1

/-- The module resolves none of its implemented functions and exports no unload hook. -/
def OpenedModule.LeavesNothing (m : OpenedModule) : Prop :=
  (∀ name ∈ m.manifest.implementedFunctions, m.so.dlsym name = none) ∧
    m.so.dlsym "aug_on_module_unload" = none

/-- Rejections are honoured exactly when every module that rejects itself had nothing to drop: the
loader drops nothing. -/
theorem honoursRejections_iff (fs : FileSystem) (modulesDir cacheDir : Option String) :
    HonoursRejections (openedModules fs modulesDir cacheDir)
        (auginsLoaderInit fs modulesDir cacheDir .fresh).1 ↔
      ∀ m ∈ openedModules fs modulesDir cacheDir, m.loaded.rejected = true → m.LeavesNothing := by
  constructor
  · intro h m hm hrej
    refine ⟨?_, ?_⟩
    · intro name hname
      rcases hsym : m.so.dlsym name with _ | sym
      · rfl
      · have hmem := mem_entries_init.2 ⟨m, hm, hname, sym, hsym, rfl⟩
        exact absurd rfl (h.dropped m hm hrej name _ hmem)
    · rcases hfn : m.so.dlsym "aug_on_module_unload" with _ | fn
      · rfl
      · exact absurd (mem_shutdown_init.2 ⟨m, hm, fn, hfn, rfl⟩) (h.silent m hm hrej fn)
  · intro h
    refine ⟨?_, ?_, ?_⟩
    · intro m hm hrej name e he hdir
      obtain ⟨m', hm', hname, sym, hsym, rfl⟩ := mem_entries_init.1 he
      have : m' = m := openedModules_inj hm' hm hdir
      subst this
      rw [(h m' hm hrej).1 name hname] at hsym
      cases hsym
    · intro m hm _ name hname sym hsym
      exact mem_entries_init.2 ⟨m, hm, hname, sym, hsym, rfl⟩
    · intro m hm hrej fn hc
      obtain ⟨m', hm', fn', hfn, hc⟩ := mem_shutdown_init.1 hc
      have : m' = m := openedModules_inj hm' hm (HookCall.unload.inj hc).2.symm
      subst this
      rw [(h m' hm hrej).2] at hfn
      cases hfn

/-- A shared object that exports `xrLocateSpace` and a load hook that returns -1. -/
def refusingSo : SharedObject where
  handle := 1
  dlsym := fun name =>
    if name = "xrLocateSpace" then some 16 else if name = "aug_on_module_load" then some 32 else none
  loadResult := -1

/-- A modules directory with one archive, whose module implements `xrLocateSpace` and refuses to
load. -/
def refusingModule : FileSystem where
  opendir := fun path => if path = "/m" then some ⟨["a.augins"], by decide⟩ else none
  archive := fun _ => {
    extracts := true
    metadata := some fun key =>
      if key = "Manifest_Version" then some (.number 1)
      else if key = "ID" then some (.string "a")
      else if key = "Version" then some (.string "1")
      else if key = "Implemented_Functions" then some (.array [.string "xrLocateSpace"])
      else none
    dlopen := fun name => if name = "a.so" then some refusingSo else none }

/-- Its entry stays in the registry. -/
theorem refusingModule_not_honoured :
    ¬ HonoursRejections (openedModules refusingModule (some "/m") (some "/c"))
      (auginsLoaderInit refusingModule (some "/m") (some "/c") .fresh).1 := by
  intro h
  have hm : openedModules refusingModule (some "/m") (some "/c") =
      [⟨⟨1, "a", "1", ["xrLocateSpace"], "a", "", 100⟩, "/c/_staged/a.augins", refusingSo⟩] := rfl
  have hmem := mem_entries_init.2 ⟨_, by rw [hm]; exact List.mem_singleton_self _,
    List.mem_singleton_self "xrLocateSpace", 16, rfl, rfl⟩
  rw [hm] at h
  exact h.dropped _ (List.mem_singleton_self _) rfl _ _ hmem rfl

end AugmentedInsanity.Augins
