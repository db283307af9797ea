/-
The per-thread stack of data directories (`host_api.cpp`). The adapters and the hook fan-outs push a
module's directory before they call into it and pop it after. A module may re-enter the adapters, to
any depth. Every call sees the directory of its own module, and the stack is as before whenever the
outermost call returns (`calls_seeOwnDataDir`).
-/
import AugmentedInsanity.Augins.Adapters
import AugmentedInsanity.Augins.Loader
import AugmentedInsanity.Lib.Scoped

namespace AugmentedInsanity.Augins

open Xrt Scoped

/-! ## Threads -/

/-- A call into a module: the symbol called and the id of the module it was resolved in. -/
structure ModuleCall where
  fn : Symbol
  moduleId : String

/-- A thread: everything else there is (`W`), `tls_data_dir_stack` with its top first, and what
`get_module_data_dir` has answered, with the call it was asked from. -/
structure Thread (W : Type) where
  world : W
  tlsDataDirStack : List String
  seen : List (ModuleCall × String)

/-- What a thread does; an error is a run that goes deeper than allowed for and does not return. -/
abbrev Run (W : Type) := EStateM Unit (Thread W)

variable {W : Type}

def getModuleDataDirImpl (t : Thread W) : String :=
  match t.tlsDataDirStack with
  | [] => ""
  | dir :: _ => dir

def auginsHostApiPushDataDir (path : String) (t : Thread W) : Thread W :=
  { t with tlsDataDirStack := path :: t.tlsDataDirStack }

def auginsHostApiPopDataDir (t : Thread W) : Thread W :=
  { t with tlsDataDirStack := t.tlsDataDirStack.tail }

/-! ## Modules -/

/-- A request that enters the dispatcher, with what the reply holds before it. -/
inductive Request
  | spaceLocateSpace (baseSpaceId : UInt32) (baseOffset : XrtPose) (atTimestamp : Int64) (spaceId : UInt32)
      (offset : XrtPose) (outRelation : XrtSpaceRelation)
  | spaceLocateDevice (baseSpaceId : UInt32) (baseOffset : XrtPose) (atTimestamp : Int64) (xdevId : UInt32)
      (outRelation : XrtSpaceRelation)

abbrev Reply := XrtResult × XrtSpaceRelation

/-- The code of a module's function: it returns, asks for its data directory, does anything to the
rest of the world, or re-enters the dispatcher, and goes on as the answers make it. -/
inductive Code (W ρ : Type)
  | ret (result : ρ)
  | getModuleDataDir (next : String → Code W ρ)
  | act (f : W → W) (next : W → Code W ρ)
  | enter (request : Request) (next : Reply → Code W ρ)

/-- The runtime's own handlers and the code behind the modules' symbols. -/
structure Process (W : Type) where
  spaceLocateSpace : UInt32 → XrtPose → Int64 → UInt32 → XrtPose → XrtSpaceRelation → W → Reply × W
  spaceLocateDevice : UInt32 → XrtPose → Int64 → UInt32 → XrtSpaceRelation → W → Reply × W
  xdevIsHeadRole : UInt32 → W → Bool
  xrLocateSpace : Symbol → XrSpace → XrSpace → XrTime → XrSpaceLocation → Code W (XrResult × XrSpaceLocation)
  augLocateDeviceInSpace : Symbol → XrSpace → XrTime → XrSpaceLocation → Code W (XrResult × XrSpaceLocation)
  onModuleLoad : Symbol → Code W Int
  onModuleUnload : Symbol → Code W Unit

/-- Runs the code of a call; `dispatch` answers the requests it makes. -/
def runCode {ρ : Type} (dispatch : Request → Run W Reply) (call : ModuleCall) : Code W ρ → Run W ρ
  | .ret result => pure result
  | .getModuleDataDir next => do
    let t ← get
    modify fun t => { t with seen := t.seen ++ [(call, getModuleDataDirImpl t)] }
    runCode dispatch call (next (getModuleDataDirImpl t))
  | .act f next => do
    modify fun t => { t with world := f t.world }
    let t ← get
    runCode dispatch call (next t.world)
  | .enter request next => do
    let reply ← dispatch request
    runCode dispatch call (next reply)

/-- A call into a module, between the push and the pop of its data directory. -/
def callModule {ρ : Type} (dispatch : Request → Run W Reply) (fn : Symbol) (moduleId dataDir : String)
    (code : Code W ρ) : Run W ρ := do
  modify (auginsHostApiPushDataDir dataDir)
  let result ← runCode dispatch ⟨fn, moduleId⟩ code
  modify auginsHostApiPopDataDir
  pure result

/-! ## The adapters -/

def handle {α : Type} (f : W → α × W) : Run W α := do
  let t ← get
  modify fun t => { t with world := (f t.world).2 }
  pure (f t.world).1

/-- The loop over the chain. -/
def runChainOn (dispatch : Request → Run W Reply)
    (code : Symbol → XrSpaceLocation → Code W (XrResult × XrSpaceLocation)) :
    List AugModuleEntry → XrSpaceLocation → Run W (XrResult × XrSpaceLocation)
  | [], loc => pure (XR_SUCCESS, loc)
  | e :: chain, loc => do
    let result ← callModule dispatch e.fn e.moduleId e.dataDir (code e.fn loc)
    if result.1 ≠ XR_SUCCESS then pure result else runChainOn dispatch code chain result.2

def runModulesOn (dispatch : Request → Run W Reply) (r : Registry) (xrName : String)
    (code : Symbol → XrSpaceLocation → Code W (XrResult × XrSpaceLocation)) (rel : XrtSpaceRelation) :
    Run W Reply := do
  let result ← runChainOn dispatch code (augGetModulesFor r (some xrName) (some kMaxChain)).2 (unpackRelation rel)
  if result.1 ≠ XR_SUCCESS then pure (xrResultToXrt result.1, rel) else pure (.success, packLocation result.2)

/-- `aug_adapter_space_locate_space` and `aug_adapter_space_locate_device`. -/
def adapterOn (p : Process W) (r : Registry) (dispatch : Request → Run W Reply) : Request → Run W Reply
  | .spaceLocateSpace baseSpaceId baseOffset atTimestamp spaceId offset outRelation => do
    let reply ← handle (p.spaceLocateSpace baseSpaceId baseOffset atTimestamp spaceId offset outRelation)
    if reply.1 ≠ .success then pure reply
    else
      runModulesOn dispatch r "xrLocateSpace"
        (fun fn => p.xrLocateSpace fn spaceId.toUInt64 baseSpaceId.toUInt64 atTimestamp) reply.2
  | .spaceLocateDevice baseSpaceId baseOffset atTimestamp xdevId outRelation => do
    let reply ← handle (p.spaceLocateDevice baseSpaceId baseOffset atTimestamp xdevId outRelation)
    let t ← get
    if reply.1 ≠ .success then pure reply
    else if !p.xdevIsHeadRole xdevId t.world then pure (.success, reply.2)
    else
      runModulesOn dispatch r "aug_LocateDeviceInSpace"
        (fun fn => p.augLocateDeviceInSpace fn baseSpaceId.toUInt64 atTimestamp) reply.2

/-- The dispatcher, with the depth to which it may be re-entered. -/
def adapterTo (p : Process W) (r : Registry) : ℕ → Request → Run W Reply
  | 0, _ => throw ()
  | depth + 1, request => adapterOn p r (adapterTo p r depth) request

/-! ## The hooks -/

/-- `augins_lifecycle_fire_load`, one module: the count of the rejected ones goes through. -/
def fireLoadOn (p : Process W) (dispatch : Request → Run W Reply) (rejected : ℕ) (m : LoadedModule) : Run W ℕ :=
  match m.onLoad with
  | none => pure rejected
  | some hook => do
    let rc ← callModule dispatch hook.fn m.moduleId m.dataDir (p.onModuleLoad hook.fn)
    if rc ≠ 0 then pure (rejected + 1) else pure rejected

/-- `augins_lifecycle_fire_unload`, one module. -/
def fireUnloadOn (p : Process W) (dispatch : Request → Run W Reply) (_ : Unit) (m : LoadedModule) : Run W Unit :=
  match m.onUnload with
  | none => pure ()
  | some fn => callModule dispatch fn m.moduleId m.dataDir (p.onModuleUnload fn)

/-! ## Calls from outside -/

inductive Outermost
  | loaderInit (fs : FileSystem) (modulesDir cacheDir : Option String)
  | adapter (request : Request)
  | loaderShutdown

/-- One outermost call; the adapters may be re-entered to `depth`. -/
def perform (p : Process W) (depth : ℕ) (st : LoaderState) : Outermost → Run W LoaderState
  | .loaderInit fs modulesDir cacheDir => do
    let st' := (auginsLoaderInit fs modulesDir cacheDir st).1
    if st.initialised then pure st
    else if missingPath modulesDir || missingPath cacheDir then pure st'
    else
      let _ ← st'.loaded.foldlM (fireLoadOn p (adapterTo p st'.map depth)) 0
      pure st'
  | .adapter request => do
    let _ ← adapterTo p st.map (depth + 1) request
    pure st
  | .loaderShutdown =>
    if st.initialised then do
      st.loaded.reverse.foldlM (fireUnloadOn p (adapterTo p st.map depth)) ()
      pure (auginsLoaderShutdown st).1
    else pure st

def performAll (p : Process W) (depth : ℕ) (calls : List Outermost) : Run W LoaderState :=
  calls.foldlM (perform p depth) .fresh

/-! ## The discipline -/

section
variable {P : ModuleCall → String → Prop} {dispatch : Request → Run W Reply} {r : Registry} {loaded : List LoadedModule}

/-- Every answer so far is one of which `P` holds. -/
def Seen (P : ModuleCall → String → Prop) (t : Thread W) : Prop := ∀ o ∈ t.seen, P o.1 o.2

/-- The program leaves the stack as it was, and every answer given in it is one of which `P` holds. -/
abbrev Disciplined {α : Type} (P : ModuleCall → String → Prop) (pre : List String → Prop) (p : Run W α)
    (post : α → Prop) : Prop := Keeps Thread.tlsDataDirStack (Seen P) pre p post

abbrev Neutral {α : Type} (P : ModuleCall → String → Prop) (p : Run W α) : Prop :=
  Disciplined P (fun _ => True) p fun _ => True

theorem getModuleDataDirImpl_top {t : Thread W} {dir : String} (h : t.tlsDataDirStack.head? = some dir) :
    getModuleDataDirImpl t = dir := by
  unfold getModuleDataDirImpl
  cases hstack : t.tlsDataDirStack with
  | nil => simp [hstack] at h
  | cons top rest => simpa [hstack] using h

theorem runCode_disciplined {ρ : Type} (hdispatch : ∀ request, Neutral P (dispatch request))
    {call : ModuleCall} {dir : String} (hown : P call dir) (code : Code W ρ) :
    Disciplined P (fun st => st.head? = some dir) (runCode dispatch call code) fun _ => True := by
  induction code with
  | ret result => exact keeps_pure trivial
  | getModuleDataDir next ih =>
    refine keeps_get_bind fun _ _ _ => keeps_bind (keeps_modify (fun _ => rfl) fun s htop hs => ?_) fun _ _ => ih _
    intro o ho
    rcases List.mem_append.mp ho with ho | ho
    · exact hs o ho
    · rw [List.mem_singleton.mp ho, getModuleDataDirImpl_top htop]
      exact hown
  | act f next ih =>
    exact keeps_bind (keeps_modify (fun _ => rfl) fun _ _ hs => hs) fun _ _ => keeps_get_bind fun _ _ _ => ih _
  | enter request next ih =>
    exact keeps_bind ((hdispatch request).mono (fun _ _ => trivial) fun _ h => h) fun reply _ => ih reply

theorem callModule_disciplined {ρ : Type} (hdispatch : ∀ request, Neutral P (dispatch request))
    {fn : Symbol} {moduleId dataDir : String} (hown : P ⟨fn, moduleId⟩ dataDir) (code : Code W ρ) :
    Neutral P (callModule dispatch fn moduleId dataDir code) :=
  keeps_between (fun _ => rfl) (fun _ => rfl) (fun _ hs => hs) (fun _ hs => hs)
    (runCode_disciplined hdispatch hown code)

theorem runChainOn_disciplined (hdispatch : ∀ request, Neutral P (dispatch request))
    (code : Symbol → XrSpaceLocation → Code W (XrResult × XrSpaceLocation)) {chain : List AugModuleEntry}
    (hown : ∀ e ∈ chain, P ⟨e.fn, e.moduleId⟩ e.dataDir) (loc : XrSpaceLocation) :
    Neutral P (runChainOn dispatch code chain loc) := by
  induction chain generalizing loc with
  | nil => exact keeps_pure trivial
  | cons e chain ih =>
    refine keeps_bind (callModule_disciplined hdispatch (hown e List.mem_cons_self) _) fun result _ => ?_
    refine keeps_ite (fun _ => keeps_pure trivial) fun _ => ?_
    exact ih (fun e he => hown e (List.mem_cons_of_mem _ he)) result.2

theorem handle_disciplined {α : Type} (f : W → α × W) :
    Neutral P (handle f) :=
  keeps_get_bind fun _ _ _ => keeps_bind (keeps_modify (fun _ => rfl) fun _ _ hs => hs) fun _ _ => keeps_pure trivial

def RegistryOwn (P : ModuleCall → String → Prop) (r : Registry) : Prop :=
  ∀ name, ∀ e ∈ r.entries name, P ⟨e.fn, e.moduleId⟩ e.dataDir

theorem RegistryOwn.chain (h : RegistryOwn P r) (name : String) :
    ∀ e ∈ (augGetModulesFor r (some name) (some kMaxChain)).2, P ⟨e.fn, e.moduleId⟩ e.dataDir := by
  intro e he
  rw [augGetModulesFor_snapshot r name (by decide)] at he
  obtain ⟨entry, hentry, rfl⟩ := List.mem_map.mp he
  exact h name entry (List.mem_of_mem_take hentry)

theorem runModulesOn_disciplined (hdispatch : ∀ request, Neutral P (dispatch request)) (hr : RegistryOwn P r)
    (xrName : String) (code : Symbol → XrSpaceLocation → Code W (XrResult × XrSpaceLocation)) (rel : XrtSpaceRelation) :
    Neutral P (runModulesOn dispatch r xrName code rel) :=
  keeps_bind (runChainOn_disciplined hdispatch code (hr.chain xrName) _) fun _ _ =>
    keeps_ite (fun _ => keeps_pure trivial) fun _ => keeps_pure trivial

theorem adapterOn_disciplined (p : Process W) (hr : RegistryOwn P r)
    (hdispatch : ∀ request, Neutral P (dispatch request)) (request : Request) :
    Neutral P (adapterOn p r dispatch request) := by
  cases request with
  | spaceLocateSpace =>
    refine keeps_bind (handle_disciplined _) fun _ _ => keeps_ite (fun _ => keeps_pure trivial) fun _ => ?_
    exact runModulesOn_disciplined hdispatch hr _ _ _
  | spaceLocateDevice =>
    refine keeps_bind (handle_disciplined _) fun _ _ => keeps_get_bind fun _ _ _ => ?_
    refine keeps_ite (fun _ => keeps_pure trivial) fun _ => keeps_ite (fun _ => keeps_pure trivial) fun _ => ?_
    exact runModulesOn_disciplined hdispatch hr _ _ _

theorem adapterTo_disciplined (p : Process W) (hr : RegistryOwn P r) (depth : ℕ) (request : Request) :
    Neutral P (adapterTo p r depth request) := by
  induction depth generalizing request with
  | zero => exact keeps_throw ()
  | succ depth ih => exact adapterOn_disciplined p hr ih request

def LoadedOwn (P : ModuleCall → String → Prop) (loaded : List LoadedModule) : Prop :=
  ∀ m ∈ loaded, (∀ hook, m.onLoad = some hook → P ⟨hook.fn, m.moduleId⟩ m.dataDir) ∧
    ∀ fn, m.onUnload = some fn → P ⟨fn, m.moduleId⟩ m.dataDir

theorem fireLoad_disciplined (p : Process W) (hdispatch : ∀ request, Neutral P (dispatch request))
    (hloaded : LoadedOwn P loaded) : Neutral P (loaded.foldlM (fireLoadOn p dispatch) 0) := by
  refine keeps_foldlM (fun _ _ m hm => ?_) trivial
  unfold fireLoadOn
  cases hhook : m.onLoad with
  | none => exact keeps_pure trivial
  | some hook =>
    refine keeps_bind (callModule_disciplined hdispatch ((hloaded m hm).1 hook hhook) _) fun _ _ => ?_
    exact keeps_ite (fun _ => keeps_pure trivial) fun _ => keeps_pure trivial

theorem fireUnload_disciplined (p : Process W) (hdispatch : ∀ request, Neutral P (dispatch request))
    (hloaded : LoadedOwn P loaded) : Neutral P (loaded.reverse.foldlM (fireUnloadOn p dispatch) ()) := by
  refine keeps_foldlM (fun _ _ m hm => ?_) trivial
  unfold fireUnloadOn
  cases hhook : m.onUnload with
  | none => exact keeps_pure trivial
  | some fn => exact callModule_disciplined hdispatch ((hloaded m (List.mem_reverse.mp hm)).2 fn hhook) _

end

/-! ## The directories of the modules -/

/-- The directory is that of a module one of `calls` opened, and the call goes into that module. -/
def OwnDataDir (calls : List Outermost) (call : ModuleCall) (dir : String) : Prop :=
  ∃ fs modulesDir cacheDir, .loaderInit fs modulesDir cacheDir ∈ calls ∧
    ∃ m ∈ openedModules fs modulesDir cacheDir, call.moduleId = m.manifest.id ∧
      (∃ name, m.so.dlsym name = some call.fn) ∧ dir = m.extractDir

inductive Reached (calls : List Outermost) : LoaderState → Prop
  | fresh : Reached calls .fresh
  | initialised (fs : FileSystem) (modulesDir cacheDir : Option String)
      (h : .loaderInit fs modulesDir cacheDir ∈ calls) :
      Reached calls (auginsLoaderInit fs modulesDir cacheDir .fresh).1

variable {calls : List Outermost} {st : LoaderState}

theorem Reached.registryOwn (h : Reached calls st) : RegistryOwn (OwnDataDir calls) st.map := by
  intro name e he
  cases h with
  | fresh => exact (List.not_mem_nil he).elim
  | initialised fs modulesDir cacheDir hin =>
    obtain ⟨m, hm, -, sym, hsym, rfl⟩ := mem_entries_init.mp he
    exact ⟨fs, modulesDir, cacheDir, hin, m, hm, rfl, ⟨name, hsym⟩, rfl⟩

theorem Reached.loadedOwn (h : Reached calls st) : LoadedOwn (OwnDataDir calls) st.loaded := by
  intro loaded hloaded
  cases h with
  | fresh => exact (List.not_mem_nil hloaded).elim
  | initialised fs modulesDir cacheDir hin =>
    rw [auginsLoaderInit_eq] at hloaded
    obtain ⟨m, hm, rfl⟩ := List.mem_map.mp hloaded
    constructor
    · intro hook hhook
      obtain ⟨fn, hfn, rfl⟩ := Option.map_eq_some_iff.mp hhook
      exact ⟨fs, modulesDir, cacheDir, hin, m, hm, rfl, ⟨_, hfn⟩, rfl⟩
    · intro fn hfn
      exact ⟨fs, modulesDir, cacheDir, hin, m, hm, rfl, ⟨_, hfn⟩, rfl⟩

theorem Reached.fresh_of_not_initialised (h : Reached calls st) (hst : st.initialised = false) : st = .fresh := by
  cases h with
  | fresh => rfl
  | initialised fs modulesDir cacheDir hin =>
    rw [auginsLoaderInit_eq] at hst
    cases hst

theorem perform_disciplined (p : Process W) (depth : ℕ) {call : Outermost} (hcall : call ∈ calls)
    (hst : Reached calls st) :
    Disciplined (OwnDataDir calls) (fun _ => True) (perform p depth st call) (Reached calls) := by
  cases call with
  | loaderInit fs modulesDir cacheDir =>
    refine keeps_ite (fun _ => keeps_pure hst) fun hnew => ?_
    have hfresh : st = .fresh := hst.fresh_of_not_initialised (Bool.eq_false_iff.mpr hnew)
    subst hfresh
    have hafter : Reached calls _ := .initialised fs modulesDir cacheDir hcall
    refine keeps_ite (fun _ => keeps_pure hafter) fun _ => ?_
    have hdispatch := adapterTo_disciplined p hafter.registryOwn depth
    exact keeps_bind (fireLoad_disciplined p hdispatch hafter.loadedOwn) fun _ _ => keeps_pure hafter
  | adapter request =>
    exact keeps_bind (adapterTo_disciplined p hst.registryOwn (depth + 1) request) fun _ _ => keeps_pure hst
  | loaderShutdown =>
    refine keeps_ite (fun hinit => ?_) fun _ => keeps_pure hst
    have hdispatch := adapterTo_disciplined p hst.registryOwn depth
    refine keeps_bind (fireUnload_disciplined p hdispatch hst.loadedOwn) fun _ _ => keeps_pure ?_
    rw [auginsLoaderShutdown_fresh hinit]
    exact .fresh

/-- A run of `p` from `t` ends in `t'`: it returned there, or was cut off there. -/
def Ends {α : Type} (p : Run W α) (t t' : Thread W) : Prop :=
  (∃ a, p t = .ok a t') ∨ ∃ e, p t = .error e t'

/-- Whatever a thread calls from outside, and however deep the modules enter the dispatcher again:
each answer of `get_module_data_dir` is the directory of the module asking, and once the calls have
returned the stack is what it was. -/
theorem calls_seeOwnDataDir (p : Process W) (depth : ℕ) (calls : List Outermost) (w : W) (stack : List String) :
    (∀ t, Ends (performAll p depth calls) ⟨w, stack, []⟩ t → ∀ o ∈ t.seen, OwnDataDir calls o.1 o.2) ∧
      ∀ st t, performAll p depth calls ⟨w, stack, []⟩ = .ok st t → t.tlsDataDirStack = stack := by
  have hrun : Disciplined (OwnDataDir calls) (fun _ => True) (performAll p depth calls) (Reached calls) :=
    keeps_foldlM (fun st hst call hcall => perform_disciplined p depth hcall hst) .fresh
  have hstart : Seen (OwnDataDir calls) (⟨w, stack, []⟩ : Thread W) := fun o ho => (List.not_mem_nil ho).elim
  constructor
  · rintro t (⟨st, h⟩ | ⟨e, h⟩)
    · exact (hrun.returned _ st t trivial hstart h).2.1
    · exact hrun.stopped _ e t trivial hstart h
  · intro st t h
    exact (hrun.returned _ st t trivial hstart h).1

end AugmentedInsanity.Augins
