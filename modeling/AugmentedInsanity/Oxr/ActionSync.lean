/-
Synchronizing the actions of a session (`oxr_action_sync_data`): when the roles of the devices have changed the actions are
bound anew, then the subaction paths that the application asks for are noted, and then all actions are updated. What is not
modelled is that the application is told of other interaction profiles.
-/
import AugmentedInsanity.Oxr.Session
import AugmentedInsanity.Oxr.Suppression

namespace AugmentedInsanity.Oxr

open Xrt

/-! ## Data -/

/-- What an instance has for its actions: `M_PI_2`, the strings of its paths, and the paths of `oxr_instance_path_cache`. -/
structure OxrInstancePaths (F : Type) where
  piOver2 : F
  string : XrPath → PathString
  pathCache : OxrSubactionPath → XrPath

/-- `struct oxr_roles`, with the profiles that `find_profiles_from_roles` finds for them. -/
structure OxrRoles (F : Type) where
  generationId : ℕ
  device : OxrSubactionPath → Option RoleDevice
  profile : OxrSubactionPath → Option (OxrInteractionProfile F)

structure OxrSessionActionContext (F : Type) where
  sets : List (OxrActionSetAttachment F)
  dynamicRolesGenerationId : ℕ

/-- What `oxr_action_sync_data` is given, and what it finds: whether the session is focused, the roles if they can be had, the
error of updating the devices, what they have then, and the time, which actions have as `time_state_monotonic_to_ts_ns` gives
it. -/
structure SyncCall (F : Type) where
  actionSets : List XrActiveActionSet
  activePriorities : List XrActiveActionSetPriority
  isFocused : Bool
  roles : Option (OxrRoles F)
  updateError : Option XrError
  devices : Devices F
  time : ℤ
  timestamp : ℤ

/-! ## Binding -/

section
variable {F : Type} [Field F] [LinearOrder F]

def oxrActionBindIo (inst : OxrInstancePaths F) (roles : OxrRoles F) (actKey : ℕ) (actionType : XrActionType)
    (actSetKey : ℕ) (subactionPath : OxrSubactionPath) : OxrActionCache F :=
  let profile := roles.profile subactionPath
  let (inputs, outputs) := getBinding (roles.device subactionPath) profile actKey actionType subactionPath
  let dpads := (profile.map fun profile => profile.dpadState actSetKey).getD []
  { current := { (OxrActionState.zero : OxrActionState F) with active := !inputs.isEmpty || !outputs.isEmpty }
    inputs := boundInputs inst.piOver2 inst.string dpads actionType inputs
    stopOutputTime := 0
    outputs := outputs }

namespace OxrActionAttachment

def bindsPath (act : OxrActionAttachment F) (path : OxrSubactionPath) : Bool :=
  decide (path ∈ OxrSubactionPath.valid) && (act.subactionPaths.has path || act.subactionPaths.any)

/-- `oxr_action_attachment_bind`. -/
def bind (act : OxrActionAttachment F) (inst : OxrInstancePaths F) (roles : OxrRoles F) (actSetKey : ℕ) :
    OxrActionAttachment F :=
  let cache (path : OxrSubactionPath) : OxrActionCache F :=
    if act.bindsPath path then oxrActionBindIo inst roles act.actKey act.actionType actSetKey path else act.cache path
  let posePath := OxrSubactionPath.valid.find? fun path => act.bindsPath path && !(cache path).inputs.isEmpty
  { act with
    cache := cache
    anyPoseSubactionPath :=
      if act.actionType = .poseInput then
        { act.anyPoseSubactionPath with
          has := fun path =>
            if path ∈ OxrSubactionPath.valid then posePath == some path else act.anyPoseSubactionPath.has path }
      else act.anyPoseSubactionPath }

end OxrActionAttachment

namespace OxrSessionActionContext

/-- The roles have changed since the actions have been bound. -/
def bindsAnew (context : OxrSessionActionContext F) (roles : OxrRoles F) : Bool :=
  decide (context.dynamicRolesGenerationId < roles.generationId)

/-- `session_update_action_bindings`, if the roles have changed. -/
def updateActionBindings (context : OxrSessionActionContext F) (inst : OxrInstancePaths F) (roles : OxrRoles F) :
    OxrSessionActionContext F :=
  if context.bindsAnew roles then
    { sets := context.sets.map fun set =>
        { set with actAttachments := set.actAttachments.map fun act => act.bind inst roles set.actSetKey }
      dynamicRolesGenerationId := roles.generationId }
  else context

end OxrSessionActionContext

end

/-! ## Requesting -/

section
variable {F : Type}

def oxrClassifySubactionPath (pathCache : OxrSubactionPath → XrPath) (path : XrPath) : Option OxrSubactionPaths :=
  if path = 0 then some .anyOnly
  else (OxrSubactionPath.valid.find? fun subactionPath => path == pathCache subactionPath).map .only

def modifyActionSetAttachment (sets : List (OxrActionSetAttachment F)) (actionSet : ℕ)
    (f : OxrActionSetAttachment F → OxrActionSetAttachment F) : List (OxrActionSetAttachment F) :=
  sets.modify (sets.findIdx (·.actSetKey == actionSet)) f

/-- An action of the set has one of the subaction paths. -/
def anyActionWithSubactionPath (set : OxrActionSetAttachment F) (subactionPaths : OxrSubactionPaths) : Bool :=
  set.actAttachments.any fun act =>
    OxrSubactionPath.every.any fun path => subactionPaths.has path && act.subactionPaths.has path

/-- The loop of `oxr_action_sync_data` over the sets that are requested, and whether it goes through. -/
def requestSubactionPaths (pathCache : OxrSubactionPath → XrPath) :
    List XrActiveActionSet → List (OxrActionSetAttachment F) → List (OxrActionSetAttachment F) × Bool
  | [], sets => (sets, true)
  | requested :: rest, sets =>
    match oxrClassifySubactionPath pathCache requested.subactionPath with
    | none => (sets, false)
    | some subactionPaths =>
      let sets := modifyActionSetAttachment sets requested.actionSet fun set =>
        { set with requestedSubactionPaths := set.requestedSubactionPaths.accumulate subactionPaths }
      if subactionPaths.any ||
          ((getActionSetAttachment sets requested.actionSet).map (anyActionWithSubactionPath · subactionPaths)).getD false then
        requestSubactionPaths pathCache rest sets
      else (sets, false)

/-- The sets are reset before subaction paths are requested of them. -/
def resetRequested (set : OxrActionSetAttachment F) : OxrActionSetAttachment F :=
  { set with requestedSubactionPaths := .zero }

variable {sets : List (OxrActionSetAttachment F)} {set : OxrActionSetAttachment F} {key : ℕ}
  {f : OxrActionSetAttachment F → OxrActionSetAttachment F}

theorem mem_modifyActionSetAttachment (h : set ∈ modifyActionSetAttachment sets key f) :
    set ∈ sets ∨ ∃ other ∈ sets, other.actSetKey = key ∧ set = f other := by
  induction sets with
  | nil => exact Or.inl h
  | cons head sets ih =>
    rw [modifyActionSetAttachment, List.findIdx_cons] at h
    cases hkey : head.actSetKey == key with
    | true =>
      rw [hkey, cond_true, List.modify_zero_cons] at h
      rcases List.mem_cons.1 h with rfl | h
      · exact Or.inr ⟨head, List.mem_cons_self, eq_of_beq hkey, rfl⟩
      · exact Or.inl (List.mem_cons_of_mem _ h)
    | false =>
      rw [hkey, cond_false, List.modify_succ_cons] at h
      rcases List.mem_cons.1 h with rfl | h
      · exact Or.inl List.mem_cons_self
      · rcases ih h with h | ⟨other, hother, hkey, heq⟩
        · exact Or.inl (List.mem_cons_of_mem _ h)
        · exact Or.inr ⟨other, List.mem_cons_of_mem _ hother, hkey, heq⟩

theorem modifyActionSetAttachment_actions (hf : ∀ set, (f set).actAttachments = set.actAttachments) :
    (modifyActionSetAttachment sets key f).map (·.actAttachments) = sets.map (·.actAttachments) := by
  induction sets with
  | nil => rfl
  | cons head sets ih =>
    rw [modifyActionSetAttachment, List.findIdx_cons]
    cases head.actSetKey == key with
    | true => rw [cond_true, List.modify_zero_cons, List.map_cons, List.map_cons, hf]
    | false =>
      rw [cond_false, List.modify_succ_cons, List.map_cons, List.map_cons]
      exact congrArg _ ih

theorem requestSubactionPaths_actions {pathCache : OxrSubactionPath → XrPath} {actionSets : List XrActiveActionSet} :
    (requestSubactionPaths pathCache actionSets sets).1.map (·.actAttachments) = sets.map (·.actAttachments) := by
  induction actionSets generalizing sets with
  | nil => rfl
  | cons requested rest ih =>
    unfold requestSubactionPaths
    split
    · rfl
    · dsimp only
      split
      · rw [ih]
        exact modifyActionSetAttachment_actions fun _ => rfl
      · exact modifyActionSetAttachment_actions fun _ => rfl

theorem requestSubactionPaths_requests {pathCache : OxrSubactionPath → XrPath} {actionSets : List XrActiveActionSet}
    {requests : ℕ → OxrSubactionPath → Prop} {path : OxrSubactionPath}
    (hsets : ∀ set ∈ sets, (set.requestedSubactionPaths.has path || set.requestedSubactionPaths.any) = true →
      requests set.actSetKey path)
    (hlisted : ∀ requested ∈ actionSets, ∀ paths,
      oxrClassifySubactionPath pathCache requested.subactionPath = some paths → (paths.has path || paths.any) = true →
        requests requested.actionSet path) :
    ∀ set ∈ (requestSubactionPaths pathCache actionSets sets).1,
      (set.requestedSubactionPaths.has path || set.requestedSubactionPaths.any) = true → requests set.actSetKey path := by
  induction actionSets generalizing sets with
  | nil => exact hsets
  | cons requested rest ih =>
    obtain ⟨hrequested, hrest⟩ := List.forall_mem_cons.1 hlisted
    unfold requestSubactionPaths
    split
    · exact hsets
    · rename_i paths hpaths
      have hmodified : ∀ set ∈ modifyActionSetAttachment sets requested.actionSet fun set =>
          { set with requestedSubactionPaths := set.requestedSubactionPaths.accumulate paths },
          (set.requestedSubactionPaths.has path || set.requestedSubactionPaths.any) = true →
            requests set.actSetKey path := by
        intro set hset hselected
        rcases mem_modifyActionSetAttachment hset with hset | ⟨other, hother, hkey, rfl⟩
        · exact hsets set hset hselected
        · have hselected : (other.requestedSubactionPaths.has path || other.requestedSubactionPaths.any) = true ∨
              (paths.has path || paths.any) = true := by
            simp only [OxrSubactionPaths.accumulate, Bool.or_eq_true] at hselected ⊢
            tauto
          rcases hselected with hselected | hselected
          · exact hsets other hother hselected
          · exact hkey ▸ hrequested paths hpaths hselected
      dsimp only
      split
      · exact ih hmodified hrest
      · exact hmodified

end

/-! ## Synchronizing -/

section
variable {F : Type} [Field F] [LinearOrder F]

/-- What a call comes to: it fails, it succeeds without updating the actions, or it gets to update them. -/
inductive Prepared (F : Type)
  | failed (error : XrError) (context : OxrSessionActionContext F)
  | unsynced (result : XrSuccess) (context : OxrSessionActionContext F)
  | synced (context : OxrSessionActionContext F)

namespace OxrSessionActionContext

variable (context : OxrSessionActionContext F)

/-- `oxr_action_sync_data`, up to the loop that updates the actions. -/
def prepare (inst : OxrInstancePaths F) (call : SyncCall F) : Prepared F :=
  if !call.actionSets.all fun requested => (getActionSetAttachment context.sets requested.actionSet).isSome then
    .failed .actionsetNotAttached context
  else if !call.isFocused then .unsynced .sessionNotFocused context
  else
    match call.roles with
    | none => .failed .runtimeFailure context
    | some roles =>
      let context := context.updateActionBindings inst roles
      if call.actionSets = [] then .unsynced .success context
      else
        match call.updateError with
        | some error => .failed error context
        | none =>
          let (sets, requested) := requestSubactionPaths inst.pathCache call.actionSets (context.sets.map resetRequested)
          if !requested then .failed .pathUnsupported { context with sets := sets }
          else .synced { context with sets := sets }

def actionSync (call : SyncCall F) : ActionSync F :=
  ⟨context.sets, call.actionSets, call.activePriorities, call.devices⟩

def updateAction (call : SyncCall F) (set : OxrActionSetAttachment F) (act : OxrActionAttachment F) :
    OxrActionAttachment F :=
  act.update call.devices call.isFocused ((context.actionSync call).supressed set) call.time call.timestamp
    set.requestedSubactionPaths

/-- The end of `oxr_action_sync_data`. -/
def updateActions (call : SyncCall F) : OxrSessionActionContext F :=
  { context with
    sets := context.sets.map fun set =>
      { set with actAttachments := set.actAttachments.map (context.updateAction call set) } }

def oxrActionSyncData (inst : OxrInstancePaths F) (call : SyncCall F) :
    Except XrError XrSuccess × OxrSessionActionContext F :=
  match context.prepare inst call with
  | .failed error context => (.error error, context)
  | .unsynced result context => (.ok result, context)
  | .synced context => (.ok .success, context.updateActions call)

end OxrSessionActionContext

end

end AugmentedInsanity.Oxr
