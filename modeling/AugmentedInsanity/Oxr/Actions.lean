/-
The states of the actions of a session (`oxr_input.c`, `oxr_get_state.c`): a cache for each subaction path of an action
combines its inputs when the actions are synchronized, but for inputs that an action set with a higher priority
suppresses, and the state for any subaction path is combined of those of the caches.
-/
import AugmentedInsanity.Oxr.Bindings

namespace AugmentedInsanity.Oxr

open Xrt

/-! ## Data -/

structure OxrActionState (F : Type) where
  value : XrtInputValue F
  active : Bool
  changed : Bool
  timestamp : ℤ

structure OxrActionCache (F : Type) where
  current : OxrActionState F
  inputs : List (OxrActionInput F)
  stopOutputTime : ℤ
  outputs : List OxrActionOutput

/-- `struct oxr_action_attachment`, with what it uses of `struct oxr_action_ref`. -/
structure OxrActionAttachment (F : Type) where
  actKey : ℕ
  actionType : XrActionType
  subactionPaths : OxrSubactionPaths
  anyPoseSubactionPath : OxrSubactionPaths
  anyState : OxrActionState F
  cache : OxrSubactionPath → OxrActionCache F

/-- `struct oxr_action_set_attachment`, with what it uses of `struct oxr_action_set_ref`, which the key stands for. -/
structure OxrActionSetAttachment (F : Type) where
  actSetKey : ℕ
  priority : ℕ
  requestedSubactionPaths : OxrSubactionPaths
  actAttachments : List (OxrActionAttachment F)

/-- `XrActiveActionSet`, with the key of the action set. -/
structure XrActiveActionSet where
  actionSet : ℕ
  subactionPath : XrPath
  deriving DecidableEq

/-- `XrActiveActionSetPriorityEXT`, with the key of the action set. -/
structure XrActiveActionSetPriority where
  actionSet : ℕ
  priorityOverride : ℕ
  deriving DecidableEq

section
variable {F : Type} [Field F]

/-- `U_ZERO` of a state. -/
def OxrActionState.zero : OxrActionState F := ⟨XrtInputValue.zero, false, false, 0⟩

/-- `U_ZERO` of a cache. -/
def OxrActionCache.zero : OxrActionCache F := ⟨OxrActionState.zero, [], 0, []⟩

end

variable {F : Type}

/-! ## Suppression -/

def oxrInputIsInputForCache (actionInput : OxrActionInput F) (cache : OxrActionCache F) : Bool :=
  cache.inputs.any fun input => actionInput.boundPath == input.boundPath

def oxrInputIsBoundInActSet (actionInput : OxrActionInput F) (set : OxrActionSetAttachment F) : Bool :=
  set.actAttachments.any fun act =>
    OxrSubactionPath.every.any fun path => oxrInputIsInputForCache actionInput (act.cache path)

def getActionSetAttachment (sets : List (OxrActionSetAttachment F)) (actionSet : ℕ) :
    Option (OxrActionSetAttachment F) :=
  sets.find? (·.actSetKey == actionSet)

def oxrGetActionSetPriority (set : OxrActionSetAttachment F) (activePriorities : List XrActiveActionSetPriority) : ℕ :=
  ((activePriorities.find? (·.actionSet == set.actSetKey)).map (·.priorityOverride)).getD set.priority

/-- The set takes part in the suppression of inputs of a subaction path. -/
def relevantSubactionPath (set : OxrActionSetAttachment F) (subactionPath : OxrSubactionPaths) : Bool :=
  set.requestedSubactionPaths.any ||
    OxrSubactionPath.every.any fun path => set.requestedSubactionPaths.has path && subactionPath.has path

/-- `oxr_input_supressed`, of an input of an action in a set. -/
def oxrInputSupressed (sets : List (OxrActionSetAttachment F)) (actionSets : List XrActiveActionSet)
    (subactionPath : OxrSubactionPaths) (set : OxrActionSetAttachment F)
    (activePriorities : List XrActiveActionSetPriority) (actionInput : OxrActionInput F) : Bool :=
  actionSets.any fun requested =>
    match getActionSetAttachment sets requested.actionSet with
    | none => false
    | some other =>
      if other.actSetKey = set.actSetKey then false
      else if oxrGetActionSetPriority other activePriorities ≤ oxrGetActionSetPriority set activePriorities then false
      else if !relevantSubactionPath other subactionPath then false
      else oxrInputIsBoundInActSet actionInput other

/-! ## Combining inputs -/

/-- What the loop of `oxr_input_combine_input` has found: the result, its time, and whether an input is active. -/
structure CombinedInput (F : Type) where
  type : XrtInputType
  value : XrtInputValue F
  timestamp : ℤ
  anyActive : Bool

section
variable [Neg F] [Add F] [Mul F] [Div F] [OfNat F 2] [LT F] [LE F] [DecidableLT F] [DecidableLE F]

def fabsf [Zero F] (x : F) : F := if x < 0 then -x else x

def lengthSq (v : F × F) : F := v.1 * v.1 + v.2 * v.2

namespace CombinedInput

/-- The loop starts with the time of the first input. -/
def start [Zero F] (timestamp : ℤ) : CombinedInput F := ⟨.vec1ZeroToOne, XrtInputValue.zero, timestamp, false⟩

/-- The switch in the loop of `oxr_input_combine_input`. -/
def combine [Zero F] (res : CombinedInput F) (timestamp : ℤ) (transformed : OxrInputValueTagged F) : CombinedInput F :=
  let res := { res with type := transformed.type, anyActive := true }
  match transformed.type with
  | .boolean =>
    let boolean := res.value.boolean || transformed.value.boolean
    let resTimestamp :=
      if boolean && transformed.value.boolean && decide (timestamp < res.timestamp) then timestamp
      else if !boolean && !transformed.value.boolean && decide (res.timestamp < timestamp) then timestamp
      else res.timestamp
    { res with value := { res.value with boolean := boolean }, timestamp := resTimestamp }
  | .vec1MinusOneToOne | .vec1ZeroToOne =>
    if fabsf res.value.vec1 < fabsf transformed.value.vec1 then
      { res with value := { res.value with vec1 := transformed.value.vec1 }, timestamp := timestamp }
    else res
  | .vec2MinusOneToOne =>
    if lengthSq res.value.vec2 < lengthSq transformed.value.vec2 then
      { res with value := { res.value with vec2 := transformed.value.vec2 }, timestamp := timestamp }
    else res
  | _ => res

end CombinedInput

def OxrActionInput.reading (input : OxrActionInput F) (devices : Devices F) : InputReading F :=
  devices.input input.xdev input.input

/-- The value of an input, transformed, and the input with the transforms as this leaves them. -/
def OxrActionInput.transformed (input : OxrActionInput F) (devices : Devices F) :
    OxrActionInput F × Option (OxrInputValueTagged F) :=
  let rawInput : OxrInputValueTagged F := ⟨xrtGetInputType input.input, (input.reading devices).value⟩
  let (transforms, out) := OxrInputTransform.processChain devices input.transforms rawInput
  ({ input with transforms := transforms }, out)

/-- The loop of `oxr_input_combine_input`, that also leaves the inputs with their transforms; it ends when an input
cannot be transformed. -/
def combineInputs [Zero F] (devices : Devices F) (supressed : OxrActionInput F → Bool) :
    List (OxrActionInput F) → CombinedInput F → List (OxrActionInput F) × Option (CombinedInput F)
  | [], res => ([], some res)
  | input :: inputs, res =>
    if supressed input || !(input.reading devices).active then
      let (inputs, out) := combineInputs devices supressed inputs res
      (input :: inputs, out)
    else
      match input.transformed devices with
      | (input, none) => (input :: inputs, none)
      | (input, some transformed) =>
        let (inputs, out) :=
          combineInputs devices supressed inputs (res.combine (input.reading devices).timestamp transformed)
        (input :: inputs, out)

/-- `oxr_input_combine_input`, of a cache that has inputs. -/
def oxrInputCombineInput [Zero F] (devices : Devices F) (supressed : OxrActionInput F → Bool)
    (inputs : List (OxrActionInput F)) :
    List (OxrActionInput F) × Option (CombinedInput F) :=
  combineInputs devices supressed inputs
    (CombinedInput.start ((inputs.head?.map fun input => (input.reading devices).timestamp).getD 0))

end

/-! ## Updating -/

section
variable [Field F] [LinearOrder F]

namespace OxrActionState

def withCombined (current : OxrActionState F) (combined : CombinedInput F) : OxrActionState F × Bool :=
  match combined.type with
  | .vec1ZeroToOne | .vec1MinusOneToOne =>
    ({ current with value := { current.value with vec1 := combined.value.vec1 } },
      combined.value.vec1 != current.value.vec1)
  | .vec2MinusOneToOne =>
    ({ current with value := { current.value with vec2 := combined.value.vec2 } },
      combined.value.vec2.1 != current.value.vec2.1 || combined.value.vec2.2 != current.value.vec2.2)
  | .boolean =>
    ({ current with value := { current.value with boolean := combined.value.boolean } },
      combined.value.boolean != current.value.boolean)
  | _ => (current, false)

/-- The end of `oxr_action_cache_update`: an active input in a session that is focused. -/
def follow (last : OxrActionState F) (combined : CombinedInput F) : OxrActionState F :=
  let current := { last with active := true }
  let (current, changed) := current.withCombined combined
  if combined.type = .pose then current
  else if last.active && changed then { current with timestamp := combined.timestamp, changed := true }
  else if last.active then { current with timestamp := last.timestamp, changed := false }
  else { current with timestamp := combined.timestamp, changed := false }

end OxrActionState

namespace OxrActionCache

/-- `oxr_action_cache_stop_output`, without what it tells the devices. -/
def stopOutput (cache : OxrActionCache F) : OxrActionCache F := { cache with stopOutputTime := 0 }

/-- `oxr_action_cache_update`. -/
def update (cache : OxrActionCache F) (devices : Devices F) (isFocused : Bool) (supressed : OxrActionInput F → Bool)
    (time : ℤ) (selected : Bool) : OxrActionCache F :=
  if !selected then
    let cache := if cache.stopOutputTime > 0 then cache.stopOutput else cache
    { cache with current := OxrActionState.zero }
  else if cache.outputs ≠ [] then
    let cache := { cache with current := { cache.current with active := true } }
    if cache.stopOutputTime > 0 ∧ cache.stopOutputTime < time then cache.stopOutput else cache
  else if cache.inputs ≠ [] then
    match oxrInputCombineInput devices supressed cache.inputs with
    | (inputs, none) => { cache with inputs := inputs }
    | (inputs, some combined) =>
      if !isFocused || !combined.anyActive then { cache with inputs := inputs, current := OxrActionState.zero }
      else { cache with inputs := inputs, current := cache.current.follow combined }
  else cache

end OxrActionCache

/-- The variables in which `oxr_action_attachment_update` combines the states of the caches. -/
structure AnyCombined (V : Type) where
  active : Bool
  value : V
  timestamp : ℤ

def oxrStateUpdateBool (any : AnyCombined Bool) (newState : OxrActionState F) : AnyCombined Bool :=
  if newState.active then ⟨true, any.value || newState.value.boolean, newState.timestamp⟩ else any

def oxrStateUpdateVec1 (any : AnyCombined F) (newState : OxrActionState F) : AnyCombined F :=
  if newState.active then
    if any.value < newState.value.vec1 then ⟨true, newState.value.vec1, newState.timestamp⟩
    else { any with active := true }
  else any

/-- `oxr_state_update_vec2`; the value comes with the distance. -/
def oxrStateUpdateVec2 (any : AnyCombined ((F × F) × F)) (newState : OxrActionState F) : AnyCombined ((F × F) × F) :=
  if newState.active then
    let currD := lengthSq newState.value.vec2
    if any.value.2 < currD then ⟨true, (newState.value.vec2, currD), newState.timestamp⟩
    else { any with active := true }
  else any

/-- The states of the caches, in the order in which they are combined. -/
def OxrActionAttachment.states (act : OxrActionAttachment F) : List (OxrActionState F) :=
  OxrSubactionPath.valid.map fun path => (act.cache path).current

/-- The part of `oxr_action_attachment_update` that sets the state for any subaction path, if it had a value. -/
def OxrActionState.followAny (last : OxrActionState F) (active : Bool) (timestamp : ℤ) (value : XrtInputValue F)
    (differs : Bool) : OxrActionState F :=
  let changed := last.active && (active && differs)
  { value := value
    active := active
    changed := changed
    timestamp := if active then if !changed && last.active then last.timestamp else timestamp else 0 }

/-- The part of `oxr_action_attachment_update` after the caches; the time is that of the update. -/
def OxrActionAttachment.updateAny (act : OxrActionAttachment F) (timestamp : ℤ) : OxrActionState F :=
  let last := act.anyState
  match act.actionType with
  | .booleanInput =>
    let any := act.states.foldl oxrStateUpdateBool ⟨false, false, timestamp⟩
    last.followAny any.active any.timestamp { XrtInputValue.zero with boolean := any.value }
      (last.value.boolean != any.value)
  | .floatInput =>
    let any := act.states.foldl oxrStateUpdateVec1 ⟨false, -2, timestamp⟩
    last.followAny any.active any.timestamp { XrtInputValue.zero with vec1 := any.value } (last.value.vec1 != any.value)
  | .vector2fInput =>
    let any := act.states.foldl oxrStateUpdateVec2 ⟨false, ((0, 0), -1), timestamp⟩
    last.followAny any.active any.timestamp { XrtInputValue.zero with vec2 := any.value.1 }
      (last.value.vec2.1 != any.value.1.1 || last.value.vec2.2 != any.value.1.2)
  | .poseInput | .vibrationOutput => OxrActionState.zero

/-- `oxr_action_attachment_update`, with the inputs that are suppressed on a subaction path, and the time before and after
`time_state_monotonic_to_ts_ns`. -/
def OxrActionAttachment.update (act : OxrActionAttachment F) (devices : Devices F) (isFocused : Bool)
    (supressed : OxrSubactionPath → OxrActionInput F → Bool) (time timestamp : ℤ) (subactionPaths : OxrSubactionPaths) :
    OxrActionAttachment F :=
  let act :=
    { act with
      cache := fun path =>
        if path ∈ OxrSubactionPath.valid then
          (act.cache path).update devices isFocused (supressed path) time
            (subactionPaths.has path || subactionPaths.any)
        else act.cache path }
  { act with anyState := act.updateAny timestamp }

end

/-! ## Reading states -/

/-- `XrActionStateBoolean`, `XrActionStateFloat` and `XrActionStateVector2f`. -/
structure XrActionState (V : Type) where
  currentState : V
  changedSinceLastSync : Bool
  lastChangeTime : ℤ
  isActive : Bool
  deriving DecidableEq

/-- `get_xr_state_from_action_state_bool` and its like, of the states that the application asks for. -/
def getXrStateFromActionState {V : Type} (toTs : ℤ → ℤ) (read : XrtInputValue F → V) (state : OxrActionState F) :
    XrActionState V :=
  ⟨read state.value, state.changed, toTs state.timestamp, true⟩

/-- `OXR_ACTION_GET_FILLER`, after `OXR_ACTION_RESET_XR_ACTION_STATE`: the last of the states that are active. -/
def OxrActionAttachment.get {V : Type} (act : OxrActionAttachment F) (toTs : ℤ → ℤ) (zero : V)
    (read : XrtInputValue F → V) (subactionPaths : OxrSubactionPaths) : XrActionState V :=
  let fill (data : XrActionState V) (asked : Bool) (state : OxrActionState F) : XrActionState V :=
    if asked && state.active then getXrStateFromActionState toTs read state else data
  [OxrSubactionPath.user, .head, .left, .right, .gamepad].foldl
    (fun data path => fill data (subactionPaths.has path) (act.cache path).current)
    (fill ⟨zero, false, 0, false⟩ subactionPaths.any act.anyState)

/-- `oxr_action_get_boolean`, of an action that is attached. -/
def OxrActionAttachment.getBoolean (act : OxrActionAttachment F) (toTs : ℤ → ℤ) :
    OxrSubactionPaths → XrActionState Bool :=
  act.get toTs false (·.boolean)

/-- `oxr_action_get_vector1f`, of an action that is attached. -/
def OxrActionAttachment.getVector1f [Field F] (act : OxrActionAttachment F) (toTs : ℤ → ℤ) :
    OxrSubactionPaths → XrActionState F :=
  act.get toTs 0 (·.vec1)

/-- `oxr_action_get_vector2f`, of an action that is attached. -/
def OxrActionAttachment.getVector2f [Field F] (act : OxrActionAttachment F) (toTs : ℤ → ℤ) :
    OxrSubactionPaths → XrActionState (F × F) :=
  act.get toTs (0, 0) (·.vec2)

/-- `oxr_action_get_pose`, of an action that is attached: whether it is active. -/
def OxrActionAttachment.getPose (act : OxrActionAttachment F) (subactionPaths : OxrSubactionPaths) : Bool :=
  let subactionPaths := if subactionPaths.any then act.anyPoseSubactionPath else subactionPaths
  OxrSubactionPath.valid.any fun path => subactionPaths.has path && (act.cache path).current.active

end AugmentedInsanity.Oxr
