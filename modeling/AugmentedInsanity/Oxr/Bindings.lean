/-
How actions are bound to the inputs and outputs of devices (`oxr_binding.c`, `oxr_input.c`): an application suggests
paths for its actions, which a profile keeps with the bindings that have these paths; when devices have got roles the
bindings of an action are looked up, and give inputs of the devices with the paths that the application has chosen.
-/
import AugmentedInsanity.Oxr.InputTransforms

namespace AugmentedInsanity.Oxr

open Xrt

/-! ## Subaction paths -/

inductive OxrSubactionPath
  | left
  | right
  | head
  | gamepad
  | eyes
  | user
  deriving DecidableEq

/-- `OXR_FOR_EACH_VALID_SUBACTION_PATH`. -/
def OxrSubactionPath.valid : List OxrSubactionPath := [.left, .right, .head, .gamepad, .eyes]

/-- `OXR_FOR_EACH_SUBACTION_PATH`. -/
def OxrSubactionPath.every : List OxrSubactionPath := OxrSubactionPath.valid ++ [.user]

structure OxrSubactionPaths where
  any : Bool
  has : OxrSubactionPath → Bool

namespace OxrSubactionPaths

/-- `U_ZERO` of subaction paths. -/
def zero : OxrSubactionPaths := ⟨false, fun _ => false⟩

def only (path : OxrSubactionPath) : OxrSubactionPaths := ⟨false, (· == path)⟩

def accumulate (paths new : OxrSubactionPaths) : OxrSubactionPaths :=
  ⟨paths.any || new.any, fun path => paths.has path || new.has path⟩

end OxrSubactionPaths

/-! ## Suggested bindings -/

/-- `struct oxr_binding`; each action key comes with the index of the path that was suggested for it. -/
structure OxrBinding where
  paths : List XrPath
  subactionPath : OxrSubactionPath
  actKeys : List (ℕ × ℕ)
  input : XrtInputName
  dpadActivate : XrtInputName
  output : XrtOutputName
  deriving DecidableEq

structure SuggestedAction where
  actKey : ℕ
  actionType : XrActionType
  deriving DecidableEq

namespace OxrBinding

def addActKey (b : OxrBinding) (actKey preferredPathIndex : ℕ) : OxrBinding :=
  { b with actKeys := b.actKeys ++ [(actKey, preferredPathIndex)] }

/-- The loop over the paths of a binding in `try_add_by_component`, that finds the last index of the path. -/
def componentIndex (b : OxrBinding) (string : XrPath → PathString) (path : XrPath) (component : PathString) : Option ℕ :=
  if path ∈ b.paths ∧ ∃ p ∈ b.paths, endsWith (string p) component = true then
    some (b.paths.length - 1 - b.paths.reverse.idxOf path)
  else none

end OxrBinding

/-- `try_add_by_component`: the bindings of the first component that any of them has. -/
def tryAddByComponent (string : XrPath → PathString) (bindings : List OxrBinding) (path : XrPath) (actKey : ℕ) :
    List PathString → Option (List OxrBinding)
  | [] => none
  | component :: components =>
    if bindings.any fun b => (b.componentIndex string path component).isSome then
      some (bindings.map fun b => ((b.componentIndex string path component).map (b.addActKey actKey)).getD b)
    else tryAddByComponent string bindings path actKey components

def addDirect (bindings : List OxrBinding) (path : XrPath) (actKey : ℕ) : List OxrBinding :=
  bindings.map fun b => ((b.paths.idxOf? path).map (b.addActKey actKey)).getD b

def clickString : PathString := ascii ['c', 'l', 'i', 'c', 'k']
def valueString : PathString := ascii ['v', 'a', 'l', 'u', 'e']
def touchString : PathString := ascii ['t', 'o', 'u', 'c', 'h']
def slashString : PathString := ascii ['/']

/-- The components that are looked for, if the path that was suggested has none that suits the action. -/
def componentsFor (actionType : XrActionType) (str : PathString) : Option (List PathString) :=
  if actionType = .booleanInput ∧ endsWith str (slashString ++ clickString) = false ∧
      endsWith str (slashString ++ touchString) = false then some [clickString, valueString]
  else if actionType = .floatInput ∧ endsWith str (slashString ++ valueString) = false ∧
      endsWith str (slashString ++ clickString) = false then some [valueString, clickString]
  else none

def addActKeyToMatchingBindings (string : XrPath → PathString) (bindings : List OxrBinding) (path : XrPath)
    (act : SuggestedAction) : List OxrBinding :=
  let added := (componentsFor act.actionType (string path)).bind (tryAddByComponent string bindings path act.actKey)
  added.getD (addDirect bindings path act.actKey)

/-- The end of `oxr_action_suggest_interaction_profile_bindings`, for a profile that has bindings. -/
def suggestBindings (string : XrPath → PathString) (bindings : List OxrBinding)
    (suggested : List (SuggestedAction × XrPath)) : List OxrBinding :=
  suggested.foldl (fun bindings s => addActKeyToMatchingBindings string bindings s.2 s.1)
    (bindings.map fun b => { b with actKeys := [] })

/-! ## Looking bindings up -/

/-- `struct oxr_interaction_profile`; the dpad state has for each action set paths with settings. -/
structure OxrInteractionProfile (F : Type) where
  path : XrPath
  xname : XrtDeviceName
  bindings : List OxrBinding
  dpadState : ℕ → List (XrPath × OxrDpadSettings F)

structure RoleDevice where
  xdev : ℕ
  fields : XrtDeviceFields

/-- `struct oxr_action_input`: an input is the first of its name that the device has. -/
structure OxrActionInput (F : Type) where
  xdev : ℕ
  input : XrtInputName
  dpadActivate : Option XrtInputName
  transforms : List (OxrInputTransform F)
  boundPath : XrPath

structure OxrActionOutput where
  xdev : ℕ
  name : XrtOutputName
  boundPath : XrPath
  deriving DecidableEq

abbrev OXR_MAX_BINDINGS_PER_ACTION : ℕ := 32

def findBindingsFromActKey (bindings : List OxrBinding) (key : ℕ) : List OxrBinding :=
  (bindings.filter fun b => b.actKeys.any (·.1 == key)).take OXR_MAX_BINDINGS_PER_ACTION

def getMatchedXrPath (b : OxrBinding) (actKey : ℕ) : XrPath :=
  ((b.actKeys.find? (·.1 == actKey)).bind fun key => b.paths[key.2]?).getD 0

def findXDevNameFromPairs (fields : XrtDeviceFields) (xbp : XrtBindingProfile) (fromName : XrtInputName) :
    Option XrtInputName :=
  if fromName = 0 then some 0
  else
    (xbp.inputs.find? fun pair => pair.fromName == fromName && fields.inputs.any (·.name == pair.device)).map (·.device)

/-- The names that `do_inputs` looks for. -/
def inputNames (b : OxrBinding) (fields : XrtDeviceFields) :
    Option XrtBindingProfile → Option (XrtInputName × XrtInputName)
  | none => some (b.input, b.dpadActivate)
  | some xbp =>
    match findXDevNameFromPairs fields xbp b.input, findXDevNameFromPairs fields xbp b.dpadActivate with
    | some name, some dpadActivateName => some (name, dpadActivateName)
    | _, _ => none

/-- `do_inputs`; the transforms are found later. -/
def doInputs {F : Type} (b : OxrBinding) (device : RoleDevice) (xbp : Option XrtBindingProfile) (matchedPath : XrPath) :
    Option (OxrActionInput F) :=
  match inputNames b device.fields xbp with
  | none => none
  | some (name, dpadActivateName) =>
    if !device.fields.inputs.any (·.name == name) then none
    else if dpadActivateName != 0 && !device.fields.inputs.any (·.name == dpadActivateName) then none
    else
      some
        { xdev := device.xdev
          input := name
          dpadActivate := if dpadActivateName = 0 then none else some dpadActivateName
          transforms := []
          boundPath := matchedPath }

def doOutputs (b : OxrBinding) (device : RoleDevice) (xbp : Option XrtBindingProfile) (matchedPath : XrPath) :
    Option OxrActionOutput :=
  let name :=
    match xbp with
    | none => some b.output
    | some xbp => ((xbp.outputs.find? (·.fromName == b.output)).map (·.device)).filter (· != 0)
  match name with
  | none => none
  | some name => if device.fields.outputs.any (·.name == name) then some ⟨device.xdev, name, matchedPath⟩ else none

def getMatchingBindingProfile {F : Type} (profile : OxrInteractionProfile F) (fields : XrtDeviceFields) :
    Option XrtBindingProfile :=
  fields.bindingProfiles.find? (·.name == profile.xname)

/-- `get_binding`, with the device that has the role and the profile for it. -/
def getBinding {F : Type} (device : Option RoleDevice) (profile : Option (OxrInteractionProfile F)) (actKey : ℕ)
    (actionType : XrActionType) (subactionPath : OxrSubactionPath) :
    List (OxrActionInput F) × List OxrActionOutput :=
  match device, profile with
  | some device, some profile =>
    let xbp := getMatchingBindingProfile profile device.fields
    if profile.xname ≠ device.fields.name ∧ xbp.isNone then ([], [])
    else
      let points := (findBindingsFromActKey profile.bindings actKey).filter (·.subactionPath == subactionPath)
      if actionType = .vibrationOutput then
        ([], points.filterMap fun b => doOutputs b device xbp (getMatchedXrPath b actKey))
      else (points.filterMap fun b => doInputs b device xbp (getMatchedXrPath b actKey), [])
  | _, _ => ([], [])

/-! ## Transforms of a bound input -/

/-- `is_dpad_region_for_emulation`: from the last slash before the end, but not the first character. -/
def isDpadRegionForEmulation (str : PathString) (endIndex : ℕ) : Bool :=
  match (List.range endIndex).reverse.find? fun i => decide (0 < i) && str[i]? == some 47 with
  | none => false
  | some i =>
    let rest := str.drop i
    [ascii ['/', 't', 'h', 'u', 'm', 'b', 's', 't', 'i', 'c', 'k', '_'],
      ascii ['/', 't', 'h', 'u', 'm', 'b', 's', 't', 'i', 'c', 'k', '/'],
      ascii ['/', 't', 'r', 'a', 'c', 'k', 'p', 'a', 'd', '_'],
      ascii ['/', 't', 'r', 'a', 'c', 'k', 'p', 'a', 'd', '/']].any (List.isPrefixOf · rest)

def dpadRegionNames : List (PathString × ℕ) :=
  [(ascii ['/', 'd', 'p', 'a', 'd', '_', 'l', 'e', 'f', 't'], OXR_DPAD_REGION_LEFT),
    (ascii ['/', 'd', 'p', 'a', 'd', '_', 'r', 'i', 'g', 'h', 't'], OXR_DPAD_REGION_RIGHT),
    (ascii ['/', 'd', 'p', 'a', 'd', '_', 'u', 'p'], OXR_DPAD_REGION_UP),
    (ascii ['/', 'd', 'p', 'a', 'd', '_', 'd', 'o', 'w', 'n'], OXR_DPAD_REGION_DOWN),
    (ascii ['/', 'd', 'p', 'a', 'd', '_', 'c', 'e', 'n', 't', 'e', 'r'], OXR_DPAD_REGION_CENTER)]

/-- `get_dpad_region_from_path`, of the string of a valid path. -/
def getDpadRegionFromPath (str : PathString) : Option ℕ :=
  (dpadRegionNames.find? fun (name, _) =>
    endsWith str name && isDpadRegionForEmulation str (str.length - name.length)).map (·.2)

def findMatchingDpad {F : Type} (string : XrPath → PathString) (dpads : List (XrPath × OxrDpadSettings F))
    (boundPath : PathString) : Option (OxrDpadSettings F) :=
  (dpads.find? fun (binding, _) => (string binding).isPrefixOf boundPath).map (·.2)

section
variable {F : Type} [Field F] [LinearOrder F]

/-- `oxr_action_populate_input_transform`, or `oxr_action_populate_input_transform_dpad` for the region of a dpad. -/
def findTransforms (piOver2 : F) (string : XrPath → PathString) (dpads : List (XrPath × OxrDpadSettings F))
    (actionType : XrActionType) (input : OxrActionInput F) : Option (List (OxrInputTransform F)) :=
  let str := string input.boundPath
  match getDpadRegionFromPath str with
  | some region =>
    createChainDpad piOver2 (xrtGetInputType input.input) actionType (findMatchingDpad string dpads str) region
      (xrtGetInputType (input.dpadActivate.getD 0)) (input.dpadActivate.map (input.xdev, ·))
  | none => createChain (xrtGetInputType input.input) actionType str

def boundInputs (piOver2 : F) (string : XrPath → PathString) (dpads : List (XrPath × OxrDpadSettings F))
    (actionType : XrActionType) (inputs : List (OxrActionInput F)) : List (OxrActionInput F) :=
  inputs.filterMap fun input =>
    (findTransforms piOver2 string dpads actionType input).map fun transforms => { input with transforms := transforms }

omit [LinearOrder F] in
theorem boundInputs_delivers {piOver2 : F} {string : XrPath → PathString} {dpads : List (XrPath × OxrDpadSettings F)}
    {actionType : XrActionType} {inputs : List (OxrActionInput F)} {input : OxrActionInput F}
    (h : input ∈ boundInputs piOver2 string dpads actionType inputs) : Delivers actionType input.transforms := by
  obtain ⟨found, -, hfound⟩ := List.mem_filterMap.1 h
  obtain ⟨transforms, htransforms, rfl⟩ := Option.map_eq_some_iff.1 hfound
  unfold findTransforms at htransforms
  dsimp only at htransforms
  split at htransforms
  · exact createChainDpad_delivers htransforms
  · exact createChain_delivers htransforms

end

end AugmentedInsanity.Oxr
