/-
What is done to the value of an input before an action has it (`oxr_input_transform.c`): a chain of transforms, that is
made when the input is bound and that a dpad keeps its state in. A chain that was made for an action never fails, and
gives a value of the type of the action (`Delivers.process`).
-/
import Mathlib.Algebra.Order.Field.Basic
import AugmentedInsanity.Oxr.PathStore
import AugmentedInsanity.Xrt.Device

namespace AugmentedInsanity.Oxr

open Xrt

/-- The numeral `2` of a field, by one name wherever a definition has it. -/
scoped instance atLeastTwo_two : Nat.AtLeastTwo 2 := ⟨Nat.le_refl 2⟩

/-! ## Values -/

inductive XrActionType
  | booleanInput
  | floatInput
  | vector2fInput
  | poseInput
  | vibrationOutput
  deriving DecidableEq

/-- `union xrt_input_value`, with the members apart: the type of an input tells which of them is used. -/
structure XrtInputValue (F : Type) where
  boolean : Bool
  vec1 : F
  vec2 : F × F
  deriving DecidableEq

structure OxrInputValueTagged (F : Type) where
  type : XrtInputType
  value : XrtInputValue F

structure InputReading (F : Type) where
  active : Bool
  timestamp : ℤ
  value : XrtInputValue F

/-- The inputs of the devices, of which the first with a name is meant, and `atan2f`. -/
structure Devices (F : Type) where
  input : ℕ → XrtInputName → InputReading F
  atan2f : F → F → F

/-! ## Dpads -/

/-- The values of `enum oxr_dpad_region`. -/
abbrev OXR_DPAD_REGION_CENTER : ℕ := 0
abbrev OXR_DPAD_REGION_UP : ℕ := 1
abbrev OXR_DPAD_REGION_DOWN : ℕ := 2
abbrev OXR_DPAD_REGION_LEFT : ℕ := 4
abbrev OXR_DPAD_REGION_RIGHT : ℕ := 8

structure OxrDpadSettings (F : Type) where
  forceThreshold : F
  forceThresholdReleased : F
  centerRegion : F
  wedgeAngle : F
  isSticky : Bool

/-- `struct oxr_input_transform_dpad_data`; the activation input is one of a device. -/
structure OxrDpadData (F : Type) where
  boundRegion : ℕ
  activeRegions : ℕ
  settings : OxrDpadSettings F
  activationInputType : XrtInputType
  activationInput : Option (ℕ × XrtInputName)
  alreadyActive : Bool

/-- `U_ZERO` of a value. -/
def XrtInputValue.zero {F : Type} [Zero F] : XrtInputValue F := ⟨false, 0, (0, 0)⟩

section
variable {F : Type} [Neg F] [Add F] [Mul F] [Div F] [OfNat F 2] [LT F] [LE F] [DecidableLT F] [DecidableLE F]

namespace OxrDpadData

/-- Whether the activation input is pressed; a force has to fall further than it had to rise. -/
def activated (dpad : OxrDpadData F) (devices : Devices F) (xdev : ℕ) (name : XrtInputName) : Bool :=
  match dpad.activationInputType with
  | .boolean => (devices.input xdev name).value.boolean
  | .vec1ZeroToOne =>
    let force := (devices.input xdev name).value.vec1
    decide (dpad.settings.forceThreshold ≤ force) ||
      dpad.alreadyActive && decide (dpad.settings.forceThresholdReleased ≤ force)
  | _ => false

def pointsAt (dpad : OxrDpadData F) (devices : Devices F) (x y : F) (queryRegion : ℕ) : Bool :=
  let rot90 := queryRegion == OXR_DPAD_REGION_LEFT || queryRegion == OXR_DPAD_REGION_RIGHT
  let rot180 := queryRegion == OXR_DPAD_REGION_DOWN || queryRegion == OXR_DPAD_REGION_RIGHT
  let localX := if rot90 then y else x
  let localY := if rot90 then -x else y
  let localX := if rot180 then -localX else localX
  let localY := if rot180 then -localY else localY
  let centerRadius := dpad.settings.centerRegion
  if localX * localX + localY * localY ≤ centerRadius * centerRadius then false
  else
    let tanXY := devices.atan2f localX localY
    let halfAngle := dpad.settings.wedgeAngle / 2
    decide (-halfAngle < tanXY) && decide (tanXY ≤ halfAngle)

def regions (dpad : OxrDpadData F) (devices : Devices F) (x y : F) : ℕ :=
  [OXR_DPAD_REGION_UP, OXR_DPAD_REGION_DOWN, OXR_DPAD_REGION_LEFT, OXR_DPAD_REGION_RIGHT].foldl
    (fun active query => if dpad.pointsAt devices x y query then active ||| query else active) OXR_DPAD_REGION_CENTER

/-- A dpad that is pressed; one that sticks keeps its regions until it is released or comes to the center. -/
def press (dpad : OxrDpadData F) (devices : Devices F) (x y : F) : OxrDpadData F × Bool :=
  let activeRegions := dpad.regions devices x y
  let dpad :=
    if !dpad.alreadyActive || !dpad.settings.isSticky || dpad.activeRegions == OXR_DPAD_REGION_CENTER ||
        activeRegions == OXR_DPAD_REGION_CENTER then
      { dpad with activeRegions := activeRegions }
    else dpad
  (dpad, dpad.activeRegions == dpad.boundRegion || dpad.activeRegions &&& dpad.boundRegion != 0)

/-- The case `INPUT_TRANSFORM_DPAD` of `oxr_input_transform_process`. -/
def process (dpad : OxrDpadData F) (devices : Devices F) (x y : F) : OxrDpadData F × Bool :=
  match dpad.activationInput with
  | none => dpad.press devices x y
  | some (xdev, name) =>
    let active := dpad.activated devices xdev name
    let dpad := { dpad with alreadyActive := active }
    if active then dpad.press devices x y else ({ dpad with activeRegions := OXR_DPAD_REGION_CENTER }, false)

end OxrDpadData

/-! ## Transforms -/

/-- `enum oxr_input_transform_type`, with the data. -/
inductive OxrInputTransformType (F : Type)
  | invalid
  | identity
  | vec2GetX
  | vec2GetY
  | threshold (threshold : F) (invert : Bool)
  | boolToVec1 (trueVal falseVal : F)
  | dpad (state : OxrDpadData F)

structure OxrInputTransform (F : Type) where
  type : OxrInputTransformType F
  resultType : XrtInputType

namespace OxrInputTransform

/-- One round of the loop of `oxr_input_transform_process`. -/
def process (xform : OxrInputTransform F) (devices : Devices F) (value : XrtInputValue F) :
    OxrInputTransform F × Option (OxrInputValueTagged F) :=
  match xform.type with
  | .invalid => (xform, none)
  | .identity => (xform, some ⟨xform.resultType, value⟩)
  | .vec2GetX => (xform, some ⟨xform.resultType, { value with vec1 := value.vec2.1 }⟩)
  | .vec2GetY => (xform, some ⟨xform.resultType, { value with vec1 := value.vec2.2 }⟩)
  | .threshold threshold invert =>
    (xform, some ⟨xform.resultType, { value with boolean := xor (decide (threshold < value.vec1)) invert }⟩)
  | .boolToVec1 trueVal falseVal =>
    (xform, some ⟨xform.resultType, { value with vec1 := if value.boolean then trueVal else falseVal }⟩)
  | .dpad state =>
    let (state, pressed) := state.process devices value.vec2.1 value.vec2.2
    ({ xform with type := .dpad state }, some ⟨xform.resultType, { value with boolean := pressed }⟩)

/-- The loop of `oxr_input_transform_process`. -/
def processAll (devices : Devices F) :
    List (OxrInputTransform F) → OxrInputValueTagged F → List (OxrInputTransform F) × Option (OxrInputValueTagged F)
  | [], data => ([], some data)
  | xform :: transforms, data =>
    match xform.process devices data.value with
    | (xform, none) => (xform :: transforms, none)
    | (xform, some data) =>
      let (transforms, out) := processAll devices transforms data
      (xform :: transforms, out)

/-- `oxr_input_transform_process`; no transforms are a null pointer. -/
def processChain (devices : Devices F) (transforms : List (OxrInputTransform F)) (input : OxrInputValueTagged F) :
    List (OxrInputTransform F) × Option (OxrInputValueTagged F) :=
  if transforms.isEmpty then (transforms, none) else processAll devices transforms input

end OxrInputTransform

end

/-! ## Making a chain -/

section
variable {F : Type} [Field F]

def endsWith (str suffix : PathString) : Bool := suffix.isSuffixOf str

def ascii (chars : List Char) : PathString := chars.map fun c => c.val.toUInt8

def oxrTypeMatchesXrt (inputType : XrtInputType) : XrActionType → Bool
  | .booleanInput => inputType == .boolean
  | .floatInput => inputType == .vec1MinusOneToOne || inputType == .vec1ZeroToOne
  | .vector2fInput => inputType == .vec2MinusOneToOne
  | .poseInput | .vibrationOutput => false

/-- `extend_transform_array`, after a transform that gives the type. -/
def extendTransformArray (inputType : XrtInputType) (resultType : XrActionType) (boundPath : PathString) :
    Option (OxrInputTransform F) :=
  if inputType = .vec2MinusOneToOne ∧ resultType ≠ .vector2fInput then
    if endsWith boundPath (ascii ['/', 'x']) then some ⟨.vec2GetX, .vec1MinusOneToOne⟩
    else if endsWith boundPath (ascii ['/', 'y']) then some ⟨.vec2GetY, .vec1MinusOneToOne⟩
    else none
  else
    match inputType, resultType with
    | .vec1MinusOneToOne, .booleanInput => some ⟨.threshold (1 / 5) false, .boolean⟩
    | .vec1ZeroToOne, .booleanInput => some ⟨.threshold (7 / 10) false, .boolean⟩
    | .boolean, .floatInput => some ⟨.boolToVec1 1 0, .vec1ZeroToOne⟩
    | _, _ => none

abbrev OXR_MAX_INPUT_TRANSFORMS : ℕ := 5

/-- The loop of `oxr_input_transform_create_chain`, with how many transforms there is room for. -/
def extendChain (resultType : XrActionType) (boundPath : PathString) :
    ℕ → XrtInputType → Option (List (OxrInputTransform F))
  | room, current =>
    if oxrTypeMatchesXrt current resultType then some []
    else
      match room with
      | 0 => none
      | room + 1 =>
        match extendTransformArray current resultType boundPath with
        | none => none
        | some xform => (extendChain resultType boundPath room xform.resultType).map (xform :: ·)

def isIdentity (inputType : XrtInputType) (resultType : XrActionType) : Bool :=
  (resultType == .poseInput && inputType == .pose) || oxrTypeMatchesXrt inputType resultType

def createChain (inputType : XrtInputType) (resultType : XrActionType) (boundPath : PathString) :
    Option (List (OxrInputTransform F)) :=
  if isIdentity inputType resultType then some [⟨.identity, inputType⟩]
  else extendChain resultType boundPath OXR_MAX_INPUT_TRANSFORMS inputType

/-- `oxr_input_transform_create_chain_dpad`, with `M_PI_2`. -/
def createChainDpad (piOver2 : F) (inputType : XrtInputType) (resultType : XrActionType)
    (modification : Option (OxrDpadSettings F)) (dpadRegion : ℕ) (activationInputType : XrtInputType)
    (activationInput : Option (ℕ × XrtInputName)) : Option (List (OxrInputTransform F)) :=
  if inputType ≠ .vec2MinusOneToOne then none
  else if resultType ≠ .booleanInput then none
  else
    some
      [⟨.dpad
          { boundRegion := dpadRegion
            activeRegions := OXR_DPAD_REGION_CENTER
            settings := modification.getD ⟨1 / 2, 2 / 5, 1 / 2, piOver2, false⟩
            activationInputType := activationInputType
            activationInput := activationInput
            alreadyActive := activationInput.isNone },
        .boolean⟩]

end

/-! ## What a chain gives -/

section
variable {F : Type} [Neg F] [Add F] [Mul F] [Div F] [OfNat F 2] [LT F] [LE F] [DecidableLT F] [DecidableLE F]
  {transforms : List (OxrInputTransform F)}

/-- A chain gives values of a type that an action has. -/
structure Delivers (action : XrActionType) (transforms : List (OxrInputTransform F)) : Prop where
  nonempty : transforms ≠ []
  valid : ∀ xform ∈ transforms, xform.type ≠ .invalid
  result : ∀ xform, transforms.getLast? = some xform → isIdentity xform.resultType action = true

theorem OxrInputTransform.process_valid {xform : OxrInputTransform F} (h : xform.type ≠ .invalid) (devices : Devices F)
    (value : XrtInputValue F) :
    (∃ data, (xform.process devices value).2 = some data ∧ data.type = xform.resultType) ∧
      (xform.process devices value).1.type ≠ .invalid ∧
      (xform.process devices value).1.resultType = xform.resultType := by
  unfold OxrInputTransform.process
  cases htype : xform.type with
  | invalid => exact absurd htype h
  | dpad state => exact ⟨⟨_, rfl, rfl⟩, nofun, rfl⟩
  | identity | vec2GetX | vec2GetY | threshold _ _ | boolToVec1 _ _ =>
    refine ⟨⟨_, rfl, rfl⟩, ?_, rfl⟩
    rw [htype]
    exact nofun

theorem OxrInputTransform.processAll_valid (h : ∀ xform ∈ transforms, xform.type ≠ .invalid) (devices : Devices F)
    (data : OxrInputValueTagged F) :
    (∃ out, (processAll devices transforms data).2 = some out ∧
        out.type = ((transforms.getLast?.map (·.resultType)).getD data.type)) ∧
      (∀ xform ∈ (processAll devices transforms data).1, xform.type ≠ .invalid) ∧
      (processAll devices transforms data).1.map (·.resultType) = transforms.map (·.resultType) := by
  induction transforms generalizing data with
  | nil => exact ⟨⟨data, rfl, rfl⟩, List.forall_mem_nil _, rfl⟩
  | cons xform transforms ih =>
    obtain ⟨hxform, htransforms⟩ := List.forall_mem_cons.1 h
    obtain ⟨⟨next, hnext, htype⟩, hvalid, hresult⟩ := process_valid hxform devices data.value
    obtain ⟨⟨out, hout, hlast⟩, hvalids, hresults⟩ := ih htransforms next
    obtain ⟨xform', o, hprocess⟩ : ∃ xform' o, xform.process devices data.value = (xform', o) := ⟨_, _, rfl⟩
    rw [hprocess] at hnext hvalid hresult
    subst hnext
    unfold processAll
    rw [hprocess]
    refine ⟨⟨out, hout, ?_⟩, List.forall_mem_cons.2 ⟨hvalid, hvalids⟩, ?_⟩
    · rw [hlast, htype, List.getLast?_cons]
      cases transforms.getLast? <;> rfl
    · exact congrArg₂ List.cons hresult hresults

theorem Delivers.process {action : XrActionType} (h : Delivers action transforms) (devices : Devices F)
    (data : OxrInputValueTagged F) :
    (∃ out, (OxrInputTransform.processChain devices transforms data).2 = some out ∧
        isIdentity out.type action = true) ∧
      Delivers action (OxrInputTransform.processChain devices transforms data).1 := by
  have hsome : transforms.isEmpty = false := by simpa using h.nonempty
  obtain ⟨⟨out, hout, htype⟩, hvalid, hresults⟩ := OxrInputTransform.processAll_valid h.valid devices data
  obtain ⟨last, hlast⟩ : ∃ last, transforms.getLast? = some last :=
    Option.isSome_iff_exists.1 (by simpa using h.nonempty)
  unfold OxrInputTransform.processChain
  rw [hsome]
  refine ⟨⟨out, hout, ?_⟩, ?_, hvalid, ?_⟩
  · rw [htype, hlast]
    exact h.result last hlast
  · intro hnil
    simp only [Bool.false_eq_true, if_false] at hnil
    rw [hnil] at hresults
    exact h.nonempty (List.map_eq_nil_iff.1 hresults.symm)
  · intro xform hxform
    have hlasts := congrArg List.getLast? hresults
    simp only [Bool.false_eq_true, if_false] at hxform
    rw [List.getLast?_map, List.getLast?_map, hxform, hlast] at hlasts
    rw [show xform.resultType = last.resultType from Option.some.inj hlasts]
    exact h.result last hlast

theorem isIdentity_of_matches {inputType : XrtInputType} {action : XrActionType}
    (h : oxrTypeMatchesXrt inputType action = true) : isIdentity inputType action = true := by
  rw [isIdentity, h, Bool.or_true]

end

section
variable {F : Type} [Field F] {boundPath : PathString} {action : XrActionType} {transforms : List (OxrInputTransform F)}
  {inputType : XrtInputType}

theorem extendTransformArray_valid {xform : OxrInputTransform F}
    (h : extendTransformArray inputType action boundPath = some xform) : xform.type ≠ .invalid := by
  unfold extendTransformArray at h
  split at h
  · split at h
    · cases h
      exact nofun
    · split at h <;> cases h
      exact nofun
  · split at h <;> cases h <;> exact nofun

theorem extendChain_spec {room : ℕ} {current : XrtInputType}
    (h : extendChain action boundPath room current = some transforms) :
    (∀ xform ∈ transforms, xform.type ≠ .invalid) ∧
      oxrTypeMatchesXrt ((transforms.getLast?.map (·.resultType)).getD current) action = true := by
  induction room generalizing current transforms with
  | zero =>
    unfold extendChain at h
    split at h
    · cases h
      exact ⟨List.forall_mem_nil _, ‹_›⟩
    · cases h
  | succ room ih =>
    unfold extendChain at h
    split at h
    · cases h
      exact ⟨List.forall_mem_nil _, ‹_›⟩
    · dsimp only at h
      split at h
      · cases h
      · rename_i xform hextend
        obtain ⟨rest, hrest, rfl⟩ := Option.map_eq_some_iff.1 h
        obtain ⟨hvalid, htype⟩ := ih hrest
        refine ⟨List.forall_mem_cons.2 ⟨extendTransformArray_valid hextend, hvalid⟩, ?_⟩
        rw [List.getLast?_cons]
        cases hlast : rest.getLast? with
        | none => simpa [hlast] using htype
        | some last => simpa [hlast] using htype

theorem createChain_delivers (h : createChain inputType action boundPath = some transforms) :
    Delivers action transforms := by
  unfold createChain at h
  split at h
  · rename_i hidentity
    cases h
    exact ⟨nofun, by simp, by simpa using hidentity⟩
  · rename_i hidentity
    obtain ⟨hvalid, htype⟩ := extendChain_spec h
    refine ⟨?_, hvalid, ?_⟩
    · rintro rfl
      exact hidentity (isIdentity_of_matches htype)
    · intro xform hxform
      rw [hxform] at htype
      exact isIdentity_of_matches htype

theorem createChainDpad_delivers {piOver2 : F} {inputType activationInputType : XrtInputType} {action : XrActionType}
    {modification : Option (OxrDpadSettings F)} {dpadRegion : ℕ} {activationInput : Option (ℕ × XrtInputName)}
    {transforms : List (OxrInputTransform F)}
    (h : createChainDpad piOver2 inputType action modification dpadRegion activationInputType activationInput =
      some transforms) : Delivers action transforms := by
  unfold createChainDpad at h
  split at h
  · cases h
  · split at h
    · cases h
    · rename_i haction
      cases h
      rw [not_not.1 haction]
      exact ⟨nofun, by simp, by simp [isIdentity, oxrTypeMatchesXrt]⟩

end

end AugmentedInsanity.Oxr
