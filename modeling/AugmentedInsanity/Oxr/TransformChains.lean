/-
The chains of transforms that `oxr_input_transform_create_chain` makes, and what `oxr_input_transform_process` does with
them in the one union that all values share. The rules that extend a chain are conversions between the types of inputs,
each with the type that its `init` function asserts of the parent; a chain is a path of them, so that no member of the
union is read but the one that was written last (`createChain_converts`).
-/
import AugmentedInsanity.Lib.CellArrays
import AugmentedInsanity.Lib.TypedPaths
import AugmentedInsanity.Oxr.InputTransforms

namespace AugmentedInsanity.Oxr

open CellArrays TypedPaths Xrt Quiver

/-! ## The union -/

/-- What four bytes of a value hold: a float, a boolean in the first of them, or anything else. -/
inductive XrtInputWord (F : Type)
  | float (x : F)
  | boolean (b : Bool)
  | other

namespace XrtInputWord

variable {F : Type}

def float? : XrtInputWord F → Option F
  | .float x => some x
  | .boolean _ | .other => none

def boolean? : XrtInputWord F → Option Bool
  | .boolean b => some b
  | .float _ | .other => none

end XrtInputWord

/-- `union xrt_input_value`: `vec1.x`, `vec2.x` and `boolean` are in the first word, and `vec2.y` is in the second. -/
structure XrtInputUnion (F : Type) where
  first : XrtInputWord F
  second : XrtInputWord F

/-- `struct oxr_input_value_tagged`, with the union. -/
structure OxrInputUnionTagged (F : Type) where
  type : XrtInputType
  value : XrtInputUnion F

section
variable {F : Type} [Field F] [LinearOrder F] {resultType : XrActionType}

namespace OxrInputTransform

/-- One round of the loop of `oxr_input_transform_process`; there is no result either where what is read is not there.
-/
def processUnion (xform : OxrInputTransform F) (devices : Devices F) (value : XrtInputUnion F) :
    OxrInputTransform F × Option (XrtInputUnion F) :=
  match xform.type with
  | .invalid => (xform, none)
  | .identity => (xform, some value)
  | .vec2GetX => (xform, value.first.float?.map fun x => { value with first := .float x })
  | .vec2GetY => (xform, value.second.float?.map fun y => { value with first := .float y })
  | .threshold threshold invert =>
    (xform, value.first.float?.map fun x => { value with first := .boolean (xor (decide (threshold < x)) invert) })
  | .boolToVec1 trueVal falseVal =>
    (xform, value.first.boolean?.map fun b => { value with first := .float (if b then trueVal else falseVal) })
  | .dpad state =>
    match value.first.float?, value.second.float? with
    | some x, some y =>
      let (state, pressed) := state.process devices x y
      ({ xform with type := .dpad state }, some { value with first := .boolean pressed })
    | _, _ => (xform, none)

def processRound (devices : Devices F) (xform : OxrInputTransform F) (data : OxrInputUnionTagged F) :
    OxrInputTransform F × Option (OxrInputUnionTagged F) :=
  let (xform, value) := xform.processUnion devices data.value
  (xform, value.map fun value => ⟨xform.resultType, value⟩)

/-- `oxr_input_transform_process`; no transforms are a null pointer. -/
def oxrInputTransformProcess (devices : Devices F) (transforms : List (OxrInputTransform F))
    (input : OxrInputUnionTagged F) : List (OxrInputTransform F) × Option (OxrInputUnionTagged F) :=
  if transforms.isEmpty then (transforms, none) else runAll (processRound devices) transforms input

end OxrInputTransform

/-! ## Making a chain -/

/-- What `oxr_input_transform_create_chain` returns and writes; no transforms are a null pointer. -/
structure ChainOutputs (F : Type) where
  result : Bool
  transforms : Option (List (OxrInputTransform F))
  count : ℕ

def ChainOutputs.failed : ChainOutputs F := ⟨false, none, 0⟩

/-- `oxr_input_transform_clone_chain` of the first transforms of the array. -/
def ChainOutputs.clone (chain : ℕ → OxrInputTransform F) (count : ℕ) : ChainOutputs F :=
  ⟨true, some (contents chain count), count⟩

/-- The loop of `oxr_input_transform_create_chain`, with the array `chain`, the index of `current_xform`, and how many
transforms there are. -/
def createChainLoop (resultType : XrActionType) (boundPath : PathString) (chain : ℕ → OxrInputTransform F)
    (current count : ℕ) : ChainOutputs F :=
  if oxrTypeMatchesXrt (chain current).resultType resultType then .clone chain count
  else if OXR_MAX_INPUT_TRANSFORMS ≤ count then .failed
  else
    match extendTransformArray (chain current).resultType resultType boundPath with
    | none => .failed
    | some xform => createChainLoop resultType boundPath (Function.update chain count xform) count (count + 1)
termination_by OXR_MAX_INPUT_TRANSFORMS - count

/-- `oxr_input_transform_create_chain`; the root of the chain is where the loop writes its first transform. -/
def oxrInputTransformCreateChain (inputType : XrtInputType) (resultType : XrActionType) (boundPath : PathString) :
    ChainOutputs F :=
  let chain : ℕ → OxrInputTransform F := Function.update (fun _ => ⟨.invalid, .vec1ZeroToOne⟩) 0 ⟨.identity, inputType⟩
  if isIdentity inputType resultType then .clone chain 1
  else createChainLoop resultType boundPath chain 0 0

def ChainOutputs.ofChain (transforms : Option (List (OxrInputTransform F))) : ChainOutputs F :=
  match transforms with
  | none => .failed
  | some transforms => ⟨true, some transforms, transforms.length⟩

omit [LinearOrder F] in
theorem createChainLoop_eq {boundPath : PathString} {chain : ℕ → OxrInputTransform F} {current count room : ℕ}
    (hroom : count + room = OXR_MAX_INPUT_TRANSFORMS) :
    createChainLoop resultType boundPath chain current count =
      .ofChain
        ((extendChain resultType boundPath room (chain current).resultType).map (contents chain count ++ ·)) := by
  induction room generalizing chain current count with
  | zero =>
    rw [createChainLoop, extendChain]
    split
    · simp [ChainOutputs.clone, ChainOutputs.ofChain]
    · rw [if_pos (by omega)]
      rfl
  | succ room ih =>
    rw [createChainLoop, extendChain]
    split
    · simp [ChainOutputs.clone, ChainOutputs.ofChain]
    · rw [if_neg (by omega)]
      cases (extendTransformArray (chain current).resultType resultType boundPath : Option (OxrInputTransform F)) with
      | none => rfl
      | some xform =>
        dsimp only
        rw [ih (by omega), Function.update_self, contents_update, Option.map_map]
        simp [Function.comp_def]

omit [LinearOrder F] in
theorem oxrInputTransformCreateChain_eq {inputType : XrtInputType} {boundPath : PathString} :
    oxrInputTransformCreateChain (F := F) inputType resultType boundPath =
      .ofChain (createChain inputType resultType boundPath) := by
  unfold oxrInputTransformCreateChain createChain
  dsimp only
  split
  · rfl
  · rw [createChainLoop_eq (Nat.zero_add OXR_MAX_INPUT_TRANSFORMS), Function.update_self]
    simp

end

/-! ## Conversions -/

def inputIsFloat : XrtInputType → Bool
  | .vec1ZeroToOne | .vec1MinusOneToOne => true
  | _ => false

/-- The values of a type; of one that a union has no member for it is whatever the union holds. -/
def InputValue (F : Type) : XrtInputType → Type
  | .boolean => Bool
  | .vec1ZeroToOne | .vec1MinusOneToOne => F
  | .vec2MinusOneToOne => F × F
  | _ => XrtInputUnion F

section
variable {F : Type} {type : XrtInputType} {union : XrtInputUnion F}

def InputValue.float : {type : XrtInputType} → inputIsFloat type = true → InputValue F type → F
  | .vec1ZeroToOne, _, x => x
  | .vec1MinusOneToOne, _, x => x

def InputValue.ofFloat : {type : XrtInputType} → inputIsFloat type = true → F → InputValue F type
  | .vec1ZeroToOne, _, x => x
  | .vec1MinusOneToOne, _, x => x

def XrtInputUnion.Holds (union : XrtInputUnion F) : (type : XrtInputType) → InputValue F type → Prop
  | .boolean, b => union.first = .boolean b
  | .vec1ZeroToOne, x => union.first = .float x
  | .vec1MinusOneToOne, x => union.first = .float x
  | .vec2MinusOneToOne, v => union.first = .float v.1 ∧ union.second = .float v.2
  | .vec3MinusOneToOne, v => union = v
  | .pose, v => union = v
  | .handTracking, v => union = v
  | .faceTracking, v => union = v
  | .bodyTracking, v => union = v
  | .other _, v => union = v

theorem XrtInputUnion.holds_float (h : inputIsFloat type = true) {value : InputValue F type} :
    union.Holds type value ↔ union.first = .float (value.float h) := by
  cases type <;> first | exact Iff.rfl | cases h

theorem XrtInputUnion.holds_ofFloat (h : inputIsFloat type = true) {x : F} :
    union.Holds type (.ofFloat h x) ↔ union.first = .float x := by
  cases type <;> first | exact Iff.rfl | cases h

end

/-- What a transform turns into what; the types are those that the functions that initialize transforms assert. -/
inductive Conversion (F : Type) : XrtInputType → XrtInputType → Type
  | identity (type : XrtInputType) : Conversion F type type
  | vec2GetX : Conversion F .vec2MinusOneToOne .vec1MinusOneToOne
  | vec2GetY : Conversion F .vec2MinusOneToOne .vec1MinusOneToOne
  | threshold {source : XrtInputType} (hsource : inputIsFloat source = true) (limit : F) (invert : Bool) :
      Conversion F source .boolean
  | boolToVec1 {result : XrtInputType} (hresult : inputIsFloat result = true) (trueVal falseVal : F) :
      Conversion F .boolean result

namespace Conversion

variable {F : Type} {source target : XrtInputType}

/-- The transform that is initialized for a conversion. -/
def erase : Conversion F source target → OxrInputTransform F
  | .identity _ => ⟨.identity, target⟩
  | .vec2GetX => ⟨.vec2GetX, target⟩
  | .vec2GetY => ⟨.vec2GetY, target⟩
  | .threshold _ limit invert => ⟨.threshold limit invert, target⟩
  | .boolToVec1 _ trueVal falseVal => ⟨.boolToVec1 trueVal falseVal, target⟩

def convert [LinearOrder F] : Conversion F source target → InputValue F source → InputValue F target
  | .identity _, v => v
  | .vec2GetX, v => v.1
  | .vec2GetY, v => v.2
  | .threshold hsource limit invert, x => xor (decide (limit < x.float hsource)) invert
  | .boolToVec1 hresult trueVal falseVal, (b : Bool) => .ofFloat hresult (if b then trueVal else falseVal)

theorem erase_resultType (conversion : Conversion F source target) : conversion.erase.resultType = target := by
  cases conversion <;> rfl

end Conversion

structure ConvertedType (F : Type) where
  type : XrtInputType

instance (F : Type) : Quiver (ConvertedType F) := ⟨fun source target => Conversion F source.type target.type⟩

abbrev Conversions (F : Type) (source target : XrtInputType) : Type :=
  Path (⟨source⟩ : ConvertedType F) ⟨target⟩

namespace Conversions

variable {F : Type} {source next target : XrtInputType}

def first (conversion : Conversion F source next) (chain : Conversions F next target) : Conversions F source target :=
  Path.comp (Hom.toPath (V := ConvertedType F) (a := ⟨source⟩) (b := ⟨next⟩) conversion) chain

def erase (chain : Conversions F source target) : List (OxrInputTransform F) := eraseAll Conversion.erase chain

/-- What a chain makes of a value, one conversion after the other. -/
def convert [LinearOrder F] (chain : Conversions F source target) : InputValue F source → InputValue F target :=
  applyAll (V := fun type : ConvertedType F => InputValue F type.type) Conversion.convert chain

theorem erase_first (conversion : Conversion F source next) (chain : Conversions F next target) :
    (first conversion chain).erase = conversion.erase :: chain.erase :=
  eraseAll_comp _ chain

theorem length_first (conversion : Conversion F source next) (chain : Conversions F next target) :
    Path.length (first conversion chain) = chain.length + 1 := by
  rw [first, Path.length_comp, Path.length_toPath, Nat.add_comm]

end Conversions

section
variable {F : Type} [Field F] [LinearOrder F] {source target : XrtInputType} {resultType : XrActionType}
  {boundPath : PathString}

variable {value : InputValue F source} {transforms : List (OxrInputTransform F)} {data : OxrInputUnionTagged F}

theorem Conversion.processUnion_erase (conversion : Conversion F source target) (devices : Devices F)
    {union : XrtInputUnion F} (h : union.Holds source value) :
    ∃ union', conversion.erase.processUnion devices union = (conversion.erase, some union') ∧
      union'.Holds target (conversion.convert value) := by
  cases conversion with
  | identity => exact ⟨union, rfl, h⟩
  | vec2GetX =>
    obtain ⟨hx, -⟩ := h
    refine ⟨{ union with first := .float value.1 }, ?_, rfl⟩
    simp only [erase, OxrInputTransform.processUnion, hx, XrtInputWord.float?, Option.map_some]
  | vec2GetY =>
    obtain ⟨-, hy⟩ := h
    refine ⟨{ union with first := .float value.2 }, ?_, rfl⟩
    simp only [erase, OxrInputTransform.processUnion, hy, XrtInputWord.float?, Option.map_some]
  | threshold hsource limit invert =>
    have hx := (XrtInputUnion.holds_float hsource).1 h
    refine ⟨{ union with first := .boolean (xor (decide (limit < value.float hsource)) invert) }, ?_, rfl⟩
    simp only [erase, OxrInputTransform.processUnion, hx, XrtInputWord.float?, Option.map_some]
  | boolToVec1 hresult trueVal falseVal =>
    obtain ⟨b, rfl⟩ : ∃ b : Bool, b = value := ⟨value, rfl⟩
    have hb : union.first = .boolean b := h
    refine ⟨{ union with first := .float (if b then trueVal else falseVal) }, ?_,
      (XrtInputUnion.holds_ofFloat hresult).2 rfl⟩
    simp only [erase, OxrInputTransform.processUnion, hb, XrtInputWord.boolean?, Option.map_some]

omit [LinearOrder F] in
theorem extendTransformArray_conversion {xform : OxrInputTransform F}
    (h : extendTransformArray source resultType boundPath = some xform) :
    ∃ (target : XrtInputType) (conversion : Conversion F source target), xform = conversion.erase := by
  unfold extendTransformArray at h
  split at h
  · rename_i hvec2
    obtain ⟨rfl, -⟩ := hvec2
    split at h
    · cases h
      exact ⟨_, Conversion.vec2GetX, rfl⟩
    · split at h
      · cases h
        exact ⟨_, Conversion.vec2GetY, rfl⟩
      · cases h
  · split at h
    · cases h
      exact ⟨_, Conversion.threshold rfl (1 / 5) false, rfl⟩
    · cases h
      exact ⟨_, Conversion.threshold rfl (7 / 10) false, rfl⟩
    · cases h
      exact ⟨.vec1ZeroToOne, Conversion.boolToVec1 rfl 1 0, rfl⟩
    · cases h

omit [LinearOrder F] in
theorem extendChain_conversions {room : ℕ} (h : extendChain resultType boundPath room source = some transforms) :
    ∃ (target : XrtInputType) (chain : Conversions F source target),
      transforms = chain.erase ∧ chain.length ≤ room ∧ oxrTypeMatchesXrt target resultType = true := by
  induction room generalizing source transforms with
  | zero =>
    unfold extendChain at h
    split at h
    · rename_i hmatch
      cases h
      exact ⟨source, .nil, rfl, le_rfl, hmatch⟩
    · cases h
  | succ room ih =>
    unfold extendChain at h
    split at h
    · rename_i hmatch
      cases h
      exact ⟨source, .nil, rfl, Nat.zero_le _, hmatch⟩
    · dsimp only at h
      split at h
      · cases h
      · rename_i xform hxform
        obtain ⟨next, conversion, rfl⟩ := extendTransformArray_conversion hxform
        obtain ⟨rest, hrest, rfl⟩ := Option.map_eq_some_iff.1 h
        rw [conversion.erase_resultType] at hrest
        obtain ⟨target, chain, rfl, hlength, hmatch⟩ := ih hrest
        refine ⟨target, .first conversion chain, (Conversions.erase_first conversion chain).symm, ?_, hmatch⟩
        rw [Conversions.length_first]
        exact Nat.succ_le_succ hlength

omit [LinearOrder F] in
theorem createChain_conversions (h : createChain source resultType boundPath = some transforms) :
    ∃ (target : XrtInputType) (chain : Conversions F source target),
      transforms = chain.erase ∧ chain.length ≤ OXR_MAX_INPUT_TRANSFORMS ∧ isIdentity target resultType = true := by
  unfold createChain at h
  split at h
  · rename_i hidentity
    cases h
    exact ⟨source, .first (.identity source) .nil, rfl, Nat.le_of_ble_eq_true rfl, hidentity⟩
  · obtain ⟨target, chain, htransforms, hlength, hmatch⟩ := extendChain_conversions h
    exact ⟨target, chain, htransforms, hlength, isIdentity_of_matches hmatch⟩

def OxrInputUnionTagged.Holds (data : OxrInputUnionTagged F) (type : XrtInputType) (value : InputValue F type) : Prop :=
  data.type = type ∧ data.value.Holds type value

theorem Conversion.processRound_erase (conversion : Conversion F source target) (devices : Devices F)
    (h : data.Holds source value) :
    ∃ data', OxrInputTransform.processRound devices conversion.erase data = (conversion.erase, some data') ∧
      data'.Holds target (conversion.convert value) := by
  obtain ⟨union, hprocess, hholds⟩ := conversion.processUnion_erase devices h.2
  refine ⟨⟨conversion.erase.resultType, union⟩, ?_, conversion.erase_resultType, hholds⟩
  rw [OxrInputTransform.processRound, hprocess]
  rfl

theorem Conversions.process_erase (chain : Conversions F source target) (hsome : chain.erase ≠ []) (devices : Devices F)
    (h : data.Holds source value) :
    ∃ data', OxrInputTransform.oxrInputTransformProcess devices chain.erase data = (chain.erase, some data') ∧
      data'.Holds target (chain.convert value) := by
  rw [OxrInputTransform.oxrInputTransformProcess, if_neg (by simpa using hsome)]
  exact runAll_eraseAll (OxrInputTransform.processRound devices) Conversion.erase Conversion.convert
    (fun (type : ConvertedType F) data value => data.Holds type.type value)
    (fun conversion _ _ h => Conversion.processRound_erase conversion devices h) chain h

/-! ## Which chains there are -/

/-- The input has the type of the action, or is converted to it: booleans and numbers are, and of a vector the component
that the path of the binding names. -/
def Convertible (inputType : XrtInputType) (resultType : XrActionType) (boundPath : PathString) : Prop :=
  isIdentity inputType resultType = true ∨
    resultType = .booleanInput ∧ inputIsFloat inputType = true ∨
    resultType = .floatInput ∧ inputType = .boolean ∨
    (resultType = .booleanInput ∨ resultType = .floatInput) ∧ inputType = .vec2MinusOneToOne ∧
      (endsWith boundPath (ascii ['/', 'x']) = true ∨ endsWith boundPath (ascii ['/', 'y']) = true)

omit [LinearOrder F] in
theorem createChain_isSome_iff :
    (createChain source resultType boundPath : Option (List (OxrInputTransform F))).isSome = true ↔
      Convertible source resultType boundPath := by
  unfold createChain Convertible
  -- the path matters only by the two suffixes
  cases hx : endsWith boundPath (ascii ['/', 'x']) <;> cases hy : endsWith boundPath (ascii ['/', 'y']) <;>
    cases resultType <;> cases source <;>
    simp [isIdentity, oxrTypeMatchesXrt, inputIsFloat, extendChain, extendTransformArray, hx, hy]

/-- `oxr_input_transform_create_chain` finds nothing, or a chain of at most so many conversions from the type of the
input to one that the action has, and with it any value of the input is converted. There is a chain wherever one can be
made. -/
theorem createChain_converts (devices : Devices F) (inputType : XrtInputType) (resultType : XrActionType)
    (boundPath : PathString) :
    ¬Convertible inputType resultType boundPath ∧
        oxrInputTransformCreateChain (F := F) inputType resultType boundPath = ⟨false, none, 0⟩ ∨
      Convertible inputType resultType boundPath ∧
        ∃ (target : XrtInputType) (chain : Conversions F inputType target),
          oxrInputTransformCreateChain inputType resultType boundPath = ⟨true, some chain.erase, chain.length⟩ ∧
            isIdentity target resultType = true ∧ chain.length ≤ OXR_MAX_INPUT_TRANSFORMS ∧
            ∀ data (value : InputValue F inputType), OxrInputUnionTagged.Holds data inputType value →
              ∃ out, OxrInputTransform.oxrInputTransformProcess devices chain.erase data = (chain.erase, some out) ∧
                out.Holds target (chain.convert value) := by
  rw [oxrInputTransformCreateChain_eq, ← createChain_isSome_iff (F := F)]
  cases hchain : (createChain inputType resultType boundPath : Option (List (OxrInputTransform F))) with
  | none => exact Or.inl ⟨Bool.false_ne_true, rfl⟩
  | some transforms =>
    obtain ⟨target, chain, rfl, hlength, hidentity⟩ := createChain_conversions hchain
    have hcount : ChainOutputs.ofChain (some chain.erase) = ⟨true, some chain.erase, chain.length⟩ := by
      rw [ChainOutputs.ofChain, Conversions.erase, length_eraseAll]
    exact Or.inr ⟨rfl, target, chain, hcount, hidentity, hlength, fun data value h =>
      chain.process_erase (createChain_delivers hchain).nonempty devices h⟩

end

end AugmentedInsanity.Oxr
