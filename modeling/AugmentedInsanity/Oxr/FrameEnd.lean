/-
What is checked of a frame before it is submitted (`oxr_session_frame_end.c`): each layer by a function for its
type. The rectangle of a sub-image may have a negative extent, and the function that checks blend factors does not
return what it should; apart from these, just the frames that are as they have to be are submitted
(`FrameEnd.verified_iff`).
-/
import AugmentedInsanity.Base.RelationChain
import AugmentedInsanity.Lib.Checks
import AugmentedInsanity.Oxr.Swapchain

namespace AugmentedInsanity.Oxr

open Base Checks

/-! ## Numbers and poses

What is checked of floating point numbers is left to the machine. -/

/-- The comparisons of floats. -/
class FloatTests (F : Type) where
  zero : F
  one : F
  lt : F → F → Bool
  eq : F → F → Bool
  /-- A comparison with the double `M_PI * 2`. -/
  gtTwoPi : F → Bool

/-- The checks of poses in `m_api.h`. -/
class PoseTests (Q V : Type) where
  mathQuatValidateWithin1Percent : Q → Bool
  mathVec3Validate : V → Bool

/-! ## Sub-images -/

structure XrOffset2Di where
  x : Int32
  y : Int32
  deriving DecidableEq

structure XrExtent2Di where
  width : Int32
  height : Int32
  deriving DecidableEq

structure XrRect2Di where
  offset : XrOffset2Di
  extent : XrExtent2Di
  deriving DecidableEq

/-- A swapchain as calls leave it (`SwapchainRun.indicesInRange_run`). -/
structure FrameSwapchain where
  sc : OxrSwapchain
  released_nonneg : sc.ReleasedNonneg

structure XrSwapchainSubImage where
  swapchain : Option FrameSwapchain
  imageRect : XrRect2Di
  imageArrayIndex : UInt32

def isRectNeg (imageRect : XrRect2Di) : Bool :=
  decide (imageRect.offset.x < 0) || decide (imageRect.offset.y < 0)

/-- `is_rect_out_of_bounds`; the sums wrap, and are converted to unsigned. -/
def isRectOutOfBounds (imageRect : XrRect2Di) (sc : OxrSwapchain) : Bool :=
  let totalWidth := (imageRect.offset.x + imageRect.extent.width).toUInt32
  if totalWidth > sc.width then true
  else
    let totalHeight := (imageRect.offset.y + imageRect.extent.height).toUInt32
    decide (totalHeight > sc.height)

/-! ## Layers -/

/-- `XrCompositionLayerAlphaBlendFB`. -/
structure XrCompositionLayerAlphaBlend where
  srcFactorColor : UInt32
  dstFactorColor : UInt32
  srcFactorAlpha : UInt32
  dstFactorAlpha : UInt32

inductive LayerNext
  | alphaBlend (info : XrCompositionLayerAlphaBlend)
  | other

/-- `XrCompositionLayerDepthInfoKHR`. -/
structure XrCompositionLayerDepthInfo (F : Type) where
  subImage : XrSwapchainSubImage
  minDepth : F
  maxDepth : F
  nearZ : F
  farZ : F

inductive ViewNext (F : Type)
  | depthInfo (info : XrCompositionLayerDepthInfo F)
  | other

section
variable (Q V F : Type)

structure XrCompositionLayerProjectionView where
  next : List (ViewNext F)
  pose : Pose Q V
  subImage : XrSwapchainSubImage

/-- The views are as many as `viewCount` says. -/
structure XrCompositionLayerProjection where
  next : List LayerNext
  space : UInt64
  views : List (XrCompositionLayerProjectionView Q V F)

structure XrCompositionLayerQuad where
  next : List LayerNext
  space : UInt64
  subImage : XrSwapchainSubImage
  pose : Pose Q V

structure XrCompositionLayerCube where
  next : List LayerNext
  space : UInt64
  swapchain : Option FrameSwapchain
  imageArrayIndex : UInt32
  orientation : Q

structure XrCompositionLayerCylinder where
  next : List LayerNext
  space : UInt64
  subImage : XrSwapchainSubImage
  pose : Pose Q V
  radius : F
  centralAngle : F
  aspectRatio : F

structure XrCompositionLayerEquirect where
  next : List LayerNext
  space : UInt64
  subImage : XrSwapchainSubImage
  pose : Pose Q V
  radius : F

structure XrCompositionLayerEquirect2 where
  next : List LayerNext
  space : UInt64
  subImage : XrSwapchainSubImage
  pose : Pose Q V
  centralHorizontalAngle : F

structure XrCompositionLayerPassthrough where
  flags : UInt64
  space : UInt64
  layerHandle : UInt64

/-- `XrCompositionLayerBaseHeader`, by its type. -/
inductive XrCompositionLayer
  | projection (proj : XrCompositionLayerProjection Q V F)
  | quad (quad : XrCompositionLayerQuad Q V)
  | cube (cube : XrCompositionLayerCube Q)
  | cylinder (cylinder : XrCompositionLayerCylinder Q V F)
  | equirect (equirect : XrCompositionLayerEquirect Q V F)
  | equirect2 (equirect : XrCompositionLayerEquirect2 Q V F)
  | passthrough (passthrough : XrCompositionLayerPassthrough)
  | unknown

/-- `XrFrameEndInfo`; null pointers are none, and else there are as many layers as `layerCount` says. -/
structure XrFrameEndInfo where
  displayTime : ℤ
  environmentBlendMode : UInt32
  layerCount : ℕ
  layers : Option (List (Option (XrCompositionLayer Q V F)))
  length_layers : ∀ l, layers = some l → l.length = layerCount

end

/-! ## Sessions -/

/-- Extensions that are built in: `OXR_HAVE_…`. -/
structure OxrHave where
  fbCompositionLayerAlphaBlend : Bool
  fbPassthrough : Bool
  khrCompositionLayerCube : Bool
  khrCompositionLayerCylinder : Bool
  khrCompositionLayerDepth : Bool
  khrCompositionLayerEquirect : Bool
  khrCompositionLayerEquirect2 : Bool

inductive XrViewConfigurationType
  | primaryMono
  | primaryStereo
  | primaryQuadVarjo
  | secondaryMonoFirstPersonObserver
  | unknown
  deriving DecidableEq

/-- What is looked at of `struct oxr_session` and what it belongs to. -/
structure FrameEndSession where
  oxrHave : OxrHave
  /-- `extensions.FB_composition_layer_alpha_blend`. -/
  alphaBlendEnabled : Bool
  currentViewConfigType : XrViewConfigurationType
  headless : Bool
  frameStarted : Bool
  /-- What the device can do. -/
  blendModes : List UInt32

/-! ## Verify functions

`verify_blend_factors` has no `return` at its end: what its caller then reads is any value, given as an argument. -/

/-- `u_verify_blend_factor_valid`, of the values from `XRT_BLEND_FACTOR_ZERO` to `XRT_BLEND_FACTOR_ONE_MINUS_DST_ALPHA`. -/
def uVerifyBlendFactorValid (blendFactor : UInt32) : Bool :=
  blendFactor == 0 || blendFactor == 1 || blendFactor == 2 || blendFactor == 3 || blendFactor == 4 || blendFactor == 5

/-- `OXR_GET_INPUT_FROM_CHAIN`. -/
def alphaBlendOfChain (next : List LayerNext) : Option XrCompositionLayerAlphaBlend :=
  next.findSome? fun
    | .alphaBlend info => some info
    | .other => none

def verifyAlphaBlend (alphaBlend : XrCompositionLayerAlphaBlend) : Except XrError Unit := do
  failIf (!uVerifyBlendFactorValid alphaBlend.srcFactorColor) .validationFailure
  failIf (!uVerifyBlendFactorValid alphaBlend.dstFactorColor) .validationFailure
  failIf (!uVerifyBlendFactorValid alphaBlend.srcFactorAlpha) .validationFailure
  failIf (!uVerifyBlendFactorValid alphaBlend.dstFactorAlpha) .validationFailure

def verifyBlendFactors (unreturned : Except XrError Unit) (sess : FrameEndSession) (next : List LayerNext) :
    Except XrError Unit :=
  if !sess.oxrHave.fbCompositionLayerAlphaBlend then .ok ()
  else if !sess.alphaBlendEnabled then .ok ()
  else (alphaBlendOfChain next).elim (.ok ()) verifyAlphaBlend >>= fun _ => unreturned

def XR_NULL_HANDLE : UInt64 := 0

def verifySpace (space : UInt64) : Except XrError Unit := failIf (space == XR_NULL_HANDLE) .validationFailure

def verifyReleased (sc : OxrSwapchain) : Except XrError Unit := do
  failIf (!sc.released.yes) .layerInvalid
  failIf (decide (sc.released.index ≥ sc.imageCount)) .runtimeFailure

def verifyImage (sc : OxrSwapchain) (imageArrayIndex faceCount : UInt32) : Except XrError Unit := do
  failIf (decide (sc.arrayLayerCount ≤ imageArrayIndex)) .validationFailure
  failIf (sc.faceCount != faceCount) .validationFailure

def verifyRect (imageRect : XrRect2Di) (sc : OxrSwapchain) : Except XrError Unit := do
  failIf (isRectNeg imageRect) .swapchainRectInvalid
  failIf (isRectOutOfBounds imageRect sc) .swapchainRectInvalid

section
variable {Q V F : Type} [PoseTests Q V] [FloatTests F] (unreturned : Except XrError Unit) (sess : FrameEndSession)

open PoseTests FloatTests

def verifyPose (pose : Pose Q V) : Except XrError Unit := do
  failIf (!mathQuatValidateWithin1Percent V pose.orientation) .poseInvalid
  failIf (!mathVec3Validate Q pose.position) .poseInvalid

/-- What the functions for layers with one sub-image have in common. -/
def verifySubImageLayer (next : List LayerNext) (space : UInt64) (subImage : XrSwapchainSubImage) (pose : Pose Q V) :
    Except XrError Unit := do
  let sc ← require subImage.swapchain .layerInvalid
  verifySpace space
  verifyBlendFactors unreturned sess next
  verifyPose pose
  verifyImage sc.sc subImage.imageArrayIndex 1
  verifyReleased sc.sc
  verifyRect subImage.imageRect sc.sc

def verifyQuadLayer (quad : XrCompositionLayerQuad Q V) : Except XrError Unit :=
  verifySubImageLayer unreturned sess quad.next quad.space quad.subImage quad.pose

def verifyCylinderLayer (cylinder : XrCompositionLayerCylinder Q V F) : Except XrError Unit := do
  failIf (!sess.oxrHave.khrCompositionLayerCylinder) .layerInvalid
  verifySubImageLayer unreturned sess cylinder.next cylinder.space cylinder.subImage cylinder.pose
  failIf (lt cylinder.radius zero) .validationFailure
  failIf (lt cylinder.centralAngle zero || gtTwoPi cylinder.centralAngle) .validationFailure
  failIf (lt cylinder.aspectRatio zero || eq cylinder.aspectRatio zero) .validationFailure

def verifyEquirect1Layer (equirect : XrCompositionLayerEquirect Q V F) : Except XrError Unit := do
  failIf (!sess.oxrHave.khrCompositionLayerEquirect) .layerInvalid
  verifySubImageLayer unreturned sess equirect.next equirect.space equirect.subImage equirect.pose
  failIf (lt equirect.radius zero) .validationFailure

def verifyEquirect2Layer (equirect : XrCompositionLayerEquirect2 Q V F) : Except XrError Unit := do
  failIf (!sess.oxrHave.khrCompositionLayerEquirect2) .layerInvalid
  verifySubImageLayer unreturned sess equirect.next equirect.space equirect.subImage equirect.pose
  failIf (lt equirect.centralHorizontalAngle zero) .validationFailure

/-- The position is not looked at, as a cube has none, and neither is a rectangle. -/
def verifyCubeLayer (V : Type) [PoseTests Q V] (cube : XrCompositionLayerCube Q) : Except XrError Unit := do
  failIf (!sess.oxrHave.khrCompositionLayerCube) .layerInvalid
  let sc ← require cube.swapchain .layerInvalid
  verifySpace cube.space
  verifyBlendFactors unreturned sess cube.next
  failIf (!mathQuatValidateWithin1Percent V cube.orientation) .poseInvalid
  verifyImage sc.sc cube.imageArrayIndex 6
  verifyReleased sc.sc

def verifyPassthroughLayer (passthrough : XrCompositionLayerPassthrough) : Except XrError Unit := do
  failIf (!sess.oxrHave.fbPassthrough) .layerInvalid
  failIf (passthrough.flags == 0 || passthrough.flags &&& 7 == 0) .layerInvalid
  (if passthrough.space ≠ XR_NULL_HANDLE then verifySpace passthrough.space else .ok ())
  failIf (passthrough.layerHandle == XR_NULL_HANDLE) .layerInvalid

def verifyDepthLayer (depth : XrCompositionLayerDepthInfo F) : Except XrError Unit := do
  let sc ← require depth.subImage.swapchain .handleInvalid
  verifyReleased sc.sc
  verifyImage sc.sc depth.subImage.imageArrayIndex 1
  verifyRect depth.subImage.imageRect sc.sc
  failIf (lt depth.minDepth zero || lt one depth.minDepth) .layerInvalid
  failIf (lt depth.maxDepth zero || lt one depth.maxDepth) .layerInvalid
  failIf (lt depth.maxDepth depth.minDepth) .layerInvalid
  failIf (eq depth.nearZ depth.farZ) .layerInvalid

def depthInfoOfChain (next : List (ViewNext F)) : Option (XrCompositionLayerDepthInfo F) :=
  if sess.oxrHave.khrCompositionLayerDepth then
    next.findSome? fun
      | .depthInfo info => some info
      | .other => none
  else none

def viewCountOf : XrViewConfigurationType → Option ℕ
  | .primaryMono => some 1
  | .primaryStereo => some 2
  | .primaryQuadVarjo => some 4
  | .secondaryMonoFirstPersonObserver => some 1
  | .unknown => none

def verifyView (view : XrCompositionLayerProjectionView Q V F) : Except XrError Unit := do
  verifyPose view.pose
  let sc ← require view.subImage.swapchain .handleInvalid
  verifyReleased sc.sc
  verifyImage sc.sc view.subImage.imageArrayIndex 1
  verifyRect view.subImage.imageRect sc.sc
  (depthInfoOfChain sess view.next).elim (.ok ()) verifyDepthLayer

def depthLayerCount (views : List (XrCompositionLayerProjectionView Q V F)) : ℕ :=
  views.countP fun view => (depthInfoOfChain sess view.next).isSome

/-- Every view is verified, and counted when it has a depth; either none of them has one, or all. -/
def verifyProjectionLayer (proj : XrCompositionLayerProjection Q V F) : Except XrError Unit := do
  verifySpace proj.space
  verifyBlendFactors unreturned sess proj.next
  let viewCount ← require (viewCountOf sess.currentViewConfigType) .runtimeFailure
  failIf (proj.views.length != viewCount) .validationFailure
  checkEach (fun _ view => verifyView sess view) 0 proj.views
  failIf (decide (depthLayerCount sess proj.views > 0) && depthLayerCount sess proj.views != proj.views.length)
    .validationFailure

/-- The body of the loop over the layers. -/
def verifyLayer : Option (XrCompositionLayer Q V F) → Except XrError Unit
  | none => .error .layerInvalid
  | some (.projection proj) => verifyProjectionLayer unreturned sess proj
  | some (.quad quad) => verifyQuadLayer unreturned sess quad
  | some (.cube cube) => verifyCubeLayer unreturned sess V cube
  | some (.cylinder cylinder) => verifyCylinderLayer unreturned sess cylinder
  | some (.equirect equirect) => verifyEquirect1Layer unreturned sess equirect
  | some (.equirect2 equirect) => verifyEquirect2Layer unreturned sess equirect
  | some (.passthrough passthrough) => verifyPassthroughLayer sess passthrough
  | some .unknown => .error .layerInvalid

end

/-! ## The end of a frame -/

/-- What `oxr_session_frame_end` goes on to do when it returns no error before. -/
inductive FrameEndPath
  | headless
  | discard
  | submit
  deriving DecidableEq

/-- `convert_blend_mode`; the values of the two enums are the same, and others become zero. -/
def convertBlendMode (blendMode : UInt32) : UInt32 :=
  if blendMode == 1 || blendMode == 2 || blendMode == 3 then blendMode else 0

def uVerifyBlendModeValid (blendMode : UInt32) : Bool := blendMode == 1 || blendMode == 2 || blendMode == 3

section
variable {Q V F : Type} [PoseTests Q V] [FloatTests F] (sess : FrameEndSession)

/-- The loop over the layers; each call of `verify_blend_factors` may leave another value. -/
def verifyLayers (unreturned : ℕ → Except XrError Unit) (layers : List (Option (XrCompositionLayer Q V F))) :
    Except XrError Unit :=
  checkEach (fun i layer => verifyLayer (unreturned i) sess layer) 0 layers

/-- `oxr_session_frame_end`, as far as it checks the frame. -/
def frameEnd (unreturned : ℕ → Except XrError Unit) (info : XrFrameEndInfo Q V F) : Except XrError FrameEndPath := do
  failIf (!sess.frameStarted) .callOrderInvalid
  failIf (decide (info.displayTime ≤ 0)) .timeInvalid
  if sess.headless then .ok .headless
  else do
    failIf (!uVerifyBlendModeValid (convertBlendMode info.environmentBlendMode)) .validationFailure
    failIf (!sess.blendModes.contains (convertBlendMode info.environmentBlendMode)) .environmentBlendModeUnsupported
    if info.layerCount = 0 then .ok .discard
    else do
      let layers ← require info.layers .layerInvalid
      verifyLayers sess unreturned layers
      .ok .submit

end

/-! ## What has to hold of a frame

The rules are given with the test of rectangles, for which there are two: that the rectangle lies in the swapchain, and
what the code looks at. -/

namespace FrameEnd

structure Inside (imageRect : XrRect2Di) (sc : OxrSwapchain) : Prop where
  offset_x : 0 ≤ imageRect.offset.x.toInt
  offset_y : 0 ≤ imageRect.offset.y.toInt
  width : 0 ≤ imageRect.extent.width.toInt
  height : 0 ≤ imageRect.extent.height.toInt
  right : imageRect.offset.x.toInt + imageRect.extent.width.toInt ≤ sc.width.toNat
  bottom : imageRect.offset.y.toInt + imageRect.extent.height.toInt ≤ sc.height.toNat

def Passes (imageRect : XrRect2Di) (sc : OxrSwapchain) : Prop :=
  isRectNeg imageRect = false ∧ isRectOutOfBounds imageRect sc = false

/-- There is such an image in the swapchain, and one is released. -/
structure ImageValid (sc : FrameSwapchain) (imageArrayIndex faceCount : UInt32) : Prop where
  array : imageArrayIndex.toNat < sc.sc.arrayLayerCount.toNat
  faceCount : sc.sc.faceCount = faceCount
  released : sc.sc.released.yes = true
  released_lt : sc.sc.released.index < sc.sc.imageCount

section
variable {Q V F : Type} [PoseTests Q V] [FloatTests F] (fits : XrRect2Di → OxrSwapchain → Prop)
  (sess : FrameEndSession)

open PoseTests FloatTests

def SubImageValid (subImage : XrSwapchainSubImage) : Prop :=
  ∃ sc, subImage.swapchain = some sc ∧ ImageValid sc subImage.imageArrayIndex 1 ∧ fits subImage.imageRect sc.sc

def PoseValid (pose : Pose Q V) : Prop :=
  mathQuatValidateWithin1Percent V pose.orientation = true ∧ mathVec3Validate Q pose.position = true

def Blends : Prop := sess.oxrHave.fbCompositionLayerAlphaBlend = true ∧ sess.alphaBlendEnabled = true

def BlendFactorsValid (next : List LayerNext) : Prop :=
  Blends sess → ∀ info, alphaBlendOfChain next = some info →
    uVerifyBlendFactorValid info.srcFactorColor = true ∧ uVerifyBlendFactorValid info.dstFactorColor = true ∧
      uVerifyBlendFactorValid info.srcFactorAlpha = true ∧ uVerifyBlendFactorValid info.dstFactorAlpha = true

structure DepthValid (depth : XrCompositionLayerDepthInfo F) : Prop where
  subImage : SubImageValid fits depth.subImage
  minDepth : lt depth.minDepth zero = false ∧ lt one depth.minDepth = false
  maxDepth : lt depth.maxDepth zero = false ∧ lt one depth.maxDepth = false
  ordered : lt depth.maxDepth depth.minDepth = false
  near_far : eq depth.nearZ depth.farZ = false

structure ViewValid (view : XrCompositionLayerProjectionView Q V F) : Prop where
  pose : PoseValid view.pose
  subImage : SubImageValid fits view.subImage
  depth : ∀ depth, depthInfoOfChain sess view.next = some depth → DepthValid fits depth

structure ProjectionValid (proj : XrCompositionLayerProjection Q V F) : Prop where
  space : proj.space ≠ XR_NULL_HANDLE
  blend : BlendFactorsValid sess proj.next
  viewCount : viewCountOf sess.currentViewConfigType = some proj.views.length
  views : ∀ view ∈ proj.views, ViewValid fits sess view
  depth : (∀ view ∈ proj.views, depthInfoOfChain sess view.next = none) ∨
    ∀ view ∈ proj.views, depthInfoOfChain sess view.next ≠ none

structure SubImageLayerValid (next : List LayerNext) (space : UInt64) (subImage : XrSwapchainSubImage)
    (pose : Pose Q V) : Prop where
  space : space ≠ XR_NULL_HANDLE
  blend : BlendFactorsValid sess next
  pose : PoseValid pose
  subImage : SubImageValid fits subImage

def LayerValid : Option (XrCompositionLayer Q V F) → Prop
  | none => False
  | some (.projection proj) => ProjectionValid fits sess proj
  | some (.quad quad) => SubImageLayerValid fits sess quad.next quad.space quad.subImage quad.pose
  | some (.cube cube) =>
    sess.oxrHave.khrCompositionLayerCube = true ∧ cube.space ≠ XR_NULL_HANDLE ∧ BlendFactorsValid sess cube.next ∧
      mathQuatValidateWithin1Percent V cube.orientation = true ∧
      ∃ sc, cube.swapchain = some sc ∧ ImageValid sc cube.imageArrayIndex 6
  | some (.cylinder cylinder) =>
    sess.oxrHave.khrCompositionLayerCylinder = true ∧
      SubImageLayerValid fits sess cylinder.next cylinder.space cylinder.subImage cylinder.pose ∧
      lt cylinder.radius zero = false ∧
      (lt cylinder.centralAngle zero = false ∧ gtTwoPi cylinder.centralAngle = false) ∧
      lt cylinder.aspectRatio zero = false ∧ eq cylinder.aspectRatio zero = false
  | some (.equirect equirect) =>
    sess.oxrHave.khrCompositionLayerEquirect = true ∧
      SubImageLayerValid fits sess equirect.next equirect.space equirect.subImage equirect.pose ∧
      lt equirect.radius zero = false
  | some (.equirect2 equirect) =>
    sess.oxrHave.khrCompositionLayerEquirect2 = true ∧
      SubImageLayerValid fits sess equirect.next equirect.space equirect.subImage equirect.pose ∧
      lt equirect.centralHorizontalAngle zero = false
  | some (.passthrough passthrough) =>
    sess.oxrHave.fbPassthrough = true ∧ passthrough.flags &&& 7 ≠ 0 ∧ passthrough.layerHandle ≠ XR_NULL_HANDLE
  | some .unknown => False

/-- The layers that `verify_blend_factors` is called for. -/
def HasBlend : Option (XrCompositionLayer Q V F) → Prop
  | some (.passthrough _) => False
  | _ => True

/-- The sub-images of a layer, with the swapchains that they are of. -/
def subImages : Option (XrCompositionLayer Q V F) → List XrSwapchainSubImage
  | some (.projection proj) => proj.views.flatMap fun view =>
      view.subImage :: (depthInfoOfChain sess view.next).toList.map (·.subImage)
  | some (.quad quad) => [quad.subImage]
  | some (.cylinder cylinder) => [cylinder.subImage]
  | some (.equirect equirect) => [equirect.subImage]
  | some (.equirect2 equirect) => [equirect.subImage]
  | _ => []

/-- The images that a layer shows: a swapchain, and an index into its array. -/
def images : Option (XrCompositionLayer Q V F) → List (Option FrameSwapchain × UInt32)
  | some (.cube cube) => [(cube.swapchain, cube.imageArrayIndex)]
  | layer => (subImages sess layer).map fun subImage => (subImage.swapchain, subImage.imageArrayIndex)

/-- Every rectangle of a layer lies in its swapchain, every index into an array is one, and so is that of the
image that is released. -/
structure InRange (layer : Option (XrCompositionLayer Q V F)) : Prop where
  rects : ∀ subImage ∈ subImages sess layer, ∃ sc, subImage.swapchain = some sc ∧ Inside subImage.imageRect sc.sc
  images : ∀ image ∈ images sess layer, ∃ sc, image.1 = some sc ∧ image.2.toNat < sc.sc.arrayLayerCount.toNat ∧
    sc.sc.released.yes = true ∧ 0 ≤ sc.sc.released.index ∧ sc.sc.released.index < sc.sc.imageCount

/-- Only frames of which every layer is as it has to be are submitted, and layers that are are not rejected. -/
structure Verified (info : XrFrameEndInfo Q V F) : Prop where
  sound : ∀ unreturned, frameEnd sess unreturned info = .ok .submit → ∀ layers, info.layers = some layers →
    ∀ layer ∈ layers, LayerValid Inside sess layer ∧ InRange sess layer
  complete : ∀ layers, info.layers = some layers → (∀ layer ∈ layers, LayerValid Inside sess layer) →
    ∀ unreturned, verifyLayers sess unreturned layers = .ok ()

structure Submittable (info : XrFrameEndInfo Q V F) : Prop where
  frameStarted : sess.frameStarted = true
  displayTime : 0 < info.displayTime
  compositor : sess.headless = false
  blendMode : uVerifyBlendModeValid (convertBlendMode info.environmentBlendMode) = true
  supported : sess.blendModes.contains (convertBlendMode info.environmentBlendMode) = true
  layerCount : info.layerCount ≠ 0

def Nonneg (imageRect : XrRect2Di) : Prop := 0 ≤ imageRect.extent.width.toInt ∧ 0 ≤ imageRect.extent.height.toInt

/-- A frame that is submitted if its rectangles pass has no negative extent, and where all is as it has to be,
blend factors are not looked at. -/
structure Plain (info : XrFrameEndInfo Q V F) : Prop where
  extents : Submittable sess info → ∀ layers, info.layers = some layers →
    (∀ layer ∈ layers, LayerValid Passes sess layer) →
    ∀ layer ∈ layers, ∀ subImage ∈ subImages sess layer, Nonneg subImage.imageRect
  blend : ∀ layers, info.layers = some layers → (∀ layer ∈ layers, LayerValid Inside sess layer) →
    Blends sess → ∀ layer ∈ layers, ¬ HasBlend layer

end

/-! ## Rectangles -/

theorem sum_le_iff {offset extent : Int32} {size : UInt32} (hoffset : 0 ≤ offset.toInt) (hextent : 0 ≤ extent.toInt) :
    (offset + extent).toUInt32 ≤ size ↔ offset.toInt + extent.toInt ≤ size.toNat := by
  have hsum : (offset + extent).toUInt32.toNat = (offset.toBitVec + extent.toBitVec).toNat := rfl
  have hoffset' : offset.toInt = _ := BitVec.toInt_eq_toNat_cond offset.toBitVec
  have hextent' : extent.toInt = _ := BitVec.toInt_eq_toNat_cond extent.toBitVec
  rw [UInt32.le_iff_toNat_le, hsum, BitVec.toNat_add]
  split at hoffset' <;> split at hextent' <;> omega

theorem inside_iff (imageRect : XrRect2Di) (sc : OxrSwapchain) :
    Inside imageRect sc ↔ Passes imageRect sc ∧ Nonneg imageRect := by
  have hpasses : Passes imageRect sc ↔ (0 ≤ imageRect.offset.x.toInt ∧ 0 ≤ imageRect.offset.y.toInt) ∧
      (imageRect.offset.x + imageRect.extent.width).toUInt32 ≤ sc.width ∧
      (imageRect.offset.y + imageRect.extent.height).toUInt32 ≤ sc.height := by
    have hzero : Int32.toInt 0 = 0 := rfl
    simp only [Passes, isRectNeg, isRectOutOfBounds, Bool.or_eq_false_iff, decide_eq_false_iff_not, Int32.lt_iff_toInt_lt,
      Int.not_lt, hzero]
    refine and_congr_right fun _ => ?_
    split
    · rename_i h
      exact iff_of_false (by simp) fun hle => UInt32.not_le.2 h hle.1
    · rename_i h
      rw [decide_eq_false_iff_not, gt_iff_lt, UInt32.not_lt]
      exact ⟨fun hle => ⟨UInt32.not_lt.1 h, hle⟩, fun hle => hle.2⟩
  rw [hpasses]
  constructor
  · rintro ⟨hx, hy, hw, hh, hr, hb⟩
    exact ⟨⟨⟨hx, hy⟩, (sum_le_iff hx hw).2 hr, (sum_le_iff hy hh).2 hb⟩, hw, hh⟩
  · rintro ⟨⟨⟨hx, hy⟩, hr, hb⟩, hw, hh⟩
    exact ⟨hx, hy, hw, hh, (sum_le_iff hx hw).1 hr, (sum_le_iff hy hh).1 hb⟩

/-! ## What the verify functions accept -/

section
variable {Q V F : Type} [PoseTests Q V] [FloatTests F] {sess : FrameEndSession} {unreturned : Except XrError Unit}
  {subImage : XrSwapchainSubImage}

theorem verifySpace_eq_ok {space : UInt64} : verifySpace space = .ok () ↔ space ≠ XR_NULL_HANDLE := by
  simp [verifySpace]

theorem verifyBlendFactors_eq_ok {next : List LayerNext} :
    verifyBlendFactors unreturned sess next = .ok () ↔
      BlendFactorsValid sess next ∧ (Blends sess → unreturned = .ok ()) := by
  by_cases hblends : Blends sess
  · have hvalid : BlendFactorsValid sess next ↔
        (alphaBlendOfChain next).elim (.ok ()) verifyAlphaBlend = (.ok () : Except XrError Unit) := by
      cases hchain : alphaBlendOfChain next <;>
        simp [BlendFactorsValid, hblends, verifyAlphaBlend, check_step_eq_ok, hchain]
    rw [hvalid, verifyBlendFactors, if_neg (by simp [hblends.1]), if_neg (by simp [hblends.2]), check_step_eq_ok]
    exact and_congr_right fun _ => ⟨fun h _ => h, fun h => h hblends⟩
  · have hok : verifyBlendFactors unreturned sess next = .ok () := by
      rw [verifyBlendFactors]
      split
      · rfl
      · rename_i hhave
        rw [if_pos]
        simp only [Blends, not_and] at hblends
        simpa using hblends (by simpa using hhave)
    exact iff_of_true hok ⟨fun h => absurd h hblends, fun h => absurd h hblends⟩

theorem verifyImage_eq_ok {sc : FrameSwapchain} {imageArrayIndex faceCount : UInt32} :
    (verifyImage sc.sc imageArrayIndex faceCount = .ok () ∧ verifyReleased sc.sc = .ok ()) ↔
      ImageValid sc imageArrayIndex faceCount := by
  simp only [verifyImage, verifyReleased, check_step_eq_ok, failIf_eq_ok, decide_eq_false_iff_not, UInt32.le_iff_toNat_le,
    Nat.not_le, ge_iff_le, Int.not_le, bne_eq_false_iff_eq, Bool.not_eq_false']
  constructor
  · rintro ⟨⟨ha, hf⟩, hr, hi⟩
    exact ⟨ha, hf, hr, hi⟩
  · rintro ⟨ha, hf, hr, hi⟩
    exact ⟨⟨ha, hf⟩, hr, hi⟩

theorem verifyRect_eq_ok {imageRect : XrRect2Di} {sc : OxrSwapchain} :
    verifyRect imageRect sc = .ok () ↔ Passes imageRect sc := by
  simp only [verifyRect, check_step_eq_ok, failIf_eq_ok, Passes]

theorem verifyPose_eq_ok {pose : Pose Q V} : verifyPose pose = .ok () ↔ PoseValid pose := by
  simp only [verifyPose, check_step_eq_ok, failIf_eq_ok, PoseValid, Bool.not_eq_false']

theorem subImageValid_iff {fits : XrRect2Di → OxrSwapchain → Prop} {sc : FrameSwapchain}
    (h : subImage.swapchain = some sc) :
    SubImageValid fits subImage ↔ ImageValid sc subImage.imageArrayIndex 1 ∧ fits subImage.imageRect sc.sc := by
  simp [SubImageValid, h]

theorem verifySubImageLayer_eq_ok {next : List LayerNext} {space : UInt64} {pose : Pose Q V} :
    verifySubImageLayer unreturned sess next space subImage pose = .ok () ↔
      SubImageLayerValid Passes sess next space subImage pose ∧ (Blends sess → unreturned = .ok ()) := by
  simp only [verifySubImageLayer, require_step_eq_ok, check_step_eq_ok, verifySpace_eq_ok,
    verifyBlendFactors_eq_ok, verifyPose_eq_ok, verifyRect_eq_ok]
  constructor
  · rintro ⟨sc, hsc, hspace, ⟨hblend, hret⟩, hpose, himage, hreleased, hrect⟩
    exact ⟨⟨hspace, hblend, hpose, (subImageValid_iff hsc).2 ⟨verifyImage_eq_ok.1 ⟨himage, hreleased⟩, hrect⟩⟩, hret⟩
  · rintro ⟨⟨hspace, hblend, hpose, sc, hsc, himage, hrect⟩, hret⟩
    obtain ⟨himage, hreleased⟩ := verifyImage_eq_ok.2 himage
    exact ⟨sc, hsc, hspace, ⟨hblend, hret⟩, hpose, himage, hreleased, hrect⟩

theorem verifyDepthLayer_eq_ok {depth : XrCompositionLayerDepthInfo F} :
    verifyDepthLayer depth = .ok () ↔ DepthValid Passes depth := by
  simp only [verifyDepthLayer, require_step_eq_ok, check_step_eq_ok, verifyRect_eq_ok, failIf_eq_ok,
    Bool.or_eq_false_iff]
  constructor
  · rintro ⟨sc, hsc, hreleased, himage, hrect, hmin, hmax, hordered, hnear⟩
    exact ⟨(subImageValid_iff hsc).2 ⟨verifyImage_eq_ok.1 ⟨himage, hreleased⟩, hrect⟩, hmin, hmax, hordered, hnear⟩
  · rintro ⟨⟨sc, hsc, himage, hrect⟩, hmin, hmax, hordered, hnear⟩
    obtain ⟨himage, hreleased⟩ := verifyImage_eq_ok.2 himage
    exact ⟨sc, hsc, hreleased, himage, hrect, hmin, hmax, hordered, hnear⟩

theorem verifyView_eq_ok {view : XrCompositionLayerProjectionView Q V F} :
    verifyView sess view = .ok () ↔ ViewValid Passes sess view := by
  have hdepth : (depthInfoOfChain sess view.next).elim (.ok ()) verifyDepthLayer = (.ok () : Except XrError Unit) ↔
      ∀ depth, depthInfoOfChain sess view.next = some depth → DepthValid Passes depth := by
    cases depthInfoOfChain sess view.next <;> simp [verifyDepthLayer_eq_ok]
  simp only [verifyView, require_step_eq_ok, check_step_eq_ok, verifyPose_eq_ok, verifyRect_eq_ok, hdepth]
  constructor
  · rintro ⟨hpose, sc, hsc, hreleased, himage, hrect, hdepth⟩
    exact ⟨hpose, (subImageValid_iff hsc).2 ⟨verifyImage_eq_ok.1 ⟨himage, hreleased⟩, hrect⟩, hdepth⟩
  · rintro ⟨hpose, ⟨sc, hsc, himage, hrect⟩, hdepth⟩
    obtain ⟨himage, hreleased⟩ := verifyImage_eq_ok.2 himage
    exact ⟨hpose, sc, hsc, hreleased, himage, hrect, hdepth⟩

theorem verifyViews_eq_ok {views : List (XrCompositionLayerProjectionView Q V F)} :
    checkEach (fun _ view => verifyView sess view) 0 views = .ok () ↔ ∀ view ∈ views, ViewValid Passes sess view :=
  checkEach_eq_ok_of_const fun _ _ => verifyView_eq_ok

omit [PoseTests Q V] [FloatTests F] in
theorem depthLayerCount_iff (views : List (XrCompositionLayerProjectionView Q V F)) :
    (decide (depthLayerCount sess views > 0) && depthLayerCount sess views != views.length) = false ↔
      (∀ view ∈ views, depthInfoOfChain sess view.next = none) ∨
        ∀ view ∈ views, depthInfoOfChain sess view.next ≠ none := by
  have hnone : depthLayerCount sess views = 0 ↔ ∀ view ∈ views, depthInfoOfChain sess view.next = none := by
    simp [depthLayerCount, List.countP_eq_zero]
  have hall : depthLayerCount sess views = views.length ↔ ∀ view ∈ views, depthInfoOfChain sess view.next ≠ none := by
    simp [depthLayerCount, List.countP_eq_length, Option.isSome_iff_ne_none]
  rw [← hnone, ← hall]
  simp only [gt_iff_lt, Bool.and_eq_false_iff, decide_eq_false_iff_not, Nat.not_lt, Nat.le_zero_eq, bne_eq_false_iff_eq]

theorem verifyProjectionLayer_eq_ok {proj : XrCompositionLayerProjection Q V F} :
    verifyProjectionLayer unreturned sess proj = .ok () ↔
      ProjectionValid Passes sess proj ∧ (Blends sess → unreturned = .ok ()) := by
  simp only [verifyProjectionLayer, require_step_eq_ok, check_step_eq_ok, verifySpace_eq_ok,
    verifyBlendFactors_eq_ok, failIf_eq_ok, depthLayerCount_iff, bne_eq_false_iff_eq, verifyViews_eq_ok]
  constructor
  · rintro ⟨hspace, ⟨hblend, hret⟩, _, hcount, rfl, hviews, hdepth⟩
    exact ⟨⟨hspace, hblend, hcount, hviews, hdepth⟩, hret⟩
  · rintro ⟨⟨hspace, hblend, hcount, hviews, hdepth⟩, hret⟩
    exact ⟨hspace, ⟨hblend, hret⟩, _, hcount, rfl, hviews, hdepth⟩

theorem verifyPassthroughLayer_eq_ok {passthrough : XrCompositionLayerPassthrough} :
    verifyPassthroughLayer sess passthrough = .ok () ↔
      sess.oxrHave.fbPassthrough = true ∧ passthrough.flags &&& 7 ≠ 0 ∧ passthrough.layerHandle ≠ XR_NULL_HANDLE := by
  have hspace : (if passthrough.space ≠ XR_NULL_HANDLE then verifySpace passthrough.space else .ok ()) =
      (.ok () : Except XrError Unit) := by
    split
    · rename_i h
      exact verifySpace_eq_ok.2 h
    · rfl
  simp only [verifyPassthroughLayer, hspace, check_step_eq_ok, failIf_eq_ok, Bool.not_eq_false', Bool.or_eq_false_iff,
    beq_eq_false_iff_ne]
  constructor
  · rintro ⟨hhave, ⟨-, hflags⟩, -, hlayer⟩
    exact ⟨hhave, hflags, hlayer⟩
  · rintro ⟨hhave, hflags, hlayer⟩
    refine ⟨hhave, ⟨fun hzero => hflags ?_, hflags⟩, trivial, hlayer⟩
    rw [hzero]
    rfl

theorem verifyCubeLayer_eq_ok {cube : XrCompositionLayerCube Q} :
    verifyCubeLayer unreturned sess V cube = .ok () ↔
      LayerValid Passes sess (some (.cube cube) : Option (XrCompositionLayer Q V F)) ∧
        (Blends sess → unreturned = .ok ()) := by
  simp only [verifyCubeLayer, require_step_eq_ok, check_step_eq_ok, verifySpace_eq_ok, verifyBlendFactors_eq_ok,
    failIf_eq_ok, Bool.not_eq_false', LayerValid, ← verifyImage_eq_ok]
  constructor
  · rintro ⟨hhave, sc, hsc, hspace, ⟨hblend, hret⟩, hquat, himage⟩
    exact ⟨⟨hhave, hspace, hblend, hquat, sc, hsc, himage⟩, hret⟩
  · rintro ⟨⟨hhave, hspace, hblend, hquat, sc, hsc, himage⟩, hret⟩
    exact ⟨hhave, sc, hsc, hspace, ⟨hblend, hret⟩, hquat, himage⟩

theorem verifyLayer_eq_ok {layer : Option (XrCompositionLayer Q V F)} :
    verifyLayer unreturned sess layer = .ok () ↔
      LayerValid Passes sess layer ∧ (Blends sess → HasBlend layer → unreturned = .ok ()) := by
  rcases layer with _ | proj | quad | cube | cylinder | equirect | equirect | passthrough | _
  · simp [verifyLayer, LayerValid]
  · simp only [verifyLayer, verifyProjectionLayer_eq_ok, LayerValid, HasBlend, true_imp_iff]
  · simp only [verifyLayer, verifyQuadLayer, verifySubImageLayer_eq_ok, LayerValid, HasBlend, true_imp_iff]
  · simp only [verifyLayer, verifyCubeLayer_eq_ok (F := F), HasBlend, true_imp_iff]
  · simp only [verifyLayer, verifyCylinderLayer, check_step_eq_ok, verifySubImageLayer_eq_ok, failIf_eq_ok,
      Bool.not_eq_false', Bool.or_eq_false_iff, LayerValid, HasBlend, true_imp_iff]
    tauto
  · simp only [verifyLayer, verifyEquirect1Layer, check_step_eq_ok, verifySubImageLayer_eq_ok, failIf_eq_ok,
      Bool.not_eq_false', LayerValid, HasBlend, true_imp_iff]
    tauto
  · simp only [verifyLayer, verifyEquirect2Layer, check_step_eq_ok, verifySubImageLayer_eq_ok, failIf_eq_ok,
      Bool.not_eq_false', LayerValid, HasBlend, true_imp_iff]
    tauto
  · simp only [verifyLayer, verifyPassthroughLayer_eq_ok, LayerValid, HasBlend, false_imp_iff, implies_true, and_true]
  · simp [verifyLayer, LayerValid]

end

/-! ## Valid layers -/

section
variable {Q V F : Type} [PoseTests Q V] [FloatTests F] {sess : FrameEndSession}
  {fits fits' : XrRect2Di → OxrSwapchain → Prop}

variable {P : XrRect2Di → Prop}

theorem SubImageValid.and {subImage : XrSwapchainSubImage} :
    SubImageValid (fun rect sc => fits rect sc ∧ P rect) subImage ↔ SubImageValid fits subImage ∧ P subImage.imageRect := by
  constructor
  · rintro ⟨sc, hsc, himage, hfits, hP⟩
    exact ⟨⟨sc, hsc, himage, hfits⟩, hP⟩
  · rintro ⟨⟨sc, hsc, himage, hfits⟩, hP⟩
    exact ⟨sc, hsc, himage, hfits, hP⟩

theorem DepthValid.and {depth : XrCompositionLayerDepthInfo F} :
    DepthValid (fun rect sc => fits rect sc ∧ P rect) depth ↔ DepthValid fits depth ∧ P depth.subImage.imageRect := by
  constructor
  · rintro ⟨hsub, hmin, hmax, hordered, hnear⟩
    exact ⟨⟨(SubImageValid.and.1 hsub).1, hmin, hmax, hordered, hnear⟩, (SubImageValid.and.1 hsub).2⟩
  · rintro ⟨⟨hsub, hmin, hmax, hordered, hnear⟩, hP⟩
    exact ⟨SubImageValid.and.2 ⟨hsub, hP⟩, hmin, hmax, hordered, hnear⟩

theorem ViewValid.and {view : XrCompositionLayerProjectionView Q V F} :
    ViewValid (fun rect sc => fits rect sc ∧ P rect) sess view ↔ ViewValid fits sess view ∧
      ∀ subImage ∈ view.subImage :: (depthInfoOfChain sess view.next).toList.map (·.subImage), P subImage.imageRect := by
  constructor
  · rintro ⟨hpose, hsub, hdepth⟩
    refine ⟨⟨hpose, (SubImageValid.and.1 hsub).1, fun depth h => (DepthValid.and.1 (hdepth depth h)).1⟩, ?_⟩
    simp only [List.mem_cons, List.mem_map, Option.mem_toList]
    rintro subImage (rfl | ⟨depth, h, rfl⟩)
    · exact (SubImageValid.and.1 hsub).2
    · exact (DepthValid.and.1 (hdepth depth h)).2
  · rintro ⟨⟨hpose, hsub, hdepth⟩, hP⟩
    refine ⟨hpose, SubImageValid.and.2 ⟨hsub, hP _ List.mem_cons_self⟩, fun depth h => ?_⟩
    refine DepthValid.and.2 ⟨hdepth depth h, hP _ (List.mem_cons_of_mem _ (List.mem_map.2 ⟨depth, ?_, rfl⟩))⟩
    rwa [Option.mem_toList]

theorem SubImageLayerValid.and {next : List LayerNext} {space : UInt64} {subImage : XrSwapchainSubImage}
    {pose : Pose Q V} :
    SubImageLayerValid (fun rect sc => fits rect sc ∧ P rect) sess next space subImage pose ↔
      SubImageLayerValid fits sess next space subImage pose ∧ P subImage.imageRect := by
  constructor
  · rintro ⟨hspace, hblend, hpose, hsub⟩
    exact ⟨⟨hspace, hblend, hpose, (SubImageValid.and.1 hsub).1⟩, (SubImageValid.and.1 hsub).2⟩
  · rintro ⟨⟨hspace, hblend, hpose, hsub⟩, hP⟩
    exact ⟨hspace, hblend, hpose, SubImageValid.and.2 ⟨hsub, hP⟩⟩

theorem ProjectionValid.and {proj : XrCompositionLayerProjection Q V F} :
    ProjectionValid (fun rect sc => fits rect sc ∧ P rect) sess proj ↔ ProjectionValid fits sess proj ∧
      ∀ subImage ∈ subImages sess (some (.projection proj) : Option (XrCompositionLayer Q V F)),
        P subImage.imageRect := by
  simp only [subImages, List.mem_flatMap]
  constructor
  · rintro ⟨hspace, hblend, hcount, hviews, hdepth⟩
    refine ⟨⟨hspace, hblend, hcount, fun view hview => (ViewValid.and.1 (hviews view hview)).1, hdepth⟩, ?_⟩
    rintro subImage ⟨view, hview, hsub⟩
    exact (ViewValid.and.1 (hviews view hview)).2 subImage hsub
  · rintro ⟨⟨hspace, hblend, hcount, hviews, hdepth⟩, hP⟩
    refine ⟨hspace, hblend, hcount, fun view hview => ?_, hdepth⟩
    exact ViewValid.and.2 ⟨hviews view hview, fun subImage hsub => hP subImage ⟨view, hview, hsub⟩⟩

variable {layer : Option (XrCompositionLayer Q V F)} {unreturned : ℕ → Except XrError Unit}

theorem layerValid_and :
    LayerValid (fun rect sc => fits rect sc ∧ P rect) sess layer ↔
      LayerValid fits sess layer ∧ ∀ subImage ∈ subImages sess layer, P subImage.imageRect := by
  rcases layer with _ | proj | quad | cube | cylinder | equirect | equirect | passthrough | _
  case some.projection => exact ProjectionValid.and
  all_goals simp only [LayerValid, subImages, List.mem_singleton, forall_eq, SubImageLayerValid.and, List.not_mem_nil,
    false_imp_iff, implies_true, and_true]
  all_goals tauto

theorem inside_eq : Inside = fun imageRect sc => Passes imageRect sc ∧ Nonneg imageRect := by
  funext imageRect sc
  exact propext (inside_iff imageRect sc)

/-! ## What is in range -/

theorem LayerValid.subImage (h : LayerValid fits sess layer) {subImage : XrSwapchainSubImage}
    (hsub : subImage ∈ subImages sess layer) : SubImageValid fits subImage := by
  rcases layer with _ | proj | quad | cube | cylinder | equirect | equirect | passthrough | _
  case some.projection =>
    obtain ⟨view, hview, hsub⟩ := List.mem_flatMap.1 hsub
    simp only [List.mem_cons, List.mem_map, Option.mem_toList] at hsub
    obtain rfl | ⟨depth, hdepth, rfl⟩ := hsub
    · exact (h.views view hview).subImage
    · exact ((h.views view hview).depth depth hdepth).subImage
  case some.quad =>
    rw [List.mem_singleton.1 hsub]
    exact SubImageLayerValid.subImage h
  case some.cylinder | some.equirect | some.equirect2 =>
    rw [List.mem_singleton.1 hsub]
    exact h.2.1.subImage
  all_goals cases hsub

theorem LayerValid.image (h : LayerValid fits sess layer) {image : Option FrameSwapchain × UInt32}
    (himage : image ∈ images sess layer) : ∃ sc faceCount, image.1 = some sc ∧ ImageValid sc image.2 faceCount := by
  by_cases hcube : ∃ cube, layer = some (.cube cube)
  · obtain ⟨cube, rfl⟩ := hcube
    obtain ⟨-, -, -, -, sc, hsc, hvalid⟩ := h
    rw [List.mem_singleton.1 himage]
    exact ⟨sc, 6, hsc, hvalid⟩
  · have hmap : images sess layer =
        (subImages sess layer).map fun subImage => (subImage.swapchain, subImage.imageArrayIndex) := by
      unfold images
      split
      · exact absurd ⟨_, rfl⟩ hcube
      · rfl
    rw [hmap] at himage
    obtain ⟨subImage, hsub, rfl⟩ := List.mem_map.1 himage
    obtain ⟨sc, hsc, hvalid, -⟩ := h.subImage hsub
    exact ⟨sc, 1, hsc, hvalid⟩

theorem LayerValid.inRange (h : LayerValid Inside sess layer) : InRange sess layer := by
  refine ⟨fun subImage hsub => ?_, fun image himage => ?_⟩
  · obtain ⟨sc, hsc, -, hinside⟩ := h.subImage hsub
    exact ⟨sc, hsc, hinside⟩
  · obtain ⟨sc, _, hsc, hvalid⟩ := h.image himage
    exact ⟨sc, hsc, hvalid.array, hvalid.released, sc.released_nonneg hvalid.released, hvalid.released_lt⟩

/-! ## Frames -/

theorem frameEnd_eq_submit {info : XrFrameEndInfo Q V F} :
    frameEnd sess unreturned info = .ok .submit ↔ Submittable sess info ∧
      ∃ layers, info.layers = some layers ∧ verifyLayers sess unreturned layers = .ok () := by
  have hsubmittable : Submittable sess info ↔ sess.frameStarted = true ∧ 0 < info.displayTime ∧
      sess.headless = false ∧ uVerifyBlendModeValid (convertBlendMode info.environmentBlendMode) = true ∧
      sess.blendModes.contains (convertBlendMode info.environmentBlendMode) = true ∧ info.layerCount ≠ 0 :=
    ⟨fun ⟨h1, h2, h3, h4, h5, h6⟩ => ⟨h1, h2, h3, h4, h5, h6⟩, fun ⟨h1, h2, h3, h4, h5, h6⟩ => ⟨h1, h2, h3, h4, h5, h6⟩⟩
  simp only [hsubmittable, frameEnd, check_step_eq_ok, failIf_eq_ok, Bool.not_eq_false', decide_eq_false_iff_not,
    Int.not_le]
  by_cases hheadless : sess.headless = true
  · simp [hheadless]
  · by_cases hcount : info.layerCount = 0
    · simp [hheadless, hcount, check_step_eq_ok]
    · simp only [if_neg hheadless, if_neg hcount, check_step_eq_ok, failIf_eq_ok, require_step_eq_ok, Bool.not_eq_false']
      simp [hheadless, hcount]
      tauto

theorem verifyLayers_eq_ok {layers : List (Option (XrCompositionLayer Q V F))} :
    verifyLayers sess unreturned layers = .ok () ↔ ∀ i layer, layers[i]? = some layer →
      LayerValid Passes sess layer ∧ (Blends sess → HasBlend layer → unreturned i = .ok ()) := by
  simp only [verifyLayers, checkEach_eq_ok, Nat.zero_add, verifyLayer_eq_ok]

/-- A frame is verified as it has to be, but for negative extents and blend factors. -/
theorem verified_iff (sess : FrameEndSession) (info : XrFrameEndInfo Q V F) : Verified sess info ↔ Plain sess info := by
  constructor
  · rintro ⟨hsound, hcomplete⟩
    refine ⟨fun hsubmittable layers hlayers hvalid layer hlayer => ?_, fun layers hlayers hvalid hblends layer hlayer => ?_⟩
    · -- it is submitted if what `verify_blend_factors` leaves is always a success
      have hsubmit := frameEnd_eq_submit.2 ⟨hsubmittable, layers, hlayers, verifyLayers_eq_ok.2 fun i layer hlayer =>
        ⟨hvalid layer (List.mem_of_getElem? hlayer), fun _ _ => rfl⟩⟩
      have hinside := (hsound (fun _ => .ok ()) hsubmit layers hlayers layer hlayer).1
      rw [inside_eq] at hinside
      exact (layerValid_and.1 hinside).2
    · intro hblend
      have hok := hcomplete layers hlayers hvalid fun _ => .error .runtimeFailure
      obtain ⟨i, hi⟩ := List.mem_iff_getElem?.1 hlayer
      exact nomatch (verifyLayers_eq_ok.1 hok i layer hi).2 hblends hblend
  · rintro ⟨hextents, hplain⟩
    refine ⟨fun unreturned hsubmit layers hlayers layer hlayer => ?_, fun layers hlayers hvalid unreturned => ?_⟩
    · obtain ⟨hsubmittable, layers', hlayers', hverify⟩ := frameEnd_eq_submit.1 hsubmit
      rw [hlayers] at hlayers'
      cases hlayers'
      have hpasses : ∀ layer ∈ layers, LayerValid Passes sess layer := by
        intro layer hlayer
        obtain ⟨i, hi⟩ := List.mem_iff_getElem?.1 hlayer
        exact (verifyLayers_eq_ok.1 hverify i layer hi).1
      have hinside : LayerValid Inside sess layer := by
        rw [inside_eq]
        exact layerValid_and.2 ⟨hpasses layer hlayer, hextents hsubmittable layers hlayers hpasses layer hlayer⟩
      exact ⟨hinside, hinside.inRange⟩
    · refine verifyLayers_eq_ok.2 fun i layer hi => ?_
      have hlayer := List.mem_of_getElem? hi
      have hinside := hvalid layer hlayer
      rw [inside_eq] at hinside
      exact ⟨(layerValid_and.1 hinside).1, fun hblends hblend =>
        absurd hblend (hplain layers hlayers hvalid hblends layer hlayer)⟩

end

/-! ## Two frames -/

/-- Whole numbers are floats. -/
instance FloatTests.int : FloatTests ℤ := ⟨0, 1, fun a b => decide (a < b), fun a b => a == b, fun a => decide (6 < a)⟩

/-- Whole numbers are finite, and a quaternion of them is valid when it is of length one. -/
instance PoseTests.int : PoseTests (ℤ × ℤ × ℤ × ℤ) (ℤ × ℤ × ℤ) :=
  ⟨fun ⟨x, y, z, w⟩ => x * x + y * y + z * z + w * w == 1, fun _ => true⟩

def releasedSwapchain : FrameSwapchain where
  sc :=
    let s := (SwapchainRun.create 16 16 1 1 3 (by decide) false .implicit).s
    let s := (s.call (.acquire .success 0 .success .success)).1
    let s := (s.call (.wait .success .success)).1
    (s.call (.release .success .success)).1.sc
  released_nonneg := fun _ => by decide

def quadOf (imageRect : XrRect2Di) : XrCompositionLayer (ℤ × ℤ × ℤ × ℤ) (ℤ × ℤ × ℤ) ℤ :=
  .quad ⟨[], 1, ⟨some releasedSwapchain, imageRect, 0⟩, ⟨(0, 0, 0, 1), (0, 0, 0)⟩⟩

def frameOf (imageRect : XrRect2Di) : XrFrameEndInfo (ℤ × ℤ × ℤ × ℤ) (ℤ × ℤ × ℤ) ℤ where
  displayTime := 1
  environmentBlendMode := 1
  layerCount := 1
  layers := some [some (quadOf imageRect)]
  length_layers := by
    rintro l ⟨⟩
    rfl

def begunSession (alphaBlendEnabled : Bool) : FrameEndSession :=
  ⟨⟨true, true, true, true, true, false, true⟩, alphaBlendEnabled, .primaryStereo, false, true, [1]⟩

/-- A rectangle from 10 to 5 is accepted, and with blend factors enabled a quad need not be, whatever its
rectangle. -/
theorem negativeExtent_not_verified :
    ¬ Verified (begunSession false) (frameOf ⟨⟨10, 0⟩, ⟨-5, 5⟩⟩) ∧
      ¬ Verified (begunSession true) (frameOf ⟨⟨0, 0⟩, ⟨16, 16⟩⟩) := by
  refine ⟨fun h => ?_, fun h => ?_⟩
  · have hvalid := (h.sound (fun _ => .ok ()) rfl _ rfl _ List.mem_cons_self).1
    obtain ⟨sc, -, -, hinside⟩ := SubImageLayerValid.subImage hvalid
    exact absurd hinside.width (by decide)
  · have hok := h.complete _ rfl ?_ fun _ => .error .runtimeFailure
    · exact absurd hok nofun
    · intro layer hlayer
      rw [List.mem_singleton.1 hlayer]
      refine SubImageLayerValid.mk (by decide) (fun _ info hinfo => nomatch hinfo) ⟨rfl, rfl⟩ ⟨releasedSwapchain, rfl, ?_, ?_⟩
      · exact ⟨by decide, rfl, rfl, by decide⟩
      · exact ⟨by decide, by decide, by decide, by decide, by decide, by decide⟩

end FrameEnd

end AugmentedInsanity.Oxr
