/-
The parts of the XRT interface headers that the other modules read: result codes, limits, poses and
space relations, devices, swapchains and layers (`xrt_results.h`, `xrt_limits.h`, `xrt_defines.h`,
`xrt_device.h`, `xrt_compositor.h`, `xrt_space.h`). Floats are only ever copied by the modelled code,
so a float is kept as its 32 bits; an object behind a pointer is known by a number.
-/
import Mathlib.Data.Nat.Notation

namespace AugmentedInsanity.Xrt

/-! ## Results -/

/-- `xrt_result_t`. -/
inductive XrtResult
  | success
  | timeout
  | spaceBoundsUnavailable
  | operationCancelled
  | errorIpcFailure
  | errorNoImageAvailable
  | errorVulkan
  | errorOpengl
  | errorFailedToSubmitVulkanCommands
  | errorSwapchainFlagValidButUnsupported
  | errorAllocation
  | errorPoseNotActive
  | errorFenceCreateFailed
  | errorNativeHandleFenceError
  | errorMultiSessionNotImplemented
  | errorSwapchainFormatUnsupported
  | errorEglConfigMissing
  | errorThreadingInitFailure
  | errorIpcSessionNotCreated
  | errorIpcSessionAlreadyCreated
  | errorProberNotSupported
  | errorProberCreationFailed
  | errorProberListLocked
  | errorProberListNotLocked
  | errorProbingFailed
  | errorDeviceCreationFailed
  | errorD3d
  | errorD3d11
  | errorD3d12
  | errorRecenteringNotSupported
  | errorCompositorNotSupported
  | errorIpcCompositorNotCreated
  | errorNotImplemented
  | errorUnsupportedSpaceType
  | errorAndroid
  | errorFeatureNotSupported
  | errorInputUnsupported
  | errorOutputUnsupported
  | errorOutputRequestFailure
  | errorSyncPrimitiveCreationFailed
  | errorIpcServiceAlreadyRunning
  | errorIpcMainloopFailedToInit
  | errorInvalidArgument
  | errorFutureResultNotReady
  | errorFutureAlreadyComplete
  | errorDeviceNotAttachable
  | errorUncaughtException
  | errorUnsupportedViewType
  deriving DecidableEq

/-- A result code returned where a `bool` is expected: every code but `XRT_SUCCESS` is non-zero. -/
def XrtResult.toBool (r : XrtResult) : Bool := r != .success

/-! ## Limits -/

abbrev XRT_SYSTEM_MAX_DEVICES : ℕ := 32
abbrev XRT_MAX_VIEWS : ℕ := 2
abbrev XRT_MAX_IPC_HANDLES : ℕ := 16
abbrev XRT_MAX_SWAPCHAIN_IMAGES : ℕ := 8
/-- `XRT_MAX_LAYERS`, the value of the Android build; the desktop builds have 128. -/
abbrev XRT_MAX_LAYERS : ℕ := 32
abbrev XRT_MAX_CLIENT_SPACES : ℕ := 128

abbrev XRT_SPACE_REFERENCE_TYPE_COUNT : ℕ := 5
abbrev XRT_DEVICE_FEATURE_MAX_ENUM : ℕ := 4

/-! ## Poses and relations -/

/-- The bits of a `float`. -/
abbrev FloatBits := UInt32

structure XrtVec3 where
  x : FloatBits
  y : FloatBits
  z : FloatBits
  deriving DecidableEq

structure XrtQuat where
  x : FloatBits
  y : FloatBits
  z : FloatBits
  w : FloatBits
  deriving DecidableEq

structure XrtPose where
  orientation : XrtQuat
  position : XrtVec3
  deriving DecidableEq

/-- `{0, 0, 0}`. -/
def XrtVec3.zero : XrtVec3 := ⟨0, 0, 0⟩
def XrtPose.zero : XrtPose := ⟨⟨0, 0, 0, 0⟩, .zero⟩

abbrev XRT_SPACE_RELATION_ORIENTATION_VALID_BIT : UInt32 := 1
abbrev XRT_SPACE_RELATION_POSITION_VALID_BIT : UInt32 := 2
abbrev XRT_SPACE_RELATION_LINEAR_VELOCITY_VALID_BIT : UInt32 := 4
abbrev XRT_SPACE_RELATION_ANGULAR_VELOCITY_VALID_BIT : UInt32 := 8
abbrev XRT_SPACE_RELATION_ORIENTATION_TRACKED_BIT : UInt32 := 16
abbrev XRT_SPACE_RELATION_POSITION_TRACKED_BIT : UInt32 := 32

structure XrtSpaceRelation where
  relationFlags : UInt32
  pose : XrtPose
  linearVelocity : XrtVec3
  angularVelocity : XrtVec3
  deriving DecidableEq

def XrtSpaceRelation.zero : XrtSpaceRelation := ⟨0, .zero, .zero, .zero⟩

/-! ## Objects -/

/-- `struct xrt_hmd_parts`, with its number of views. -/
structure XrtHmdParts where
  viewCount : ℕ
  viewCount_le : viewCount ≤ XRT_MAX_VIEWS
  deriving DecidableEq

/-- `struct xrt_device *`. -/
structure XrtDevice where
  ptr : ℕ
  hmd : Option XrtHmdParts
  deriving DecidableEq

/-- `struct xrt_swapchain *`, with what the server reads of its native images. -/
structure XrtSwapchain where
  ptr : ℕ
  imageCount : UInt32
  imageSize : UInt64
  useDedicatedAllocation : Bool
  deriving DecidableEq

/-- `struct xrt_space *`. -/
abbrev XrtSpace := ℕ

/-- `struct xrt_swapchain_create_info`, as far as the server copies it. -/
structure XrtSwapchainCreateInfo where
  width : UInt32
  height : UInt32
  format : UInt64
  deriving DecidableEq

/-! ## Layers -/

/-- `enum xrt_layer_type`; it is read from shared memory, so any other value can be found there. -/
inductive XrtLayerType
  | projection
  | projectionDepth
  | quad
  | cube
  | cylinder
  | equirect1
  | equirect2
  | passthrough
  | other (value : UInt32)
  deriving DecidableEq

/-- `struct xrt_layer_data`; `rest` is everything besides the type and the number of views. -/
structure XrtLayerData where
  type : XrtLayerType
  viewCount : UInt32
  rest : List UInt8
  deriving DecidableEq

structure XrtLayerFrameData where
  frameId : Int64
  displayTimeNs : Int64
  envBlendMode : UInt32
  deriving DecidableEq

end AugmentedInsanity.Xrt
