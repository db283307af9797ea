/-
A device as the IPC server reads it (`xrt_device.h`, `xrt_defines.h`, `xrt_plane_detector.h`): the fields of
`struct xrt_device`, and what its functions answer in one call. Arrays with their counts are lists; unions,
and parts that are only copied, are kept as their bits.
-/
import Mathlib.Data.List.Basic
import AugmentedInsanity.Xrt.Defines

namespace AugmentedInsanity.Xrt

/-! ## Inputs and outputs -/

abbrev XRT_DEVICE_NAME_LEN : ℕ := 256

abbrev XrtDeviceName := UInt32
abbrev XrtInputName := UInt32
abbrev XrtOutputName := UInt32

/-- `enum xrt_input_type`; the cast of a name can give any other value. -/
inductive XrtInputType
  | vec1ZeroToOne
  | vec1MinusOneToOne
  | vec2MinusOneToOne
  | vec3MinusOneToOne
  | boolean
  | pose
  | handTracking
  | faceTracking
  | bodyTracking
  | other (value : ℕ)
  deriving DecidableEq

abbrev XRT_INPUT_TYPE_BITMASK : UInt32 := 0xff

def xrtGetInputType (name : XrtInputName) : XrtInputType :=
  match (name &&& XRT_INPUT_TYPE_BITMASK).toNat with
  | 0 => .vec1ZeroToOne
  | 1 => .vec1MinusOneToOne
  | 2 => .vec2MinusOneToOne
  | 3 => .vec3MinusOneToOne
  | 4 => .boolean
  | 5 => .pose
  | 6 => .handTracking
  | 7 => .faceTracking
  | 8 => .bodyTracking
  | value => .other value

/-- `XRT_INPUT_NAME(0x0000, POSE)`. -/
abbrev XRT_INPUT_GENERIC_HEAD_POSE : XrtInputName := 0x0005

/-- `struct xrt_input`, with the bits of its value. -/
structure XrtInput where
  active : Bool
  timestamp : Int64
  name : XrtInputName
  value : UInt64
  deriving DecidableEq

/-- `U_ZERO` of an input. -/
def XrtInput.zero : XrtInput := ⟨false, 0, 0, 0⟩

structure XrtOutput where
  name : XrtOutputName
  deriving DecidableEq

/-! ## Bindings -/

/-- `struct xrt_binding_input_pair`: from which name, to which input of the device. -/
structure XrtBindingInputPair where
  fromName : XrtInputName
  device : XrtInputName
  deriving DecidableEq

structure XrtBindingOutputPair where
  fromName : XrtOutputName
  device : XrtOutputName
  deriving DecidableEq

structure XrtBindingProfile where
  name : XrtDeviceName
  inputs : List XrtBindingInputPair
  outputs : List XrtBindingOutputPair
  deriving DecidableEq

/-! ## Devices -/

/-- What a `char[XRT_DEVICE_NAME_LEN]` holds, up to its terminating zero. -/
structure XrtDeviceStr where
  chars : List UInt8
  noNul : 0 ∉ chars
  length_lt : chars.length < XRT_DEVICE_NAME_LEN
  deriving DecidableEq

theorem XrtDeviceStr.noNul_nil : 0 ∉ ([] : List UInt8) := List.not_mem_nil

theorem XrtDeviceStr.length_nil_lt : ([] : List UInt8).length < XRT_DEVICE_NAME_LEN := by decide

def XrtDeviceStr.empty : XrtDeviceStr := ⟨[], noNul_nil, length_nil_lt⟩

/-- `snprintf(dst, XRT_DEVICE_NAME_LEN, "%s", src)`. -/
def XrtDeviceStr.snprintf (src : XrtDeviceStr) : XrtDeviceStr where
  chars := src.chars.take (XRT_DEVICE_NAME_LEN - 1)
  noNul h := src.noNul (List.mem_of_mem_take h)
  length_lt := by rw [List.length_take]; have := src.length_lt; omega

@[simp] theorem XrtDeviceStr.snprintf_eq (src : XrtDeviceStr) : src.snprintf = src := by
  obtain ⟨chars, noNul, length_lt⟩ := src
  have hle : chars.length ≤ XRT_DEVICE_NAME_LEN - 1 := by omega
  simp only [XrtDeviceStr.snprintf, List.take_of_length_le hle]

/-- The fields of `struct xrt_device`; `supported` are the bytes of `struct xrt_device_supported`. -/
structure XrtDeviceFields where
  name : XrtDeviceName
  deviceType : UInt32
  str : XrtDeviceStr
  serial : XrtDeviceStr
  trackingOrigin : Option ℕ
  bindingProfiles : List XrtBindingProfile
  inputs : List XrtInput
  outputs : List XrtOutput
  supported : List UInt8
  deriving DecidableEq

/-! ## Answers -/

/-- `struct xrt_hand_joint_set`; `values` are the bytes of the joints. -/
structure XrtHandJointSet where
  values : List UInt8
  handPose : XrtSpaceRelation
  isActive : Bool
  deriving DecidableEq

def XrtHandJointSet.zero : XrtHandJointSet := ⟨[], .zero, false⟩

structure XrtVec2 where
  x : FloatBits
  y : FloatBits
  deriving DecidableEq

structure XrtFov where
  angleLeft : FloatBits
  angleRight : FloatBits
  angleUp : FloatBits
  angleDown : FloatBits
  deriving DecidableEq

/-- `struct xrt_plane_detector_location_ext`. -/
structure XrtPlaneDetectorLocation where
  planeId : UInt64
  relation : XrtSpaceRelation
  extents : XrtVec2
  orientation : UInt32
  semanticType : UInt32
  polygonBufferCount : UInt32
  deriving DecidableEq

/-- `struct xrt_plane_polygon_info_ext`. -/
structure XrtPlanePolygonInfo where
  vertexCount : UInt32
  verticesStartIndex : UInt32
  deriving DecidableEq

/-- `struct xrt_plane_detections_ext` as the device fills it; its counts are `uint32_t`. -/
structure XrtPlaneDetections where
  locations : List XrtPlaneDetectorLocation
  polygonInfoStartIndex : List UInt32
  polygonInfos : List XrtPlanePolygonInfo
  vertices : List XrtVec2
  startIndex_length : polygonInfoStartIndex.length = locations.length
  locations_lt : locations.length < UInt32.size
  polygonInfos_lt : polygonInfos.length < UInt32.size
  vertices_lt : vertices.length < UInt32.size
  deriving DecidableEq

/-- `struct xrt_output_value`; the values that are not PCM are kept as their bytes. -/
inductive XrtOutputValue
  | vibration (bits : List UInt8)
  | pcmVibration (append : Bool) (buffer : List FloatBits) (sampleRate : FloatBits)
  | forceFeedback (bits : List UInt8)
  deriving DecidableEq

/-- What the device leaves in the arrays that `get_view_poses` was given. -/
structure XrtViewPoses where
  result : XrtResult
  headRelation : XrtSpaceRelation
  fovs : ℕ → XrtFov
  poses : ℕ → XrtPose

/-- A device: its fields, and what its functions answer in this call. `updateInputs` gives the fields as it
leaves them; `setOutput` gives the samples it consumed, if it writes them. -/
structure XrtDeviceAnswers where
  fields : XrtDeviceFields
  updateInputs : XrtResult × XrtDeviceFields
  getTrackedPose : XrtInputName → Int64 → XrtResult × XrtSpaceRelation
  getHandTracking : XrtInputName → Int64 → XrtResult × XrtHandJointSet × Int64
  getViewPoses : XrtVec3 → Int64 → UInt32 → UInt32 → XrtViewPoses
  getPlaneDetections : UInt64 → XrtResult × XrtPlaneDetections
  setOutput : XrtOutputName → XrtOutputValue → XrtResult × Option UInt32

end AugmentedInsanity.Xrt
