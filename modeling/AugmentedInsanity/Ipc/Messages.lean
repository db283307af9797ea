/-
The structs that client and server send each other in the calls of a device that are not one message and one
reply (`proto/50-device.json`, `ipc_protocol.h`). An item of a conversation is one such struct; the first item
of a call is its message, and the command in it tells which.
-/
import AugmentedInsanity.Lib.Exchange
import AugmentedInsanity.Ipc.Protocol
import AugmentedInsanity.Xrt.Device

namespace AugmentedInsanity.Ipc

open Xrt Exchange

/-! ## Messages -/

structure IpcPcmHapticBuffer where
  numSamples : UInt32
  sampleRate : FloatBits
  append : Bool
  deriving DecidableEq

/-- The messages `struct ipc_device_*_msg`. -/
inductive DeviceRequest
  | getInfo (deviceId : UInt32)
  | updateInput (id : UInt32)
  | getViewPoses (id : UInt32) (fallbackEyeRelation : XrtVec3) (atTimestampNs : Int64) (viewType viewCount : UInt32)
  | getViewPoses2 (id : UInt32) (fallbackEyeRelation : XrtVec3) (atTimestampNs : Int64) (viewType viewCount : UInt32)
  | getPlaneDetectionsExt (id : UInt32) (planeDetectionId : UInt64)
  | setOutput (id : UInt32) (name : XrtOutputName) (value : XrtOutputValue)
  | setHapticOutput (id : UInt32) (name : XrtOutputName) (samples : IpcPcmHapticBuffer)
  deriving DecidableEq

/-! ## Replies -/

/-- `struct ipc_device_get_view_poses_reply`. -/
structure IpcGetViewPosesReply where
  result : XrtResult
  headRelation : XrtSpaceRelation
  viewCount : UInt32
  deriving DecidableEq

/-- `struct ipc_device_get_view_poses_2_reply`, with the arrays of `struct ipc_info_get_view_poses_2`. -/
structure IpcGetViewPoses2Reply where
  result : XrtResult
  headRelation : XrtSpaceRelation
  fovs : Fin XRT_MAX_VIEWS → XrtFov
  poses : Fin XRT_MAX_VIEWS → XrtPose

/-- `struct ipc_device_get_plane_detections_ext_reply`. -/
structure IpcGetPlaneDetectionsReply where
  result : XrtResult
  locationSize : UInt32
  polygonSize : UInt32
  vertexSize : UInt32
  deriving DecidableEq

structure IpcDeviceInfo where
  name : XrtDeviceName
  deviceType : UInt32
  trackingOriginId : UInt32
  str : XrtDeviceStr
  serial : XrtDeviceStr
  bindingProfileCount : UInt32
  totalInputPairCount : UInt32
  totalOutputPairCount : UInt32
  inputCount : UInt32
  outputCount : UInt32
  supported : List UInt8
  deriving DecidableEq

structure IpcBindingProfileInfo where
  name : XrtDeviceName
  firstInputIndex : UInt32
  inputCount : UInt32
  firstOutputIndex : UInt32
  outputCount : UInt32
  deriving DecidableEq

/-! ## Items -/

inductive ItemKind
  | request
  | resultReply
  | input
  | output
  | viewPosesReply
  | viewPoses2Reply
  | fov
  | pose
  | planeDetectionsReply
  | location
  | startIndex
  | polygonInfo
  | vertex
  | xrtResult
  | sample
  | samplesConsumed
  | infoReply
  | inputName
  | outputName
  | bindingProfileInfo
  | inputPair
  | outputPair
  deriving DecidableEq

abbrev ItemKind.Data : ItemKind → Type
  | .request => DeviceRequest
  | .resultReply => XrtResult
  | .input => XrtInput
  | .output => XrtOutput
  | .viewPosesReply => IpcGetViewPosesReply
  | .viewPoses2Reply => IpcGetViewPoses2Reply
  | .fov => XrtFov
  | .pose => XrtPose
  | .planeDetectionsReply => IpcGetPlaneDetectionsReply
  | .location => XrtPlaneDetectorLocation
  | .startIndex => UInt32
  | .polygonInfo => XrtPlanePolygonInfo
  | .vertex => XrtVec2
  | .xrtResult => XrtResult
  | .sample => FloatBits
  | .samplesConsumed => UInt32
  | .infoReply => XrtResult × IpcDeviceInfo
  | .inputName => XrtInputName
  | .outputName => XrtOutputName
  | .bindingProfileInfo => IpcBindingProfileInfo
  | .inputPair => XrtBindingInputPair
  | .outputPair => XrtBindingOutputPair

abbrev Item : Type := Σ k : ItemKind, k.Data

/-- A function of the server; its result is the `xrt_result_t` that `ipc_dispatch` returns. -/
abbrev ServerProc := Proc Item XrtResult

end AugmentedInsanity.Ipc
