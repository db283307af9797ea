/-
The devices of the client (`ipc_client_xdev.c`, `ipc_client_hmd.c`): the functions that read more than one reply.
Each is the left program of a conversation with `serveDevice`. Parts that only copy a reply of one message are
left out.
-/
import AugmentedInsanity.Ipc.Messages

namespace AugmentedInsanity.Ipc.Client

open Xrt Exchange

structure IpcClientXdev where
  deviceId : UInt32
  base : XrtDeviceFields
  deriving DecidableEq

/-! ## Inputs -/

def ipcClientXdevUpdateInputs (icx : IpcClientXdev) : Proc Item (XrtResult × IpcClientXdev) :=
  .sendOne .request (.updateInput icx.deviceId) (.errorIpcFailure, icx) <|
  .recvOne .resultReply (.errorIpcFailure, icx) fun result =>
    if result ≠ .success then .done (result, icx)
    else
      .recvSome .input icx.base.inputs.length (.errorIpcFailure, icx) fun inputs =>
        let icx := { icx with base := { icx.base with inputs := inputs } }
        .recvSome .output icx.base.outputs.length (.errorIpcFailure, icx) fun outputs =>
          .done (.success, { icx with base := { icx.base with outputs := outputs } })

/-! ## Views -/

/-- What `get_view_poses` writes. -/
structure Views where
  headRelation : XrtSpaceRelation
  fovs : List XrtFov
  poses : List XrtPose
  deriving DecidableEq

/-- `call_get_view_poses_raw`; another number of views than it asked for fails its assertion. -/
def callGetViewPosesRaw (deviceId : UInt32) (defaultEyeRelation : XrtVec3) (atTimestampNs : Int64)
    (viewType viewCount : UInt32) : Proc Item (XrtResult × Option Views) :=
  .sendOne .request (.getViewPoses deviceId defaultEyeRelation atTimestampNs viewType viewCount)
    (.errorIpcFailure, none) <|
  .recvOne .viewPosesReply (.errorIpcFailure, none) fun reply =>
    if reply.result ≠ .success then .done (reply.result, none)
    else if viewCount ≠ reply.viewCount then .undefined
    else
      .recvAll .fov viewCount.toNat (.errorIpcFailure, none) fun fovs =>
      .recvAll .pose viewCount.toNat (.errorIpcFailure, none) fun poses =>
      .done (.success, some ⟨reply.headRelation, fovs, poses⟩)

/-- `ipc_client_hmd_get_view_poses`; too many views fail its assertion. -/
def ipcClientHmdGetViewPoses (deviceId : UInt32) (defaultEyeRelation : XrtVec3) (atTimestampNs : Int64)
    (viewType viewCount : UInt32) : Proc Item (XrtResult × Option Views) :=
  if viewCount = 2 then
    .sendOne .request (.getViewPoses2 deviceId defaultEyeRelation atTimestampNs viewType viewCount)
      (.errorIpcFailure, none) <|
    .recvOne .viewPoses2Reply (.errorIpcFailure, none) fun reply =>
      if reply.result ≠ .success then .done (reply.result, none)
      else .done (.success, some ⟨reply.headRelation, List.ofFn reply.fovs, List.ofFn reply.poses⟩)
  else if viewCount.toNat ≤ IPC_MAX_RAW_VIEWS then
    callGetViewPosesRaw deviceId defaultEyeRelation atTimestampNs viewType viewCount
  else .undefined

/-! ## Planes -/

/-- `struct xrt_plane_detections_ext` as the client reuses it; an array that is NULL is empty. -/
structure PlaneBuffers where
  locationCount : UInt32
  locationSize : UInt32
  locations : List XrtPlaneDetectorLocation
  polygonInfoStartIndex : List UInt32
  polygonInfoSize : UInt32
  polygonInfos : List XrtPlanePolygonInfo
  vertexSize : UInt32
  vertices : List XrtVec2
  deriving DecidableEq

structure Reallocs where
  locations : Bool
  startIndex : Bool
  polygonInfos : Bool
  vertices : Bool

/-- `U_ARRAY_REALLOC_OR_FREE`; `fill` stands for what a new entry holds. -/
def reallocOrFree {α : Type} (ok : Bool) (fill : α) (array : List α) (count : ℕ) : List α :=
  if ok then array.take count ++ List.replicate (count - array.length) fill else []

/-- The arrays that are too small for what is to come are reallocated. -/
def PlaneBuffers.reserve (buf : PlaneBuffers) (mem : Reallocs) (locationSize polygonSize vertexSize : UInt32) :
    PlaneBuffers :=
  let buf := { buf with locationCount := locationSize }
  let buf :=
    if buf.locationSize < locationSize then
      { buf with
        locations := reallocOrFree mem.locations ⟨0, .zero, ⟨0, 0⟩, 0, 0, 0⟩ buf.locations locationSize.toNat
        polygonInfoStartIndex := reallocOrFree mem.startIndex 0 buf.polygonInfoStartIndex locationSize.toNat
        locationSize := locationSize }
    else buf
  let buf :=
    if buf.polygonInfoSize < polygonSize then
      { buf with
        polygonInfos := reallocOrFree mem.polygonInfos ⟨0, 0⟩ buf.polygonInfos polygonSize.toNat
        polygonInfoSize := polygonSize }
    else buf
  if buf.vertexSize < vertexSize then
    { buf with
      vertices := reallocOrFree mem.vertices ⟨0, 0⟩ buf.vertices vertexSize.toNat
      vertexSize := vertexSize }
  else buf

def PlaneBuffers.missing (buf : PlaneBuffers) (locationSize polygonSize vertexSize : UInt32) : Bool :=
  (decide (0 < locationSize) && (buf.locations.isEmpty || buf.polygonInfoStartIndex.isEmpty)) ||
    (decide (0 < polygonSize) && buf.polygonInfos.isEmpty) || (decide (0 < vertexSize) && buf.vertices.isEmpty)

def overwrite {α : Type} (array items : List α) : List α := items ++ array.drop items.length

def ipcClientXdevGetPlaneDetectionsExt (deviceId : UInt32) (mem : Reallocs) (planeDetectionId : UInt64)
    (buf : PlaneBuffers) : Proc Item (XrtResult × PlaneBuffers) :=
  .sendOne .request (.getPlaneDetectionsExt deviceId planeDetectionId) (.errorIpcFailure, buf) <|
  .recvOne .planeDetectionsReply (.errorIpcFailure, buf) fun reply =>
    if reply.result ≠ .success then .done (reply.result, buf)
    else if reply.locationSize < 1 then .done (.success, { buf with locationCount := 0 })
    else
      let buf := buf.reserve mem reply.locationSize reply.polygonSize reply.vertexSize
      if buf.missing reply.locationSize reply.polygonSize reply.vertexSize then
        .done (.errorIpcFailure, { buf with locationSize := 0, polygonInfoSize := 0, vertexSize := 0 })
      else
        .recvSome .location reply.locationSize.toNat (.errorIpcFailure, buf) fun locations =>
        .recvSome .startIndex reply.locationSize.toNat (.errorIpcFailure, buf) fun startIndex =>
        .recvSome .polygonInfo reply.polygonSize.toNat (.errorIpcFailure, buf) fun polygonInfos =>
        .recvSome .vertex reply.vertexSize.toNat (.errorIpcFailure, buf) fun vertices =>
        .done (.success,
          { buf with
            locations := overwrite buf.locations locations
            polygonInfoStartIndex := overwrite buf.polygonInfoStartIndex startIndex
            polygonInfos := overwrite buf.polygonInfos polygonInfos
            vertices := overwrite buf.vertices vertices })

/-! ## Outputs -/

/-- The conversion of a `float` to `uint32_t`, where C defines it. -/
def floatToUInt32 (bits : FloatBits) : Option UInt32 :=
  let exponent := bits.toNat / 2 ^ 23 % 2 ^ 8
  let significand := bits.toNat % 2 ^ 23 + 2 ^ 23
  let magnitude := if exponent < 127 then 0 else significand * 2 ^ (exponent - 127) / 2 ^ 23
  if exponent = 255 then none
  else if magnitude = 0 then some 0
  else if bits.toNat < 2 ^ 31 ∧ magnitude < UInt32.size then some (.ofNat magnitude)
  else none

/-- The bits of `4000.0f`. -/
abbrev FLOAT_4000 : FloatBits := 0x457a0000

/-- `f < 4000` on a `float`: a positive one is ordered as its bits, and a NaN is never less. -/
def floatLt4000 (bits : FloatBits) : Bool :=
  if bits.toNat < 2 ^ 31 then decide (bits < FLOAT_4000) else decide (bits.toNat ≤ 0xff800000)

/-- What the client reads past the end of a sample buffer, and what it gets for a `float` that `uint32_t` cannot
hold. -/
structure ClientMemory where
  past : ℕ → FloatBits
  outOfRange : UInt32

/-- `MIN(sample_rate, 4000)` as a `uint32_t`. -/
def samplesSent (cmem : ClientMemory) (sampleRate : FloatBits) : UInt32 :=
  (floatToUInt32 (if floatLt4000 sampleRate then sampleRate else FLOAT_4000)).getD cmem.outOfRange

/-- The first `n` samples from a buffer on. -/
def samplesFrom (cmem : ClientMemory) (buffer : List FloatBits) (n : ℕ) : List FloatBits :=
  (List.range n).map fun i => buffer[i]?.getD (cmem.past i)

/-- `ipc_client_xdev_set_output`, with the samples it reports as consumed. -/
def ipcClientXdevSetOutput (deviceId : UInt32) (cmem : ClientMemory) (name : XrtOutputName) :
    XrtOutputValue → Proc Item (XrtResult × Option UInt32)
  | .pcmVibration append buffer sampleRate =>
    let samplesSent := samplesSent cmem sampleRate
    .sendOne .request (.setHapticOutput deviceId name ⟨samplesSent, sampleRate, append⟩) (.errorIpcFailure, none) <|
    .recvOne .xrtResult (.errorIpcFailure, none) fun allocXret =>
      -- the result of the receive is returned, not that of the server
      if allocXret ≠ .success then .done (.success, none)
      else
        .sendAll .sample (samplesFrom cmem buffer samplesSent.toNat) (.errorIpcFailure, none) <|
        .recvOne .samplesConsumed (.errorIpcFailure, none) fun samplesConsumed =>
        .done (.success, some samplesConsumed)
  | value =>
    .sendOne .request (.setOutput deviceId name value) (.errorIpcFailure, none) <|
    .recvOne .resultReply (.errorIpcFailure, none) fun result => .done (result, none)

/-! ## The description of a device -/

/-- The loop of `ipc_client_xdev_init` that wires up the profiles, from the offsets of the pairs before it. -/
def wireProfiles (allInputPairs : List XrtBindingInputPair) (allOutputPairs : List XrtBindingOutputPair) :
    UInt32 → UInt32 → List IpcBindingProfileInfo → List XrtBindingProfile
  | _, _, [] => []
  | inputPairOffset, outputPairOffset, ibpi :: infos =>
    { name := ibpi.name
      inputs := (allInputPairs.drop inputPairOffset.toNat).take ibpi.inputCount.toNat
      outputs := (allOutputPairs.drop outputPairOffset.toNat).take ibpi.outputCount.toNat } ::
    wireProfiles allInputPairs allOutputPairs (inputPairOffset + ibpi.inputCount) (outputPairOffset + ibpi.outputCount)
      infos

/-- `ipc_client_xdev_init`; `xtrack` is `ipc_client_tracking_origin_manager_get`, called outside the conversation. -/
def ipcClientXdevInit (deviceId : UInt32) (xtrack : UInt32 → Except XrtResult ℕ) :
    Proc Item (XrtResult × Option IpcClientXdev) :=
  .sendOne .request (.getInfo deviceId) (.errorIpcFailure, none) <|
  .recvOne .infoReply (.errorIpcFailure, none) fun (result, info) =>
    if result ≠ .success then .done (result, none)
    else
      .recvSome .inputName info.inputCount.toNat (.errorIpcFailure, none) fun inputNames =>
      .recvSome .outputName info.outputCount.toNat (.errorIpcFailure, none) fun outputNames =>
      .recvSome .bindingProfileInfo info.bindingProfileCount.toNat (.errorIpcFailure, none) fun ibpis =>
      .recvSome .inputPair info.totalInputPairCount.toNat (.errorIpcFailure, none) fun allInputPairs =>
      .recvSome .outputPair info.totalOutputPairCount.toNat (.errorIpcFailure, none) fun allOutputPairs =>
      match xtrack info.trackingOriginId with
      | .error xret => .done (xret, none)
      | .ok xtrack =>
        .done (.success, some
          { deviceId := deviceId
            base :=
              { name := info.name
                deviceType := info.deviceType
                str := info.str.snprintf
                serial := info.serial.snprintf
                trackingOrigin := some xtrack
                bindingProfiles := wireProfiles allInputPairs allOutputPairs 0 0 ibpis
                inputs := inputNames.map fun name => { XrtInput.zero with name := name }
                outputs := outputNames.map fun name => ⟨name⟩
                supported := info.supported } })

end AugmentedInsanity.Ipc.Client
