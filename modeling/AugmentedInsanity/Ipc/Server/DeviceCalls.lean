/-
The handlers of the device calls that send their own replies (`ipc_server_handler.c`): views, planes, haptics
and the description of a device, with the two calls of one reply that stand beside them. `dispatchDevice` is the
part of `ipc_dispatch` that calls them.
-/
import AugmentedInsanity.Ipc.Server.DeviceInputs

namespace AugmentedInsanity.Ipc.Device

open Xrt Exchange

/-- What memory of the server holds before it is written, and which allocations succeed. -/
structure ServerMemory where
  filtered : ℕ → XrtInputName
  samplesConsumed : UInt32
  samples : Bool
  profiles : Bool
  inputPairs : Bool
  outputPairs : Bool

/-! ## Views -/

def ipcHandleDeviceGetViewPoses (ics : IpcClientState) (dev : XrtDevice → XrtDeviceAnswers) (id : UInt32)
    (fallbackEyeRelation : XrtVec3) (atTimestampNs : Int64) (viewType viewCount : UInt32) : ServerProc :=
  getXdevOrReturn ics id dev fun xdev =>
    if viewCount = 0 ∨ IPC_MAX_RAW_VIEWS < viewCount.toNat then
      .sendOne .viewPosesReply ⟨.errorIpcFailure, .zero, 0⟩ .errorIpcFailure <| .done .success
    else
      let views := xdev.getViewPoses fallbackEyeRelation atTimestampNs viewType viewCount
      .sendOne .viewPosesReply ⟨views.result, views.headRelation, viewCount⟩ .errorIpcFailure <|
      .sendAll .fov ((List.range viewCount.toNat).map views.fovs) .errorIpcFailure <|
      .sendAll .pose ((List.range viewCount.toNat).map views.poses) .errorIpcFailure <|
      .done .success

/-- `ipc_handle_device_get_view_poses_2`; the reply is zeroed before the call. -/
def ipcHandleDeviceGetViewPoses2 (ics : IpcClientState) (dev : XrtDevice → XrtDeviceAnswers) (id : UInt32)
    (fallbackEyeRelation : XrtVec3) (atTimestampNs : Int64) (viewType viewCount : UInt32) : IpcGetViewPoses2Reply :=
  match getXdevAndValidate ics id with
  | .error xret => ⟨xret, .zero, fun _ => ⟨0, 0, 0, 0⟩, fun _ => .zero⟩
  | .ok xdev =>
    let views := (dev xdev).getViewPoses fallbackEyeRelation atTimestampNs viewType viewCount
    ⟨views.result, views.headRelation, fun i => views.fovs i, fun i => views.poses i⟩

/-! ## Planes -/

def sendPolygons (out : XrtPlaneDetections) : ServerProc :=
  .sendSome .polygonInfo out.polygonInfos .errorIpcFailure <|
  .sendSome .vertex out.vertices .errorIpcFailure <|
  .done .success

def ipcHandleDeviceGetPlaneDetectionsExt (ics : IpcClientState) (dev : XrtDevice → XrtDeviceAnswers) (id : UInt32)
    (planeDetectionId : UInt64) : ServerProc :=
  getXdevOrReturn ics id dev fun xdev =>
    let (xret, out) := xdev.getPlaneDetections planeDetectionId
    if xret ≠ .success then .done xret
    else
      .sendOne .planeDetectionsReply
        ⟨.success, .ofNat out.locations.length, .ofNat out.polygonInfos.length, .ofNat out.vertices.length⟩
        .errorIpcFailure <|
      if 0 < out.locations.length then
        .sendAll .location out.locations .errorIpcFailure <|
        .sendAll .startIndex out.polygonInfoStartIndex .errorIpcFailure (sendPolygons out)
      else sendPolygons out

/-! ## Outputs -/

def ipcHandleDeviceSetOutput (ics : IpcClientState) (dev : XrtDevice → XrtDeviceAnswers) (id : UInt32)
    (name : XrtOutputName) (value : XrtOutputValue) : XrtResult :=
  if ics.clientState.ioBlocks.blockOutputs then .success
  else
    match getXdevAndValidate ics id with
    | .error xret => xret
    | .ok xdev => ((dev xdev).setOutput name value).1

/-- `ipc_handle_device_set_haptic_output`; besides its result, the value it gave to the device. -/
def ipcHandleDeviceSetHapticOutput (ics : IpcClientState) (dev : XrtDevice → XrtDeviceAnswers) (mem : ServerMemory)
    (id : UInt32) (name : XrtOutputName) (buffer : IpcPcmHapticBuffer) :
    Proc Item (XrtResult × Option XrtOutputValue) :=
  if ics.clientState.ioBlocks.blockOutputs then .done (.success, none)
  else
    match getXdevAndValidate ics id with
    | .error xret => .done (xret, none)
    | .ok xdev =>
      .sendOne .xrtResult (if mem.samples then .success else .errorAllocation) (.errorIpcFailure, none) <|
      if !mem.samples then .done (.errorAllocation, none)
      else
        .recvAll .sample buffer.numSamples.toNat (.errorIpcFailure, none) fun samples =>
          let value := .pcmVibration buffer.append samples buffer.sampleRate
          let samplesConsumed := ((dev xdev).setOutput name value).2.getD mem.samplesConsumed
          .sendOne .samplesConsumed samplesConsumed (.errorIpcFailure, some value) <| .done (.success, some value)

/-! ## The description of a device -/

/-- The counts of `fill_device_info`, which are added up in 32 bits. -/
def totalCount (counts : List ℕ) : UInt32 := counts.foldl (fun total n => total + .ofNat n) 0

def fillDeviceInfo (xdev : XrtDeviceFields) (trackingOriginId : UInt32) : IpcDeviceInfo where
  name := xdev.name
  deviceType := xdev.deviceType
  trackingOriginId := trackingOriginId
  str := xdev.str
  serial := xdev.serial
  bindingProfileCount := .ofNat xdev.bindingProfiles.length
  totalInputPairCount := totalCount (xdev.bindingProfiles.map fun xbp => xbp.inputs.length)
  totalOutputPairCount := totalCount (xdev.bindingProfiles.map fun xbp => xbp.outputs.length)
  inputCount := .ofNat xdev.inputs.length
  outputCount := .ofNat xdev.outputs.length
  supported := xdev.supported

/-- The loop of `send_binding_profiles`, from the indices of the pairs before it. -/
def bindingProfileInfos : UInt32 → UInt32 → List XrtBindingProfile → List IpcBindingProfileInfo
  | _, _, [] => []
  | inputIndex, outputIndex, xbp :: profiles =>
    { name := xbp.name
      firstInputIndex := if 0 < xbp.inputs.length then inputIndex else 0
      inputCount := .ofNat xbp.inputs.length
      firstOutputIndex := if 0 < xbp.outputs.length then outputIndex else 0
      outputCount := .ofNat xbp.outputs.length } ::
    bindingProfileInfos (inputIndex + .ofNat xbp.inputs.length) (outputIndex + .ofNat xbp.outputs.length) profiles

def sendBindingProfiles (mem : ServerMemory) (profiles : List XrtBindingProfile) (count : UInt32) (next : ServerProc) :
    ServerProc :=
  if count = 0 then next
  else if !mem.profiles then .done .errorAllocation
  else .sendAll .bindingProfileInfo (bindingProfileInfos 0 0 (profiles.take count.toNat)) .errorIpcFailure next

/-- `send_binding_input_pairs` and `send_binding_output_pairs`: the pairs are copied to a zeroed array of the
total; what is more than that is written past its end. -/
def sendBindingPairs (k : ItemKind) (zero : k.Data) (allocated : Bool) (pairs : List k.Data) (total : UInt32)
    (next : ServerProc) : ServerProc :=
  if total = 0 then next
  else if !allocated then .done .errorAllocation
  else if total.toNat < pairs.length then .undefined
  else .sendAll k (pairs ++ List.replicate (total.toNat - pairs.length) zero) .errorIpcFailure next

/-- `ipc_handle_device_get_info`; the arrays of names are allocated without a check. -/
def ipcHandleDeviceGetInfo (ics : IpcClientState) (dev : XrtDevice → XrtDeviceAnswers) (mem : ServerMemory)
    (deviceId : UInt32) : ServerProc :=
  getXdevOrReturn ics deviceId dev fun xdev =>
    match (getXtrackIdOrAdd ics xdev.fields.trackingOrigin).1 with
    | .error xret => .done xret
    | .ok trackingOriginId =>
      let info := fillDeviceInfo xdev.fields (.ofNat trackingOriginId)
      let profiles := xdev.fields.bindingProfiles
      let counted := profiles.take info.bindingProfileCount.toNat
      .sendOne .infoReply (.success, info) .errorIpcFailure <|
      .sendSome .inputName (xdev.fields.inputs.map XrtInput.name) .errorIpcFailure <|
      .sendSome .outputName (xdev.fields.outputs.map XrtOutput.name) .errorIpcFailure <|
      sendBindingProfiles mem profiles info.bindingProfileCount <|
      sendBindingPairs .inputPair ⟨0, 0⟩ mem.inputPairs (counted.flatMap XrtBindingProfile.inputs)
        info.totalInputPairCount <|
      sendBindingPairs .outputPair ⟨0, 0⟩ mem.outputPairs (counted.flatMap XrtBindingProfile.outputs)
        info.totalOutputPairCount <|
      .done .success

/-! ## Dispatch -/

/-- The cases of `ipc_dispatch`; where a handler does not reply itself, the reply follows. -/
def dispatchDevice (ics : IpcClientState) (dev : XrtDevice → XrtDeviceAnswers) (mem : ServerMemory) :
    DeviceRequest → ServerProc
  | .getInfo deviceId => ipcHandleDeviceGetInfo ics dev mem deviceId
  | .updateInput id => ipcHandleDeviceUpdateInput ics dev mem.filtered id
  | .getViewPoses id fallbackEyeRelation atTimestampNs viewType viewCount =>
    ipcHandleDeviceGetViewPoses ics dev id fallbackEyeRelation atTimestampNs viewType viewCount
  | .getViewPoses2 id fallbackEyeRelation atTimestampNs viewType viewCount =>
    .sendOne .viewPoses2Reply
      (ipcHandleDeviceGetViewPoses2 ics dev id fallbackEyeRelation atTimestampNs viewType viewCount)
      .errorIpcFailure <| .done .success
  | .getPlaneDetectionsExt id planeDetectionId => ipcHandleDeviceGetPlaneDetectionsExt ics dev id planeDetectionId
  | .setOutput id name value =>
    .sendOne .resultReply (ipcHandleDeviceSetOutput ics dev id name value) .errorIpcFailure <| .done .success
  | .setHapticOutput id name samples => (ipcHandleDeviceSetHapticOutput ics dev mem id name samples).map Prod.fst

/-- The thread of a client: it receives a message and dispatches it. -/
def serveDevice (ics : IpcClientState) (dev : XrtDevice → XrtDeviceAnswers) (mem : ServerMemory) : ServerProc :=
  .recvOne .request .errorIpcFailure (dispatchDevice ics dev mem)

/-! ## Failures of the connection -/

section
variable {ics : IpcClientState} {dev : XrtDevice → XrtDeviceAnswers} {mem : ServerMemory} {id : UInt32}

/-- Results other than `XRT_SUCCESS`. -/
abbrev NotSuccess (xret : XrtResult) : Prop := ¬ xret = .success

theorem getXdevOrReturn_failsWith {use : XrtDeviceAnswers → ServerProc} (h : ∀ x, (use x).FailsWith NotSuccess) :
    (getXdevOrReturn ics id dev use).FailsWith NotSuccess := by
  unfold getXdevOrReturn
  split
  · trivial
  · exact h _

variable {next : ServerProc} {stack : ℕ → XrtInputName} {iob : IpcClientIoBlocks}

theorem sendDeviceInputs_failsWith {xdev : XrtDeviceFields} (h : next.FailsWith NotSuccess) :
    (sendDeviceInputs iob stack xdev next).FailsWith NotSuccess := by
  unfold sendDeviceInputs
  split
  · exact h
  · split
    · exact .sendAll (by decide) h
    · split
      · trivial
      · exact .sendAll (by decide) h

theorem sendDeviceOutputs_failsWith {xdev : XrtDeviceFields} (h : next.FailsWith NotSuccess) :
    (sendDeviceOutputs iob xdev next).FailsWith NotSuccess := by
  unfold sendDeviceOutputs
  split
  · exact h
  · split
    · exact .sendAll (by decide) h
    · split
      · trivial
      · exact .sendAll (by decide) h

theorem sendBindingProfiles_failsWith {profiles : List XrtBindingProfile} {count : UInt32}
    (h : next.FailsWith NotSuccess) : (sendBindingProfiles mem profiles count next).FailsWith NotSuccess := by
  unfold sendBindingProfiles
  split
  · exact h
  · split
    · trivial
    · exact .sendAll (by decide) h

theorem sendBindingPairs_failsWith {k : ItemKind} {zero : k.Data} {allocated : Bool} {pairs : List k.Data}
    {total : UInt32} (h : next.FailsWith NotSuccess) :
    (sendBindingPairs k zero allocated pairs total next).FailsWith NotSuccess := by
  unfold sendBindingPairs
  split
  · exact h
  · split
    · trivial
    · split
      · trivial
      · exact .sendAll (by decide) h

theorem getInfo_failsWith : (ipcHandleDeviceGetInfo ics dev mem id).FailsWith NotSuccess := by
  refine getXdevOrReturn_failsWith fun x => ?_
  split
  · trivial
  · refine .sendOne (by decide) (.sendSome (by decide) (.sendSome (by decide) ?_))
    exact sendBindingProfiles_failsWith (sendBindingPairs_failsWith (sendBindingPairs_failsWith trivial))

theorem updateInput_failsWith : (ipcHandleDeviceUpdateInput ics dev stack id).FailsWith NotSuccess := by
  refine getXdevOrReturn_failsWith fun x => .sendOne (by decide) ?_
  exact sendDeviceInputs_failsWith (sendDeviceOutputs_failsWith trivial)

theorem getViewPoses_failsWith {fallbackEyeRelation : XrtVec3} {atTimestampNs : Int64} {viewType viewCount : UInt32} :
    (ipcHandleDeviceGetViewPoses ics dev id fallbackEyeRelation atTimestampNs viewType viewCount).FailsWith
      NotSuccess := by
  refine getXdevOrReturn_failsWith fun x => ?_
  split
  · exact .sendOne (by decide) trivial
  · exact .sendOne (by decide) (.sendAll (by decide) (.sendAll (by decide) trivial))

theorem getPlaneDetections_failsWith {planeDetectionId : UInt64} :
    (ipcHandleDeviceGetPlaneDetectionsExt ics dev id planeDetectionId).FailsWith NotSuccess := by
  refine getXdevOrReturn_failsWith fun x => ?_
  dsimp only
  split
  · trivial
  · refine .sendOne (by decide) ?_
    have hpolygons : (sendPolygons (x.getPlaneDetections planeDetectionId).2).FailsWith NotSuccess :=
      .sendSome (by decide) (.sendSome (by decide) trivial)
    split
    · exact .sendAll (by decide) (.sendAll (by decide) hpolygons)
    · exact hpolygons

theorem setHapticOutput_failsWith {name : XrtOutputName} {buffer : IpcPcmHapticBuffer} :
    (ipcHandleDeviceSetHapticOutput ics dev mem id name buffer).FailsWith fun r => NotSuccess r.1 := by
  unfold ipcHandleDeviceSetHapticOutput
  split
  · trivial
  · split
    · trivial
    · refine .sendOne (fun h => by cases h) ?_
      split
      · trivial
      · exact .recvAll (fun h => by cases h) fun samples => .sendOne (fun h => by cases h) trivial

theorem dispatchDevice_failsWith (request : DeviceRequest) : (dispatchDevice ics dev mem request).FailsWith NotSuccess := by
  cases request with
  | getInfo deviceId => exact getInfo_failsWith
  | updateInput id => exact updateInput_failsWith
  | getViewPoses => exact getViewPoses_failsWith
  | getViewPoses2 => exact .sendOne (by decide) trivial
  | getPlaneDetectionsExt => exact getPlaneDetections_failsWith
  | setOutput => exact .sendOne (by decide) trivial
  | setHapticOutput => exact setHapticOutput_failsWith.map

theorem serveDevice_failsWith : (serveDevice ics dev mem).FailsWith NotSuccess :=
  .recvOne (by decide) dispatchDevice_failsWith

theorem serveDevice_of_failure {R : Type} {request : DeviceRequest} {f : R} {p : Proc Item R} {xret : XrtResult}
    {P : Link Item R XrtResult → Prop} (hdispatch : dispatchDevice ics dev mem request = .done xret)
    (hxret : NotSuccess xret) :
    Always ⟨.sendOne .request request f p, serveDevice ics dev mem, [], []⟩ (· = .success) P := by
  unfold serveDevice
  rw [always_passOneRight, hdispatch]
  exact always_of_failure hxret

end

end AugmentedInsanity.Ipc.Device
