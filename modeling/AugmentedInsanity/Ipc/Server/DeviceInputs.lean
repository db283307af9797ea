/-
The inputs of a device as the server sends them (`ipc_server_handler.c`): the whole arrays after an update,
one pose, one hand. The handlers blank what the io-blocks of the client hide. What a stack array holds before
it is written is an argument, since one test reads it.
-/
import AugmentedInsanity.Ipc.Messages
import AugmentedInsanity.Ipc.Server.Handlers

namespace AugmentedInsanity.Ipc.Device

open Xrt Exchange

/-- `GET_XDEV_OR_RETURN`, in a handler that sends its own reply. -/
def getXdevOrReturn (ics : IpcClientState) (id : UInt32) (dev : XrtDevice → XrtDeviceAnswers)
    (use : XrtDeviceAnswers → ServerProc) : ServerProc :=
  match getXdevAndValidate ics id with
  | .error xret => .done xret
  | .ok xdev => use (dev xdev)

section
variable {ics : IpcClientState} {id : UInt32} {dev : XrtDevice → XrtDeviceAnswers} {use : XrtDeviceAnswers → ServerProc}

theorem getXdev_error {xret : XrtResult} (h : getXdevAndValidate ics id = .error xret) : xret = .errorIpcFailure := by
  rcases objectAt_cases ics.xdevs id with he | ⟨_, x, -, hx⟩
  · unfold getXdevAndValidate at h
    rw [he] at h
    exact (Except.error.inj h).symm
  · unfold getXdevAndValidate at h
    rw [hx] at h
    cases h

theorem getXdevOrReturn_of_error {xret : XrtResult}
    (hx : getXdevAndValidate ics id = .error xret) : getXdevOrReturn ics id dev use = .done .errorIpcFailure := by
  unfold getXdevOrReturn
  rw [hx, getXdev_error hx]

theorem getXdevOrReturn_of_ok {x : XrtDevice}
    (hx : getXdevAndValidate ics id = .ok x) : getXdevOrReturn ics id dev use = use (dev x) := by
  unfold getXdevOrReturn
  rw [hx]

end

/-! ## Updating -/

/-- One round of the loop of `send_device_inputs`; `dstName` is the name in `filtered` before the round. -/
def filterInput (iob : IpcClientIoBlocks) (dstName : XrtInputName) (src : XrtInput) : XrtInput :=
  let blocked :=
    match xrtGetInputType src.name with
    | .pose => iob.blockPoses && dstName != XRT_INPUT_GENERIC_HEAD_POSE
    | .handTracking => iob.blockHandTracking
    | .vec1ZeroToOne | .vec1MinusOneToOne | .vec2MinusOneToOne | .vec3MinusOneToOne | .boolean => iob.blockInputs
    | .bodyTracking | .faceTracking | .other _ => false
  if blocked then { XrtInput.zero with name := src.name } else src

/-- `filtered` after the loop; `stack` are the names in it before. -/
def filterInputs (iob : IpcClientIoBlocks) (stack : ℕ → XrtInputName) (inputs : List XrtInput) : List XrtInput :=
  inputs.mapIdx fun i src => filterInput iob (stack i) src

/-- `ARRAY_SIZE(filtered)`. -/
abbrev FILTERED_SIZE : ℕ := 1024

/-- `send_device_inputs`, with what the handler does after it. -/
def sendDeviceInputs (iob : IpcClientIoBlocks) (stack : ℕ → XrtInputName) (xdev : XrtDeviceFields)
    (next : ServerProc) : ServerProc :=
  if xdev.inputs.length = 0 then next
  else if !iob.blockPoses && !iob.blockHandTracking && !iob.blockInputs then
    .sendAll .input xdev.inputs .errorIpcFailure next
  else if FILTERED_SIZE < xdev.inputs.length then .done .errorIpcFailure
  else .sendAll .input (filterInputs iob stack xdev.inputs) .errorIpcFailure next

/-- `send_device_outputs`; a filtered output keeps its name, which is all there is. -/
def sendDeviceOutputs (iob : IpcClientIoBlocks) (xdev : XrtDeviceFields) (next : ServerProc) : ServerProc :=
  if xdev.outputs.length = 0 then next
  else if !iob.blockOutputs then .sendAll .output xdev.outputs .errorIpcFailure next
  else if FILTERED_SIZE < xdev.outputs.length then .done .errorIpcFailure
  else .sendAll .output (xdev.outputs.map fun src => ⟨src.name⟩) .errorIpcFailure next

def ipcHandleDeviceUpdateInput (ics : IpcClientState) (dev : XrtDevice → XrtDeviceAnswers)
    (stack : ℕ → XrtInputName) (id : UInt32) : ServerProc :=
  getXdevOrReturn ics id dev fun xdev =>
    .sendOne .resultReply xdev.updateInputs.1 .errorIpcFailure <|
    sendDeviceInputs ics.clientState.ioBlocks stack xdev.updateInputs.2 <|
    sendDeviceOutputs ics.clientState.ioBlocks xdev.updateInputs.2 <|
    .done .success

/-! ## Queries -/

def findInput (inputs : List XrtInput) (name : XrtInputName) : Option XrtInput := inputs.find? (·.name == name)

/-- `ipc_handle_device_get_tracked_pose`; the reply is zeroed before the call. -/
def ipcHandleDeviceGetTrackedPose (ics : IpcClientState) (dev : XrtDevice → XrtDeviceAnswers) (id : UInt32)
    (name : XrtInputName) (atTimestamp : Int64) : XrtResult × XrtSpaceRelation :=
  match getXdevAndValidate ics id with
  | .error xret => (xret, .zero)
  | .ok xdev =>
    match findInput (dev xdev).fields.inputs name with
    | none => (.errorIpcFailure, .zero)
    | some input =>
      let disabled := ics.clientState.ioBlocks.blockPoses && name != XRT_INPUT_GENERIC_HEAD_POSE
      let activeOnClient := input.active
      if disabled && activeOnClient then (.success, .zero)
      else if disabled || !activeOnClient then (.errorPoseNotActive, .zero)
      else (dev xdev).getTrackedPose name atTimestamp

/-- `ipc_handle_device_get_hand_tracking`; the reply is zeroed before the call. -/
def ipcHandleDeviceGetHandTracking (ics : IpcClientState) (dev : XrtDevice → XrtDeviceAnswers) (id : UInt32)
    (name : XrtInputName) (atTimestamp : Int64) : XrtResult × XrtHandJointSet × Int64 :=
  if ics.clientState.ioBlocks.blockHandTracking then (.success, { XrtHandJointSet.zero with isActive := false }, 0)
  else
    match getXdevAndValidate ics id with
    | .error xret => (xret, .zero, 0)
    | .ok xdev => (dev xdev).getHandTracking name atTimestamp

end AugmentedInsanity.Ipc.Device
