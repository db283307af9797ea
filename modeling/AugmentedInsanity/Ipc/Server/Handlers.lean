/-
The other handlers of the IPC server (`ipc_server_handler.c`): devices, tracking origins, reference spaces
and features in use, futures, and the calls that need a session or a compositor and nothing else. What the
device, the overseer or the compositor answers is an argument, and so is everything a handler sends after
its lookups.
-/
import AugmentedInsanity.Ipc.Server.Space
import AugmentedInsanity.Ipc.Server.Resources

namespace AugmentedInsanity.Ipc

open Xrt

/-! ## Instance -/

/-- One round of the device loop of `init_system_shm_state`. -/
def registerDevice (trackingOrigin : XrtDevice → Option ℕ) (ics : IpcClientState) (xdev : XrtDevice) : IpcClientState :=
  match getXtrackIdOrAdd ics (trackingOrigin xdev) with
  | (.error _, ics) => ics
  | (.ok _, ics) => (getXdevIdOrAdd ics xdev (trackingOrigin xdev)).2

/-- `ipc_handle_instance_is_system_available`; `available` tells whether there is a system, which may have been
created for it, and `staticXdevs` are its devices. -/
def ipcHandleInstanceIsSystemAvailable (ics : IpcClientState) (available : Except XrtResult Bool)
    (staticXdevs : List XrtDevice) (trackingOrigin : XrtDevice → Option ℕ) : XrtResult × IpcClientState :=
  match available with
  | .error xret => (xret, ics)
  | .ok available =>
    if available && !ics.hasInitShmSystem then
      (.success, { staticXdevs.foldl (registerDevice trackingOrigin) ics with hasInitShmSystem := true })
    else (.success, ics)

/-! ## Devices -/

def withXdev (ics : IpcClientState) (id : UInt32) (use : XrtDevice → Except Fault XrtResult) : Except Fault XrtResult :=
  match getXdevAndValidate ics id with
  | .error xret => .ok xret
  | .ok xdev => use xdev

def askXdev (ics : IpcClientState) (id : UInt32) (answer : XrtDevice → XrtResult) : Except Fault XrtResult :=
  withXdev ics id fun xdev => .ok (answer xdev)

/-- `ipc_handle_device_get_info` and `ipc_handle_device_get_info_no_arrays`. -/
def ipcHandleDeviceGetInfo (ics : IpcClientState) (id : UInt32) (trackingOrigin : XrtDevice → Option ℕ)
    (answer : XrtDevice → XrtResult) : XrtResult × IpcClientState :=
  match getXdevAndValidate ics id with
  | .error xret => (xret, ics)
  | .ok xdev =>
    match getXtrackIdOrAdd ics (trackingOrigin xdev) with
    | (.error xret, ics) => (xret, ics)
    | (.ok _, ics) => (answer xdev, ics)

/-- `ipc_handle_device_get_tracked_pose`; `inputActive` is the flag of the input of that name, if the device
has it. -/
def ipcHandleDeviceGetTrackedPose (ics : IpcClientState) (id : UInt32) (isHeadPose : Bool)
    (inputActive : XrtDevice → Option Bool) (answer : XrtDevice → XrtResult) : Except Fault XrtResult :=
  withXdev ics id fun xdev =>
    match inputActive xdev with
    | none => .ok .errorIpcFailure
    | some active =>
      let disabled := ics.clientState.ioBlocks.blockPoses && !isHeadPose
      if disabled && active then .ok .success
      else if disabled || !active then .ok .errorPoseNotActive
      else .ok (answer xdev)

def ipcHandleDeviceGetHandTracking (ics : IpcClientState) (id : UInt32) (answer : XrtDevice → XrtResult) :
    Except Fault XrtResult :=
  if ics.clientState.ioBlocks.blockHandTracking then .ok .success else askXdev ics id answer

/-- `ipc_handle_device_set_output` and `ipc_handle_device_set_haptic_output`. -/
def ipcHandleDeviceSetOutput (ics : IpcClientState) (id : UInt32) (answer : XrtDevice → XrtResult) :
    Except Fault XrtResult :=
  if ics.clientState.ioBlocks.blockOutputs then .ok .success else askXdev ics id answer

/-- Arrays of `n` entries that are filled with `count` of them. -/
def fillArray (table : Table) (n count : ℕ) : Except Fault Unit :=
  if count ≤ n then .ok () else .error (.outOfBounds table n)

/-- The `get_view_poses` of a device. -/
inductive GetViewPoses
  /-- `u_device_ni_get_view_poses`. -/
  | notImplemented
  /-- `u_device_get_view_poses`, where asking for the head pose returns `headPose`. -/
  | ofHead (headPose : XrtResult)
  /-- The function of a driver, which writes no more entries than it is asked for. -/
  | own (written : (viewCount : UInt32) → Fin (viewCount.toNat + 1)) (result : XrtResult)

/-- `u_device_get_view_poses`, with arrays of `n` entries. -/
def uDeviceGetViewPoses (xdev : XrtDevice) (headPose : XrtResult) (n : ℕ) (viewCount : UInt32) : Except Fault XrtResult :=
  if headPose ≠ .success then .ok headPose
  else if viewCount ≠ 0 ∧ xdev.hmd = none then .error .nullDeref
  else do
    fillArray .replyViews n (min viewCount.toNat XRT_MAX_VIEWS)
    fillArray .replyViews n viewCount.toNat
    return .success

def GetViewPoses.call (xdev : XrtDevice) (n : ℕ) (viewCount : UInt32) : GetViewPoses → Except Fault XrtResult
  | .notImplemented => .ok .errorNotImplemented
  | .ofHead headPose => uDeviceGetViewPoses xdev headPose n viewCount
  | .own written result => (fillArray .replyViews n (written viewCount)).map fun _ => result

/-- `ipc_handle_device_get_view_poses`; the device fills arrays of the handler. -/
def ipcHandleDeviceGetViewPoses (ics : IpcClientState) (id viewCount : UInt32) (getViewPoses : XrtDevice → GetViewPoses) :
    Except Fault XrtResult :=
  withXdev ics id fun xdev =>
    if viewCount = 0 || decide (IPC_MAX_RAW_VIEWS < viewCount.toNat) then .ok .errorIpcFailure
    else (getViewPoses xdev).call xdev IPC_MAX_RAW_VIEWS viewCount

/-- `ipc_handle_device_get_view_poses_2`; the device fills the arrays of the reply. -/
def ipcHandleDeviceGetViewPoses2 (ics : IpcClientState) (id viewCount : UInt32) (getViewPoses : XrtDevice → GetViewPoses) :
    Except Fault XrtResult :=
  withXdev ics id fun xdev => (getViewPoses xdev).call xdev XRT_MAX_VIEWS viewCount

/-- The `get_visibility_mask` of a device. -/
inductive GetVisibilityMask
  /-- There is no function. -/
  | null
  /-- `u_device_get_visibility_mask`, the default, or a function of a driver with the same body. -/
  | ofFov
  /-- `u_device_ni_get_visibility_mask`. -/
  | notImplemented
  deriving DecidableEq

/-- `xdev->hmd->distortion.fov[view_index]`. -/
def readFov (xdev : XrtDevice) (viewIndex : UInt32) : Except Fault Unit :=
  match xdev.hmd with
  | none => .error .nullDeref
  | some _ => if viewIndex.toNat < XRT_MAX_VIEWS then .ok () else .error (.outOfBounds .hmdFovs viewIndex.toNat)

def uDeviceGetVisibilityMask (xdev : XrtDevice) (viewIndex : UInt32) : Except Fault XrtResult :=
  (readFov xdev viewIndex).map fun _ => .success

/-- `ipc_handle_device_get_visibility_mask`, which returns `sent` once it has a mask. -/
def ipcHandleDeviceGetVisibilityMask (ics : IpcClientState) (id viewIndex : UInt32)
    (getVisibilityMask : XrtDevice → GetVisibilityMask) (sent : XrtResult) : Except Fault XrtResult :=
  withXdev ics id fun xdev =>
    match getVisibilityMask xdev with
    | .null => (readFov xdev viewIndex).map fun _ => sent
    | .ofFov => (uDeviceGetVisibilityMask xdev viewIndex).map fun xret => if xret ≠ .success then xret else sent
    | .notImplemented => .ok .errorNotImplemented

/-! ## Tracking origins -/

/-- The handlers that ask about the tracking origin of an id. -/
def askXtrack (ics : IpcClientState) (id : UInt32) (answer : XrtResult) : Except Fault XrtResult :=
  match getXtrackAndValidate ics id with
  | .error xret => .ok xret
  | .ok _ => .ok answer

def ipcHandleTrackingOriginGetInfo (ics : IpcClientState) (id : UInt32) := askXtrack ics id .success
def ipcHandleSpaceGetTrackingOriginOffset (ics : IpcClientState) (id : UInt32) (answer : XrtResult) :=
  askXtrack ics id answer
def ipcHandleSpaceSetTrackingOriginOffset (ics : IpcClientState) (id : UInt32) (answer : XrtResult) :=
  askXtrack ics id answer

/-! ## Locating spaces -/

def ipcHandleSpaceLocateSpace (ics : IpcClientState) (baseSpaceId spaceId : UInt32) (answer : XrtResult) : XrtResult :=
  match validateSpaceId ics baseSpaceId with
  | .error xret => xret
  | .ok _ =>
    match validateSpaceId ics spaceId with
    | .error xret => xret
    | .ok _ => answer

/-- The ids of `space_locate_spaces`, where `UINT32_MAX` stands for no space. -/
def validateSpaceIds (ics : IpcClientState) : List UInt32 → Except XrtResult (List (Option XrtSpace))
  | [] => .ok []
  | id :: ids =>
    if id = UINT32_MAX then (validateSpaceIds ics ids).map (none :: ·)
    else
      match validateSpaceId ics id with
      | .error xret => .error xret
      | .ok (_, xs) => (validateSpaceIds ics ids).map (some xs :: ·)

/-- `ipc_handle_space_locate_spaces`, once it has received the ids. -/
def ipcHandleSpaceLocateSpaces (ics : IpcClientState) (baseSpaceId : UInt32) (spaceIds : List UInt32)
    (answer : XrtResult) : XrtResult :=
  match validateSpaceId ics baseSpaceId with
  | .error xret => xret
  | .ok _ =>
    match validateSpaceIds ics spaceIds with
    | .error xret => xret
    | .ok _ => answer

def ipcHandleSpaceLocateDevice (ics : IpcClientState) (baseSpaceId xdevId : UInt32) (answer : XrtResult) :
    Except Fault XrtResult :=
  match validateSpaceId ics baseSpaceId with
  | .error xret => .ok xret
  | .ok _ => askXdev ics xdevId fun _ => answer

/-! ## Reference spaces and features in use -/

/-- `validate_reference_space_type`; the handlers return `XRT_ERROR_IPC_FAILURE` in its place. -/
def validateReferenceSpaceType (type : UInt32) : Except XrtResult Unit :=
  if XRT_SPACE_REFERENCE_TYPE_COUNT ≤ type.toNat then .error .errorIpcFailure else .ok ()

def validateDeviceFeatureType (type : UInt32) : Except XrtResult Unit :=
  if XRT_DEVICE_FEATURE_MAX_ENUM ≤ type.toNat then .error .errorFeatureNotSupported else .ok ()

/-- The handlers that mark a use: the entry has to be `before`, and is set to the opposite once the count of
uses changed, with the answer of that. -/
def markUse {n : ℕ} (table : Table) (used : Fin n → Bool) (type : UInt32) (before : Bool) (counted : XrtResult) :
    Except Fault (XrtResult × (Fin n → Bool)) :=
  match readAt table used type.toNat with
  | .error f => .error f
  | .ok u =>
    if u != before then .ok (.errorIpcFailure, used)
    else if counted ≠ .success then .ok (counted, used)
    else (writeAt table used type.toNat (!before)).map fun used => (.success, used)

def markRefSpace (ics : IpcClientState) (type : UInt32) (before : Bool) (counted : XrtResult) :
    Except Fault (XrtResult × IpcClientState) :=
  match validateReferenceSpaceType type with
  | .error _ => .ok (.errorIpcFailure, ics)
  | .ok _ => (markUse .refSpaceUsed ics.refSpaceUsed type before counted).map fun r =>
      (r.1, { ics with refSpaceUsed := r.2 })

def markFeature (ics : IpcClientState) (type : UInt32) (before : Bool) (counted : XrtResult) :
    Except Fault (XrtResult × IpcClientState) :=
  match validateDeviceFeatureType type with
  | .error _ => .ok (.errorIpcFailure, ics)
  | .ok _ => (markUse .deviceFeatureUsed ics.deviceFeatureUsed type before counted).map fun r =>
      (r.1, { ics with deviceFeatureUsed := r.2 })

def ipcHandleSpaceMarkRefSpaceInUse (ics : IpcClientState) (type : UInt32) (counted : XrtResult) :=
  markRefSpace ics type false counted
def ipcHandleSpaceUnmarkRefSpaceInUse (ics : IpcClientState) (type : UInt32) (counted : XrtResult) :=
  markRefSpace ics type true counted
def ipcHandleSystemDevicesBeginFeature (ics : IpcClientState) (type : UInt32) (counted : XrtResult) :=
  markFeature ics type false counted
def ipcHandleSystemDevicesEndFeature (ics : IpcClientState) (type : UInt32) (counted : XrtResult) :=
  markFeature ics type true counted

/-! ## Futures -/

def validateFutureId (ics : IpcClientState) (futureId : UInt32) : Except XrtResult (Fin IPC_MAX_CLIENT_FUTURES) :=
  if h : futureId.toNat < IPC_MAX_CLIENT_FUTURES then
    match ics.xfts ⟨futureId.toNat, h⟩ with
    | none => .error .errorIpcFailure
    | some _ => .ok ⟨futureId.toNat, h⟩
  else .error .errorIpcFailure

/-- `ipc_handle_future_get_state`, `ipc_handle_future_get_result` and `ipc_handle_future_cancel`. -/
def askFuture (ics : IpcClientState) (futureId : UInt32) (answer : XrtResult) : XrtResult :=
  match validateFutureId ics futureId with
  | .error xret => xret
  | .ok _ => answer

/-- `release_future`. -/
def ipcHandleFutureDestroy (ics : IpcClientState) (futureId : UInt32) : Except XrtResult Unit × IpcClientState :=
  match validateFutureId ics futureId with
  | .error xret => (.error xret, ics)
  | .ok id => (.ok (), { ics with xfts := Function.update ics.xfts id none })

/-! ## Sessions and compositors -/

def askSession (ics : IpcClientState) (answer : XrtResult) : XrtResult :=
  if ics.xs.isNone then .errorIpcSessionNotCreated else answer

/-- `ipc_handle_session_begin` and `ipc_handle_session_end`, which the compositor answers. -/
def askSessionCompositor (ics : IpcClientState) (answer : XrtResult) : XrtResult :=
  if ics.xs.isNone then .errorIpcSessionNotCreated
  else if ics.xc.isNone then .errorIpcCompositorNotCreated
  else answer

def askCompositor (ics : IpcClientState) (answer : XrtResult) : XrtResult :=
  if ics.xc.isNone then .errorIpcSessionNotCreated else answer

def ipcHandleCompositorSetPerformanceLevel (ics : IpcClientState) (answer : XrtResult) : XrtResult :=
  if ics.xc.isNone then .errorIpcCompositorNotCreated else answer

end AugmentedInsanity.Ipc
