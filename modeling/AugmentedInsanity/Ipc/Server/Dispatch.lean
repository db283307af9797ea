/-
The messages of the IPC protocol (`ipc/shared/proto`) and `ipc_dispatch`, which hands each of them to its
handler. A message has the fields its handler looks at; what is only passed on to the system (poses, times,
names, buffers) is left out, and what the system answers is in `SystemAnswers`. The arrays that follow some
messages are taken as received.
-/
import AugmentedInsanity.Ipc.Server.Handlers
import AugmentedInsanity.Ipc.Server.Layers
import AugmentedInsanity.Ipc.Server.Step

namespace AugmentedInsanity.Ipc

open Xrt Tables

/-! ## Messages -/

/-- `10-instance.json`. -/
inductive InstanceMsg
  | getShmFd
  | describeClient
  | isSystemAvailable

/-- `50-system.json`. -/
inductive SystemMsg
  | getProperties
  | getClientInfo (id : UInt32)
  | getClients
  | setPrimaryClient (id : UInt32)
  | setFocusedClient (id : UInt32)
  | toggleIoClient (id : UInt32)
  | setClientIoBlocks (id : UInt32) (blocks : IpcClientIoBlocks)
  | devicesGetList
  | devicesGetRoles
  | devicesBeginFeature (type : UInt32)
  | devicesEndFeature (type : UInt32)
  | compositorGetInfo
  | compositorGetViewConfig

/-- `50-session.json`. -/
inductive SessionMsg
  | create (isOverlay : Bool) (zOrder : UInt32)
  | pollEvents
  | requestExit
  | begin
  | «end»
  | destroy

/-- `50-space.json`. -/
inductive SpaceMsg
  | createSemanticIds
  | createOffset (parentId : UInt32)
  | createPose (xdevId : UInt32)
  | locateSpace (baseSpaceId spaceId : UInt32)
  | locateSpaces (baseSpaceId : UInt32) (spaceIds : List UInt32)
  | locateDevice (baseSpaceId xdevId : UInt32)
  | destroy (spaceId : UInt32)
  | markRefSpaceInUse (type : UInt32)
  | unmarkRefSpaceInUse (type : UInt32)
  | recenterLocalSpaces
  | getTrackingOriginOffset (originId : UInt32)
  | setTrackingOriginOffset (originId : UInt32)
  | getReferenceSpaceOffset
  | setReferenceSpaceOffset

/-- `50-compositor.json`. -/
inductive CompositorMsg
  | getInfo
  | predictFrame
  | waitWoke
  | beginFrame
  | discardFrame
  | layerSync (slotId : UInt32) (handles : List Int)
  | layerSyncWithSemaphore (slotId semaphoreId : UInt32) (semaphoreValue : UInt64)
  | setPerformanceLevel
  | setThreadHint
  | getDisplayRefreshRate
  | requestDisplayRefreshRate
  | getReferenceBoundsRect
  | createPassthrough
  | createPassthroughLayer
  | destroyPassthrough
  | semaphoreCreate
  | semaphoreDestroy (id : UInt32)
  | setChromaKeyParams

/-- `50-swapchain.json`. -/
inductive SwapchainMsg
  | getProperties
  | create (info : XrtSwapchainCreateInfo)
  | «import» (info : XrtSwapchainCreateInfo) (handleCount : ℕ)
  | waitImage (id : UInt32)
  | acquireImage (id : UInt32)
  | releaseImage (id : UInt32)
  | destroy (id : UInt32)

/-- `50-tracking.json`. -/
inductive TrackingMsg
  | originGetList
  | originGetInfo (trackingOriginId : UInt32)

/-- `50-future.json`. -/
inductive FutureMsg
  | getState
  | cancel
  | destroy
  | getResult

/-- `50-device.json`. -/
inductive DeviceMsg
  | getInfo
  | getInfoNoArrays
  | updateInput
  | getTrackedPose (isHeadPose : Bool)
  | getHandTracking
  | getViewPoses (viewCount : UInt32)
  | getViewPoses2 (viewCount : UInt32)
  | computeDistortion
  | beginPlaneDetectionExt
  | destroyPlaneDetectionExt
  | getPlaneDetectionStateExt
  | getPlaneDetectionsExt
  | getPresence
  | setOutput
  | setHapticOutput
  | getOutputLimits
  | getVisibilityMask (viewIndex : UInt32)
  | isFormFactorAvailable
  | getFaceTracking
  | getFaceCalibrationStateAndroid
  | getBodySkeleton
  | getBodyJoints
  | resetBodyTrackingCalibrationMeta
  | setBodyTrackingCalibrationOverrideMeta
  | getBatteryStatus
  | getBrightness
  | setBrightness
  | getCompositorInfo

/-- A message of a client; every device message and every future message names its object. -/
inductive IpcMsg
  | instance (msg : InstanceMsg)
  | system (msg : SystemMsg)
  | session (msg : SessionMsg)
  | space (msg : SpaceMsg)
  | compositor (msg : CompositorMsg)
  | swapchain (msg : SwapchainMsg)
  | tracking (msg : TrackingMsg)
  | future (futureId : UInt32) (msg : FutureMsg)
  | device (id : UInt32) (msg : DeviceMsg)
  | unhandled (cmd : UInt32)

/-- What the devices, the compositor, the overseer and the socket answer while one message is handled. -/
structure SystemAnswers where
  result : XrtResult
  available : Except XrtResult Bool
  staticXdevs : List XrtDevice
  session : Except XrtResult (ℕ × Option ℕ)
  swapchain : Except XrtResult XrtSwapchain
  semaphore : Except XrtResult ℕ
  space : Except XrtResult XrtSpace
  trackingOrigin : XrtDevice → Option ℕ
  inputActive : XrtDevice → Option Bool
  getViewPoses : XrtDevice → GetViewPoses
  getVisibilityMask : XrtDevice → GetVisibilityMask

/-! ## Results -/

/-- The result of a handler, and the server it leaves. -/
abbrev Dispatched := Except Fault (XrtResult × IpcServer)

/-- The `xrt_result_t` of a handler that can fail. -/
def resultOf {α : Type} : Except XrtResult α → XrtResult
  | .error xret => xret
  | .ok _ => .success

section
variable (a : SystemAnswers) (s : IpcServer) (i : Fin IPC_MAX_CLIENTS)

def replied (r : Except Fault XrtResult) : Dispatched := r.map fun xret => (xret, s)

def onClient {α : Type} (r : Except Fault (Except XrtResult α × IpcClientState)) : Dispatched :=
  r.map fun r => (resultOf r.1, s.setClient i r.2)

/-- A handler that changes the state of its client and returns a result. -/
def onClientResult (r : Except Fault (XrtResult × IpcClientState)) : Dispatched :=
  r.map fun r => (r.1, s.setClient i r.2)

/-- A handler that changes the state of its client and the overseer. -/
def onOverseer {α : Type} (r : Except XrtResult α × XrtSpaceOverseer × IpcClientState) : XrtResult × IpcServer :=
  (resultOf r.1, { s.setClient i r.2.2 with xso := r.2.1 })

/-- A sync handler; the slot it names next becomes the current one. -/
def onSync (r : Except Fault (Except XrtResult LayerSync)) : Dispatched :=
  r.map fun
    | .error xret => (xret, s)
    | .ok sync => (.success, { s with currentSlotIndex := sync.freeSlotId })

/-! ## Clients -/

/-- The io blocks of a client that is found by its id. -/
def withIoBlocks (clientId : UInt32) (blocks : IpcClientIoBlocks → IpcClientIoBlocks) : XrtResult × IpcServer :=
  match findClientLocked s clientId with
  | none => (.errorIpcFailure, s)
  | some j =>
    let ics := s.client j
    (.success, s.setClient j
      { ics with clientState := { ics.clientState with ioBlocks := blocks ics.clientState.ioBlocks } })

def toggleIoClientLocked (clientId : UInt32) : XrtResult × IpcServer :=
  withIoBlocks s clientId fun iob =>
    let ioActive := iob.blockPoses && iob.blockHandTracking && iob.blockInputs && iob.blockOutputs
    ⟨!ioActive, !ioActive, !ioActive, !ioActive⟩

def setClientIoBlocksLocked (clientId : UInt32) (blocks : IpcClientIoBlocks) : XrtResult × IpcServer :=
  withIoBlocks s clientId fun _ => blocks

/-- `get_client_app_state_locked`, without the state it copies. -/
def getClientAppStateLocked (clientId : UInt32) : XrtResult :=
  if (findClientLocked s clientId).isNone then .errorIpcFailure else .success

/-! ## Dispatch -/

def dispatchInstance : InstanceMsg → Dispatched
  | .getShmFd => .ok (.success, s)
  | .describeClient => .ok (.success, s)
  | .isSystemAvailable =>
    onClientResult s i
      (.ok (ipcHandleInstanceIsSystemAvailable (s.client i) a.available a.staticXdevs a.trackingOrigin))

def dispatchSystem : SystemMsg → Dispatched
  | .getProperties => .ok (a.result, s)
  | .getClientInfo id => .ok (getClientAppStateLocked s id, s)
  | .getClients => .ok (.success, s)
  | .setPrimaryClient id => .ok (setActiveClientLocked s id)
  | .setFocusedClient _ => .ok (.success, s)
  | .toggleIoClient id => .ok (toggleIoClientLocked s id)
  | .setClientIoBlocks id blocks => .ok (setClientIoBlocksLocked s id blocks)
  | .devicesGetList => .ok (.success, s)
  | .devicesGetRoles => .ok (a.result, s)
  | .devicesBeginFeature type => onClientResult s i (ipcHandleSystemDevicesBeginFeature (s.client i) type a.result)
  | .devicesEndFeature type => onClientResult s i (ipcHandleSystemDevicesEndFeature (s.client i) type a.result)
  | .compositorGetInfo => .ok (.success, s)
  | .compositorGetViewConfig => .ok (a.result, s)

def dispatchSession : SessionMsg → Dispatched
  | .create isOverlay zOrder => onClient s i (ipcHandleSessionCreate (s.client i) isOverlay zOrder a.session)
  | .pollEvents => .ok (askSession (s.client i) a.result, s)
  | .requestExit => .ok (askSession (s.client i) a.result, s)
  | .begin => .ok (askSessionCompositor (s.client i) a.result, s)
  | .end => .ok (askSessionCompositor (s.client i) a.result, s)
  | .destroy => onClient s i (ipcHandleSessionDestroy (s.client i))

def dispatchSpace : SpaceMsg → Dispatched
  | .createSemanticIds => .ok (onOverseer s i (ipcHandleSpaceCreateSemanticIds s.xso (s.client i)))
  | .createOffset parentId =>
    onClient s i (.ok (ipcHandleSpaceCreateOffset (s.client i) parentId fun _ => a.space))
  | .createPose xdevId => onClient s i (.ok (ipcHandleSpaceCreatePose (s.client i) xdevId fun _ => a.space))
  | .locateSpace baseSpaceId spaceId =>
    .ok (ipcHandleSpaceLocateSpace (s.client i) baseSpaceId spaceId a.result, s)
  | .locateSpaces baseSpaceId spaceIds =>
    .ok (ipcHandleSpaceLocateSpaces (s.client i) baseSpaceId spaceIds a.result, s)
  | .locateDevice baseSpaceId xdevId =>
    replied s (ipcHandleSpaceLocateDevice (s.client i) baseSpaceId xdevId a.result)
  | .destroy spaceId => (ipcHandleSpaceDestroy s.xso (s.client i) spaceId).map (onOverseer s i)
  | .markRefSpaceInUse type => onClientResult s i (ipcHandleSpaceMarkRefSpaceInUse (s.client i) type a.result)
  | .unmarkRefSpaceInUse type => onClientResult s i (ipcHandleSpaceUnmarkRefSpaceInUse (s.client i) type a.result)
  | .recenterLocalSpaces => .ok (a.result, s)
  | .getTrackingOriginOffset originId =>
    replied s (ipcHandleSpaceGetTrackingOriginOffset (s.client i) originId a.result)
  | .setTrackingOriginOffset originId =>
    replied s (ipcHandleSpaceSetTrackingOriginOffset (s.client i) originId a.result)
  | .getReferenceSpaceOffset => .ok (a.result, s)
  | .setReferenceSpaceOffset => .ok (a.result, s)

def dispatchCompositor : CompositorMsg → Dispatched
  | .getInfo => .ok (askCompositor (s.client i) .success, s)
  | .predictFrame => .ok (askCompositor (s.client i) a.result, ipcHandleCompositorPredictFrame s i)
  | .waitWoke => .ok (askCompositor (s.client i) a.result, s)
  | .beginFrame => .ok (askCompositor (s.client i) a.result, s)
  | .discardFrame => .ok (askCompositor (s.client i) a.result, s)
  | .layerSync slotId handles =>
    -- the number of handles is checked before they are received
    if XRT_MAX_IPC_HANDLES < handles.length then .ok (.errorIpcFailure, s)
    else onSync s (ipcHandleCompositorLayerSync (s.client i) (s.isms i) s.currentSlotIndex slotId handles)
  | .layerSyncWithSemaphore slotId semaphoreId semaphoreValue =>
    onSync s (ipcHandleCompositorLayerSyncWithSemaphore (s.client i) (s.isms i) s.currentSlotIndex slotId
      semaphoreId semaphoreValue)
  | .setPerformanceLevel => .ok (ipcHandleCompositorSetPerformanceLevel (s.client i) a.result, s)
  | .setThreadHint => .ok (askCompositor (s.client i) a.result, s)
  | .getDisplayRefreshRate => .ok (askCompositor (s.client i) a.result, s)
  | .requestDisplayRefreshRate => .ok (askCompositor (s.client i) a.result, s)
  | .getReferenceBoundsRect => .ok (askCompositor (s.client i) a.result, s)
  | .createPassthrough => .ok (askCompositor (s.client i) a.result, s)
  | .createPassthroughLayer => .ok (askCompositor (s.client i) a.result, s)
  | .destroyPassthrough => .ok (askCompositor (s.client i) .success, s)
  | .semaphoreCreate => onClient s i (ipcHandleCompositorSemaphoreCreate (s.client i) a.semaphore)
  | .semaphoreDestroy id => onClient s i (ipcHandleCompositorSemaphoreDestroy (s.client i) id)
  | .setChromaKeyParams => .ok (a.result, s)

def dispatchSwapchain : SwapchainMsg → Dispatched
  | .getProperties => .ok (askCompositor (s.client i) a.result, s)
  | .create info => onClient s i (ipcHandleSwapchainCreate (s.client i) info a.swapchain)
  | .import info handleCount =>
    if XRT_MAX_IPC_HANDLES < handleCount then .ok (.errorIpcFailure, s)
    else onClient s i (ipcHandleSwapchainImport (s.client i) info handleCount a.swapchain)
  | .waitImage id => replied s (ipcHandleSwapchainWaitImage (s.client i) id fun _ => a.result)
  | .acquireImage id =>
    replied s ((ipcHandleSwapchainAcquireImage (s.client i) id fun _ => 0).map resultOf)
  | .releaseImage id => replied s (ipcHandleSwapchainReleaseImage (s.client i) id)
  | .destroy id => onClient s i (ipcHandleSwapchainDestroy (s.client i) id)

def dispatchTracking : TrackingMsg → Dispatched
  | .originGetList => .ok (.success, s)
  | .originGetInfo trackingOriginId => replied s (ipcHandleTrackingOriginGetInfo (s.client i) trackingOriginId)

def dispatchFuture (futureId : UInt32) : FutureMsg → Dispatched
  | .getState => .ok (askFuture (s.client i) futureId a.result, s)
  | .cancel => .ok (askFuture (s.client i) futureId a.result, s)
  | .destroy => onClient s i (.ok (ipcHandleFutureDestroy (s.client i) futureId))
  | .getResult => .ok (askFuture (s.client i) futureId a.result, s)

def dispatchDevice (id : UInt32) : DeviceMsg → Dispatched
  | .getInfo => deviceInfo
  | .getInfoNoArrays => deviceInfo
  | .getTrackedPose isHeadPose =>
    replied s (ipcHandleDeviceGetTrackedPose (s.client i) id isHeadPose a.inputActive fun _ => a.result)
  | .getHandTracking => replied s (ipcHandleDeviceGetHandTracking (s.client i) id fun _ => a.result)
  | .getViewPoses viewCount =>
    replied s (ipcHandleDeviceGetViewPoses (s.client i) id viewCount a.getViewPoses)
  | .getViewPoses2 viewCount =>
    replied s (ipcHandleDeviceGetViewPoses2 (s.client i) id viewCount a.getViewPoses)
  | .setOutput => replied s (ipcHandleDeviceSetOutput (s.client i) id fun _ => a.result)
  | .setHapticOutput => replied s (ipcHandleDeviceSetOutput (s.client i) id fun _ => a.result)
  | .getVisibilityMask viewIndex =>
    replied s (ipcHandleDeviceGetVisibilityMask (s.client i) id viewIndex a.getVisibilityMask a.result)
  | .updateInput | .computeDistortion | .beginPlaneDetectionExt | .destroyPlaneDetectionExt
  | .getPlaneDetectionStateExt | .getPlaneDetectionsExt | .getPresence | .getOutputLimits | .isFormFactorAvailable
  | .getFaceTracking | .getFaceCalibrationStateAndroid | .getBodySkeleton | .getBodyJoints
  | .resetBodyTrackingCalibrationMeta | .setBodyTrackingCalibrationOverrideMeta | .getBatteryStatus
  | .getBrightness | .setBrightness | .getCompositorInfo =>
    replied s (askXdev (s.client i) id fun _ => a.result)
where
  deviceInfo := onClientResult s i (.ok (ipcHandleDeviceGetInfo (s.client i) id a.trackingOrigin fun _ => a.result))

def ipcDispatch : IpcMsg → Dispatched
  | .instance msg => dispatchInstance a s i msg
  | .system msg => dispatchSystem a s i msg
  | .session msg => dispatchSession a s i msg
  | .space msg => dispatchSpace a s i msg
  | .compositor msg => dispatchCompositor a s i msg
  | .swapchain msg => dispatchSwapchain a s i msg
  | .tracking msg => dispatchTracking s i msg
  | .future futureId msg => dispatchFuture a s i futureId msg
  | .device id msg => dispatchDevice a s i id msg
  | .unhandled _ => .ok (.errorIpcFailure, s)

end

end AugmentedInsanity.Ipc
