/-
What a client holds on the server: its session and compositor (`ipc_server_handler.c`), its swapchains
(`ipc_server_handler_swapchain.c`) and its compositor semaphores. What the system and the compositor
answer to a request of the server is an argument. A handler gives the error code or the values of the
reply, and the client state it leaves.
-/
import AugmentedInsanity.Ipc.Server.State

namespace AugmentedInsanity.Ipc

open Xrt Tables

abbrev Handled (α : Type) := Except Fault (Except XrtResult α × IpcClientState)

/-! ## Session -/

/-- `ipc_handle_session_create`; `created` is the answer of `xrt_system_create_session`. -/
def ipcHandleSessionCreate (ics : IpcClientState) (isOverlay : Bool) (zOrder : UInt32)
    (created : Except XrtResult (ℕ × Option ℕ)) : Handled Unit :=
  if ics.xs.isSome then .ok (.error .errorIpcSessionAlreadyCreated, ics)
  else
    match created with
    | .error xret => .ok (.error xret, ics)
    | .ok (xs, xcn) =>
      .ok (.ok (), { ics with
        clientState := { ics.clientState with sessionOverlay := isOverlay, zOrder := zOrder }
        xs := some xs
        xc := xcn })

def destroySessionAndCompositor (ics : IpcClientState) : IpcClientState :=
  { ics with
    swapchainCount := 0
    xscs := fun _ => none
    swapchainData := fun j => { ics.swapchainData j with active := false }
    xcsems := fun _ => none
    xfts := fun _ => none
    xc := none
    xs := none }

def ipcHandleSessionDestroy (ics : IpcClientState) : Handled Unit :=
  if ics.xs.isNone then .ok (.error .errorIpcSessionNotCreated, ics)
  else .ok (.ok (), destroySessionAndCompositor ics)

/-! ## Swapchains -/

def IpcClientState.swapchainActive (ics : IpcClientState) (i : Fin IPC_MAX_CLIENT_SWAPCHAINS) : Bool :=
  (ics.swapchainData i).active

/-- `validate_swapchain_state`: a free slot, if there is one. -/
def validateSwapchainState (ics : IpcClientState) : Except XrtResult (Fin IPC_MAX_CLIENT_SWAPCHAINS) :=
  match firstIndex fun i => !ics.swapchainActive i with
  | none => .error .errorIpcFailure
  | some index => .ok index

def setSwapchainInfo (ics : IpcClientState) (index : Fin IPC_MAX_CLIENT_SWAPCHAINS)
    (info : XrtSwapchainCreateInfo) (xsc : XrtSwapchain) : IpcClientState :=
  { ics with
    xscs := Function.update ics.xscs index (some xsc)
    swapchainData := Function.update ics.swapchainData index
      ⟨info.width, info.height, info.format, xsc.imageCount, true⟩ }

/-- What `swapchain_create` replies. -/
structure SwapchainCreateReply where
  id : Fin IPC_MAX_CLIENT_SWAPCHAINS
  imageCount : UInt32
  size : UInt64
  useDedicatedAllocation : Bool

/-- `ipc_handle_swapchain_create`; `created` is the answer of `xrt_comp_create_swapchain`. -/
def ipcHandleSwapchainCreate (ics : IpcClientState) (info : XrtSwapchainCreateInfo)
    (created : Except XrtResult XrtSwapchain) : Handled SwapchainCreateReply :=
  match validateSwapchainState ics with
  | .error xret => .ok (.error xret, ics)
  | .ok index =>
    -- the compositor is used without a check
    if ics.xc.isNone then .error .nullDeref
    else
      match created with
      | .error xret => .ok (.error xret, ics)
      | .ok xsc =>
        .ok (.ok ⟨index, xsc.imageCount, xsc.imageSize, xsc.useDedicatedAllocation⟩,
          setSwapchainInfo { ics with swapchainCount := ics.swapchainCount + 1 } index info xsc)

/-- `ipc_handle_swapchain_import`; `created` is the answer of `xrt_comp_import_swapchain`. -/
def ipcHandleSwapchainImport (ics : IpcClientState) (info : XrtSwapchainCreateInfo) (handleCount : ℕ)
    (created : Except XrtResult XrtSwapchain) : Handled (Fin IPC_MAX_CLIENT_SWAPCHAINS) :=
  match validateSwapchainState ics with
  | .error xret => .ok (.error xret, ics)
  | .ok index =>
    -- the loop fills one native image for each handle
    if XRT_MAX_SWAPCHAIN_IMAGES < handleCount then .error (.outOfBounds .importImages XRT_MAX_SWAPCHAIN_IMAGES)
    else if ics.xc.isNone then .error .nullDeref
    else
      match created with
      | .error xret => .ok (.error xret, ics)
      | .ok xsc =>
        .ok (.ok index, setSwapchainInfo { ics with swapchainCount := ics.swapchainCount + 1 } index info xsc)

/-- The swapchain the image handlers use: neither the id nor the slot is checked. -/
def swapchainForImage (ics : IpcClientState) (id : UInt32) : Except Fault XrtSwapchain := do
  match ← readAt .xscs ics.xscs id.toNat with
  | none => .error .nullDeref
  | some xsc => .ok xsc

/-- `ipc_handle_swapchain_wait_image`; `waited` is the answer of the swapchain. -/
def ipcHandleSwapchainWaitImage (ics : IpcClientState) (id : UInt32) (waited : XrtSwapchain → XrtResult) :
    Except Fault XrtResult :=
  if ics.xc.isNone then .ok .errorIpcSessionNotCreated
  else do
    let xsc ← swapchainForImage ics id
    return waited xsc

/-- `ipc_handle_swapchain_acquire_image`; the answer of the swapchain is not looked at. -/
def ipcHandleSwapchainAcquireImage (ics : IpcClientState) (id : UInt32) (acquired : XrtSwapchain → UInt32) :
    Except Fault (Except XrtResult UInt32) :=
  if ics.xc.isNone then .ok (.error .errorIpcSessionNotCreated)
  else do
    let xsc ← swapchainForImage ics id
    return .ok (acquired xsc)

def ipcHandleSwapchainReleaseImage (ics : IpcClientState) (id : UInt32) : Except Fault XrtResult :=
  if ics.xc.isNone then .ok .errorIpcSessionNotCreated
  else do
    let _ ← swapchainForImage ics id
    return .success

def ipcHandleSwapchainDestroy (ics : IpcClientState) (id : UInt32) :
    Except Fault (Except XrtResult Unit × IpcClientState) :=
  if ics.xc.isNone then .ok (.error .errorIpcSessionNotCreated, ics)
  else do
    let xscs ← writeAt .xscs ics.xscs id.toNat none
    let data ← readAt .swapchainData ics.swapchainData id.toNat
    let swapchainData ← writeAt .swapchainData ics.swapchainData id.toNat { data with active := false }
    return (.ok (), { ics with
      swapchainCount := ics.swapchainCount - 1
      xscs := xscs
      swapchainData := swapchainData })

/-! ## Compositor semaphores -/

def IpcClientState.semaphoreLive (ics : IpcClientState) (i : Fin IPC_MAX_CLIENT_SEMAPHORES) : Bool :=
  (ics.xcsems i).isSome

/-- `ipc_handle_compositor_semaphore_create`; `created` is the answer of `xrt_comp_create_semaphore`. -/
def ipcHandleCompositorSemaphoreCreate (ics : IpcClientState) (created : Except XrtResult ℕ) :
    Handled (Fin IPC_MAX_CLIENT_SEMAPHORES) :=
  if ics.xc.isNone then .ok (.error .errorIpcSessionNotCreated, ics)
  else
    match firstIndex fun i => !ics.semaphoreLive i with
    | none => .ok (.error .errorIpcFailure, ics)
    | some id =>
      match created with
      | .error xret => .ok (.error xret, ics)
      | .ok xcsem => .ok (.ok id, { ics with xcsems := Function.update ics.xcsems id (some xcsem) })

def ipcHandleCompositorSemaphoreDestroy (ics : IpcClientState) (id : UInt32) :
    Except Fault (Except XrtResult Unit × IpcClientState) :=
  if ics.xc.isNone then .ok (.error .errorIpcSessionNotCreated, ics)
  else do
    match ← readAt .xcsems ics.xcsems id.toNat with
    | none => return (.error .errorIpcFailure, ics)
    | some _ =>
      let xcsems ← writeAt .xcsems ics.xcsems id.toNat none
      return (.ok (), { ics with
        compositorSemaphoreCount := ics.compositorSemaphoreCount - 1
        xcsems := xcsems })

/-! ## Calls -/

/-- The calls of a client on what it holds, each with the answer the system gives to it. -/
inductive ResourceCall
  | sessionCreate (isOverlay : Bool) (zOrder : UInt32) (created : Except XrtResult (ℕ × Option ℕ))
  | sessionDestroy
  | swapchainCreate (info : XrtSwapchainCreateInfo) (created : Except XrtResult XrtSwapchain)
  | swapchainImport (info : XrtSwapchainCreateInfo) (handleCount : ℕ) (created : Except XrtResult XrtSwapchain)
  | swapchainDestroy (id : UInt32)
  | semaphoreCreate (created : Except XrtResult ℕ)
  | semaphoreDestroy (id : UInt32)

def Handled.status {α : Type} (h : Handled α) : Handled Unit :=
  h.map fun p => (p.1.map fun _ => (), p.2)

def handleResourceCall (ics : IpcClientState) : ResourceCall → Handled Unit
  | .sessionCreate isOverlay zOrder created => ipcHandleSessionCreate ics isOverlay zOrder created
  | .sessionDestroy => ipcHandleSessionDestroy ics
  | .swapchainCreate info created => (ipcHandleSwapchainCreate ics info created).status
  | .swapchainImport info handleCount created => (ipcHandleSwapchainImport ics info handleCount created).status
  | .swapchainDestroy id => ipcHandleSwapchainDestroy ics id
  | .semaphoreCreate created => (ipcHandleCompositorSemaphoreCreate ics created).status
  | .semaphoreDestroy id => ipcHandleCompositorSemaphoreDestroy ics id

end AugmentedInsanity.Ipc
