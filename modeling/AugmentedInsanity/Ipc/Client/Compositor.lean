/-
The client side of layer submission (`ipc_client_compositor.c`): the layer calls of an application are
written to the current slot of the shared memory, and a commit has the server read it. `IpcLink` is a
client compositor with the server's record of its client, the memory the two share, and the slot index the
server hands out.
-/
import AugmentedInsanity.Ipc.Server.Layers
import AugmentedInsanity.Ipc.Server.Resources

namespace AugmentedInsanity.Ipc

open Xrt Scan

/-! ## State -/

/-- `struct ipc_client_swapchain`; `xsc` is the swapchain of the server it was created for, which the
client does not store. -/
structure IpcClientSwapchain where
  id : UInt32
  xsc : XrtSwapchain
  deriving DecidableEq

structure IpcClientCompositorSemaphore where
  id : UInt32
  deriving DecidableEq

/-- `struct ipc_client_compositor`, as far as layers need it. -/
structure IpcClientCompositor where
  slotId : UInt32
  layerCount : UInt32
  compositorCreated : Bool
  deriving DecidableEq

/-- A client compositor and the server it is connected to. -/
structure IpcLink where
  icc : IpcClientCompositor
  ism : IpcSharedMemory
  ics : IpcClientState
  currentSlotIndex : UInt32

/-- A layer call of an application. The arrays of a call hold the entries the application wrote. -/
inductive ClientLayer
  | projection (xdev : XrtDevice) (xsc : List IpcClientSwapchain) (data : XrtLayerData)
  | projectionDepth (xdev : XrtDevice) (xsc dXsc : List IpcClientSwapchain) (data : XrtLayerData)
  | quad (xdev : XrtDevice) (xsc : IpcClientSwapchain) (data : XrtLayerData)
  | cube (xdev : XrtDevice) (xsc : IpcClientSwapchain) (data : XrtLayerData)
  | cylinder (xdev : XrtDevice) (xsc : IpcClientSwapchain) (data : XrtLayerData)
  | equirect1 (xdev : XrtDevice) (xsc : IpcClientSwapchain) (data : XrtLayerData)
  | equirect2 (xdev : XrtDevice) (xsc : IpcClientSwapchain) (data : XrtLayerData)
  | passthrough (xdev : XrtDevice) (data : XrtLayerData)

/-! ## Layers -/

def storeId (ids : Fin (XRT_MAX_VIEWS * 2) → UInt32) (i : ℕ) (ics : IpcClientSwapchain) :
    Except Fault (Fin (XRT_MAX_VIEWS * 2) → UInt32) :=
  writeAt .swapchainIds ids i ics.id

/-- `xsc[i]`. -/
def clientSwapchain (xsc : List IpcClientSwapchain) (i : ℕ) : Except Fault IpcClientSwapchain :=
  match xsc[i]? with
  | none => .error (.outOfBounds .layerSwapchains i)
  | some ics => .ok ics

/-- The part all layer calls share: an entry of the current slot is filled in, and the number of layers goes
up. -/
def putLayer (link : IpcLink) (fill : IpcLayerEntry → Except Fault IpcLayerEntry) : Except Fault IpcLink :=
  match readAt .slots link.ism.slots link.icc.slotId.toNat with
  | .error f => .error f
  | .ok slot =>
    match readAt .layers slot.layers link.icc.layerCount.toNat with
    | .error f => .error f
    | .ok layer =>
      match fill layer with
      | .error f => .error f
      | .ok layer =>
        match writeAt .layers slot.layers link.icc.layerCount.toNat layer with
        | .error f => .error f
        | .ok layers =>
          match writeAt .slots link.ism.slots link.icc.slotId.toNat { slot with layers := layers } with
          | .error f => .error f
          | .ok slots =>
            .ok { link with icc.layerCount := link.icc.layerCount + 1, ism.slots := slots }

/-- `ipc_compositor_layer_begin`; the number of layers stays as it is. -/
def ipcCompositorLayerBegin (link : IpcLink) (data : XrtLayerFrameData) : Except Fault IpcLink :=
  match readAt .slots link.ism.slots link.icc.slotId.toNat with
  | .error f => .error f
  | .ok slot =>
    match writeAt .slots link.ism.slots link.icc.slotId.toNat { slot with data := data } with
    | .error f => .error f
    | .ok slots => .ok { link with ism.slots := slots }

/-- The loop of a projection layer. -/
def storeColourIds (xsc : List IpcClientSwapchain) (i : ℕ) (ids : Fin (XRT_MAX_VIEWS * 2) → UInt32) :
    Except Fault (Fin (XRT_MAX_VIEWS * 2) → UInt32) :=
  match clientSwapchain xsc i with
  | .error f => .error f
  | .ok ics => storeId ids i ics

/-- The loop of a projection layer with depth, whose swapchains also go through two arrays of the function. -/
def storeDepthIds (xsc dXsc : List IpcClientSwapchain) (viewCount i : ℕ) (ids : Fin (XRT_MAX_VIEWS * 2) → UInt32) :
    Except Fault (Fin (XRT_MAX_VIEWS * 2) → UInt32) :=
  if XRT_MAX_VIEWS ≤ i then .error (.outOfBounds .layerSwapchains i)
  else
    match clientSwapchain xsc i, clientSwapchain dXsc i with
    | .error f, _ => .error f
    | _, .error f => .error f
    | .ok xscn, .ok dXscn =>
      match storeId ids i xscn with
      | .error f => .error f
      | .ok ids => storeId ids (i + viewCount) dXscn

/-- `ipc_compositor_layer_projection`; the device is not sent. -/
def ipcCompositorLayerProjection (link : IpcLink) (_xdev : XrtDevice) (xsc : List IpcClientSwapchain)
    (data : XrtLayerData) : Except Fault IpcLink :=
  if data.type ≠ .projection then .error .assertFailed
  else putLayer link fun layer =>
    (forFrom (storeColourIds xsc) 0 data.viewCount.toNat layer.swapchainIds).map fun ids => ⟨0, ids, data⟩

def ipcCompositorLayerProjectionDepth (link : IpcLink) (_xdev : XrtDevice) (xsc dXsc : List IpcClientSwapchain)
    (data : XrtLayerData) : Except Fault IpcLink :=
  if data.type ≠ .projectionDepth then .error .assertFailed
  else putLayer link fun layer =>
    (forFrom (storeDepthIds xsc dXsc data.viewCount.toNat) 0 data.viewCount.toNat layer.swapchainIds).map
      fun ids => ⟨0, ids, data⟩

/-- `handle_layer`; the other ids are set to -1. -/
def handleLayer (link : IpcLink) (_xdev : XrtDevice) (xsc : IpcClientSwapchain) (data : XrtLayerData)
    (type : XrtLayerType) : Except Fault IpcLink :=
  if data.type ≠ type then .error .assertFailed
  else putLayer link fun _ => .ok ⟨0, fun k => if k = 0 then xsc.id else UINT32_MAX, data⟩

def ipcCompositorLayerQuad (link : IpcLink) (xdev : XrtDevice) (xsc : IpcClientSwapchain) (data : XrtLayerData) :=
  handleLayer link xdev xsc data .quad

def ipcCompositorLayerCube (link : IpcLink) (xdev : XrtDevice) (xsc : IpcClientSwapchain) (data : XrtLayerData) :=
  handleLayer link xdev xsc data .cube

def ipcCompositorLayerCylinder (link : IpcLink) (xdev : XrtDevice) (xsc : IpcClientSwapchain) (data : XrtLayerData) :=
  handleLayer link xdev xsc data .cylinder

def ipcCompositorLayerEquirect1 (link : IpcLink) (xdev : XrtDevice) (xsc : IpcClientSwapchain) (data : XrtLayerData) :=
  handleLayer link xdev xsc data .equirect1

def ipcCompositorLayerEquirect2 (link : IpcLink) (xdev : XrtDevice) (xsc : IpcClientSwapchain) (data : XrtLayerData) :=
  handleLayer link xdev xsc data .equirect2

/-- `ipc_compositor_layer_passthrough`; the ids of the entry stay as they are. -/
def ipcCompositorLayerPassthrough (link : IpcLink) (_xdev : XrtDevice) (data : XrtLayerData) : Except Fault IpcLink :=
  if data.type ≠ .passthrough then .error .assertFailed
  else putLayer link fun layer => .ok ⟨0, layer.swapchainIds, data⟩

def layerCall (link : IpcLink) : ClientLayer → Except Fault IpcLink
  | .projection xdev xsc data => ipcCompositorLayerProjection link xdev xsc data
  | .projectionDepth xdev xsc dXsc data => ipcCompositorLayerProjectionDepth link xdev xsc dXsc data
  | .quad xdev xsc data => ipcCompositorLayerQuad link xdev xsc data
  | .cube xdev xsc data => ipcCompositorLayerCube link xdev xsc data
  | .cylinder xdev xsc data => ipcCompositorLayerCylinder link xdev xsc data
  | .equirect1 xdev xsc data => ipcCompositorLayerEquirect1 link xdev xsc data
  | .equirect2 xdev xsc data => ipcCompositorLayerEquirect2 link xdev xsc data
  | .passthrough xdev data => ipcCompositorLayerPassthrough link xdev data

/-! ## Commits -/

inductive Commit
  | sync (handle : Int)
  | semaphore (xcsem : IpcClientCompositorSemaphore) (value : UInt64)

def syncHandleIsValid (handle : Int) : Bool := decide (0 ≤ handle)

/-- The message a commit sends, as the server handles it. -/
def layerSync (link : IpcLink) : Commit → Except Fault (Except XrtResult LayerSync)
  | .sync handle =>
    ipcHandleCompositorLayerSync link.ics (some link.ism) link.currentSlotIndex link.icc.slotId
      (if syncHandleIsValid handle then [handle] else [])
  | .semaphore xcsem value =>
    ipcHandleCompositorLayerSyncWithSemaphore link.ics (some link.ism) link.currentSlotIndex link.icc.slotId
      xcsem.id value

/-- The client's part of a reply: the slot index is copied from it, which the server zeroes before a
handler runs, and the layers are counted from zero again. -/
def takeReply (link : IpcLink) (slotId : UInt32) : IpcLink :=
  { link with icc.slotId := slotId, icc.layerCount := 0 }

/-- What a commit returns, and the calls it made the server make. -/
structure Committed where
  xret : XrtResult
  calls : List CompCall
  link : IpcLink

/-- The call of a commit and what the client does with its answer. Without one the call fails and leaves the
slot index as it was. -/
def sendCommit (link : IpcLink) (commit : Commit) (answered : Bool) : Except Fault Committed :=
  if answered then
    match layerSync link commit with
    | .error f => .error f
    | .ok (.error xret) => .ok ⟨xret, [], takeReply link 0⟩
    | .ok (.ok reply) =>
      .ok ⟨.success, reply.calls, { takeReply link reply.freeSlotId with currentSlotIndex := reply.freeSlotId }⟩
  else .ok ⟨.errorIpcFailure, [], takeReply link link.icc.slotId⟩

/-- `ipc_compositor_layer_commit` and `ipc_compositor_layer_commit_with_semaphore`. -/
def ipcCompositorLayerCommit (link : IpcLink) (commit : Commit) (answered : Bool) : Except Fault Committed :=
  match readAt .slots link.ism.slots link.icc.slotId.toNat with
  | .error f => .error f
  | .ok slot =>
    match writeAt .slots link.ism.slots link.icc.slotId.toNat { slot with layerCount := link.icc.layerCount } with
    | .error f => .error f
    | .ok slots => sendCommit { link with ism.slots := slots } commit answered

/-! ## Creation -/

/-- `ipc_client_create_native_compositor`: `answered` is whether the session call got an answer, the rest
are the arguments of the session and what the server's system answers. -/
def ipcClientCreateNativeCompositor (link : IpcLink) (answered isOverlay : Bool) (zOrder : UInt32)
    (created : Except XrtResult (ℕ × Option ℕ)) : Except Fault (XrtResult × IpcLink) :=
  if link.icc.compositorCreated then .ok (.errorMultiSessionNotImplemented, link)
  else if answered then
    match ipcHandleSessionCreate link.ics isOverlay zOrder created with
    | .error f => .error f
    | .ok (.error xret, ics) => .ok (xret, { link with ics := ics })
    | .ok (.ok (), ics) => .ok (.success, { link with ics := ics, icc.compositorCreated := true })
  else .ok (.errorIpcFailure, link)

/-- `ipc_compositor_destroy`; the layers written so far stay counted. -/
def ipcCompositorDestroy (link : IpcLink) : Except Fault IpcLink :=
  if link.icc.compositorCreated then .ok { link with icc.compositorCreated := false } else .error .assertFailed

/-- `ipc_client_create_system_compositor`: a zeroed client compositor, connected to a server. -/
def ipcClientCreateSystemCompositor (ism : IpcSharedMemory) (ics : IpcClientState) (currentSlotIndex : UInt32) :
    IpcLink :=
  ⟨⟨0, 0, false⟩, ism, ics, currentSlotIndex⟩

end AugmentedInsanity.Ipc
