/-
Layer submission on the server (`ipc_server_handler.c`): one helper for each layer type turns an entry of
the shared-memory slot into a call on the compositor, `_update_layers` runs over the slot, and the two
sync handlers run it between the begin and the commit of a frame. A helper gives the `bool` it returns and
the call it makes.
-/
import AugmentedInsanity.Ipc.Server.Objects
import AugmentedInsanity.Lib.Scan

namespace AugmentedInsanity.Ipc

open Xrt Tables Scan

/-! ## Compositor calls -/

/-- A layer call on the compositor, with the entries of its swapchain arrays that were written. -/
inductive CompLayerCall
  | projection (xdev : XrtDevice) (xcs : List XrtSwapchain) (data : XrtLayerData)
  | projectionDepth (xdev : XrtDevice) (xcs dXcs : List XrtSwapchain) (data : XrtLayerData)
  | quad (xdev : XrtDevice) (xcs : XrtSwapchain) (data : XrtLayerData)
  | cube (xdev : XrtDevice) (xcs : XrtSwapchain) (data : XrtLayerData)
  | cylinder (xdev : XrtDevice) (xcs : XrtSwapchain) (data : XrtLayerData)
  | equirect1 (xdev : XrtDevice) (xcs : XrtSwapchain) (data : XrtLayerData)
  | equirect2 (xdev : XrtDevice) (xcs : XrtSwapchain) (data : XrtLayerData)
  | passthrough (xdev : XrtDevice) (data : XrtLayerData)
  deriving DecidableEq

abbrev Updated := Bool × Option CompLayerCall

/-! ## Lookups -/

/-- `ics->xscs[layer->swapchain_ids[k]]`; the id is not checked. -/
def layerSwapchain (ics : IpcClientState) (layer : IpcLayerEntry) (k : ℕ) : Except Fault (Option XrtSwapchain) :=
  match readAt .swapchainIds layer.swapchainIds k with
  | .error f => .error f
  | .ok xsci => readAt .xscs ics.xscs xsci.toNat

/-- The colour and the depth swapchain of the view `j`. The sum of the depth index does not wrap: with that
many views the lookup of the first view is already outside the table. -/
def depthSwapchains (ics : IpcClientState) (layer : IpcLayerEntry) (j : ℕ) :
    Except Fault (Option (XrtSwapchain × XrtSwapchain)) :=
  match readAt .swapchainIds layer.swapchainIds j,
      readAt .swapchainIds layer.swapchainIds (j + layer.data.viewCount.toNat) with
  | .error f, _ => .error f
  | _, .error f => .error f
  | .ok xsci, .ok dXsci =>
    if XRT_MAX_VIEWS ≤ j then .error (.outOfBounds .layerSwapchains j)
    else
      match readAt .xscs ics.xscs xsci.toNat, readAt .xscs ics.xscs dXsci.toNat with
      | .error f, _ => .error f
      | _, .error f => .error f
      | .ok (some xcs), .ok (some dXcs) => .ok (some (xcs, dXcs))
      | .ok _, .ok _ => .ok none

/-! ## Helpers -/

/-- `_update_projection_layer`. The error of the device lookup is returned as a `bool`. -/
def updateProjectionLayer (ics : IpcClientState) (layer : IpcLayerEntry) : Except Fault Updated :=
  match getXdevAndValidate ics layer.xdevId with
  | .error xret => .ok (xret.toBool, none)
  | .ok xdev =>
    match xdev.hmd with
    | none => .error .nullDeref
    | some hmd =>
      match collect (layerSwapchain ics layer) 0 hmd.viewCount with
      | .error f => .error f
      | .ok none => .ok (false, none)
      | .ok (some xcs) => .ok (true, some (.projection xdev xcs layer.data))

def updateProjectionLayerDepth (ics : IpcClientState) (layer : IpcLayerEntry) : Except Fault Updated :=
  match getXdevAndValidate ics layer.xdevId with
  | .error xret => .ok (xret.toBool, none)
  | .ok xdev =>
    match collect (depthSwapchains ics layer) 0 layer.data.viewCount.toNat with
    | .error f => .error f
    | .ok none => .ok (false, none)
    | .ok (some xcs) =>
      .ok (true, some (.projectionDepth xdev (xcs.map Prod.fst) (xcs.map Prod.snd) layer.data))

/-- `do_single`: the `bool` it returns, and its out parameters if it wrote them. -/
def doSingle (ics : IpcClientState) (layer : IpcLayerEntry) :
    Except Fault (Bool × Option (XrtDevice × XrtSwapchain)) :=
  match getXdevAndValidate ics layer.xdevId with
  | .error xret => .ok (xret.toBool, none)
  | .ok xdev =>
    match readAt .xscs ics.xscs (layer.swapchainIds 0).toNat with
    | .error f => .error f
    | .ok none => .ok (false, none)
    | .ok (some xcs) => .ok (true, some (xdev, xcs))

/-- A helper that takes its parameters from `do_single` and passes them on. -/
def updateSingleLayer (call : XrtDevice → XrtSwapchain → XrtLayerData → CompLayerCall) (ics : IpcClientState)
    (layer : IpcLayerEntry) : Except Fault Updated :=
  match doSingle ics layer with
  | .error f => .error f
  | .ok (false, _) => .ok (false, none)
  | .ok (true, none) => .error .uninitialised
  | .ok (true, some (xdev, xcs)) => .ok (true, some (call xdev xcs layer.data))

def updateQuadLayer := updateSingleLayer .quad
def updateCubeLayer := updateSingleLayer .cube
def updateCylinderLayer := updateSingleLayer .cylinder
def updateEquirect1Layer := updateSingleLayer .equirect1
def updateEquirect2Layer := updateSingleLayer .equirect2

def updatePassthroughLayer (ics : IpcClientState) (layer : IpcLayerEntry) : Except Fault Updated :=
  match getXdevAndValidate ics layer.xdevId with
  | .error xret => .ok (xret.toBool, none)
  | .ok xdev => .ok (true, some (.passthrough xdev layer.data))

/-- The `switch` of `_update_layers`; an unknown type is only logged. -/
def updateLayer (ics : IpcClientState) (layer : IpcLayerEntry) : Except Fault Updated :=
  match layer.data.type with
  | .projection => updateProjectionLayer ics layer
  | .projectionDepth => updateProjectionLayerDepth ics layer
  | .quad => updateQuadLayer ics layer
  | .cube => updateCubeLayer ics layer
  | .cylinder => updateCylinderLayer ics layer
  | .equirect1 => updateEquirect1Layer ics layer
  | .equirect2 => updateEquirect2Layer ics layer
  | .passthrough => updatePassthroughLayer ics layer
  | .other _ => .ok (true, none)

/-- `_update_layers` from the layer `i` on, with `n` layers to go. -/
def updateLayersFrom (ics : IpcClientState) (slot : IpcLayerSlot) : ℕ → ℕ → Except Fault (Bool × List CompLayerCall)
  | _, 0 => .ok (true, [])
  | i, n + 1 =>
    match readAt .layers slot.layers i with
    | .error f => .error f
    | .ok layer =>
      match updateLayer ics layer with
      | .error f => .error f
      | .ok (false, call) => .ok (false, call.toList)
      | .ok (true, call) => (updateLayersFrom ics slot (i + 1) n).map fun p => (p.1, call.toList ++ p.2)

/-- `_update_layers`, with the calls it makes. -/
def updateLayers (ics : IpcClientState) (slot : IpcLayerSlot) : Except Fault (Bool × List CompLayerCall) :=
  updateLayersFrom ics slot 0 slot.layerCount.toNat

/-! ## Sync handlers -/

inductive CompCall
  | layerBegin (data : XrtLayerFrameData)
  | layer (call : CompLayerCall)
  | layerCommit (syncHandle : Int)
  | layerCommitWithSemaphore (xcsem : ℕ) (value : UInt64)
  deriving DecidableEq

abbrev XRT_GRAPHICS_SYNC_HANDLE_INVALID : Int := -1

/-- What a sync handler replies, the next slot index and the calls it made. -/
structure LayerSync where
  freeSlotId : UInt32
  calls : List CompCall

/-- The part both sync handlers share: the slot is copied and its layers go to the compositor, whatever
`_update_layers` returns. -/
def syncSlot (ics : IpcClientState) (ism : Option IpcSharedMemory) (currentSlotIndex slotId : UInt32)
    (commit : CompCall) : Except Fault LayerSync :=
  match ism with
  | none => .error .nullDeref
  | some ism =>
    match readAt .slots ism.slots slotId.toNat with
    | .error f => .error f
    | .ok copy =>
      match updateLayers ics copy with
      | .error f => .error f
      | .ok (_, calls) =>
        .ok ⟨(currentSlotIndex + 1) % UInt32.ofNat IPC_MAX_SLOTS,
          .layerBegin copy.data :: calls.map .layer ++ [commit]⟩

/-- `ipc_handle_compositor_layer_sync`; of the handles only the first is used. -/
def ipcHandleCompositorLayerSync (ics : IpcClientState) (ism : Option IpcSharedMemory) (currentSlotIndex : UInt32)
    (slotId : UInt32) (handles : List Int) : Except Fault (Except XrtResult LayerSync) :=
  if ics.xc.isNone then .ok (.error .errorIpcSessionNotCreated)
  else
    (syncSlot ics ism currentSlotIndex slotId
      (.layerCommit (handles.headD XRT_GRAPHICS_SYNC_HANDLE_INVALID))).map .ok

def ipcHandleCompositorLayerSyncWithSemaphore (ics : IpcClientState) (ism : Option IpcSharedMemory)
    (currentSlotIndex slotId semaphoreId : UInt32) (semaphoreValue : UInt64) :
    Except Fault (Except XrtResult LayerSync) :=
  if ics.xc.isNone then .ok (.error .errorIpcSessionNotCreated)
  else if h : semaphoreId.toNat < IPC_MAX_CLIENT_SEMAPHORES then
    match ics.xcsems ⟨semaphoreId.toNat, h⟩ with
    | none => .ok (.error .errorIpcFailure)
    | some xcsem =>
      (syncSlot ics ism currentSlotIndex slotId (.layerCommitWithSemaphore xcsem semaphoreValue)).map .ok
  else .ok (.error .errorIpcFailure)

end AugmentedInsanity.Ipc
