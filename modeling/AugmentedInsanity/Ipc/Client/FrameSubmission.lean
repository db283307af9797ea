/-
Frames from the layer calls of an application to the compositor of the server, over any sequence of
frames. A commit that succeeds is to make the server issue the calls of the frame, with its data and its
swapchains. `layer_begin` does not reset the number of layers, so the layers of an abandoned frame come
first, and the server takes the number of views and the device from elsewhere; `FrameFits` is when none of
this happens, and frames arrive in every run that meets it (`frames_of_run`).
-/
import AugmentedInsanity.Ipc.Client.Compositor
import AugmentedInsanity.Ipc.Server.LayerSubmission
import AugmentedInsanity.Lib.Runs

namespace AugmentedInsanity.Ipc

open Xrt Tables Scan Runs

/-! ## Layer calls -/

def ClientLayer.data : ClientLayer → XrtLayerData
  | .projection _ _ data | .projectionDepth _ _ _ data | .quad _ _ data | .cube _ _ data | .cylinder _ _ data
  | .equirect1 _ _ data | .equirect2 _ _ data | .passthrough _ data => data

def ClientLayer.type : ClientLayer → XrtLayerType
  | .projection .. => .projection
  | .projectionDepth .. => .projectionDepth
  | .quad .. => .quad
  | .cube .. => .cube
  | .cylinder .. => .cylinder
  | .equirect1 .. => .equirect1
  | .equirect2 .. => .equirect2
  | .passthrough .. => .passthrough

def ClientLayer.views (layer : ClientLayer) : ℕ := layer.data.viewCount.toNat

/-- What the interface asks of a call: data of its type, and a swapchain for every view. -/
def ClientLayer.proper (layer : ClientLayer) : Bool :=
  decide (layer.data.type = layer.type) &&
    match layer with
    | .projection _ xsc _ => decide (layer.views ≤ xsc.length)
    | .projectionDepth _ xsc dXsc _ => decide (layer.views ≤ xsc.length) && decide (layer.views ≤ dXsc.length)
    | _ => true

/-- The swapchain of a call whose id belongs at the place `k` of an entry. -/
def ClientLayer.named (layer : ClientLayer) (k : ℕ) : Option IpcClientSwapchain :=
  match layer with
  | .projection _ xsc _ => if k < layer.views then xsc[k]? else none
  | .projectionDepth _ xsc dXsc _ =>
    if k < layer.views then xsc[k]? else if k - layer.views < layer.views then dXsc[k - layer.views]? else none
  | .passthrough .. => none
  | .quad _ xsc _ | .cube _ xsc _ | .cylinder _ xsc _ | .equirect1 _ xsc _ | .equirect2 _ xsc _ =>
    if k = 0 then some xsc else none

theorem ClientLayer.named_projection (xdev : XrtDevice) (xsc : List IpcClientSwapchain) (data : XrtLayerData) (k : ℕ) :
    (ClientLayer.projection xdev xsc data).named k = if k < data.viewCount.toNat then xsc[k]? else none := rfl

theorem ClientLayer.named_projectionDepth (xdev : XrtDevice) (xsc dXsc : List IpcClientSwapchain) (data : XrtLayerData)
    (k : ℕ) :
    (ClientLayer.projectionDepth xdev xsc dXsc data).named k =
      if k < data.viewCount.toNat then xsc[k]?
      else if k - data.viewCount.toNat < data.viewCount.toNat then dXsc[k - data.viewCount.toNat]? else none := rfl

/-- The swapchains of the calls are those an application gave, view by view. -/
def ViewsDelivered (layer : ClientLayer) (xsc : List IpcClientSwapchain) (xcs : List XrtSwapchain) : Prop :=
  ∀ k, k < layer.views → ∃ ics, xsc[k]? = some ics ∧ xcs[k]? = some ics.xsc

/-- The call of the server is that of the application. -/
def Delivers (layer : ClientLayer) (call : CompLayerCall) : Prop :=
  match layer, call with
  | .projection _ xsc data, .projection _ xcs data' => ViewsDelivered layer xsc xcs ∧ data' = data
  | .projectionDepth _ xsc dXsc data, .projectionDepth _ xcs dXcs data' =>
    ViewsDelivered layer xsc xcs ∧ ViewsDelivered layer dXsc dXcs ∧ data' = data
  | .quad _ xsc data, .quad _ xcs data' => xcs = xsc.xsc ∧ data' = data
  | .cube _ xsc data, .cube _ xcs data' => xcs = xsc.xsc ∧ data' = data
  | .cylinder _ xsc data, .cylinder _ xcs data' => xcs = xsc.xsc ∧ data' = data
  | .equirect1 _ xsc data, .equirect1 _ xcs data' => xcs = xsc.xsc ∧ data' = data
  | .equirect2 _ xsc data, .equirect2 _ xcs data' => xcs = xsc.xsc ∧ data' = data
  | .passthrough _ data, .passthrough _ data' => data' = data
  | _, _ => False

/-! ## Runs of an application -/

/-- The calls of an application since the last `layer_begin`. -/
structure Frame where
  data : XrtLayerFrameData
  layers : List ClientLayer

/-- A link with the frame the application is in, and the number of layers it left behind in frames it
abandoned since the last commit. -/
structure FrameRun where
  link : IpcLink
  frame : Option Frame
  abandoned : ℕ

def FrameRun.openLayers (t : FrameRun) : ℕ :=
  match t.frame with
  | none => 0
  | some f => f.layers.length

/-- One step of a run; `server` is what other messages, of this client or of others, leave behind. -/
inductive LinkOp
  | create (answered isOverlay : Bool) (zOrder : UInt32) (created : Except XrtResult (ℕ × Option ℕ))
  | destroy
  | layerBegin (data : XrtLayerFrameData)
  | layer (layer : ClientLayer)
  | commit (commit : Commit) (answered : Bool)
  | server (ics : IpcClientState) (currentSlotIndex : UInt32)

/-- Layers and commits belong to a frame, which has at most as many layers as a slot, and only a created
compositor is destroyed. -/
def FrameRun.allows (t : FrameRun) : LinkOp → Bool
  | .layer layer =>
    match t.frame with
    | none => false
    | some f => layer.proper && decide (f.layers.length < IPC_MAX_LAYERS)
  | .commit .. => t.frame.isSome
  | .destroy => t.link.icc.compositorCreated
  | _ => true

def Frame.push (f : Frame) (layer : ClientLayer) : Frame := { f with layers := f.layers ++ [layer] }

def perform (t : FrameRun) : LinkOp → Except Fault FrameRun
  | .create answered isOverlay zOrder created =>
    (ipcClientCreateNativeCompositor t.link answered isOverlay zOrder created).map fun r => { t with link := r.2 }
  | .destroy =>
    (ipcCompositorDestroy t.link).map fun link => ⟨link, none, t.abandoned + t.openLayers⟩
  | .layerBegin data =>
    (ipcCompositorLayerBegin t.link data).map fun link => ⟨link, some ⟨data, []⟩, t.abandoned + t.openLayers⟩
  | .layer layer =>
    (layerCall t.link layer).map fun link => { t with link := link, frame := t.frame.map (·.push layer) }
  | .commit commit answered =>
    (ipcCompositorLayerCommit t.link commit answered).map fun r => ⟨r.link, none, 0⟩
  | .server ics currentSlotIndex =>
    .ok { t with link := { t.link with ics := ics, currentSlotIndex := currentSlotIndex } }

def frameStep (t : FrameRun) (op : LinkOp) : Option FrameRun :=
  if t.allows op then (perform t op).toOption else none

def FrameRun.start (ism : IpcSharedMemory) (ics : IpcClientState) (currentSlotIndex : UInt32) : FrameRun :=
  ⟨ipcClientCreateSystemCompositor ism ics currentSlotIndex, none, 0⟩

/-! ## What is to hold, and when -/

def Commit.Ends (commit : Commit) (call : CompCall) : Prop :=
  match commit, call with
  | .sync handle, .layerCommit syncHandle =>
    syncHandle = if syncHandleIsValid handle then handle else XRT_GRAPHICS_SYNC_HANDLE_INVALID
  | .semaphore _ value, .layerCommitWithSemaphore _ value' => value' = value
  | _, _ => False

/-- The server began a frame with the data of the frame, made the calls of its layers in order, and
committed. -/
def Delivered (f : Frame) (commit : Commit) (calls : List CompCall) : Prop :=
  ∃ layers last, calls = .layerBegin f.data :: layers.map .layer ++ [last] ∧
    List.Forall₂ Delivers f.layers layers ∧ commit.Ends last

/-- What is to hold of a step: it is defined, the slot written next is one of the memory, and a commit that
succeeds delivered the frame. -/
structure FrameKept (t : FrameRun) (op : LinkOp) : Prop where
  slot : t.allows op = true → ∃ t', perform t op = .ok t' ∧ t'.link.icc.slotId.toNat < IPC_MAX_SLOTS
  delivers : ∀ commit answered f r, op = .commit commit answered → t.frame = some f →
    ipcCompositorLayerCommit t.link commit answered = .ok r → r.xret = .success → Delivered f commit r.calls

def ClientLayer.ViewsFit (layer : ClientLayer) : Prop :=
  match layer with
  | .projection .. => layer.views ≤ XRT_MAX_VIEWS * 2
  | .projectionDepth .. => layer.views ≤ XRT_MAX_VIEWS
  | _ => True

/-- The server has a compositor for the client, and the semaphore of the commit. -/
def Accepts (ics : IpcClientState) (commit : Commit) : Prop :=
  ics.xc.isSome = true ∧
    match commit with
    | .sync _ => True
    | .semaphore xcsem _ => ∃ h : xcsem.id.toNat < IPC_MAX_CLIENT_SEMAPHORES, (ics.xcsems ⟨_, h⟩).isSome = true

/-- The swapchains of a call are still the ones the server has at their ids. -/
def SwapchainsLive (ics : IpcClientState) (layer : ClientLayer) : Prop :=
  ∀ k s, layer.named k = some s → swapchainAt ics s.id = some s.xsc

/-- The entries the client wrote since the last commit. -/
def IpcLink.written (link : IpcLink) (entry : IpcLayerEntry) : Prop :=
  ∃ (h : link.icc.slotId.toNat < IPC_MAX_SLOTS) (k : ℕ) (hk : k < IPC_MAX_LAYERS),
    k < link.icc.layerCount.toNat ∧ (link.ism.slots ⟨_, h⟩).layers ⟨k, hk⟩ = entry

/-- A layer fits what abandoned frames left of the slot. When a commit reaches a compositor no layer of an
abandoned frame is left, the server can make the call of every entry, and the swapchains of the frame are
still there. -/
def FrameFits (t : FrameRun) (op : LinkOp) : Prop :=
  match op with
  | .layer layer => t.abandoned + t.openLayers < IPC_MAX_LAYERS ∧ layer.ViewsFit
  | .commit commit true => Accepts t.link.ics commit → t.abandoned = 0 ∧
    (∀ entry, t.link.written entry → LayerGood t.link.ics entry) ∧
    ∀ f, t.frame = some f → ∀ layer ∈ f.layers, SwapchainsLive t.link.ics layer
  | _ => True

/-! ## What a layer call writes -/

/-- The entry has the data of the call, and its ids where the call names a swapchain. -/
structure Encodes (layer : ClientLayer) (entry : IpcLayerEntry) : Prop where
  data : entry.data = layer.data
  ids : ∀ k s, layer.named k = some s → ∃ h : k < XRT_MAX_VIEWS * 2, entry.swapchainIds ⟨k, h⟩ = s.id

/-- The ids with those of the first `i` swapchains written from `offset` on. -/
def IdsStored (xsc : List IpcClientSwapchain) (offset i : ℕ) (ids : Fin (XRT_MAX_VIEWS * 2) → UInt32) : Prop :=
  ∀ k s, k < i → xsc[k]? = some s → ∃ h : k + offset < XRT_MAX_VIEWS * 2, ids ⟨k + offset, h⟩ = s.id

variable {xsc : List IpcClientSwapchain}

theorem clientSwapchain_of_lt {i : ℕ} (h : i < xsc.length) : clientSwapchain xsc i = .ok xsc[i] := by
  unfold clientSwapchain
  rw [List.getElem?_eq_getElem h]

variable {ids : Fin (XRT_MAX_VIEWS * 2) → UInt32} {f : Frame} {entry : IpcLayerEntry} {layer : ClientLayer}

theorem storeId_of_lt {i : ℕ} (h : i < XRT_MAX_VIEWS * 2) (ics : IpcClientSwapchain) :
    storeId ids i ics = .ok (Function.update ids ⟨i, h⟩ ics.id) := writeAt_of_lt h

theorem IdsStored.succ {offset i : ℕ} (h : IdsStored xsc offset i ids) (hi : i < xsc.length)
    (hplace : i + offset < XRT_MAX_VIEWS * 2) :
    IdsStored xsc offset (i + 1) (Function.update ids ⟨i + offset, hplace⟩ xsc[i].id) := by
  intro k s hk hs
  by_cases hki : k = i
  · subst hki
    rw [List.getElem?_eq_getElem hi] at hs
    cases hs
    exact ⟨hplace, by simp⟩
  · obtain ⟨hlt, hid⟩ := h k s (by omega) hs
    refine ⟨hlt, ?_⟩
    rw [Function.update_of_ne (fun heq => hki (by have := Fin.mk.inj heq; omega))]
    exact hid

theorem IdsStored.update {offset i j : ℕ} {id : UInt32} (h : IdsStored xsc offset i ids) (hj : j < XRT_MAX_VIEWS * 2)
    (hne : ∀ k, k < i → k + offset ≠ j) : IdsStored xsc offset i (Function.update ids ⟨j, hj⟩ id) := by
  intro k s hk hs
  obtain ⟨hlt, hid⟩ := h k s hk hs
  refine ⟨hlt, ?_⟩
  rw [Function.update_of_ne (fun heq => hne k hk (Fin.mk.inj heq))]
  exact hid

theorem storeColourIds_spec {n : ℕ} (hxsc : n ≤ xsc.length) (hn : n ≤ XRT_MAX_VIEWS * 2)
    (ids : Fin (XRT_MAX_VIEWS * 2) → UInt32) :
    ∃ ids', forFrom (storeColourIds xsc) 0 n ids = .ok ids' ∧ IdsStored xsc 0 n ids' := by
  have hloop := forFrom_inv (b := storeColourIds xsc) (I := IdsStored xsc 0) (i := 0) (n := n) (s := ids)
  rw [Nat.zero_add] at hloop
  refine hloop (fun i t _ hi hstored => ?_) fun k _ hk => absurd hk (Nat.not_lt_zero k)
  have hlen : i < xsc.length := by omega
  refine ⟨_, ?_, hstored.succ hlen (by omega)⟩
  unfold storeColourIds
  rw [clientSwapchain_of_lt hlen]
  exact storeId_of_lt (by omega) _

theorem storeDepthIds_spec {dXsc : List IpcClientSwapchain} {n : ℕ} (hxsc : n ≤ xsc.length) (hdXsc : n ≤ dXsc.length)
    (hn : n ≤ XRT_MAX_VIEWS) (ids : Fin (XRT_MAX_VIEWS * 2) → UInt32) :
    ∃ ids', forFrom (storeDepthIds xsc dXsc n) 0 n ids = .ok ids' ∧
      IdsStored xsc 0 n ids' ∧ IdsStored dXsc n n ids' := by
  have hloop := forFrom_inv (b := storeDepthIds xsc dXsc n)
    (I := fun i ids => IdsStored xsc 0 i ids ∧ IdsStored dXsc n i ids) (i := 0) (n := n) (s := ids)
  rw [Nat.zero_add] at hloop
  refine hloop (fun i t _ hi hstored => ?_)
    ⟨fun k _ hk => absurd hk (Nat.not_lt_zero k), fun k _ hk => absurd hk (Nat.not_lt_zero k)⟩
  obtain ⟨hcolour, hdepth⟩ := hstored
  have hlen : i < xsc.length := by omega
  have hdlen : i < dXsc.length := by omega
  have hplace : i + 0 < XRT_MAX_VIEWS * 2 := by omega
  have hdplace : i + n < XRT_MAX_VIEWS * 2 := by omega
  have hviews : ¬ XRT_MAX_VIEWS ≤ i := by omega
  refine ⟨Function.update (Function.update t ⟨i, hplace⟩ xsc[i].id) ⟨i + n, hdplace⟩ dXsc[i].id, ?_, ?_, ?_⟩
  · unfold storeDepthIds
    rw [if_neg hviews, clientSwapchain_of_lt hlen, clientSwapchain_of_lt hdlen]
    have hstore : storeId t i xsc[i] = .ok (Function.update t ⟨i, hplace⟩ xsc[i].id) := storeId_of_lt hplace _
    simp only [hstore]
    exact storeId_of_lt hdplace _
  · exact (hcolour.succ hlen hplace).update hdplace fun k hk => by omega
  · exact (hdepth.update hplace fun k hk => by omega).succ hdlen hdplace

/-! ## A layer call -/

def IpcLink.setSlot (link : IpcLink) (i : Fin IPC_MAX_SLOTS) (slot : IpcLayerSlot) : IpcLink :=
  { link with ism.slots := Function.update link.ism.slots i slot }

@[simp] theorem IpcLink.slots_setSlot (link : IpcLink) (i : Fin IPC_MAX_SLOTS) (slot : IpcLayerSlot) :
    (link.setSlot i slot).ism.slots i = slot := Function.update_self _ _ _

def IpcLink.withEntry (link : IpcLink) (i : Fin IPC_MAX_SLOTS) (j : Fin IPC_MAX_LAYERS) (entry : IpcLayerEntry) :
    IpcLink :=
  { link.setSlot i { link.ism.slots i with layers := Function.update (link.ism.slots i).layers j entry } with
    icc.layerCount := link.icc.layerCount + 1 }

section
variable {link : IpcLink} (hslot : link.icc.slotId.toNat < IPC_MAX_SLOTS)
  (hcount : link.icc.layerCount.toNat < IPC_MAX_LAYERS) {data : XrtLayerData}
include hslot hcount

theorem putLayer_spec {fill : IpcLayerEntry → Except Fault IpcLayerEntry} {entry : IpcLayerEntry}
    (hfill : fill ((link.ism.slots ⟨_, hslot⟩).layers ⟨_, hcount⟩) = .ok entry) :
    putLayer link fill = .ok (link.withEntry ⟨_, hslot⟩ ⟨_, hcount⟩ entry) := by
  unfold putLayer
  rw [readAt_of_lt hslot]
  simp only []
  rw [readAt_of_lt hcount]
  simp only [hfill]
  rw [writeAt_of_lt hcount]
  simp only []
  rw [writeAt_of_lt hslot]
  rfl

theorem handleLayer_spec {type : XrtLayerType} (xdev : XrtDevice) (xsc : IpcClientSwapchain)
    (htype : data.type = type) :
    handleLayer link xdev xsc data type =
      .ok (link.withEntry ⟨_, hslot⟩ ⟨_, hcount⟩ ⟨0, fun k => if k = 0 then xsc.id else UINT32_MAX, data⟩) := by
  unfold handleLayer
  rw [if_neg (not_not.2 htype)]
  exact putLayer_spec hslot hcount rfl

theorem layerProjection_spec (xdev : XrtDevice) (htype : data.type = .projection)
    (hxsc : data.viewCount.toNat ≤ xsc.length) (hfit : data.viewCount.toNat ≤ XRT_MAX_VIEWS * 2) :
    ∃ ids, ipcCompositorLayerProjection link xdev xsc data =
        .ok (link.withEntry ⟨_, hslot⟩ ⟨_, hcount⟩ ⟨0, ids, data⟩) ∧ IdsStored xsc 0 data.viewCount.toNat ids := by
  obtain ⟨ids, hloop, hstored⟩ := storeColourIds_spec hxsc hfit
    ((link.ism.slots ⟨_, hslot⟩).layers ⟨_, hcount⟩).swapchainIds
  refine ⟨ids, ?_, hstored⟩
  unfold ipcCompositorLayerProjection
  rw [if_neg (not_not.2 htype)]
  exact putLayer_spec hslot hcount (by rw [hloop]; rfl)

theorem layerProjectionDepth_spec (xdev : XrtDevice) {dXsc : List IpcClientSwapchain}
    (htype : data.type = .projectionDepth) (hxsc : data.viewCount.toNat ≤ xsc.length)
    (hdXsc : data.viewCount.toNat ≤ dXsc.length) (hfit : data.viewCount.toNat ≤ XRT_MAX_VIEWS) :
    ∃ ids, ipcCompositorLayerProjectionDepth link xdev xsc dXsc data =
        .ok (link.withEntry ⟨_, hslot⟩ ⟨_, hcount⟩ ⟨0, ids, data⟩) ∧
      IdsStored xsc 0 data.viewCount.toNat ids ∧ IdsStored dXsc data.viewCount.toNat data.viewCount.toNat ids := by
  obtain ⟨ids, hloop, hstored⟩ := storeDepthIds_spec hxsc hdXsc hfit
    ((link.ism.slots ⟨_, hslot⟩).layers ⟨_, hcount⟩).swapchainIds
  refine ⟨ids, ?_, hstored⟩
  unfold ipcCompositorLayerProjectionDepth
  rw [if_neg (not_not.2 htype)]
  exact putLayer_spec hslot hcount (by rw [hloop]; rfl)

theorem layerCall_spec {layer : ClientLayer} (hproper : layer.proper = true) (hfit : layer.ViewsFit) :
    ∃ entry, layerCall link layer = .ok (link.withEntry ⟨_, hslot⟩ ⟨_, hcount⟩ entry) ∧ Encodes layer entry := by
  -- the first id of an entry is that of the only swapchain
  have first : ∀ {xsc : IpcClientSwapchain} {k : ℕ} {s : IpcClientSwapchain},
      (if k = 0 then some xsc else none) = some s →
        ∃ h : k < XRT_MAX_VIEWS * 2, (if (⟨k, h⟩ : Fin (XRT_MAX_VIEWS * 2)) = 0 then xsc.id else UINT32_MAX) = s.id := by
    intro xsc k s hs
    split at hs
    · rename_i hk
      subst hk
      cases hs
      exact ⟨by decide, if_pos rfl⟩
    · cases hs
  unfold ClientLayer.proper at hproper
  obtain ⟨htype, hviews⟩ := (Bool.and_eq_true _ _).mp hproper
  replace htype := of_decide_eq_true htype
  cases layer with
  | projection xdev xsc data =>
    obtain ⟨ids, hcall, hstored⟩ := layerProjection_spec hslot hcount xdev htype (of_decide_eq_true hviews) hfit
    refine ⟨_, hcall, rfl, fun k s hs => ?_⟩
    rw [ClientLayer.named_projection] at hs
    split at hs
    · exact hstored k s ‹_› hs
    · cases hs
  | projectionDepth xdev xsc dXsc data =>
    obtain ⟨hcolour, hdepth⟩ := (Bool.and_eq_true _ _).mp hviews
    obtain ⟨ids, hcall, hstored, hdstored⟩ := layerProjectionDepth_spec hslot hcount xdev htype
      (of_decide_eq_true hcolour) (of_decide_eq_true hdepth) hfit
    refine ⟨_, hcall, rfl, fun k s hs => ?_⟩
    rw [ClientLayer.named_projectionDepth] at hs
    split at hs
    · exact hstored k s ‹_› hs
    · rename_i hk
      split at hs
      · have hback : k - data.viewCount.toNat + data.viewCount.toNat = k := Nat.sub_add_cancel (Nat.le_of_not_lt hk)
        have hid : ∃ h : k - data.viewCount.toNat + data.viewCount.toNat < XRT_MAX_VIEWS * 2,
          ids ⟨_, h⟩ = s.id := hdstored _ s ‹_› hs
        simpa only [hback] using hid
      · cases hs
  | quad xdev xsc data => exact ⟨_, handleLayer_spec hslot hcount xdev xsc htype, rfl, fun k s hs => first hs⟩
  | cube xdev xsc data => exact ⟨_, handleLayer_spec hslot hcount xdev xsc htype, rfl, fun k s hs => first hs⟩
  | cylinder xdev xsc data => exact ⟨_, handleLayer_spec hslot hcount xdev xsc htype, rfl, fun k s hs => first hs⟩
  | equirect1 xdev xsc data => exact ⟨_, handleLayer_spec hslot hcount xdev xsc htype, rfl, fun k s hs => first hs⟩
  | equirect2 xdev xsc data => exact ⟨_, handleLayer_spec hslot hcount xdev xsc htype, rfl, fun k s hs => first hs⟩
  | passthrough xdev data =>
    refine ⟨⟨0, ((link.ism.slots ⟨_, hslot⟩).layers ⟨_, hcount⟩).swapchainIds, data⟩, ?_, rfl,
      fun k s hs => (by cases hs)⟩
    have htype' : data.type = .passthrough := htype
    unfold layerCall ipcCompositorLayerPassthrough
    simp only [htype', ne_eq, not_true, if_false]
    exact putLayer_spec hslot hcount rfl

end

/-! ## Commits -/

theorem names_delivers {ics : IpcClientState} {call : CompLayerCall} (hproper : layer.proper = true)
    (hentry : Encodes layer entry) (hlive : SwapchainsLive ics layer) (hcall : Names ics entry call) :
    Delivers layer call := by
  have named : ∀ {k s}, layer.named k = some s → namedSwapchain ics entry k = some s.xsc := by
    intro k s hs
    obtain ⟨hk, hid⟩ := hentry.ids k s hs
    unfold namedSwapchain
    rw [dif_pos hk, hid]
    exact hlive k s hs
  have hviews : entry.views = layer.views := by unfold IpcLayerEntry.views ClientLayer.views; rw [hentry.data]
  -- the server's array has the swapchains of the application's where both go by the ids from `offset` on
  have views : ∀ (offset : ℕ) {xsc : List IpcClientSwapchain} {xcs : List XrtSwapchain},
      layer.views ≤ xsc.length → (∀ k, k < layer.views → layer.named (k + offset) = xsc[k]?) →
        ViewsNamed ics entry offset xcs → ViewsDelivered layer xsc xcs := by
    intro offset xsc xcs hlen hnamed hxcs k hk
    obtain ⟨x, hx, hat⟩ := hxcs k (by rw [hviews]; exact hk)
    have hget : xsc[k]? = some xsc[k] := List.getElem?_eq_getElem (hk.trans_le hlen)
    rw [named ((hnamed k hk).trans hget)] at hat
    cases hat
    exact ⟨_, hget, hx⟩
  unfold ClientLayer.proper at hproper
  obtain ⟨htype, hlen⟩ := (Bool.and_eq_true _ _).mp hproper
  replace htype : entry.data.type = layer.type := by rw [hentry.data]; exact of_decide_eq_true htype
  have hdata := hentry.data
  unfold Names at hcall
  rw [htype] at hcall
  cases layer with
  | projection xdev xsc data =>
    cases call with
    | projection xdev' xcs data' =>
      obtain ⟨-, hxcs, rfl⟩ := hcall
      exact ⟨views 0 (of_decide_eq_true hlen) (fun k hk => if_pos hk) hxcs, hdata⟩
    | _ => exact hcall.elim
  | projectionDepth xdev xsc dXsc data =>
    obtain ⟨hcolour, hdepth⟩ := (Bool.and_eq_true _ _).mp hlen
    cases call with
    | projectionDepth xdev' xcs dXcs data' =>
      obtain ⟨-, hxcs, hdXcs, rfl⟩ := hcall
      refine ⟨views 0 (of_decide_eq_true hcolour) (fun k hk => if_pos hk) hxcs,
        views entry.views (of_decide_eq_true hdepth) (fun k hk => ?_) hdXcs, hdata⟩
      have hpast : ¬ k + entry.views < data.viewCount.toNat := by rw [hviews]; exact Nat.not_lt.2 (Nat.le_add_left _ _)
      have hback : k + entry.views - data.viewCount.toNat = k := by rw [hviews]; exact Nat.add_sub_cancel _ _
      rw [ClientLayer.named_projectionDepth, if_neg hpast, hback]
      exact if_pos hk
    | _ => exact hcall.elim
  | passthrough xdev data =>
    cases call with
    | passthrough xdev' data' => exact hcall.2.trans hdata
    | _ => exact hcall.elim
  | _ xdev xsc data =>
    have hfirst := named (if_pos rfl)
    cases call <;> first
      | exact hcall.elim
      | exact ⟨Option.some.inj (hcall.2.1.symm.trans hfirst), hcall.2.2.trans hdata⟩

theorem freeSlotId_lt (currentSlotIndex : UInt32) :
    ((currentSlotIndex + 1) % UInt32.ofNat IPC_MAX_SLOTS).toNat < IPC_MAX_SLOTS := by
  rw [UInt32.toNat_mod]
  exact Nat.mod_lt _ (by decide)

theorem layerSync_cases (link : IpcLink) (commit : Commit) :
    (∃ xret, xret ≠ .success ∧ layerSync link commit = .ok (.error xret)) ∨
      Accepts link.ics commit ∧ ∃ last, commit.Ends last ∧ layerSync link commit =
        (syncSlot link.ics (some link.ism) link.currentSlotIndex link.icc.slotId last).map .ok := by
  by_cases hxc : link.ics.xc.isNone = true
  · left
    refine ⟨.errorIpcSessionNotCreated, by decide, ?_⟩
    cases commit with
    | sync handle => exact if_pos hxc
    | semaphore xcsem value => exact if_pos hxc
  have hcreated : link.ics.xc.isSome = true := Option.isSome_iff_ne_none.2 fun h => hxc (by rw [h]; rfl)
  cases commit with
  | sync handle =>
    right
    refine ⟨⟨hcreated, trivial⟩, _, ?_, if_neg hxc⟩
    by_cases hvalid : syncHandleIsValid handle = true
    · simp [Commit.Ends, hvalid]
    · simp [Commit.Ends, hvalid]
  | semaphore xcsem value =>
    unfold layerSync ipcHandleCompositorLayerSyncWithSemaphore
    simp only [if_neg hxc]
    split
    · rename_i hid
      rcases hsem : link.ics.xcsems ⟨_, hid⟩ with _ | sem
      · exact Or.inl ⟨.errorIpcFailure, by decide, rfl⟩
      · exact Or.inr ⟨⟨hcreated, hid, by rw [hsem]; rfl⟩, .layerCommitWithSemaphore sem value, rfl, rfl⟩
    · exact Or.inl ⟨.errorIpcFailure, by decide, rfl⟩

theorem syncSlot_of_good {ics : IpcClientState} {ism : IpcSharedMemory} {currentSlotIndex slotId : UInt32}
    {last : CompCall} {slot : IpcLayerSlot} (hread : readAt .slots ism.slots slotId.toNat = .ok slot)
    (hcount : slot.layerCount.toNat ≤ IPC_MAX_LAYERS) (hgood : ∀ entry ∈ slot.entries, LayerGood ics entry) :
    ∃ calls, List.Forall₂ (Names ics) slot.entries calls ∧
      syncSlot ics (some ism) currentSlotIndex slotId last =
        .ok ⟨(currentSlotIndex + 1) % UInt32.ofNat IPC_MAX_SLOTS,
          .layerBegin slot.data :: calls.map .layer ++ [last]⟩ := by
  obtain ⟨calls, hupdate, hnames⟩ := updateLayers_of_good hcount hgood
  refine ⟨calls, hnames, ?_⟩
  unfold syncSlot
  simp only [hread, hupdate]

/-! ## The invariant -/

/-- The slot has the data of the frame, and from `offset` on its layers. -/
structure SlotHolds (slot : IpcLayerSlot) (offset : ℕ) (f : Frame) : Prop where
  data : slot.data = f.data
  layers : ∀ k layer, f.layers[k]? = some layer → layer.proper = true ∧
    ∃ h : offset + k < IPC_MAX_LAYERS, Encodes layer (slot.layers ⟨offset + k, h⟩)

/-- The client writes to a slot of the memory, counts the layers of the frame and of those abandoned before
it, and has written the frame after them. -/
structure LinkInv (t : FrameRun) : Prop where
  slot : t.link.icc.slotId.toNat < IPC_MAX_SLOTS
  count : t.link.icc.layerCount.toNat = t.abandoned + t.openLayers
  room : t.abandoned + t.openLayers ≤ IPC_MAX_LAYERS
  holds : ∀ f, t.frame = some f → SlotHolds (t.link.ism.slots ⟨_, slot⟩) t.abandoned f

theorem SlotHolds.push {slot : IpcLayerSlot} {offset : ℕ} (h : SlotHolds slot offset f)
    (hplace : offset + f.layers.length < IPC_MAX_LAYERS) (hproper : layer.proper = true)
    (hentry : Encodes layer entry) :
    SlotHolds { slot with layers := Function.update slot.layers ⟨_, hplace⟩ entry } offset (f.push layer) := by
  refine ⟨h.data, fun k l hl => ?_⟩
  by_cases hk : k < f.layers.length
  · have hold : f.layers[k]? = some l := by
      rw [← hl]; exact (List.getElem?_append_left hk).symm
    obtain ⟨hp, hlt, henc⟩ := h.layers k l hold
    have hne : (⟨offset + k, hlt⟩ : Fin IPC_MAX_LAYERS) ≠ ⟨_, hplace⟩ := by
      intro heq
      have := Fin.mk.inj heq
      omega
    refine ⟨hp, hlt, ?_⟩
    show Encodes l (Function.update slot.layers _ entry _)
    rw [Function.update_of_ne hne]
    exact henc
  · have hlen : (f.push layer).layers.length = f.layers.length + 1 := List.length_append
    obtain rfl : k = f.layers.length := by
      have := (List.getElem?_eq_some_iff.1 hl).1
      omega
    obtain rfl : layer = l := by
      have hlast : (f.push layer).layers[f.layers.length]? = some layer := by simp [Frame.push]
      exact Option.some.inj (hlast.symm.trans hl)
    refine ⟨hproper, hplace, ?_⟩
    show Encodes layer (Function.update slot.layers _ entry _)
    rw [Function.update_self]
    exact hentry

variable {t : FrameRun} {op : LinkOp}

theorem FrameRun.openLayers_some (h : t.frame = some f) :
    t.openLayers = f.layers.length := by unfold FrameRun.openLayers; rw [h]

def IpcLink.committedSlot (link : IpcLink) (h : link.icc.slotId.toNat < IPC_MAX_SLOTS) : IpcLayerSlot :=
  { link.ism.slots ⟨_, h⟩ with layerCount := link.icc.layerCount }

theorem entries_encode (hinv : LinkInv t) (hf : t.frame = some f) (h0 : t.abandoned = 0) :
    List.Forall₂ (fun layer entry => layer.proper = true ∧ Encodes layer entry) f.layers
      (t.link.committedSlot hinv.slot).entries := by
  have hlen : t.link.icc.layerCount.toNat = f.layers.length := by
    rw [hinv.count, h0, FrameRun.openLayers_some hf, Nat.zero_add]
  have hcount : (t.link.committedSlot hinv.slot).layerCount.toNat ≤ IPC_MAX_LAYERS :=
    le_of_eq_of_le hinv.count hinv.room
  refine List.forall₂_iff_get.2 ⟨?_, fun k hk hk' => ?_⟩
  · rw [IpcLayerSlot.entries_length hcount]
    exact hlen.symm
  · obtain ⟨hproper, hplace, hentry⟩ := (hinv.holds f hf).layers k _ (List.getElem?_eq_getElem hk)
    simp only [h0, Nat.zero_add] at hplace hentry
    refine ⟨hproper, ?_⟩
    rw [List.get_eq_getElem, List.get_eq_getElem, IpcLayerSlot.entries_getElem hk' hplace]
    exact hentry

theorem written_of_mem {link : IpcLink} (h : link.icc.slotId.toNat < IPC_MAX_SLOTS)
    (hcount : link.icc.layerCount.toNat ≤ IPC_MAX_LAYERS) (hmem : entry ∈ (link.committedSlot h).entries) :
    link.written entry := by
  obtain ⟨k, hk, rfl⟩ := List.mem_iff_getElem.1 hmem
  have hlen : k < link.icc.layerCount.toNat := by
    rw [IpcLayerSlot.entries_length (show (link.committedSlot h).layerCount.toNat ≤ _ from hcount)] at hk; exact hk
  exact ⟨h, k, hlen.trans_le hcount, hlen, (IpcLayerSlot.entries_getElem hk (hlen.trans_le hcount)).symm⟩

theorem commit_spec (hinv : LinkInv t) (hf : t.frame = some f) {commit : Commit} {answered : Bool}
    (hfits : FrameFits t (.commit commit answered)) :
    ∃ r, ipcCompositorLayerCommit t.link commit answered = .ok r ∧ r.link.icc.slotId.toNat < IPC_MAX_SLOTS ∧
      r.link.icc.layerCount = 0 ∧ (r.xret = .success → Delivered f commit r.calls) := by
  have hcommit : ∃ link : IpcLink, link.icc = t.link.icc ∧ link.ics = t.link.ics ∧
      readAt .slots link.ism.slots link.icc.slotId.toNat = .ok (t.link.committedSlot hinv.slot) ∧
      ipcCompositorLayerCommit t.link commit answered = sendCommit link commit answered := by
    refine ⟨t.link.setSlot ⟨_, hinv.slot⟩ (t.link.committedSlot hinv.slot), rfl, rfl, ?_, ?_⟩
    · refine (readAt_of_lt (show t.link.icc.slotId.toNat < IPC_MAX_SLOTS from hinv.slot)).trans ?_
      exact congrArg Except.ok (IpcLink.slots_setSlot _ _ _)
    · unfold ipcCompositorLayerCommit
      rw [readAt_of_lt hinv.slot]
      simp only []
      rw [writeAt_of_lt hinv.slot]
      rfl
  obtain ⟨link, hicc, hics, hread, heq⟩ := hcommit
  rw [heq]
  unfold sendCommit
  cases answered with
  | false => exact ⟨_, rfl, by rw [hicc]; exact hinv.slot, rfl, fun h => (by cases h)⟩
  | true =>
    rcases layerSync_cases link commit with ⟨xret, hne, hreply⟩ | ⟨haccepts, last, hends, hreply⟩
    · rw [if_pos rfl, hreply]
      exact ⟨_, rfl, show (0 : UInt32).toNat < IPC_MAX_SLOTS by decide, rfl, fun h => absurd h hne⟩
    · rw [hics] at haccepts
      obtain ⟨h0, hgood, hlive⟩ := hfits haccepts
      have hcount : t.link.icc.layerCount.toNat ≤ IPC_MAX_LAYERS := le_of_eq_of_le hinv.count hinv.room
      have hentriesGood : ∀ entry ∈ (t.link.committedSlot hinv.slot).entries, LayerGood link.ics entry := by
        intro entry hmem
        rw [hics]
        exact hgood entry (written_of_mem hinv.slot hcount hmem)
      obtain ⟨calls, hnames, hsync⟩ := syncSlot_of_good hread hcount hentriesGood
      rw [if_pos rfl, hreply, hsync]
      refine ⟨_, rfl, freeSlotId_lt _, rfl, fun _ => ⟨calls, last, ?_, ?_, hends⟩⟩
      · rw [← (hinv.holds f hf).data]; rfl
      · have hentries := List.forall₂_iff_get.1 (entries_encode hinv hf h0)
        rw [hics] at hnames
        have hcalls := List.forall₂_iff_get.1 hnames
        refine List.forall₂_iff_get.2 ⟨hentries.1.trans hcalls.1, fun k hk hk' => ?_⟩
        have hk'' : k < (t.link.committedSlot hinv.slot).entries.length := by rw [← hentries.1]; exact hk
        obtain ⟨hproper, hentry⟩ := hentries.2 k hk hk''
        exact names_delivers hproper hentry (hlive f hf _ (List.get_mem _ _)) (hcalls.2 k hk'' hk')

/-! ## Steps -/

theorem layerBegin_inv (hinv : LinkInv t) (data : XrtLayerFrameData) :
    ∃ t', perform t (.layerBegin data) = .ok t' ∧ LinkInv t' := by
  have hbegin : ipcCompositorLayerBegin t.link data =
      .ok (t.link.setSlot ⟨_, hinv.slot⟩ { t.link.ism.slots ⟨_, hinv.slot⟩ with data := data }) := by
    unfold ipcCompositorLayerBegin
    rw [readAt_of_lt hinv.slot]
    simp only []
    rw [writeAt_of_lt hinv.slot]
    rfl
  refine ⟨_, congrArg (Except.map _) hbegin, hinv.slot, hinv.count, hinv.room, ?_⟩
  rintro f ⟨⟩
  exact ⟨congrArg IpcLayerSlot.data (IpcLink.slots_setSlot _ _ _), fun k layer hk => (by cases hk)⟩

theorem layer_inv (hinv : LinkInv t) (hallow : t.allows (.layer layer) = true) (hfits : FrameFits t (.layer layer)) :
    ∃ t', perform t (.layer layer) = .ok t' ∧ LinkInv t' := by
  unfold FrameRun.allows at hallow
  rcases hf : t.frame with _ | f
  · simp only [hf] at hallow; cases hallow
  simp only [hf] at hallow
  have hproper : layer.proper = true := ((Bool.and_eq_true _ _).mp hallow).1
  have hlen : t.openLayers = f.layers.length := FrameRun.openLayers_some hf
  have hcount : t.link.icc.layerCount.toNat = t.abandoned + f.layers.length := by rw [hinv.count, hlen]
  have hroom : t.abandoned + f.layers.length < IPC_MAX_LAYERS := by rw [← hlen]; exact hfits.1
  have hplace : t.link.icc.layerCount.toNat < IPC_MAX_LAYERS := by rw [hcount]; exact hroom
  obtain ⟨entry, hcall, hentry⟩ := layerCall_spec hinv.slot hplace hproper hfits.2
  have hframe : t.frame.map (·.push layer) = some (f.push layer) := by rw [hf]; rfl
  have hpushed : (f.push layer).layers.length = f.layers.length + 1 := List.length_append
  refine ⟨⟨t.link.withEntry ⟨_, hinv.slot⟩ ⟨_, hplace⟩ entry, some (f.push layer), t.abandoned⟩, ?_, hinv.slot, ?_, ?_, ?_⟩
  · rw [← hframe]
    exact congrArg (Except.map _) hcall
  · show (t.link.icc.layerCount + 1).toNat = t.abandoned + (f.push layer).layers.length
    have hone : (1 : UInt32).toNat = 1 := rfl
    have hmax : IPC_MAX_LAYERS = 32 := rfl
    rw [UInt32.toNat_add, hone, hpushed, hcount]
    exact Nat.mod_eq_of_lt (by omega)
  · show t.abandoned + (f.push layer).layers.length ≤ IPC_MAX_LAYERS
    omega
  · rintro g ⟨⟩
    have hheld := (hinv.holds f hf).push hroom hproper hentry
    have hindex : (⟨t.abandoned + f.layers.length, hroom⟩ : Fin IPC_MAX_LAYERS) = ⟨_, hplace⟩ := Fin.ext hcount.symm
    rw [hindex] at hheld
    exact Eq.mpr (congrArg (SlotHolds · _ _) (IpcLink.slots_setSlot _ _ _)) hheld

theorem createNativeCompositor_same (link : IpcLink) (answered isOverlay : Bool) (zOrder : UInt32)
    (created : Except XrtResult (ℕ × Option ℕ)) :
    ∃ xret link', ipcClientCreateNativeCompositor link answered isOverlay zOrder created = .ok (xret, link') ∧
      link'.icc.slotId = link.icc.slotId ∧ link'.icc.layerCount = link.icc.layerCount ∧ link'.ism = link.ism := by
  have hanswer : ∃ r, ipcHandleSessionCreate link.ics isOverlay zOrder created = .ok r := by
    unfold ipcHandleSessionCreate
    split
    · exact ⟨_, rfl⟩
    · cases created with
      | error xret => exact ⟨_, rfl⟩
      | ok r => exact ⟨_, rfl⟩
  obtain ⟨⟨reply, ics⟩, hanswer⟩ := hanswer
  unfold ipcClientCreateNativeCompositor
  split
  · exact ⟨_, _, rfl, rfl, rfl, rfl⟩
  · split
    · rw [hanswer]
      cases reply with
      | error xret => exact ⟨_, _, rfl, rfl, rfl, rfl⟩
      | ok u => exact ⟨_, _, rfl, rfl, rfl, rfl⟩
    · exact ⟨_, _, rfl, rfl, rfl, rfl⟩

theorem create_inv (hinv : LinkInv t) (answered isOverlay : Bool) (zOrder : UInt32)
    (created : Except XrtResult (ℕ × Option ℕ)) :
    ∃ t', perform t (.create answered isOverlay zOrder created) = .ok t' ∧ LinkInv t' := by
  obtain ⟨xret, ⟨⟨slotId, layerCount, compositorCreated⟩, ism, ics, currentSlotIndex⟩, hcreate, rfl, rfl, rfl⟩ :=
    createNativeCompositor_same t.link answered isOverlay zOrder created
  exact ⟨_, congrArg (Except.map _) hcreate, hinv.slot, hinv.count, hinv.room, hinv.holds⟩

theorem perform_inv (hinv : LinkInv t) (hallow : t.allows op = true) (hfits : FrameFits t op) :
    ∃ t', perform t op = .ok t' ∧ LinkInv t' := by
  cases op with
  | create answered isOverlay zOrder created => exact create_inv hinv answered isOverlay zOrder created
  | destroy =>
    refine ⟨⟨{ t.link with icc.compositorCreated := false }, none, t.abandoned + t.openLayers⟩, ?_, hinv.slot, hinv.count,
      hinv.room, fun f hf => (by cases hf)⟩
    unfold perform ipcCompositorDestroy
    rw [if_pos (show t.link.icc.compositorCreated = true from hallow)]
    rfl
  | layerBegin data => exact layerBegin_inv hinv data
  | layer layer => exact layer_inv hinv hallow hfits
  | commit commit answered =>
    obtain ⟨f, hf⟩ := Option.isSome_iff_exists.1 (show t.frame.isSome = true from hallow)
    obtain ⟨r, hr, hslot, hcount, -⟩ := commit_spec hinv hf hfits
    refine ⟨⟨r.link, none, 0⟩, congrArg (Except.map _) hr, hslot, ?_, Nat.zero_le _, fun f hf => (by cases hf)⟩
    show r.link.icc.layerCount.toNat = 0
    rw [hcount]; rfl
  | server ics currentSlotIndex => exact ⟨_, rfl, hinv.slot, hinv.count, hinv.room, hinv.holds⟩

theorem frameKept_of_fits (hinv : LinkInv t) (hfits : FrameFits t op) : FrameKept t op := by
  refine ⟨fun hallow => ?_, ?_⟩
  · obtain ⟨t', ht, hinv'⟩ := perform_inv hinv hallow hfits
    exact ⟨t', ht, hinv'.slot⟩
  · rintro commit answered f r rfl hf hr hsuccess
    obtain ⟨r', hr', -, -, hdelivered⟩ := commit_spec hinv hf hfits
    rw [hr] at hr'
    cases hr'
    exact hdelivered hsuccess

theorem frameStep_inv {t' : FrameRun} (hinv : LinkInv t) (hfits : FrameFits t op) (hs : frameStep t op = some t') :
    LinkInv t' := by
  unfold frameStep at hs
  split at hs
  · obtain ⟨u, hu, hinv'⟩ := perform_inv hinv ‹_› hfits
    rw [hu] at hs
    cases hs
    exact hinv'
  · cases hs

/-! ## Runs -/

theorem start_inv (ism : IpcSharedMemory) (ics : IpcClientState) (currentSlotIndex : UInt32) :
    LinkInv (.start ism ics currentSlotIndex) :=
  ⟨show (0 : UInt32).toNat < IPC_MAX_SLOTS by decide, rfl, Nat.zero_le _, fun f hf => (by cases hf)⟩

/-- In every run of steps that fit, the next slot is one of the memory and every commit that succeeds
delivers its frame. -/
theorem frames_of_run (ism : IpcSharedMemory) (ics : IpcClientState) (currentSlotIndex : UInt32) (ops : List LinkOp)
    (hfits : Along frameStep FrameFits (.start ism ics currentSlotIndex) ops) :
    Along frameStep FrameKept (.start ism ics currentSlotIndex) ops :=
  along_of_inv (I := LinkInv) (fun _ _ hinv hop => frameKept_of_fits hinv hop)
    (fun _ _ _ hinv hop hs => frameStep_inv hinv hop hs) (start_inv ism ics currentSlotIndex) hfits

def headset : XrtDevice := ⟨0, some ⟨2, le_rfl⟩⟩

def clientImage : IpcClientSwapchain := ⟨5, ⟨7, 3, 0, false⟩⟩

def clientWithSwapchain : IpcClientState :=
  { IpcClientState.zero with
    xs := some 1
    xc := some 2
    xdevs := Function.update (fun _ => none) 0 (some headset)
    xscs := Function.update (fun _ => none) 5 (some clientImage.xsc) }

def quadLayer : ClientLayer := .quad headset clientImage ⟨.quad, 1, []⟩

theorem frames_of_quadFrame :
    Along frameStep FrameKept (.start .zero clientWithSwapchain 0)
      [.layerBegin ⟨1, 2, 0⟩, .layer quadLayer, .commit (.sync (-1)) true] := by
  refine frames_of_run .zero clientWithSwapchain 0 _ ⟨trivial, ⟨by decide, trivial⟩, fun _ => ⟨rfl, ?_, ?_⟩, trivial⟩
  · rintro entry ⟨h, k, hk, hlt, rfl⟩
    have hzero : k = 0 := Nat.lt_one_iff.1 hlt
    subst hzero
    show LayerGood clientWithSwapchain ⟨0, fun k => if k = 0 then 5 else UINT32_MAX, ⟨.quad, 1, []⟩⟩
    exact ⟨by decide +kernel, by decide +kernel⟩
  · rintro f ⟨⟩ layer hmem k s hs
    obtain rfl := List.mem_singleton.1 hmem
    have hnamed : (if k = 0 then some clientImage else none) = some s := hs
    split at hnamed
    · cases hnamed
      decide +kernel
    · cases hnamed

theorem FrameKept.calls_length {commit : Commit} {r : Committed} (h : FrameKept t (.commit commit true))
    (hf : t.frame = some f) (hr : ipcCompositorLayerCommit t.link commit true = .ok r) (hsuccess : r.xret = .success) :
    r.calls.length = f.layers.length + 2 := by
  obtain ⟨layers, last, hcalls, hlayers, -⟩ := h.delivers commit true f r rfl hf hr hsuccess
  rw [hcalls, hlayers.length_eq]
  simp

/-- The layer of an abandoned frame is submitted with those of the next. -/
theorem abandonedLayer_submitted :
    ¬ Along frameStep FrameKept (.start .zero clientWithSwapchain 0)
      [.layerBegin ⟨1, 2, 0⟩, .layer quadLayer, .layerBegin ⟨2, 3, 0⟩, .commit (.sync (-1)) true] := by
  rintro ⟨-, -, -, hkept, -⟩
  have hlength := hkept.calls_length rfl rfl rfl
  cases hlength

end AugmentedInsanity.Ipc
