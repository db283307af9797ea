/-
A composition of the multi system compositor (`transfer_layers_locked`): frames are delivered, those of sessions that
are not to be shown are retired, the clients of the others are sorted by their z-order, and their layers are handed to
the native compositor. These are the calls by which the clients passed the layers on, each once and in order
(`transferLayersLocked_transfers`).
-/
import AugmentedInsanity.Multi.SlotThreads
import AugmentedInsanity.Multi.TransferLayers

namespace AugmentedInsanity.Multi.Composition

open AugmentedInsanity.Comp Xrt

/-! ## Layer calls -/

/-- The calls `xrt_comp_layer_*`, with the device, the swapchains of the views and the data. -/
inductive XrtCompLayer
  | projection (xdev : ℕ) (xsc : List ℕ) (data : XrtLayerData)
  | projectionDepth (xdev : ℕ) (xsc dXsc : List ℕ) (data : XrtLayerData)
  | quad (xdev xsc : ℕ) (data : XrtLayerData)
  | cube (xdev xsc : ℕ) (data : XrtLayerData)
  | cylinder (xdev xsc : ℕ) (data : XrtLayerData)
  | equirect1 (xdev xsc : ℕ) (data : XrtLayerData)
  | equirect2 (xdev xsc : ℕ) (data : XrtLayerData)
  deriving DecidableEq

namespace XrtCompLayer

def xdev : XrtCompLayer → ℕ
  | projection xdev _ _ | projectionDepth xdev _ _ _ | quad xdev _ _ | cube xdev _ _ | cylinder xdev _ _
  | equirect1 xdev _ _ | equirect2 xdev _ _ => xdev

def data : XrtCompLayer → XrtLayerData
  | projection _ _ data | projectionDepth _ _ _ data | quad _ _ data | cube _ _ data | cylinder _ _ data
  | equirect1 _ _ data | equirect2 _ _ data => data

def type : XrtCompLayer → XrtLayerType
  | projection _ _ _ => .projection
  | projectionDepth _ _ _ _ => .projectionDepth
  | quad _ _ _ => .quad
  | cube _ _ _ => .cube
  | cylinder _ _ _ => .cylinder
  | equirect1 _ _ _ => .equirect1
  | equirect2 _ _ _ => .equirect2

/-- What the multi compositor writes to `xscs`, from its start. -/
def pointers : XrtCompLayer → List (Option ℕ)
  | projection _ xsc _ => xsc.map some
  | projectionDepth _ xsc dXsc _ => xsc.map some ++ dXsc.map some
  | quad _ xsc _ | cube _ xsc _ | cylinder _ xsc _ | equirect1 _ xsc _ | equirect2 _ xsc _ => [some xsc]

/-- The data are of the type of the call, and there are as many swapchains as views. -/
def Proper : XrtCompLayer → Prop
  | projection _ xsc data => data.type = .projection ∧ xsc.length = data.viewCount.toNat
  | projectionDepth _ xsc dXsc data =>
    data.type = .projectionDepth ∧ xsc.length = data.viewCount.toNat ∧ dXsc.length = data.viewCount.toNat
  | quad _ _ data => data.type = .quad
  | cube _ _ data => data.type = .cube
  | cylinder _ _ data => data.type = .cylinder
  | equirect1 _ _ data => data.type = .equirect1
  | equirect2 _ _ data => data.type = .equirect2

end XrtCompLayer

structure ClientLayer where
  call : XrtCompLayer
  proper : call.Proper
  views : call.data.viewCount.toNat ≤ XRT_MAX_VIEWS

theorem ClientLayer.size (c : ClientLayer) : c.call.pointers.length ≤ 2 * XRT_MAX_VIEWS := by
  obtain ⟨call, proper, views⟩ := c
  have hmax : XRT_MAX_VIEWS = 2 := rfl
  cases call with
  | projection xdev xsc data =>
    have hviews : data.viewCount.toNat ≤ XRT_MAX_VIEWS := views
    have hcolour := proper.2
    show (xsc.map some).length ≤ _
    rw [List.length_map]
    omega
  | projectionDepth xdev xsc dXsc data =>
    have hviews : data.viewCount.toNat ≤ XRT_MAX_VIEWS := views
    obtain ⟨-, hcolour, hdepth⟩ := proper
    show (xsc.map some ++ dXsc.map some).length ≤ _
    rw [List.length_append, List.length_map, List.length_map]
    omega
  | quad | cube | cylinder | equirect1 | equirect2 => show 1 ≤ 2 * XRT_MAX_VIEWS; omega

/-- What `multi_compositor_layer_projection` and the other calls write to the entry of the layer. -/
def ClientLayer.entry (c : ClientLayer) : DeliveredLayer where
  xscs := c.call.pointers
  size := c.size
  xdev := some c.call.xdev
  data := c.call.data
  views := c.views

theorem ClientLayer.entry_type (c : ClientLayer) : c.entry.data.type = c.call.type := by
  obtain ⟨call, proper, views⟩ := c
  cases call with
  | projection | projectionDepth => exact proper.1
  | quad | cube | cylinder | equirect1 | equirect2 => exact proper

/-! ## The layers of a slot -/

/-- The loop over the views: swapchains up to the first that is `NULL`. -/
def readSwapchains (xsc : ℕ → Option ℕ) : ℕ → Option (List ℕ)
  | 0 => some []
  | viewCount + 1 =>
    match readSwapchains xsc viewCount, xsc viewCount with
    | some xscs, some sc => some (xscs ++ [sc])
    | _, _ => none

def doProjectionLayer (l : DeliveredLayer) : Option XrtCompLayer :=
  match readSwapchains l.xsc l.viewCount, l.xdev with
  | some xsc, some xdev => some (.projection xdev xsc l.data)
  | _, _ => none

def doProjectionLayerDepth (l : DeliveredLayer) : Option XrtCompLayer :=
  match readSwapchains l.xsc l.viewCount, readSwapchains l.dXsc l.viewCount, l.xdev with
  | some xsc, some dXsc, some xdev => some (.projectionDepth xdev xsc dXsc l.data)
  | _, _, _ => none

def doSingle (l : DeliveredLayer) : Option (ℕ × ℕ) :=
  match l.xsc 0, l.xdev with
  | some xcs, some xdev => some (xdev, xcs)
  | _, _ => none

def doQuadLayer (l : DeliveredLayer) : Option XrtCompLayer := (doSingle l).map fun out => .quad out.1 out.2 l.data

def doCubeLayer (l : DeliveredLayer) : Option XrtCompLayer := (doSingle l).map fun out => .cube out.1 out.2 l.data

def doCylinderLayer (l : DeliveredLayer) : Option XrtCompLayer :=
  (doSingle l).map fun out => .cylinder out.1 out.2 l.data

def doEquirect1Layer (l : DeliveredLayer) : Option XrtCompLayer :=
  (doSingle l).map fun out => .equirect1 out.1 out.2 l.data

def doEquirect2Layer (l : DeliveredLayer) : Option XrtCompLayer :=
  (doSingle l).map fun out => .equirect2 out.1 out.2 l.data

/-- The `switch` over the layer types: the call that is made, if any. -/
def transferLayer (l : DeliveredLayer) : Option XrtCompLayer :=
  match l.data.type with
  | .projection => doProjectionLayer l
  | .projectionDepth => doProjectionLayerDepth l
  | .quad => doQuadLayer l
  | .cube => doCubeLayer l
  | .cylinder => doCylinderLayer l
  | .equirect1 => doEquirect1Layer l
  | .equirect2 => doEquirect2Layer l
  -- "Unhandled layer type '%i'!"
  | .passthrough | .other _ => none

variable {xsc : ℕ → Option ℕ}

theorem readSwapchains_of_get {xs : List ℕ} :
    ∀ n, n ≤ xs.length → (∀ j < n, xsc j = xs[j]?) → readSwapchains xsc n = some (xs.take n)
  | 0, _, _ => rfl
  | n + 1, hn, hget => by
    have ih := readSwapchains_of_get n (Nat.le_of_succ_le hn) fun j hj => hget j (Nat.lt_succ_of_lt hj)
    have hlast : xsc n = some xs[n] := (hget n (Nat.lt_succ_self n)).trans (List.getElem?_eq_getElem hn)
    rw [readSwapchains, ih, hlast, List.take_add_one, List.getElem?_eq_getElem hn]
    rfl

theorem readSwapchains_eq {xs : List ℕ} {n : ℕ} (hn : xs.length = n) (hget : ∀ j < n, xsc j = xs[j]?) :
    readSwapchains xsc n = some xs := by
  rw [readSwapchains_of_get n hn.ge hget, List.take_of_length_le hn.le]

theorem join_map_some (xs : List ℕ) (j : ℕ) : (xs.map some)[j]?.join = xs[j]? := by
  rw [List.getElem?_map]
  cases xs[j]? <;> rfl

section
variable {l : DeliveredLayer} {xdev xcs : ℕ} {xsc dXsc : List ℕ}

theorem doProjectionLayer_eq (hcolour : xsc.length = l.viewCount) (hxscs : l.xscs = xsc.map some)
    (hxdev : l.xdev = some xdev) : doProjectionLayer l = some (.projection xdev xsc l.data) := by
  have hread : readSwapchains l.xsc l.viewCount = some xsc := by
    apply readSwapchains_eq hcolour
    intro j _
    rw [DeliveredLayer.xsc, hxscs, join_map_some]
  rw [doProjectionLayer, hread, hxdev]

theorem doProjectionLayerDepth_eq (hcolour : xsc.length = l.viewCount) (hdepth : dXsc.length = l.viewCount)
    (hxscs : l.xscs = xsc.map some ++ dXsc.map some) (hxdev : l.xdev = some xdev) :
    doProjectionLayerDepth l = some (.projectionDepth xdev xsc dXsc l.data) := by
  have hlength : (xsc.map some).length = l.viewCount := (List.length_map _).trans hcolour
  have hread : readSwapchains l.xsc l.viewCount = some xsc := by
    apply readSwapchains_eq hcolour
    intro j hj
    rw [DeliveredLayer.xsc, hxscs, List.getElem?_append_left (by omega), join_map_some]
  have hreadDepth : readSwapchains l.dXsc l.viewCount = some dXsc := by
    apply readSwapchains_eq hdepth
    intro j hj
    rw [DeliveredLayer.dXsc, DeliveredLayer.xsc, hxscs, List.getElem?_append_right (by omega), hlength,
      Nat.add_sub_cancel, join_map_some]
  rw [doProjectionLayerDepth, hread, hreadDepth, hxdev]

theorem doSingle_eq (hxscs : l.xscs = [some xcs]) (hxdev : l.xdev = some xdev) : doSingle l = some (xdev, xcs) := by
  have hsc : l.xsc 0 = some xcs := by
    rw [DeliveredLayer.xsc, hxscs]
    rfl
  rw [doSingle, hsc, hxdev]

end

theorem transferLayer_entry (c : ClientLayer) : transferLayer c.entry = some c.call := by
  rw [transferLayer, c.entry_type]
  obtain ⟨call, proper, views⟩ := c
  cases call with
  | projection xdev xsc data => exact doProjectionLayer_eq proper.2 rfl rfl
  | projectionDepth xdev xsc dXsc data => exact doProjectionLayerDepth_eq proper.2.1 proper.2.2 rfl rfl
  | quad xdev xsc data | cube xdev xsc data | cylinder xdev xsc data | equirect1 xdev xsc data
  | equirect2 xdev xsc data =>
    apply Option.map_eq_some_iff.2
    exact ⟨(xdev, xsc), doSingle_eq rfl rfl, rfl⟩

/-! ## Slots -/

/-- `struct multi_layer_slot`, with layers that a client passed on. -/
structure LayerSlot where
  frameId : ℤ
  displayTimeNs : ℤ
  envBlendMode : UInt32
  layers : List DeliveredLayer
  active : Bool
  submitted : ∀ l ∈ layers, ∃ c : ClientLayer, c.entry = l

/-- What `slot_clear_locked` leaves. -/
def LayerSlot.cleared : LayerSlot where
  frameId := -1
  displayTimeNs := 0
  envBlendMode := 0
  layers := []
  active := false
  submitted := List.forall_mem_nil _

def LayerSlot.layerBegin (frameId displayTimeNs : ℤ) (envBlendMode : UInt32) : LayerSlot where
  frameId := frameId
  displayTimeNs := displayTimeNs
  envBlendMode := envBlendMode
  layers := []
  active := true
  submitted := List.forall_mem_nil _

variable {layers : List DeliveredLayer}

theorem submitted_snoc (h : ∀ l ∈ layers, ∃ c : ClientLayer, c.entry = l) (c : ClientLayer) :
    ∀ l ∈ layers ++ [c.entry], ∃ c : ClientLayer, c.entry = l := by
  intro l hl
  rcases List.mem_append.1 hl with hl | hl
  · exact h l hl
  · exact ⟨c, (List.mem_singleton.1 hl).symm⟩

/-- `multi_compositor_layer_projection` and the other calls that add a layer. -/
def LayerSlot.addLayer (slot : LayerSlot) (c : ClientLayer) : LayerSlot where
  frameId := slot.frameId
  displayTimeNs := slot.displayTimeNs
  envBlendMode := slot.envBlendMode
  layers := slot.layers ++ [c.entry]
  active := slot.active
  submitted := submitted_snoc slot.submitted c

def XrtCompLayer.withKey (chromaKey : List UInt8 → List UInt8) : XrtCompLayer → XrtCompLayer
  | .projection xdev xsc data => .projection xdev xsc { data with rest := chromaKey data.rest }
  | .projectionDepth xdev xsc dXsc data => .projectionDepth xdev xsc dXsc { data with rest := chromaKey data.rest }
  | call => call

theorem XrtCompLayer.withKey_viewCount (chromaKey : List UInt8 → List UInt8) (call : XrtCompLayer) :
    (call.withKey chromaKey).data.viewCount = call.data.viewCount := by
  cases call <;> rfl

theorem XrtCompLayer.Proper.withKey {call : XrtCompLayer} (h : call.Proper) (chromaKey : List UInt8 → List UInt8) :
    (call.withKey chromaKey).Proper := by
  cases call <;> exact h

theorem submitted_withKey (chromaKey : List UInt8 → List UInt8) (c : ClientLayer) :
    ∃ c' : ClientLayer, c'.entry = c.entry.withKey chromaKey := by
  obtain ⟨call, proper, views⟩ := c
  refine ⟨⟨call.withKey chromaKey, proper.withKey chromaKey, ?_⟩, ?_⟩
  · rw [XrtCompLayer.withKey_viewCount]
    exact views
  · unfold DeliveredLayer.withKey
    rw [ClientLayer.entry_type]
    cases call with
    | projection | projectionDepth | quad | cube | cylinder | equirect1 | equirect2 => rfl

theorem submitted_map_withKey (h : ∀ l ∈ layers, ∃ c : ClientLayer, c.entry = l) (chromaKey : List UInt8 → List UInt8) :
    ∀ l ∈ layers.map (DeliveredLayer.withKey chromaKey), ∃ c : ClientLayer, c.entry = l := by
  intro l hl
  obtain ⟨l', hl', rfl⟩ := List.mem_map.1 hl
  obtain ⟨c, rfl⟩ := h l' hl'
  exact submitted_withKey chromaKey c

/-- What is written to the slot of the base compositor if the chroma key is enabled. -/
def LayerSlot.withKey (slot : LayerSlot) (chromaKey : List UInt8 → List UInt8) : LayerSlot where
  frameId := slot.frameId
  displayTimeNs := slot.displayTimeNs
  envBlendMode := XRT_BLEND_MODE_ALPHA_BLEND
  layers := slot.layers.map (DeliveredLayer.withKey chromaKey)
  active := slot.active
  submitted := submitted_map_withKey slot.submitted chromaKey

/-! ## Clients -/

/-- The part of `struct multi_compositor` that a composition uses, with the calls that its pacer has got:
`u_pa_retired` with a frame, and `u_pa_latched` with a frame and a system frame. -/
structure ClientCompositor where
  zOrder : ℤ
  visible : Bool
  focused : Bool
  sessionActive : Bool
  isBaseSession : Bool
  scheduled : LayerSlot
  delivered : LayerSlot
  retired : List ℤ
  latched : List (ℤ × ℤ)

namespace ClientCompositor

/-- `multi_compositor_retire_delivered_locked`: `slot_clear_locked` of the delivered slot. -/
def retireDelivered (mc : ClientCompositor) : ClientCompositor :=
  { mc with
    delivered := .cleared
    retired := if mc.delivered.active then mc.retired ++ [mc.delivered.frameId] else mc.retired }

def deliverAnyFrames (mc : ClientCompositor) (displayTimeNs : ℤ) : ClientCompositor :=
  if mc.scheduled.active = false then mc
  else if timeIsGreaterThenOrWithinHalfMs displayTimeNs mc.scheduled.displayTimeNs then
    -- `slot_move_and_clear_locked`.
    { mc.retireDelivered with delivered := mc.scheduled, scheduled := .cleared }
  else mc

/-- `multi_compositor_latch_frame_locked`. -/
def latchFrame (mc : ClientCompositor) (systemFrameId : ℤ) : ClientCompositor :=
  { mc with latched := mc.latched ++ [(mc.delivered.frameId, systemFrameId)] }

/-- A round of the loop over the clients: the client after it, and whether it is put into the array. -/
def collect (mc : ClientCompositor) (displayTimeNs systemFrameId : ℤ) : ClientCompositor × Bool :=
  let mc := mc.deliverAnyFrames displayTimeNs
  if mc.delivered.active = false then (mc, false)
  else if mc.visible = false then (mc.retireDelivered, false)
  -- "Session is visible but not active."
  else if mc.sessionActive = false then (mc.retireDelivered, false)
  else (mc.latchFrame systemFrameId, true)

def withKey (mc : ClientCompositor) (chromaKey : List UInt8 → List UInt8) : ClientCompositor :=
  { mc with delivered := mc.delivered.withKey chromaKey }

end ClientCompositor

def overlaySortFunc (a b : ClientCompositor) : ℤ :=
  if a.zOrder < b.zOrder then -1 else if b.zOrder < a.zOrder then 1 else 0

/-- `find_active_blend_mode`, from a client on; `none` if its assertion fails. -/
def findActiveBlendMode : List ClientCompositor → Option ClientCompositor → Option UInt32
  | [], firstVisible => some (firstVisible.elim XRT_BLEND_MODE_OPAQUE (·.delivered.envBlendMode))
  | mc :: rest, firstVisible =>
    if mc.focused then
      if mc.visible then some mc.delivered.envBlendMode else none
    else findActiveBlendMode rest (if firstVisible.isNone && mc.visible then some mc else firstVisible)

/-! ## The composition -/

abbrev MULTI_MAX_CLIENTS : ℕ := 64

/-- The list of clients of `struct multi_system_compositor`. -/
abbrev Clients := Fin MULTI_MAX_CLIENTS → Option ClientCompositor

/-- The clients after the loop. -/
def collectedClients (clients : Clients) (displayTimeNs systemFrameId : ℤ) : Clients :=
  fun k => (clients k).map fun mc => (mc.collect displayTimeNs systemFrameId).1

/-- The array after the loop. -/
def collectedArray (clients : Clients) (displayTimeNs systemFrameId : ℤ) : List (Fin MULTI_MAX_CLIENTS) :=
  (List.finRange MULTI_MAX_CLIENTS).filter fun k =>
    (clients k).any fun mc => (mc.collect displayTimeNs systemFrameId).2

/-- What `qsort` may make of an array of clients: any order between clients that are equal for `overlay_sort_func`. -/
structure Qsort (clients : Clients) (collected array : List (Fin MULTI_MAX_CLIENTS)) : Prop where
  perm : array.Perm collected
  sorted : array.Pairwise fun j k => ∀ a ∈ clients j, ∀ b ∈ clients k, overlaySortFunc a b ≤ 0

def baseComp (clients : Clients) (array : List (Fin MULTI_MAX_CLIENTS)) : Option (Fin MULTI_MAX_CLIENTS) :=
  array.find? fun k =>
    (clients k).any fun mc => mc.isBaseSession && mc.visible && mc.sessionActive && mc.delivered.active

/-- The clients with the chroma key, if it is enabled, in the slot of the base compositor, if there is one. -/
def keyBase (clients : Clients) (chromaKey : Option (List UInt8 → List UInt8))
    (array : List (Fin MULTI_MAX_CLIENTS)) : Clients :=
  match chromaKey, baseComp clients array with
  | some chromaKey, some k => Function.update clients k ((clients k).map (·.withKey chromaKey))
  | _, _ => clients

/-- What the native compositor gets: the data of `xrt_comp_layer_begin`, and the calls after it. -/
structure NativeFrame where
  frameId : ℤ
  displayTimeNs : ℤ
  envBlendMode : UInt32
  layers : List XrtCompLayer

/-- `transfer_layers_locked`, with the array as `qsort` left it; `none` if an assertion fails. -/
def transferLayersLocked (clients : Clients) (chromaKey : Option (List UInt8 → List UInt8))
    (displayTimeNs systemFrameId : ℤ) (array : List (Fin MULTI_MAX_CLIENTS)) : Option (Clients × NativeFrame) :=
  let clients := keyBase (collectedClients clients displayTimeNs systemFrameId) chromaKey array
  match findActiveBlendMode (array.filterMap clients) none with
  | none => none
  | some blendMode =>
    some (clients,
      { frameId := systemFrameId
        displayTimeNs := displayTimeNs
        envBlendMode := blendMode
        layers := (array.filterMap clients).flatMap fun mc => mc.delivered.layers.filterMap transferLayer })

/-! ## What is handed over -/

def ClientCompositor.Shown (mc : ClientCompositor) : Prop :=
  mc.delivered.active = true ∧ mc.visible = true ∧ mc.sessionActive = true

/-- What a composition does with the layers and with the slots. -/
structure Transfers (clients : Clients) (chromaKey : Option (List UInt8 → List UInt8))
    (displayTimeNs systemFrameId : ℤ) (array : List (Fin MULTI_MAX_CLIENTS)) (after : Clients)
    (frame : NativeFrame) : Prop where
  /-- The calls are those that put the layers into the delivered slots of the array, in order. -/
  layers : ∃ cs : List ClientLayer, frame.layers = cs.map ClientLayer.call ∧
    cs.map ClientLayer.entry = (array.filterMap after).flatMap fun mc => mc.delivered.layers
  /-- No client is in the array twice. -/
  once : array.Nodup
  mem : ∀ k, k ∈ array ↔ ∃ mc ∈ clients k, (mc.deliverAnyFrames displayTimeNs).Shown
  ascending : array.Pairwise fun j k => ∀ a ∈ clients j, ∀ b ∈ clients k, a.zOrder ≤ b.zOrder
  /-- The slot of a client in the array holds its delivered frame, with the chroma key if it is the base compositor. -/
  shown : ∀ k, ∀ mc ∈ clients k, (mc.deliverAnyFrames displayTimeNs).Shown →
    (chromaKey = none ∨ baseComp (collectedClients clients displayTimeNs systemFrameId) array ≠ some k) →
    after k = some ((mc.deliverAnyFrames displayTimeNs).latchFrame systemFrameId)
  keyed : ∀ k, ∀ mc ∈ clients k, (mc.deliverAnyFrames displayTimeNs).Shown → ∀ key ∈ chromaKey,
    baseComp (collectedClients clients displayTimeNs systemFrameId) array = some k →
    after k = some (((mc.deliverAnyFrames displayTimeNs).latchFrame systemFrameId).withKey key)
  /-- A frame that is not to be shown is retired. -/
  hidden : ∀ k, ∀ mc ∈ clients k, (mc.deliverAnyFrames displayTimeNs).delivered.active = true →
    ¬ (mc.visible = true ∧ mc.sessionActive = true) →
    after k = some { mc.deliverAnyFrames displayTimeNs with
      delivered := .cleared
      retired := (mc.deliverAnyFrames displayTimeNs).retired ++
        [(mc.deliverAnyFrames displayTimeNs).delivered.frameId] }
  idle : ∀ k, ∀ mc ∈ clients k, (mc.deliverAnyFrames displayTimeNs).delivered.active = false →
    after k = some (mc.deliverAnyFrames displayTimeNs)

section
variable {mc : ClientCompositor} {displayTimeNs systemFrameId : ℤ}

@[simp] theorem deliverAnyFrames_visible : (mc.deliverAnyFrames displayTimeNs).visible = mc.visible := by
  unfold ClientCompositor.deliverAnyFrames
  split_ifs <;> rfl

@[simp] theorem deliverAnyFrames_sessionActive :
    (mc.deliverAnyFrames displayTimeNs).sessionActive = mc.sessionActive := by
  unfold ClientCompositor.deliverAnyFrames
  split_ifs <;> rfl

@[simp] theorem deliverAnyFrames_zOrder : (mc.deliverAnyFrames displayTimeNs).zOrder = mc.zOrder := by
  unfold ClientCompositor.deliverAnyFrames
  split_ifs <;> rfl

theorem collect_shown (h : (mc.deliverAnyFrames displayTimeNs).Shown) :
    mc.collect displayTimeNs systemFrameId =
      ((mc.deliverAnyFrames displayTimeNs).latchFrame systemFrameId, true) := by
  obtain ⟨hactive, hvisible, hsession⟩ := h
  simp only [ClientCompositor.collect, hactive, hvisible, hsession, Bool.true_eq_false, if_false]

theorem collect_idle (h : (mc.deliverAnyFrames displayTimeNs).delivered.active = false) :
    mc.collect displayTimeNs systemFrameId = (mc.deliverAnyFrames displayTimeNs, false) := by
  simp only [ClientCompositor.collect, h, if_true]

theorem collect_hidden (hactive : (mc.deliverAnyFrames displayTimeNs).delivered.active = true)
    (h : ¬ (mc.visible = true ∧ mc.sessionActive = true)) :
    mc.collect displayTimeNs systemFrameId = ((mc.deliverAnyFrames displayTimeNs).retireDelivered, false) := by
  simp only [ClientCompositor.collect, hactive, Bool.true_eq_false, if_false, deliverAnyFrames_visible,
    deliverAnyFrames_sessionActive]
  split_ifs with hvisible hsession
  · rfl
  · rfl
  · exact absurd ⟨by simpa using hvisible, by simpa using hsession⟩ h

theorem collect_collected : (mc.collect displayTimeNs systemFrameId).2 = true ↔
    (mc.deliverAnyFrames displayTimeNs).Shown := by
  constructor
  · intro h
    cases hactive : (mc.deliverAnyFrames displayTimeNs).delivered.active with
    | false =>
      rw [collect_idle hactive] at h
      cases h
    | true =>
      by_cases hshow : mc.visible = true ∧ mc.sessionActive = true
      · exact ⟨hactive, by simpa using hshow⟩
      · rw [collect_hidden hactive hshow] at h
        cases h
  · intro h
    rw [collect_shown h]

theorem collect_visible (h : (mc.deliverAnyFrames displayTimeNs).Shown) :
    (mc.collect displayTimeNs systemFrameId).1.visible = true := by
  rw [collect_shown h]
  exact h.2.1

theorem collect_zOrder : (mc.collect displayTimeNs systemFrameId).1.zOrder = mc.zOrder := by
  have hzOrder : (mc.deliverAnyFrames displayTimeNs).zOrder = mc.zOrder := deliverAnyFrames_zOrder
  cases hactive : (mc.deliverAnyFrames displayTimeNs).delivered.active with
  | false =>
    rw [collect_idle hactive]
    exact hzOrder
  | true =>
    by_cases hshow : mc.visible = true ∧ mc.sessionActive = true
    · rw [collect_shown ⟨hactive, by simpa using hshow⟩]
      exact hzOrder
    · rw [collect_hidden hactive hshow]
      exact hzOrder

end

theorem mem_collectedArray {clients : Clients} {displayTimeNs systemFrameId : ℤ} {k : Fin MULTI_MAX_CLIENTS} :
    k ∈ collectedArray clients displayTimeNs systemFrameId ↔
      ∃ mc ∈ clients k, (mc.deliverAnyFrames displayTimeNs).Shown := by
  unfold collectedArray
  rw [List.mem_filter, Option.any_eq_true]
  constructor
  · rintro ⟨-, mc, hmc, hcollected⟩
    exact ⟨mc, hmc, collect_collected.1 hcollected⟩
  · rintro ⟨mc, hmc, hshown⟩
    exact ⟨List.mem_finRange k, mc, hmc, collect_collected.2 hshown⟩

theorem overlaySortFunc_nonpos {a b : ClientCompositor} : overlaySortFunc a b ≤ 0 ↔ a.zOrder ≤ b.zOrder := by
  unfold overlaySortFunc
  split_ifs <;> omega

theorem findActiveBlendMode_visible {mcs : List ClientCompositor} (h : ∀ mc ∈ mcs, mc.visible = true) :
    ∀ firstVisible, ∃ blendMode, findActiveBlendMode mcs firstVisible = some blendMode := by
  induction mcs with
  | nil => exact fun firstVisible => ⟨_, rfl⟩
  | cons mc mcs ih =>
    intro firstVisible
    unfold findActiveBlendMode
    rw [if_pos (h mc List.mem_cons_self)]
    by_cases hfocused : mc.focused = true
    · rw [if_pos hfocused]
      exact ⟨_, rfl⟩
    · rw [if_neg hfocused]
      exact ih (fun mc' hmc' => h mc' (List.mem_cons_of_mem _ hmc')) _

theorem filterMap_transferLayer (h : ∀ l ∈ layers, ∃ c : ClientLayer, c.entry = l) :
    ∃ cs : List ClientLayer, layers.filterMap transferLayer = cs.map ClientLayer.call ∧
      cs.map ClientLayer.entry = layers := by
  have hrange : layers ∈ Set.range (List.map ClientLayer.entry) := by
    rw [Set.range_list_map]
    exact h
  obtain ⟨cs, rfl⟩ := hrange
  refine ⟨cs, ?_, rfl⟩
  rw [List.filterMap_map, ← List.filterMap_eq_map]
  exact List.filterMap_congr fun c _ => transferLayer_entry c

section
variable {clients : Clients} {chromaKey : Option (List UInt8 → List UInt8)} {array : List (Fin MULTI_MAX_CLIENTS)}
  {k : Fin MULTI_MAX_CLIENTS}

theorem keyBase_same (h : chromaKey = none ∨ baseComp clients array ≠ some k) :
    keyBase clients chromaKey array k = clients k := by
  unfold keyBase
  cases chromaKey with
  | none => rfl
  | some key =>
    have hnot := h.resolve_left (Option.some_ne_none key)
    cases hbase : baseComp clients array with
    | none => rfl
    | some j =>
      have hne : k ≠ j := by
        rintro rfl
        exact hnot hbase
      exact Function.update_of_ne hne _ _

theorem keyBase_base {key : List UInt8 → List UInt8} (h : baseComp clients array = some k) :
    keyBase clients (some key) array k = (clients k).map (·.withKey key) := by
  unfold keyBase
  rw [h]
  exact Function.update_self _ _ _

theorem keyBase_visible {mc : ClientCompositor} (h : mc ∈ keyBase clients chromaKey array k) :
    ∃ mc' ∈ clients k, mc'.visible = mc.visible := by
  by_cases hsame : chromaKey = none ∨ baseComp clients array ≠ some k
  · rw [keyBase_same hsame] at h
    exact ⟨mc, h, rfl⟩
  · rw [not_or, not_not] at hsame
    obtain ⟨key, rfl⟩ := Option.ne_none_iff_exists'.1 hsame.1
    rw [keyBase_base hsame.2] at h
    obtain ⟨mc', hmc', rfl⟩ := Option.map_eq_some_iff.1 h
    exact ⟨mc', hmc', rfl⟩

end

/-- However `qsort` orders clients of one z-order, the layers of the frames that are to be shown are handed over, each
once, by the calls that passed them on, from the lowest z-order up and in the order of each client; other frames are
retired. -/
theorem transferLayersLocked_transfers {clients : Clients} {displayTimeNs systemFrameId : ℤ}
    {array : List (Fin MULTI_MAX_CLIENTS)} (chromaKey : Option (List UInt8 → List UInt8))
    (hsort : Qsort (collectedClients clients displayTimeNs systemFrameId)
      (collectedArray clients displayTimeNs systemFrameId) array) :
    ∃ after frame, transferLayersLocked clients chromaKey displayTimeNs systemFrameId array = some (after, frame) ∧
      Transfers clients chromaKey displayTimeNs systemFrameId array after frame := by
  have hmem : ∀ k, k ∈ array ↔ ∃ mc ∈ clients k, (mc.deliverAnyFrames displayTimeNs).Shown := fun k =>
    hsort.perm.mem_iff.trans mem_collectedArray
  have hvisible : ∀ mc ∈ array.filterMap
      (keyBase (collectedClients clients displayTimeNs systemFrameId) chromaKey array), mc.visible = true := by
    intro mc hmc
    obtain ⟨k, hk, hat⟩ := List.mem_filterMap.1 hmc
    obtain ⟨mc', hmc', heq⟩ := keyBase_visible hat
    obtain ⟨mc₀, hmc₀, hshown⟩ := (hmem k).1 hk
    have hcollected : mc' = (mc₀.collect displayTimeNs systemFrameId).1 := by
      rw [collectedClients, hmc₀] at hmc'
      exact (Option.some.inj hmc').symm
    rw [← heq, hcollected]
    exact collect_visible hshown
  obtain ⟨blendMode, hblend⟩ := findActiveBlendMode_visible hvisible none
  refine ⟨_, _, by rw [transferLayersLocked, hblend], ?_⟩
  have hat : ∀ k, ∀ mc ∈ clients k, collectedClients clients displayTimeNs systemFrameId k =
      some (mc.collect displayTimeNs systemFrameId).1 := by
    intro k mc hmc
    rw [collectedClients, hmc]
    rfl
  -- A client outside of the array is not the base compositor.
  have hout : ∀ k, k ∉ array →
      baseComp (collectedClients clients displayTimeNs systemFrameId) array ≠ some k := fun k hk hbase =>
    hk (List.mem_of_find?_eq_some hbase)
  constructor
  case layers =>
    show ∃ cs : List ClientLayer, _ = _ ∧ _
    rw [← List.filterMap_flatMap]
    apply filterMap_transferLayer
    intro l hl
    obtain ⟨mc, -, hl⟩ := List.mem_flatMap.1 hl
    exact mc.delivered.submitted l hl
  case once => exact hsort.perm.nodup_iff.2 ((List.nodup_finRange _).filter _)
  case mem => exact hmem
  case ascending =>
    refine hsort.sorted.imp fun {j k} h a ha b hb => ?_
    have hle := overlaySortFunc_nonpos.1 (h _ (hat j a ha) _ (hat k b hb))
    rwa [collect_zOrder, collect_zOrder] at hle
  case shown =>
    intro k mc hmc hshown hbase
    rw [keyBase_same hbase, hat k mc hmc, collect_shown hshown]
  case keyed =>
    intro k mc hmc hshown key hkey hbase
    rw [Option.mem_def.1 hkey, keyBase_base hbase, hat k mc hmc, collect_shown hshown]
    rfl
  case hidden =>
    intro k mc hmc hactive hnot
    have hk : k ∉ array := by
      rw [hmem]
      rintro ⟨mc', hmc', hshown⟩
      obtain rfl := Option.mem_unique hmc hmc'
      exact hnot (by simpa using hshown.2)
    rw [keyBase_same (Or.inr (hout k hk)), hat k mc hmc, collect_hidden hactive hnot,
      ClientCompositor.retireDelivered, if_pos hactive]
  case idle =>
    intro k mc hmc hidle
    have hk : k ∉ array := by
      rw [hmem]
      rintro ⟨mc', hmc', hshown⟩
      obtain rfl := Option.mem_unique hmc hmc'
      rw [ClientCompositor.Shown, hidle] at hshown
      exact Bool.false_ne_true hshown.1
    rw [keyBase_same (Or.inr (hout k hk)), hat k mc hmc, collect_idle hidle]

def quadLayer (xsc : ℕ) : ClientLayer := ⟨.quad 1 xsc ⟨.quad, 0, []⟩, rfl, Nat.zero_le _⟩

def quads (frameId : ℤ) (xscs : List ℕ) : LayerSlot :=
  xscs.foldl (fun slot xsc => slot.addLayer (quadLayer xsc)) (.layerBegin frameId 0 XRT_BLEND_MODE_OPAQUE)

def threeSessions : Clients := fun k =>
  if k = 0 then some ⟨8, true, false, true, false, .cleared, quads 4 [10, 11], [], []⟩
  else if k = 1 then some ⟨3, true, true, true, true, quads 6 [20, 21], quads 5 [22], [], []⟩
  else if k = 2 then some ⟨5, false, false, true, true, .cleared, quads 2 [30], [], []⟩
  else none

theorem qsort_threeSessions :
    Qsort (collectedClients threeSessions 100 1) (collectedArray threeSessions 100 1) [1, 0] where
  perm := by decide +kernel
  sorted := by decide +kernel

theorem transferLayersLocked_threeSessions :
    ∃ after frame, transferLayersLocked threeSessions none 100 1 [1, 0] = some (after, frame) ∧
      Transfers threeSessions none 100 1 [1, 0] after frame :=
  transferLayersLocked_transfers none qsort_threeSessions

end AugmentedInsanity.Multi.Composition
