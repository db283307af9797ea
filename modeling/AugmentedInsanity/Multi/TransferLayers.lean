/-
The layers of a composition on their way from the delivered slots of the clients to the layer accumulator of the native
compositor (`transfer_layers_locked`). What arrives is the list of the layers that have their swapchains and a device,
faithful in data and swapchains, exactly when the layers of all clients together fit the accumulator and depth layers
have no view or all `XRT_MAX_VIEWS` of them (`transferLayers_iff`).
-/
import AugmentedInsanity.Comp.LayerAccum
import AugmentedInsanity.Multi.BaseSession
import AugmentedInsanity.Multi.Slots

namespace AugmentedInsanity.Multi

open AugmentedInsanity.Comp Xrt

/-! ## Delivered layers -/

/-- `struct multi_layer_entry`. The arrays in the layer data that go by views have `XRT_MAX_VIEWS` elements. -/
structure DeliveredLayer extends MultiLayerEntry where
  xdev : Option ℕ
  data : XrtLayerData
  views : data.viewCount.toNat ≤ XRT_MAX_VIEWS
  deriving DecidableEq

/-- `xscs[j]`. -/
def DeliveredLayer.xsc (l : DeliveredLayer) (j : ℕ) : Option ℕ := l.xscs[j]?.join

def DeliveredLayer.viewCount (l : DeliveredLayer) : ℕ := l.data.viewCount.toNat

/-- The second half of the swapchains of a projection layer with depth. -/
def DeliveredLayer.dXsc (l : DeliveredLayer) (j : ℕ) : Option ℕ := l.xsc (j + l.viewCount)

def DeliveredLayer.coloursValid (l : DeliveredLayer) : Bool := (List.range l.viewCount).all fun j => (l.xsc j).isSome

def DeliveredLayer.depthsValid (l : DeliveredLayer) : Bool :=
  (List.range l.viewCount).all fun j => (l.xsc j).isSome && (l.dXsc j).isSome

def doProjectionLayer (cla : CompLayerAccum) (l : DeliveredLayer) : Except LayerFault CompLayerAccum :=
  if l.coloursValid = false then .ok cla
  else if l.xdev = none then .ok cla
  else compLayerAccumProjection cla l.xsc l.data

/-- `do_projection_layer_depth`. The two arrays that the swapchains go through have room for the views. -/
def doProjectionLayerDepth (cla : CompLayerAccum) (l : DeliveredLayer) : Except LayerFault CompLayerAccum :=
  if l.depthsValid = false then .ok cla
  else if l.xdev = none then .ok cla
  else compLayerAccumProjectionDepth cla l.xsc l.dXsc l.data

/-- `do_single`: whether there is a layer to pass on. -/
def doSingle (l : DeliveredLayer) : Bool :=
  if l.xsc 0 = none then false else if l.xdev = none then false else true

def doQuadLayer (cla : CompLayerAccum) (l : DeliveredLayer) : Except LayerFault CompLayerAccum :=
  if doSingle l then compLayerAccumQuad cla (l.xsc 0) l.data else .ok cla

def doCubeLayer (cla : CompLayerAccum) (l : DeliveredLayer) : Except LayerFault CompLayerAccum :=
  if doSingle l then compLayerAccumCube cla (l.xsc 0) l.data else .ok cla

def doCylinderLayer (cla : CompLayerAccum) (l : DeliveredLayer) : Except LayerFault CompLayerAccum :=
  if doSingle l then compLayerAccumCylinder cla (l.xsc 0) l.data else .ok cla

def doEquirect1Layer (cla : CompLayerAccum) (l : DeliveredLayer) : Except LayerFault CompLayerAccum :=
  if doSingle l then compLayerAccumEquirect1 cla (l.xsc 0) l.data else .ok cla

def doEquirect2Layer (cla : CompLayerAccum) (l : DeliveredLayer) : Except LayerFault CompLayerAccum :=
  if doSingle l then compLayerAccumEquirect2 cla (l.xsc 0) l.data else .ok cla

/-- The `switch` over the layer types. -/
def doLayer (cla : CompLayerAccum) (l : DeliveredLayer) : Except LayerFault CompLayerAccum :=
  match l.data.type with
  | .projection => doProjectionLayer cla l
  | .projectionDepth => doProjectionLayerDepth cla l
  | .quad => doQuadLayer cla l
  | .cube => doCubeLayer cla l
  | .cylinder => doCylinderLayer cla l
  | .equirect1 => doEquirect1Layer cla l
  | .equirect2 => doEquirect2Layer cla l
  -- "Unhandled layer type '%i'!"
  | .passthrough | .other _ => .ok cla

/-- The swapchains that a layer of this type needs are there, and so is its device. -/
def DeliveredLayer.forwarded (l : DeliveredLayer) : Bool :=
  match l.data.type with
  | .projection => l.coloursValid && l.xdev.isSome
  | .projectionDepth => l.depthsValid && l.xdev.isSome
  | .quad | .cube | .cylinder | .equirect1 | .equirect2 => (l.xsc 0).isSome && l.xdev.isSome
  | .passthrough | .other _ => false

def DeliveredLayer.stored (l : DeliveredLayer) : CompLayer where
  scArray :=
    match l.data.type with
    | .projection => colourArray l.xsc l.viewCount
    | .projectionDepth => depthArray l.xsc l.dXsc l.viewCount l.viewCount
    | _ => colourArray l.xsc 1
  data := l.data

theorem doSingle_eq (l : DeliveredLayer) : doSingle l = ((l.xsc 0).isSome && l.xdev.isSome) := by
  unfold doSingle
  cases l.xsc 0 <;> cases l.xdev <;> rfl

theorem doProjectionLayer_eq (cla : CompLayerAccum) (l : DeliveredLayer) :
    doProjectionLayer cla l =
      if (l.coloursValid && l.xdev.isSome) = true then cla.push ⟨colourArray l.xsc l.viewCount, l.data⟩
      else .ok cla := by
  unfold doProjectionLayer
  rw [compLayerAccumProjection_eq cla l.xsc l.views]
  cases l.coloursValid <;> cases l.xdev <;> rfl

theorem doProjectionLayerDepth_eq (cla : CompLayerAccum) (l : DeliveredLayer) :
    doProjectionLayerDepth cla l =
      if (l.depthsValid && l.xdev.isSome) = true then
        cla.push ⟨depthArray l.xsc l.dXsc l.viewCount l.viewCount, l.data⟩
      else .ok cla := by
  unfold doProjectionLayerDepth
  rw [compLayerAccumProjectionDepth_eq cla l.xsc l.dXsc l.views]
  cases l.depthsValid <;> cases l.xdev <;> rfl

theorem pushSingle_eq (cla : CompLayerAccum) (l : DeliveredLayer) :
    (if doSingle l then pushSingleSwapchainLayer cla (l.xsc 0) l.data else .ok cla) =
      if ((l.xsc 0).isSome && l.xdev.isSome) = true then cla.push ⟨colourArray l.xsc 1, l.data⟩ else .ok cla := by
  rw [doSingle_eq, pushSingleSwapchainLayer_eq]

theorem doLayer_eq (cla : CompLayerAccum) (l : DeliveredLayer) :
    doLayer cla l = if l.forwarded = true then cla.push l.stored else .ok cla := by
  unfold doLayer DeliveredLayer.forwarded DeliveredLayer.stored
  cases htype : l.data.type with
  | projection => exact doProjectionLayer_eq cla l
  | projectionDepth => exact doProjectionLayerDepth_eq cla l
  | quad => exact pushSingle_eq cla l
  | cube => exact pushSingle_eq cla l
  | cylinder => exact pushSingle_eq cla l
  | equirect1 => exact pushSingle_eq cla l
  | equirect2 => exact pushSingle_eq cla l
  | passthrough => rfl
  | other value => rfl

theorem foldlM_doLayer (cla : CompLayerAccum) (ls : List DeliveredLayer) :
    ls.foldlM doLayer cla = cla.pushAll ((ls.filter DeliveredLayer.forwarded).map DeliveredLayer.stored) := by
  induction ls generalizing cla with
  | nil => rfl
  | cons l ls ih =>
    rw [List.foldlM_cons, doLayer_eq]
    by_cases hl : l.forwarded = true
    · rw [if_pos hl, List.filter_cons_of_pos hl, List.map_cons, CompLayerAccum.pushAll, List.foldlM_cons]
      exact bind_congr ih
    · rw [if_neg hl, List.filter_cons_of_neg hl]
      exact ih cla

/-! ## What is read back -/

def DeliveredLayer.passedViews (l : DeliveredLayer) : ℕ :=
  match l.data.type with
  | .projection | .projectionDepth => l.viewCount
  | _ => 1

variable {l : DeliveredLayer} {clients array : List DeliveringClient} {array : List DeliveringClient}

theorem DeliveredLayer.passedViews_depth (htype : l.data.type = .projectionDepth) :
    l.passedViews = l.viewCount := by rw [passedViews, htype]

/-- Reading the layer gives its data, and for each view the swapchains that were passed. -/
structure Shows (cl : CompLayer) (l : DeliveredLayer) : Prop where
  data : cl.data = l.data
  colour : ∀ i < l.passedViews, compLayerGetSwapchain cl i = .ok (l.xsc i)
  depth : l.data.type = .projectionDepth →
    ∀ i < l.passedViews, compLayerGetDepthSwapchain cl i = .ok (l.dXsc i)

/-- Where there is a depth swapchain for a view, there is one for each of `XRT_MAX_VIEWS`. -/
def DeliveredLayer.DepthAligned (l : DeliveredLayer) : Prop :=
  l.data.type = .projectionDepth → l.viewCount = 0 ∨ l.viewCount = XRT_MAX_VIEWS

theorem stored_colour (l : DeliveredLayer) {i : ℕ} (hi : i < l.passedViews) :
    compLayerGetSwapchain l.stored i = .ok (l.xsc i) := by
  have hviews : l.viewCount ≤ 2 := l.views
  unfold DeliveredLayer.passedViews at hi
  unfold compLayerGetSwapchain
  have hplace : i < XRT_MAX_VIEWS * 2 := by
    show i < 4
    split at hi <;> omega
  rw [loadAt_of_lt hplace, DeliveredLayer.stored]
  cases htype : l.data.type <;> rw [htype] at hi <;> exact congrArg _ (if_pos hi)

theorem stored_depth (htype : l.data.type = .projectionDepth) {i : ℕ} (hi : i < XRT_MAX_VIEWS) :
    compLayerGetDepthSwapchain l.stored i =
      .ok (depthArray l.xsc l.dXsc l.viewCount l.viewCount ⟨XRT_MAX_VIEWS + i, by omega⟩) := by
  have hplace : XRT_MAX_VIEWS + i < XRT_MAX_VIEWS * 2 := by omega
  have hassert : ¬ l.stored.data.type ≠ .projectionDepth := not_not.2 htype
  rw [compLayerGetDepthSwapchain, if_neg hassert, loadAt_of_lt hplace, DeliveredLayer.stored, htype]

theorem stored_shows_iff (hl : l.forwarded = true) : Shows l.stored l ↔ l.DepthAligned := by
  have hviews : l.viewCount ≤ 2 := l.views
  constructor
  · intro h htype
    by_contra hnot
    -- A mono layer: its depth swapchain is at 1, and 2 is read.
    have hmono : l.viewCount = 1 := by
      have hmax : XRT_MAX_VIEWS = 2 := rfl
      omega
    have hpassed : l.passedViews = 1 := (DeliveredLayer.passedViews_depth htype).trans hmono
    have hread := h.depth htype 0 (by omega)
    rw [stored_depth htype (by decide), hmono] at hread
    have hnone : none = l.dXsc 0 := Except.ok.inj hread
    have hsome : (l.dXsc 0).isSome = true := by
      simp only [DeliveredLayer.forwarded, htype, DeliveredLayer.depthsValid, hmono, Bool.and_eq_true,
        List.all_eq_true, List.mem_range] at hl
      exact (hl.1 0 Nat.one_pos).2
    rw [← hnone] at hsome
    cases hsome
  · intro h
    refine ⟨rfl, fun i hi => stored_colour l hi, fun htype i hi => ?_⟩
    -- With all views, the depth swapchains start where they are looked for.
    rw [DeliveredLayer.passedViews_depth htype] at hi
    have hall : l.viewCount = XRT_MAX_VIEWS := (h htype).resolve_left (by omega)
    have hpast : ¬ XRT_MAX_VIEWS + i < l.viewCount := by omega
    have hin : l.viewCount ≤ XRT_MAX_VIEWS + i ∧ XRT_MAX_VIEWS + i < l.viewCount + l.viewCount := by omega
    have hback : XRT_MAX_VIEWS + i - l.viewCount = i := by omega
    rw [stored_depth htype (by omega), depthArray, if_neg hpast, if_pos hin, hback]

/-! ## A composition -/

structure DeliveringClient extends MultiCompositor where
  envBlendMode : UInt32
  layers : List DeliveredLayer
  layers_le : layers.length ≤ MULTI_MAX_LAYERS
  deriving DecidableEq

/-- An array of the composed clients that is sorted by `overlay_sort_func`. -/
structure SortedClients (clients array : List DeliveringClient) : Prop where
  perm : array.Perm (clients.filter (·.composed))
  sorted : array.Pairwise (·.zOrder ≤ ·.zOrder)

abbrev XRT_BLEND_MODE_OPAQUE : UInt32 := 1
abbrev XRT_BLEND_MODE_ALPHA_BLEND : UInt32 := 3

/-- `find_active_blend_mode`, from a client on. -/
def findActiveBlendMode : List DeliveringClient → Option DeliveringClient → Except LayerFault UInt32
  | [], firstVisible => .ok (firstVisible.elim XRT_BLEND_MODE_OPAQUE (·.envBlendMode))
  | mc :: rest, firstVisible =>
    if mc.focused then
      if mc.visible then .ok mc.envBlendMode else .error .assertFailed
    else findActiveBlendMode rest (if firstVisible.isNone && mc.visible then some mc else firstVisible)

/-- The chroma key written to the data of a layer; it is one of the data besides the type and the number of views. -/
def DeliveredLayer.withKey (chromaKey : List UInt8 → List UInt8) (l : DeliveredLayer) : DeliveredLayer :=
  match l.data.type with
  | .projection | .projectionDepth => { l with data := { l.data with rest := chromaKey l.data.rest }, views := l.views }
  | _ => l

/-- What the chroma key changes in the slot of the base compositor. -/
def DeliveringClient.withKey (chromaKey : List UInt8 → List UInt8) (mc : DeliveringClient) : DeliveringClient :=
  { mc with
    envBlendMode := XRT_BLEND_MODE_ALPHA_BLEND
    layers := mc.layers.map (DeliveredLayer.withKey chromaKey)
    layers_le := (List.length_map (DeliveredLayer.withKey chromaKey)).trans_le mc.layers_le }

/-- The array once the base compositor has the chroma key, if the key is enabled. -/
def keyArray (chromaKey : Option (List UInt8 → List UInt8)) (array : List DeliveringClient) : List DeliveringClient :=
  match chromaKey with
  | none => array
  | some chromaKey =>
    array.modify (array.findIdx fun mc => mc.isBaseSession && mc.visible && mc.sessionActive && mc.deliveredActive)
      (DeliveringClient.withKey chromaKey)

/-- `transfer_layers_locked`, from where the clients are sorted. -/
def transferLayers (cla : CompLayerAccum) (chromaKey : Option (List UInt8 → List UInt8))
    (displayTimeNs systemFrameId : Int64) (array : List DeliveringClient) : Except LayerFault CompLayerAccum :=
  let array := keyArray chromaKey array
  match findActiveBlendMode array none with
  | .error f => .error f
  | .ok blendMode =>
    array.foldlM (fun cla mc => mc.layers.foldlM doLayer cla)
      (compLayerAccumBegin cla ⟨systemFrameId, displayTimeNs, blendMode⟩)

def forwardedLayers (array : List DeliveringClient) : List DeliveredLayer :=
  (array.flatMap (·.layers)).filter DeliveredLayer.forwarded

/-- The accumulator shows the layers, each at its place. -/
structure Faithful (cla : CompLayerAccum) (ls : List DeliveredLayer) : Prop where
  count : cla.layerCount = ls.length
  layer : ∀ k l, ls[k]? = some l → ∃ hk : k < XRT_MAX_LAYERS, Shows (cla.layers ⟨k, hk⟩) l

/-! ### The chroma key -/

section
variable (chromaKey : List UInt8 → List UInt8)

theorem DeliveredLayer.withKey_type (l : DeliveredLayer) : (l.withKey chromaKey).data.type = l.data.type := by
  unfold withKey
  split <;> rfl

theorem DeliveredLayer.withKey_viewCount (l : DeliveredLayer) : (l.withKey chromaKey).viewCount = l.viewCount := by
  unfold withKey
  split <;> rfl

theorem DeliveredLayer.withKey_forwarded (l : DeliveredLayer) : (l.withKey chromaKey).forwarded = l.forwarded := by
  unfold withKey
  split
  · rfl
  · rfl
  · rfl

theorem DeliveredLayer.withKey_aligned (l : DeliveredLayer) : (l.withKey chromaKey).DepthAligned ↔ l.DepthAligned := by
  rw [DepthAligned, DepthAligned, l.withKey_type, l.withKey_viewCount]

end

def DeliveringClient.forwardedCount (mc : DeliveringClient) : ℕ := mc.layers.countP DeliveredLayer.forwarded

/-- The depth layers that are passed on have no view, or all views. -/
def DeliveringClient.DepthAligned (mc : DeliveringClient) : Prop :=
  ∀ l ∈ mc.layers, l.forwarded = true → l.DepthAligned

theorem DeliveringClient.withKey_forwardedCount (chromaKey : List UInt8 → List UInt8) (mc : DeliveringClient) :
    (mc.withKey chromaKey).forwardedCount = mc.forwardedCount := by
  rw [forwardedCount, withKey, List.countP_map, forwardedCount]
  exact List.countP_congr fun l _ => by rw [Function.comp_apply, l.withKey_forwarded]

theorem DeliveringClient.withKey_aligned (chromaKey : List UInt8 → List UInt8) (mc : DeliveringClient) :
    (mc.withKey chromaKey).DepthAligned ↔ mc.DepthAligned := by
  rw [DepthAligned, withKey, List.forall_mem_map, DepthAligned]
  refine forall₂_congr fun l _ => ?_
  rw [l.withKey_forwarded, l.withKey_aligned]

theorem map_keyArray {β : Type} (f : DeliveringClient → β) (hf : ∀ chromaKey mc, f (mc.withKey chromaKey) = f mc)
    (chromaKey : Option (List UInt8 → List UInt8)) (array : List DeliveringClient) :
    (keyArray chromaKey array).map f = array.map f := by
  cases chromaKey with
  | none => rfl
  | some chromaKey =>
    apply List.ext_getElem?
    intro i
    rw [keyArray, List.getElem?_map, List.getElem?_map, List.getElem?_modify, Option.map_eq_map, Option.map_map]
    apply Option.map_congr
    intro mc _
    rw [Function.comp_apply]
    split
    · exact hf chromaKey mc
    · rfl

theorem forall_keyArray (P : DeliveringClient → Prop) (hP : ∀ chromaKey mc, P (mc.withKey chromaKey) ↔ P mc)
    (chromaKey : Option (List UInt8 → List UInt8)) (array : List DeliveringClient) :
    (∀ mc ∈ keyArray chromaKey array, P mc) ↔ ∀ mc ∈ array, P mc := by
  have hmap := map_keyArray P (fun chromaKey mc => propext (hP chromaKey mc)) chromaKey array
  have hforall : ∀ l : List DeliveringClient, (∀ mc ∈ l, P mc) ↔ ∀ p ∈ l.map P, p := fun l => by
    simp only [List.forall_mem_map]
  rw [hforall, hmap, ← hforall]

/-! ## What arrives -/

theorem findActiveBlendMode_ok (h : ∀ mc ∈ array, mc.visible = true) (firstVisible : Option DeliveringClient) :
    ∃ blendMode, findActiveBlendMode array firstVisible = .ok blendMode := by
  induction array generalizing firstVisible with
  | nil => exact ⟨_, rfl⟩
  | cons mc rest ih =>
    unfold findActiveBlendMode
    rw [List.forall_mem_cons] at h
    split
    · exact ⟨mc.envBlendMode, if_pos h.1⟩
    · exact ih h.2 _

theorem foldlM_clients (cla : CompLayerAccum) (array : List DeliveringClient) :
    array.foldlM (fun cla mc => mc.layers.foldlM doLayer cla) cla =
      cla.pushAll ((forwardedLayers array).map DeliveredLayer.stored) := by
  rw [forwardedLayers, ← foldlM_doLayer]
  induction array generalizing cla with
  | nil => rfl
  | cons mc array ih =>
    rw [List.foldlM_cons, List.flatMap_cons, List.foldlM_append]
    exact bind_congr ih

theorem transferLayers_eq (cla : CompLayerAccum) (chromaKey : Option (List UInt8 → List UInt8))
    (displayTimeNs systemFrameId : Int64) (h : ∀ mc ∈ array, mc.visible = true) :
    ∃ data, transferLayers cla chromaKey displayTimeNs systemFrameId array =
      (compLayerAccumBegin cla data).pushAll
        ((forwardedLayers (keyArray chromaKey array)).map DeliveredLayer.stored) := by
  have hvisible : ∀ mc ∈ keyArray chromaKey array, mc.visible = true :=
    (forall_keyArray (fun mc => mc.visible = true) (fun _ _ => Iff.rfl) chromaKey array).2 h
  obtain ⟨blendMode, hmode⟩ := findActiveBlendMode_ok hvisible none
  refine ⟨⟨systemFrameId, displayTimeNs, blendMode⟩, ?_⟩
  unfold transferLayers
  simp only [hmode]
  exact foldlM_clients _ _

theorem length_forwardedLayers (array : List DeliveringClient) :
    (forwardedLayers array).length = (array.map DeliveringClient.forwardedCount).sum := by
  rw [forwardedLayers, ← List.countP_eq_length_filter, List.countP_flatMap]
  rfl

/-- The layers of all the clients together fit the accumulator, and depth layers have no view or all views. -/
structure FrameFits (clients : List DeliveringClient) : Prop where
  layers : ((clients.filter (·.composed)).map DeliveringClient.forwardedCount).sum ≤ XRT_MAX_LAYERS
  depth : ∀ mc ∈ clients.filter (·.composed), mc.DepthAligned

theorem frameFits_iff (h : SortedClients clients array) (chromaKey : Option (List UInt8 → List UInt8)) :
    FrameFits clients ↔ (forwardedLayers (keyArray chromaKey array)).length ≤ XRT_MAX_LAYERS ∧
      ∀ l ∈ forwardedLayers (keyArray chromaKey array), l.DepthAligned := by
  -- The condition depends neither on the order of the clients nor on the chroma key.
  have hcount : (forwardedLayers (keyArray chromaKey array)).length =
      ((clients.filter (·.composed)).map DeliveringClient.forwardedCount).sum := by
    rw [length_forwardedLayers, map_keyArray _ DeliveringClient.withKey_forwardedCount]
    exact (h.perm.map _).sum_eq
  have haligned : (∀ l ∈ forwardedLayers (keyArray chromaKey array), l.DepthAligned) ↔
      ∀ mc ∈ clients.filter (·.composed), mc.DepthAligned := by
    calc (∀ l ∈ forwardedLayers (keyArray chromaKey array), l.DepthAligned)
        ↔ ∀ mc ∈ keyArray chromaKey array, mc.DepthAligned := by
          simp only [forwardedLayers, List.mem_filter, List.mem_flatMap, DeliveringClient.DepthAligned]
          grind
      _ ↔ ∀ mc ∈ array, mc.DepthAligned := forall_keyArray _ DeliveringClient.withKey_aligned chromaKey array
      _ ↔ ∀ mc ∈ clients.filter (·.composed), mc.DepthAligned := forall_congr' fun mc => by rw [h.perm.mem_iff]
  rw [hcount, haligned]
  exact ⟨fun hfits => ⟨hfits.layers, hfits.depth⟩, fun hfits => ⟨hfits.1, hfits.2⟩⟩

theorem SortedClients.visible (h : SortedClients clients array) : ∀ mc ∈ array, mc.visible = true := by
  intro mc hmc
  have hcomposed := (List.mem_filter.1 (h.perm.mem_iff.1 hmc)).2
  simp only [MultiCompositor.composed, Bool.and_eq_true] at hcomposed
  exact hcomposed.1.2

theorem faithful_iff {cla : CompLayerAccum} {ls : List DeliveredLayer}
    (h : cla.Holds (ls.map DeliveredLayer.stored)) : Faithful cla ls ↔ ∀ l ∈ ls, Shows l.stored l := by
  have hstored : ∀ k l, (hk : k < XRT_MAX_LAYERS) → ls[k]? = some l → cla.layers ⟨k, hk⟩ = l.stored := by
    intro k l hk hl
    refine h.layer ⟨k, hk⟩ l.stored ?_
    rw [List.getElem?_map, hl]
    rfl
  constructor
  · intro hfaithful l hmem
    obtain ⟨k, hl⟩ := List.getElem?_of_mem hmem
    obtain ⟨hk, hshows⟩ := hfaithful.layer k l hl
    rwa [hstored k l hk hl] at hshows
  · intro hall
    refine ⟨by rw [h.count, List.length_map], fun k l hl => ?_⟩
    have hlen : k < ls.length := (List.getElem?_eq_some_iff.1 hl).1
    have hk : k < XRT_MAX_LAYERS := by
      have hfits := h.fits
      rw [List.length_map] at hfits
      exact hlen.trans_le hfits
    refine ⟨hk, ?_⟩
    rw [hstored k l hk hl]
    exact hall l (List.mem_of_getElem? hl)

/-- The layers arrive, and arrive as they were passed on, exactly when the frame fits. -/
theorem transferLayers_iff {clients array : List DeliveringClient} (h : SortedClients clients array)
    (cla : CompLayerAccum) (chromaKey : Option (List UInt8 → List UInt8)) (displayTimeNs systemFrameId : Int64) :
    (∃ cla', transferLayers cla chromaKey displayTimeNs systemFrameId array = .ok cla' ∧
      Faithful cla' (forwardedLayers (keyArray chromaKey array))) ↔ FrameFits clients := by
  rw [frameFits_iff h chromaKey]
  obtain ⟨data, heq⟩ := transferLayers_eq cla chromaKey displayTimeNs systemFrameId h.visible
  rw [heq]
  set ls := forwardedLayers (keyArray chromaKey array) with hls
  have hforwarded : ∀ l ∈ ls, l.forwarded = true := fun l hl => (List.mem_filter.1 hl).2
  have hbegin := compLayerAccumBegin_holds cla data
  have hlen : ([] : List CompLayer).length + (ls.map DeliveredLayer.stored).length = ls.length := by
    rw [List.length_nil, Nat.zero_add, List.length_map]
  constructor
  · -- The layers have to fit for the transfer to end at all, and then they are held as they are stored.
    rintro ⟨cla', hrun, hfaithful⟩
    have hfits : ls.length ≤ XRT_MAX_LAYERS := by
      by_contra hpast
      rw [pushAll_error hbegin _ (by omega)] at hrun
      cases hrun
    obtain ⟨cla₁, hrun₁, hholds⟩ := pushAll_ok hbegin (ls.map DeliveredLayer.stored) (by omega)
    cases hrun₁.symm.trans hrun
    have hshows := (faithful_iff hholds).1 hfaithful
    exact ⟨hfits, fun l hl => (stored_shows_iff (hforwarded l hl)).1 (hshows l hl)⟩
  · rintro ⟨hfits, haligned⟩
    obtain ⟨cla', hrun, hholds⟩ := pushAll_ok hbegin (ls.map DeliveredLayer.stored) (by omega)
    refine ⟨cla', hrun, (faithful_iff hholds).2 fun l hl => ?_⟩
    exact (stored_shows_iff (hforwarded l hl)).2 (haligned l hl)

def allocatedAccum : CompLayerAccum := ⟨⟨0, 0, 0⟩, fun _ => ⟨fun _ => none, ⟨.projection, 0, []⟩⟩, 0⟩

def stereoLayer : DeliveredLayer :=
  ⟨⟨[some 1, some 2, some 3, some 4], by decide⟩, some 0, ⟨.projectionDepth, 2, []⟩, by decide⟩

def monoLayer : DeliveredLayer := ⟨⟨[some 1, some 2], by decide⟩, some 0, ⟨.projectionDepth, 1, []⟩, by decide⟩

def oneLayerClient (l : DeliveredLayer) : DeliveringClient where
  xc := 0
  isOverlay := false
  visible := true
  focused := true
  zOrder := 0
  sessionActive := true
  isBaseSession := true
  deliveredActive := true
  envBlendMode := XRT_BLEND_MODE_OPAQUE
  layers := [l]
  layers_le := by rw [List.length_singleton]; decide

theorem transferLayers_iff_stereo :
    ∃ cla', transferLayers allocatedAccum none 0 0 [oneLayerClient stereoLayer] = .ok cla' ∧
      Faithful cla' (forwardedLayers (keyArray none [oneLayerClient stereoLayer])) := by
  have hsorted : SortedClients [oneLayerClient stereoLayer] [oneLayerClient stereoLayer] :=
    ⟨List.Perm.refl _, List.pairwise_singleton ..⟩
  apply (transferLayers_iff hsorted allocatedAccum none 0 0).2
  constructor
  · decide
  · intro mc hmc l hl _ _
    obtain rfl := List.mem_singleton.1 hmc
    obtain rfl := List.mem_singleton.1 hl
    exact Or.inr rfl

/-- The depth swapchain of a mono layer is not found where it is looked for. -/
theorem monoDepth_lost :
    ∃ cla', transferLayers allocatedAccum none 0 0 [oneLayerClient monoLayer] = .ok cla' ∧
      forwardedLayers [oneLayerClient monoLayer] = [monoLayer] ∧ monoLayer.dXsc 0 = some 2 ∧
      compLayerGetDepthSwapchain (cla'.layers ⟨0, by decide⟩) 0 = .ok none ∧ ¬ Faithful cla' [monoLayer] := by
  refine ⟨_, rfl, rfl, rfl, rfl, ?_⟩
  intro hfaithful
  obtain ⟨hk, hshows⟩ := hfaithful.layer 0 monoLayer rfl
  have hread := hshows.depth rfl 0 (by decide)
  cases hread

end AugmentedInsanity.Multi
