/-
How the compute renderer packs layers (`comp_render_cs_layer` of `comp_render_cs.c`). The layers that it knows and that
the view sees go one after the other into the uniform block, and their images into the slots of the shader, until the
images of one do not fit. That works as long as the swapchains are where it looks for them
(`compRenderCsLayer_fills_iff`), which those of a layer with one view and a depth image are not. Matrices, colours and
keys are left to the machine.
-/
import AugmentedInsanity.Comp.LayerAccum
import AugmentedInsanity.Lib.PrefixPacking

namespace AugmentedInsanity.Comp

open PrefixPacking Xrt

/-! ## Layers -/

abbrev RENDER_MAX_LAYERS : ℕ := 128
abbrev RENDER_CS_MAX_SAMPLERS_PER_VIEW : ℕ := 2
abbrev RENDER_MAX_IMAGES_SIZE : ℕ := RENDER_MAX_LAYERS * RENDER_CS_MAX_SAMPLERS_PER_VIEW

abbrev LAYER_COMP_TYPE_NOOP : UInt32 := 0
abbrev LAYER_COMP_TYPE_QUAD : UInt32 := 1
abbrev LAYER_COMP_TYPE_CYLINDER : UInt32 := 2
abbrev LAYER_COMP_TYPE_EQUIRECT2 : UInt32 := 3
abbrev LAYER_COMP_TYPE_PROJECTION : UInt32 := 4

/-- `enum xrt_layer_eye_visibility`, with any other value. -/
inductive XrtLayerEyeVisibility
  | none
  | leftBit
  | rightBit
  | both
  | other (value : UInt32)
  deriving DecidableEq

/-- `struct xrt_sub_image`, without its rectangles. -/
structure XrtSubImage where
  imageIndex : ℕ
  arrayIndex : ℕ
  deriving DecidableEq

/-- The flags of a layer that choose its image and how it is blended. -/
structure CompositionFlags where
  blendTextureSourceAlpha : Bool
  unpremultipliedAlpha : Bool
  deriving DecidableEq

/-- The type of a layer with the data that goes with it. -/
inductive CsLayerData
  | projection (v : Fin XRT_MAX_VIEWS → XrtSubImage)
  | projectionDepth (v d : Fin XRT_MAX_VIEWS → XrtSubImage)
  | quad (visibility : XrtLayerEyeVisibility) (sub : XrtSubImage)
  | cube (visibility : XrtLayerEyeVisibility)
  | cylinder (visibility : XrtLayerEyeVisibility) (sub : XrtSubImage)
  | equirect1 (visibility : XrtLayerEyeVisibility)
  | equirect2 (visibility : XrtLayerEyeVisibility) (sub : XrtSubImage)
  | other (type : UInt32)

/-- `struct comp_layer`; the numbers are what else its data has. -/
structure CsLayer (N : Type) where
  scArray : ScArray
  data : CsLayerData
  flags : CompositionFlags
  numbers : N

/-- `struct comp_swapchain_image`, with its views for each layer of the array. -/
structure CompSwapchainImage (V : Type) where
  alpha : ℕ → V
  noAlpha : ℕ → V

/-- What `comp_render_cs_layer` reads of the renderer and of the swapchains, and what it makes of numbers. -/
structure CsRenderer (V S N G : Type) where
  images : ℕ → ℕ → CompSwapchainImage V
  clampToEdge : S
  clampToBorderBlack : S
  mockView : V
  maxPerStageDescriptorSampledImages : ℕ
  clearChromaKey : G → G
  fill : Fin XRT_MAX_VIEWS → CsLayer N → G → G

variable {V S N G : Type}

/-- `r->compute.layer.image_array_size`. -/
def CsRenderer.imageArraySize (r : CsRenderer V S N G) : ℕ :=
  min r.maxPerStageDescriptorSampledImages RENDER_MAX_IMAGES_SIZE

/-! ## The uniform block -/

/-- A layer of `struct render_compute_layer_ubo_data`. -/
structure UboLayer (G : Type) where
  layerType : UInt32
  unpremultipliedAlpha : Bool
  colorImageIndex : ℕ
  depthImageIndex : ℕ
  numbers : G

/-- The uniform block, the images for the shader, and how many of both there are. -/
structure CsState (V S G : Type) where
  layers : Fin RENDER_MAX_LAYERS → UboLayer G
  layerCount : ℕ
  srcSamplers : Fin RENDER_MAX_IMAGES_SIZE → S
  srcImageViews : Fin RENDER_MAX_IMAGES_SIZE → V
  curLayer : ℕ
  curImage : ℕ

/-- `src_samplers[cur_image] = ..., src_image_views[cur_image] = ..., cur_image++`; `none` is a fault here and below. -/
def CsState.pushImage (s : CsState V S G) (sampler : S) (view : V) : Option (CsState V S G) :=
  (storeAt s.srcSamplers s.curImage sampler).toOption.bind fun srcSamplers =>
    (storeAt s.srcImageViews s.curImage view).toOption.map fun srcImageViews =>
      { s with srcSamplers, srcImageViews, curImage := s.curImage + 1 }

/-- What is written to `ubo_data->layers[cur_layer]`. -/
def CsState.writeLayer (s : CsState V S G) (write : UboLayer G → UboLayer G) : Option (CsState V S G) :=
  (loadAt s.layers s.curLayer).toOption.bind fun layer =>
    (storeAt s.layers s.curLayer (write layer)).toOption.map fun layers => { s with layers }

/-! ## The builders -/

def isViewIndexRight (viewIndex : Fin XRT_MAX_VIEWS) : Bool := viewIndex.val % 2 == 1

def getImageView (image : CompSwapchainImage V) (flags : CompositionFlags) (arrayIndex : ℕ) : V :=
  if flags.blendTextureSourceAlpha then image.alpha arrayIndex else image.noAlpha arrayIndex

def getLayerImage (r : CsRenderer V S N G) (layer : CsLayer N) (swapchainIndex imageIndex : ℕ) :
    Option (CompSwapchainImage V) :=
  (loadAt layer.scArray swapchainIndex).toOption.join.map fun sc => r.images sc imageIndex

def getLayerDepthImage (r : CsRenderer V S N G) (layer : CsLayer N) (swapchainIndex imageIndex : ℕ) :
    Option (CompSwapchainImage V) :=
  (loadAt layer.scArray (XRT_MAX_VIEWS + swapchainIndex)).toOption.join.map fun sc => r.images sc imageIndex

def doCsOneImage (r : CsRenderer V S N G) (viewIndex : Fin XRT_MAX_VIEWS) (layer : CsLayer N) (sub : XrtSubImage)
    (s : CsState V S G) : Option (CsState V S G) :=
  (getLayerImage r layer 0 sub.imageIndex).bind fun image =>
    (s.pushImage r.clampToEdge (getImageView image layer.flags sub.arrayIndex)).bind fun s' =>
      s'.writeLayer fun entry =>
        { entry with colorImageIndex := s.curImage, numbers := r.fill viewIndex layer entry.numbers }

def doCsCylinderLayer (r : CsRenderer V S N G) (viewIndex : Fin XRT_MAX_VIEWS) (layer : CsLayer N) (sub : XrtSubImage)
    (s : CsState V S G) := doCsOneImage r viewIndex layer sub s

def doCsEquirect2Layer (r : CsRenderer V S N G) (viewIndex : Fin XRT_MAX_VIEWS) (layer : CsLayer N)
    (sub : XrtSubImage) (s : CsState V S G) := doCsOneImage r viewIndex layer sub s

def doCsQuadLayer (r : CsRenderer V S N G) (viewIndex : Fin XRT_MAX_VIEWS) (layer : CsLayer N) (sub : XrtSubImage)
    (s : CsState V S G) := doCsOneImage r viewIndex layer sub s

/-- `do_cs_projection_layer`, with the sub-image of the depth if the layer has one. -/
def doCsProjectionLayer (r : CsRenderer V S N G) (viewIndex : Fin XRT_MAX_VIEWS) (layer : CsLayer N)
    (vd : XrtSubImage) (dvd : Option XrtSubImage) (s : CsState V S G) : Option (CsState V S G) :=
  let scArrayIndex := if isViewIndexRight viewIndex then 1 else 0
  (getLayerImage r layer scArrayIndex vd.imageIndex).bind fun image =>
    (s.pushImage r.clampToBorderBlack (getImageView image layer.flags vd.arrayIndex)).bind fun s₁ =>
      (s₁.writeLayer fun entry => { entry with colorImageIndex := s.curImage }).bind fun s₁ =>
        (match dvd with
          | none => some s₁
          | some dvd =>
            (getLayerDepthImage r layer scArrayIndex dvd.imageIndex).bind fun dImage =>
              (s₁.pushImage r.clampToEdge (getImageView dImage layer.flags dvd.arrayIndex)).bind fun s₂ =>
                s₂.writeLayer fun entry => { entry with depthImageIndex := s₁.curImage }).bind fun s₂ =>
          s₂.writeLayer fun entry => { entry with numbers := r.fill viewIndex layer entry.numbers }

/-! ## The loop -/

/-- The `switch` over the visibility in `is_layer_view_visible`. -/
def XrtLayerEyeVisibility.sees (visibility : XrtLayerEyeVisibility) (viewIndex : Fin XRT_MAX_VIEWS) : Bool :=
  match visibility with
  | .leftBit => !isViewIndexRight viewIndex
  | .rightBit => isViewIndexRight viewIndex
  | .both => true
  | .none | .other _ => false

def isLayerViewVisible (data : CsLayerData) (viewIndex : Fin XRT_MAX_VIEWS) : Bool :=
  match data with
  | .cube visibility | .cylinder visibility _ | .equirect1 visibility | .equirect2 visibility _ | .quad visibility _ =>
    visibility.sees viewIndex
  | .projection _ | .projectionDepth _ _ => true
  | .other _ => false

/-- `required_image_samplers`; `none` for the types that are skipped. -/
def requiredImageSamplers : CsLayerData → Option ℕ
  | .cylinder _ _ | .equirect2 _ _ | .projection _ | .quad _ _ => some 1
  | .projectionDepth _ _ => some 2
  | .cube _ | .equirect1 _ | .other _ => none

def xrtLayerToCsLayerType : CsLayerData → UInt32
  | .quad _ _ => LAYER_COMP_TYPE_QUAD
  | .cylinder _ _ => LAYER_COMP_TYPE_CYLINDER
  | .equirect2 _ _ => LAYER_COMP_TYPE_EQUIRECT2
  | .projection _ | .projectionDepth _ _ => LAYER_COMP_TYPE_PROJECTION
  | .cube _ | .equirect1 _ | .other _ => LAYER_COMP_TYPE_NOOP

/-- The second `switch` over the type of a layer. -/
def doCsLayer (r : CsRenderer V S N G) (viewIndex : Fin XRT_MAX_VIEWS) (layer : CsLayer N) (s : CsState V S G) :
    Option (CsState V S G) :=
  match layer.data with
  | .cylinder _ sub => doCsCylinderLayer r viewIndex layer sub s
  | .equirect2 _ sub => doCsEquirect2Layer r viewIndex layer sub s
  | .projection v => doCsProjectionLayer r viewIndex layer (v viewIndex) none s
  | .projectionDepth v d => doCsProjectionLayer r viewIndex layer (v viewIndex) (some (d viewIndex)) s
  | .quad _ sub => doCsQuadLayer r viewIndex layer sub s
  | .cube _ | .equirect1 _ | .other _ => none

/-- What follows the builder in the loop. -/
def finishLayer (layer : CsLayer N) (s : CsState V S G) : Option (CsState V S G) :=
  (s.writeLayer fun entry =>
    { entry with
      layerType := xrtLayerToCsLayerType layer.data
      unpremultipliedAlpha := layer.flags.unpremultipliedAlpha }).map fun s => { s with curLayer := s.curLayer + 1 }

/-- The loop over the layers. -/
def packLayers (r : CsRenderer V S N G) (viewIndex : Fin XRT_MAX_VIEWS) :
    List (CsLayer N) → CsState V S G → Option (CsState V S G)
  | [], s => some s
  | layer :: layers, s =>
    if !isLayerViewVisible layer.data viewIndex then packLayers r viewIndex layers s
    else
      match requiredImageSamplers layer.data with
      | none => packLayers r viewIndex layers s
      | some required =>
        if s.curImage + required > r.imageArraySize then some s
        else
          (doCsLayer r viewIndex layer s).bind fun s =>
            (finishLayer layer s).bind (packLayers r viewIndex layers)

/-- `comp_render_cs_layer`, on what the uniform block and the arrays have before. -/
def compRenderCsLayer (r : CsRenderer V S N G) (viewIndex : Fin XRT_MAX_VIEWS) (layers : List (CsLayer N))
    (s : CsState V S G) : Option (CsState V S G) :=
  let clear (entry : UboLayer G) : UboLayer G := { entry with numbers := r.clearChromaKey entry.numbers }
  let s := { s with layers := fun i => clear (s.layers i), curLayer := 0, curImage := 0 }
  (packLayers r viewIndex layers s).map fun s =>
    { s with
      layerCount := s.curLayer
      layers := fun i => if s.curLayer ≤ i then { s.layers i with layerType := LAYER_COMP_TYPE_NOOP } else s.layers i
      srcSamplers := fun i => if s.curImage ≤ i ∧ i < r.imageArraySize then r.clampToEdge else s.srcSamplers i
      srcImageViews := fun i => if s.curImage ≤ i ∧ i < r.imageArraySize then r.mockView else s.srcImageViews i
      curImage := max s.curImage r.imageArraySize }

/-! ## What a layer gets -/

/-- The slots that a layer takes; only layers with depth take two. -/
def CsLayer.images (layer : CsLayer N) : ℕ := (requiredImageSamplers layer.data).getD 0

def CsLayer.HasDepth (layer : CsLayer N) : Prop := ∃ v d, layer.data = .projectionDepth v d

def colorView (r : CsRenderer V S N G) (viewIndex : Fin XRT_MAX_VIEWS) (layer : CsLayer N) : Option V :=
  let view (swapchainIndex : ℕ) (sub : XrtSubImage) : Option V :=
    (getLayerImage r layer swapchainIndex sub.imageIndex).map fun image => getImageView image layer.flags sub.arrayIndex
  match layer.data with
  | .cylinder _ sub | .equirect2 _ sub | .quad _ sub => view 0 sub
  | .projection v | .projectionDepth v _ => view (if isViewIndexRight viewIndex then 1 else 0) (v viewIndex)
  | .cube _ | .equirect1 _ | .other _ => none

def depthView (r : CsRenderer V S N G) (viewIndex : Fin XRT_MAX_VIEWS) (layer : CsLayer N) : Option V :=
  match layer.data with
  | .projectionDepth _ d =>
    (getLayerDepthImage r layer (if isViewIndexRight viewIndex then 1 else 0) (d viewIndex).imageIndex).map fun image =>
      getImageView image layer.flags (d viewIndex).arrayIndex
  | _ => none

/-- The layer is of a known type and the view sees it. -/
def CsLayer.drawn (viewIndex : Fin XRT_MAX_VIEWS) (layer : CsLayer N) : Bool :=
  isLayerViewVisible layer.data viewIndex && (requiredImageSamplers layer.data).isSome

structure CsLayer.Complete (r : CsRenderer V S N G) (viewIndex : Fin XRT_MAX_VIEWS) (layer : CsLayer N) : Prop where
  color : (colorView r viewIndex layer).isSome
  depth : layer.HasDepth → (depthView r viewIndex layer).isSome

/-- The uniform block has the layer, and the slots of its indices hold its image views. -/
structure EntryOf (r : CsRenderer V S N G) (viewIndex : Fin XRT_MAX_VIEWS) (layer : CsLayer N) (s : CsState V S G)
    (entry : UboLayer G) : Prop where
  layerType : entry.layerType = xrtLayerToCsLayerType layer.data
  unpremultipliedAlpha : entry.unpremultipliedAlpha = layer.flags.unpremultipliedAlpha
  color : ∃ slot : Fin RENDER_MAX_IMAGES_SIZE, entry.colorImageIndex = slot ∧ slot < r.imageArraySize ∧
    colorView r viewIndex layer = some (s.srcImageViews slot)
  depth : layer.HasDepth → ∃ slot : Fin RENDER_MAX_IMAGES_SIZE, entry.depthImageIndex = slot ∧
    slot < r.imageArraySize ∧ depthView r viewIndex layer = some (s.srcImageViews slot)
  apart : layer.HasDepth → entry.colorImageIndex ≠ entry.depthImageIndex

/-- The swapchains of the layer are at the places where the renderer looks for them: the depth behind `XRT_MAX_VIEWS`
places, however many views the layer has. -/
def CsLayer.Stored (viewIndex : Fin XRT_MAX_VIEWS) (layer : CsLayer N) : Prop :=
  match layer.data with
  | .cylinder _ _ | .equirect2 _ _ | .quad _ _ => (layer.scArray 0).isSome
  | .projection _ => (layer.scArray (if isViewIndexRight viewIndex then 1 else 0)).isSome
  | .projectionDepth _ _ => (layer.scArray (if isViewIndexRight viewIndex then 1 else 0)).isSome ∧
      (layer.scArray (if isViewIndexRight viewIndex then 3 else 2)).isSome
  | .cube _ | .equirect1 _ | .other _ => False

def CsLayer.Indexes (layer : CsLayer N) (entry : UboLayer G) (slot : ℕ) : Prop :=
  slot = entry.colorImageIndex ∨ (layer.HasDepth ∧ slot = entry.depthImageIndex)

def drawnLayers (viewIndex : Fin XRT_MAX_VIEWS) (layers : List (CsLayer N)) : List (CsLayer N) :=
  layers.filter (CsLayer.drawn viewIndex)

/-- What the call leaves: the layers that the view sees, but for those from the first on whose images do not fit, each
with slots of its own; nothing else is shown. -/
structure Filled (r : CsRenderer V S N G) (viewIndex : Fin XRT_MAX_VIEWS) (layers : List (CsLayer N))
    (s : CsState V S G) : Prop where
  layerCount_le : s.layerCount ≤ RENDER_MAX_LAYERS
  cut : s.layerCount = (drawnLayers viewIndex layers).length ∨
    ∃ layer, (drawnLayers viewIndex layers)[s.layerCount]? = some layer ∧
      r.imageArraySize < start CsLayer.images (drawnLayers viewIndex layers) s.layerCount + layer.images
  entry : ∀ k : Fin RENDER_MAX_LAYERS, k < s.layerCount →
    ∃ layer, (drawnLayers viewIndex layers)[k.val]? = some layer ∧ EntryOf r viewIndex layer s (s.layers k)
  alone : ∀ j k : Fin RENDER_MAX_LAYERS, j < k → k < s.layerCount → ∀ first second slot,
    (drawnLayers viewIndex layers)[j.val]? = some first → (drawnLayers viewIndex layers)[k.val]? = some second →
      first.Indexes (s.layers j) slot → ¬second.Indexes (s.layers k) slot
  noop : ∀ k : Fin RENDER_MAX_LAYERS, s.layerCount ≤ k → (s.layers k).layerType = LAYER_COMP_TYPE_NOOP
  mock : ∀ slot : Fin RENDER_MAX_IMAGES_SIZE, slot < r.imageArraySize →
    (∀ k : Fin RENDER_MAX_LAYERS, k < s.layerCount → ∀ layer, (drawnLayers viewIndex layers)[k.val]? = some layer →
      ¬layer.Indexes (s.layers k) slot) → s.srcImageViews slot = r.mockView ∧ s.srcSamplers slot = r.clampToEdge

/-! ## One layer -/

variable {r : CsRenderer V S N G} {viewIndex : Fin XRT_MAX_VIEWS} {layer : CsLayer N} {s : CsState V S G}
  {s' : CsState V S G} {swapchainIndex imageIndex : ℕ} {place : Fin (XRT_MAX_VIEWS * 2)}

theorem imageArraySize_le (r : CsRenderer V S N G) : r.imageArraySize ≤ RENDER_MAX_IMAGES_SIZE := Nat.min_le_right _ _

def CsState.withImage (s : CsState V S G) (slot : Fin RENDER_MAX_IMAGES_SIZE) (sampler : S) (view : V) :
    CsState V S G :=
  { s with
    srcSamplers := Function.update s.srcSamplers slot sampler
    srcImageViews := Function.update s.srcImageViews slot view
    curImage := s.curImage + 1 }

def CsState.withLayer (s : CsState V S G) (k : Fin RENDER_MAX_LAYERS) (write : UboLayer G → UboLayer G) :
    CsState V S G :=
  { s with layers := Function.update s.layers k (write (s.layers k)) }

section

variable {slot i : Fin RENDER_MAX_IMAGES_SIZE} {sampler : S} {view : V}

@[simp] theorem withImage_layers : (s.withImage slot sampler view).layers = s.layers := rfl

theorem withImage_self : (s.withImage slot sampler view).srcImageViews slot = view := Function.update_self _ _ _

theorem withImage_of_ne (hi : i ≠ slot) : (s.withImage slot sampler view).srcImageViews i = s.srcImageViews i :=
  Function.update_of_ne hi _ _

theorem pushImage_eq (hslot : slot.val = s.curImage) :
    s.pushImage sampler view = some (s.withImage slot sampler view) := by
  have hlt : s.curImage < RENDER_MAX_IMAGES_SIZE := hslot ▸ slot.isLt
  obtain rfl : slot = ⟨s.curImage, hlt⟩ := Fin.ext hslot
  unfold CsState.pushImage
  rw [storeAt_of_lt hlt, storeAt_of_lt hlt]
  rfl

end

section

variable {k i : Fin RENDER_MAX_LAYERS} {write : UboLayer G → UboLayer G}

@[simp] theorem withLayer_srcImageViews : (s.withLayer k write).srcImageViews = s.srcImageViews := rfl

@[simp] theorem withLayer_self : (s.withLayer k write).layers k = write (s.layers k) := Function.update_self _ _ _

theorem withLayer_of_ne (hi : i ≠ k) : (s.withLayer k write).layers i = s.layers i := Function.update_of_ne hi _ _

theorem writeLayer_eq (hk : k.val = s.curLayer) : s.writeLayer write = some (s.withLayer k write) := by
  have hlt : s.curLayer < RENDER_MAX_LAYERS := hk ▸ k.isLt
  obtain rfl : k = ⟨s.curLayer, hlt⟩ := Fin.ext hk
  unfold CsState.writeLayer
  rw [loadAt_of_lt hlt]
  simp only [storeAt_of_lt hlt]
  rfl

end

/-- What a builder leaves: the image views of the layer in the next slots, their indices, and everything else. -/
structure Built (r : CsRenderer V S N G) (viewIndex : Fin XRT_MAX_VIEWS) (layer : CsLayer N) (s s' : CsState V S G) :
    Prop where
  curLayer : s'.curLayer = s.curLayer
  curImage : s'.curImage = s.curImage + layer.images
  otherLayers : ∀ i : Fin RENDER_MAX_LAYERS, i.val ≠ s.curLayer → s'.layers i = s.layers i
  otherViews : ∀ i : Fin RENDER_MAX_IMAGES_SIZE, i < s.curImage → s'.srcImageViews i = s.srcImageViews i
  colorIndex : ∀ i : Fin RENDER_MAX_LAYERS, i.val = s.curLayer → (s'.layers i).colorImageIndex = s.curImage
  depthIndex : ∀ i : Fin RENDER_MAX_LAYERS, i.val = s.curLayer → layer.HasDepth →
    (s'.layers i).depthImageIndex = s.curImage + 1
  colorSlot : ∀ i : Fin RENDER_MAX_IMAGES_SIZE, i.val = s.curImage →
    colorView r viewIndex layer = some (s'.srcImageViews i)
  depthSlot : ∀ i : Fin RENDER_MAX_IMAGES_SIZE, i.val = s.curImage + 1 → layer.HasDepth →
    depthView r viewIndex layer = some (s'.srcImageViews i)

section

variable {k : Fin RENDER_MAX_LAYERS} {slot : Fin RENDER_MAX_IMAGES_SIZE} {sampler : S} {view : V}
  {write : UboLayer G → UboLayer G}

theorem built_withImage (hone : layer.images = 1) (hflat : ¬layer.HasDepth)
    (hcolor : colorView r viewIndex layer = some view) (hk : k.val = s.curLayer) (hslot : slot.val = s.curImage)
    (hwrite : (write (s.layers k)).colorImageIndex = s.curImage) :
    Built r viewIndex layer s ((s.withImage slot sampler view).withLayer k write) where
  curLayer := rfl
  curImage := by rw [hone]; rfl
  otherLayers i hi := by
    have hne : i ≠ k := fun heq => hi (heq.symm ▸ hk)
    rw [withLayer_of_ne hne, withImage_layers]
  otherViews i hi := by
    have hne : i ≠ slot := fun heq => Nat.ne_of_lt hi (heq.symm ▸ hslot)
    rw [withLayer_srcImageViews, withImage_of_ne hne]
  colorIndex i hi := by
    obtain rfl : i = k := Fin.ext (hi.trans hk.symm)
    rw [withLayer_self]
    exact hwrite
  depthIndex i hi hdepth := absurd hdepth hflat
  colorSlot i hi := by
    obtain rfl : i = slot := Fin.ext (hi.trans hslot.symm)
    rw [withLayer_srcImageViews, withImage_self]
    exact hcolor
  depthSlot i hi hdepth := absurd hdepth hflat

theorem Built.withLayer {s' : CsState V S G} (hbuilt : Built r viewIndex layer s s') (hk : k.val = s.curLayer)
    (hcolor : ∀ entry, (write entry).colorImageIndex = entry.colorImageIndex)
    (hdepth : ∀ entry, (write entry).depthImageIndex = entry.depthImageIndex) :
    Built r viewIndex layer s (s'.withLayer k write) where
  curLayer := hbuilt.curLayer
  curImage := hbuilt.curImage
  otherLayers i hi := by
    have hne : i ≠ k := fun heq => hi (heq.symm ▸ hk)
    rw [withLayer_of_ne hne]
    exact hbuilt.otherLayers i hi
  otherViews := hbuilt.otherViews
  colorIndex i hi := by
    obtain rfl : i = k := Fin.ext (hi.trans hk.symm)
    rw [withLayer_self, hcolor]
    exact hbuilt.colorIndex i hi
  depthIndex i hi hlayer := by
    obtain rfl : i = k := Fin.ext (hi.trans hk.symm)
    rw [withLayer_self, hdepth]
    exact hbuilt.depthIndex i hi hlayer
  colorSlot := hbuilt.colorSlot
  depthSlot := hbuilt.depthSlot

end

theorem doCsOneImage_built {sub : XrtSubImage} (hone : layer.images = 1) (hflat : ¬layer.HasDepth)
    (hview : colorView r viewIndex layer =
      (getLayerImage r layer 0 sub.imageIndex).map fun image => getImageView image layer.flags sub.arrayIndex)
    (hcomplete : layer.Complete r viewIndex) (hlayer : s.curLayer < RENDER_MAX_LAYERS)
    (himage : s.curImage < RENDER_MAX_IMAGES_SIZE) :
    ∃ s', doCsOneImage r viewIndex layer sub s = some s' ∧ Built r viewIndex layer s s' := by
  obtain ⟨view, hcolor⟩ := Option.isSome_iff_exists.mp hcomplete.color
  obtain ⟨image, hget, rfl⟩ := Option.map_eq_some_iff.mp (hview.symm.trans hcolor)
  obtain ⟨k, hk⟩ : ∃ k : Fin RENDER_MAX_LAYERS, k.val = s.curLayer := ⟨⟨_, hlayer⟩, rfl⟩
  obtain ⟨slot, hslot⟩ : ∃ slot : Fin RENDER_MAX_IMAGES_SIZE, slot.val = s.curImage := ⟨⟨_, himage⟩, rfl⟩
  have hrun : doCsOneImage r viewIndex layer sub s =
      some ((s.withImage slot r.clampToEdge (getImageView image layer.flags sub.arrayIndex)).withLayer k fun entry =>
        { entry with colorImageIndex := s.curImage, numbers := r.fill viewIndex layer entry.numbers }) := by
    unfold doCsOneImage
    rw [hget, Option.bind_some, pushImage_eq hslot, Option.bind_some]
    exact writeLayer_eq hk
  exact ⟨_, hrun, built_withImage hone hflat hcolor hk hslot rfl⟩

theorem doCsProjectionLayer_built {vd : XrtSubImage} (hone : layer.images = 1) (hflat : ¬layer.HasDepth)
    (hview : colorView r viewIndex layer =
      (getLayerImage r layer (if isViewIndexRight viewIndex then 1 else 0) vd.imageIndex).map fun image =>
        getImageView image layer.flags vd.arrayIndex)
    (hcomplete : layer.Complete r viewIndex) (hlayer : s.curLayer < RENDER_MAX_LAYERS)
    (himage : s.curImage < RENDER_MAX_IMAGES_SIZE) :
    ∃ s', doCsProjectionLayer r viewIndex layer vd none s = some s' ∧ Built r viewIndex layer s s' := by
  obtain ⟨view, hcolor⟩ := Option.isSome_iff_exists.mp hcomplete.color
  obtain ⟨image, hget, rfl⟩ := Option.map_eq_some_iff.mp (hview.symm.trans hcolor)
  obtain ⟨k, hk⟩ : ∃ k : Fin RENDER_MAX_LAYERS, k.val = s.curLayer := ⟨⟨_, hlayer⟩, rfl⟩
  obtain ⟨slot, hslot⟩ : ∃ slot : Fin RENDER_MAX_IMAGES_SIZE, slot.val = s.curImage := ⟨⟨_, himage⟩, rfl⟩
  let s₁ := s.withImage slot r.clampToBorderBlack (getImageView image layer.flags vd.arrayIndex)
  let s₂ := s₁.withLayer k fun entry => { entry with colorImageIndex := s.curImage }
  have hbuilt : Built r viewIndex layer s s₂ := built_withImage hone hflat hcolor hk hslot rfl
  have hk₁ : k.val = s₁.curLayer := hk
  have hk₂ : k.val = s₂.curLayer := hk
  have hrun : doCsProjectionLayer r viewIndex layer vd none s =
      some (s₂.withLayer k fun entry => { entry with numbers := r.fill viewIndex layer entry.numbers }) := by
    unfold doCsProjectionLayer
    dsimp only
    rw [hget, Option.bind_some, pushImage_eq hslot, Option.bind_some, writeLayer_eq hk₁, Option.bind_some,
      Option.bind_some, writeLayer_eq hk₂]
  exact ⟨_, hrun, hbuilt.withLayer hk (fun _ => rfl) fun _ => rfl⟩

theorem doCsProjectionLayer_depth_built {vd dvd : XrtSubImage} (htwo : layer.images = 2) (hdeep : layer.HasDepth)
    (hview : colorView r viewIndex layer =
      (getLayerImage r layer (if isViewIndexRight viewIndex then 1 else 0) vd.imageIndex).map fun image =>
        getImageView image layer.flags vd.arrayIndex)
    (hdview : depthView r viewIndex layer =
      (getLayerDepthImage r layer (if isViewIndexRight viewIndex then 1 else 0) dvd.imageIndex).map fun image =>
        getImageView image layer.flags dvd.arrayIndex)
    (hcomplete : layer.Complete r viewIndex) (hlayer : s.curLayer < RENDER_MAX_LAYERS)
    (himage : s.curImage + 1 < RENDER_MAX_IMAGES_SIZE) :
    ∃ s', doCsProjectionLayer r viewIndex layer vd (some dvd) s = some s' ∧ Built r viewIndex layer s s' := by
  obtain ⟨view, hcolor⟩ := Option.isSome_iff_exists.mp hcomplete.color
  obtain ⟨image, hget, rfl⟩ := Option.map_eq_some_iff.mp (hview.symm.trans hcolor)
  obtain ⟨dview, hdepth⟩ := Option.isSome_iff_exists.mp (hcomplete.depth hdeep)
  obtain ⟨dImage, hdget, rfl⟩ := Option.map_eq_some_iff.mp (hdview.symm.trans hdepth)
  obtain ⟨k, hk⟩ : ∃ k : Fin RENDER_MAX_LAYERS, k.val = s.curLayer := ⟨⟨_, hlayer⟩, rfl⟩
  obtain ⟨slot, hslot⟩ : ∃ slot : Fin RENDER_MAX_IMAGES_SIZE, slot.val = s.curImage :=
    ⟨⟨_, Nat.lt_of_succ_lt himage⟩, rfl⟩
  obtain ⟨dSlot, hdslot⟩ : ∃ slot : Fin RENDER_MAX_IMAGES_SIZE, slot.val = s.curImage + 1 := ⟨⟨_, himage⟩, rfl⟩
  let s₁ := s.withImage slot r.clampToBorderBlack (getImageView image layer.flags vd.arrayIndex)
  let s₂ := s₁.withLayer k fun entry => { entry with colorImageIndex := s.curImage }
  let s₃ := s₂.withImage dSlot r.clampToEdge (getImageView dImage layer.flags dvd.arrayIndex)
  let s₄ := s₃.withLayer k fun entry => { entry with depthImageIndex := s.curImage + 1 }
  have hbuilt : Built r viewIndex layer s s₄ := by
    have hother : ∀ i : Fin RENDER_MAX_LAYERS, i.val ≠ s.curLayer → i ≠ k := fun i hi heq => hi (heq.symm ▸ hk)
    have hself : ∀ i : Fin RENDER_MAX_LAYERS, i.val = s.curLayer → i = k := fun i hi => Fin.ext (hi.trans hk.symm)
    refine ⟨rfl, by rw [htwo]; rfl, fun i hi => ?_, fun i hi => ?_, fun i hi => ?_, fun i hi _ => ?_, fun i hi => ?_,
      fun i hi _ => ?_⟩
    · rw [withLayer_of_ne (hother i hi), withImage_layers, withLayer_of_ne (hother i hi), withImage_layers]
    · have hne : i ≠ slot := fun heq => Nat.ne_of_lt hi (heq.symm ▸ hslot)
      have hdne : i ≠ dSlot := fun heq => Nat.ne_of_lt (Nat.lt_succ_of_lt hi) (heq.symm ▸ hdslot)
      rw [withLayer_srcImageViews, withImage_of_ne hdne, withLayer_srcImageViews, withImage_of_ne hne]
    · rw [hself i hi, withLayer_self, withImage_layers, withLayer_self]
    · rw [hself i hi, withLayer_self]
    · obtain rfl : i = slot := Fin.ext (hi.trans hslot.symm)
      have hdne : i ≠ dSlot := fun heq => Nat.ne_of_lt (Nat.lt_succ_self s.curImage) (hi.symm.trans (heq.symm ▸ hdslot))
      rw [withLayer_srcImageViews, withImage_of_ne hdne, withLayer_srcImageViews, withImage_self]
      exact hcolor
    · obtain rfl : i = dSlot := Fin.ext (hi.trans hdslot.symm)
      rw [withLayer_srcImageViews, withImage_self]
      exact hdepth
  have hk₁ : k.val = s₁.curLayer := hk
  have hk₃ : k.val = s₃.curLayer := hk
  have hk₄ : k.val = s₄.curLayer := hk
  have hslot₂ : dSlot.val = s₂.curImage := hdslot
  have hrun : doCsProjectionLayer r viewIndex layer vd (some dvd) s =
      some (s₄.withLayer k fun entry => { entry with numbers := r.fill viewIndex layer entry.numbers }) := by
    unfold doCsProjectionLayer
    dsimp only
    rw [hget, Option.bind_some, pushImage_eq hslot, Option.bind_some, writeLayer_eq hk₁, Option.bind_some, hdget,
      Option.bind_some, pushImage_eq hslot₂, Option.bind_some, writeLayer_eq hk₃, Option.bind_some]
    exact writeLayer_eq hk₄
  exact ⟨_, hrun, hbuilt.withLayer hk (fun _ => rfl) fun _ => rfl⟩

theorem images_pos (hdrawn : layer.drawn viewIndex) : 0 < layer.images := by
  obtain ⟨required, hrequired⟩ := Option.isSome_iff_exists.mp (Bool.and_eq_true_iff.mp hdrawn).2
  have himages : layer.images = required := by rw [CsLayer.images, hrequired, Option.getD_some]
  obtain ⟨scArray, data, flags, numbers⟩ := layer
  cases data <;> cases hrequired <;> exact himages ▸ Nat.succ_pos _

theorem images_of_hasDepth (hdepth : layer.HasDepth) : layer.images = 2 := by
  obtain ⟨v, d, hdata⟩ := hdepth
  rw [CsLayer.images, hdata]
  rfl

theorem doCsLayer_built (hdrawn : layer.drawn viewIndex) (hcomplete : layer.Complete r viewIndex)
    (hlayer : s.curLayer < RENDER_MAX_LAYERS) (himage : s.curImage + layer.images ≤ RENDER_MAX_IMAGES_SIZE) :
    ∃ s', doCsLayer r viewIndex layer s = some s' ∧ Built r viewIndex layer s s' := by
  obtain ⟨scArray, data, flags, numbers⟩ := layer
  have hpos := images_pos hdrawn
  cases data with
  | projection v =>
    exact doCsProjectionLayer_built rfl (fun ⟨_, _, h⟩ => nomatch h) rfl hcomplete hlayer (Nat.lt_of_succ_le himage)
  | projectionDepth v d =>
    exact doCsProjectionLayer_depth_built rfl ⟨v, d, rfl⟩ rfl rfl hcomplete hlayer (Nat.lt_of_succ_le himage)
  | quad visibility sub =>
    exact doCsOneImage_built rfl (fun ⟨_, _, h⟩ => nomatch h) rfl hcomplete hlayer (Nat.lt_of_succ_le himage)
  | cylinder visibility sub =>
    exact doCsOneImage_built rfl (fun ⟨_, _, h⟩ => nomatch h) rfl hcomplete hlayer (Nat.lt_of_succ_le himage)
  | equirect2 visibility sub =>
    exact doCsOneImage_built rfl (fun ⟨_, _, h⟩ => nomatch h) rfl hcomplete hlayer (Nat.lt_of_succ_le himage)
  | cube visibility => exact absurd hpos (Nat.lt_irrefl 0)
  | equirect1 visibility => exact absurd hpos (Nat.lt_irrefl 0)
  | other type => exact absurd hpos (Nat.lt_irrefl 0)

theorem color_isSome_of_bind {swapchainIndex : ℕ} {sub : XrtSubImage}
    {f : CompSwapchainImage V → Option (CsState V S G)} {s' : CsState V S G} (hview : colorView r viewIndex layer =
      (getLayerImage r layer swapchainIndex sub.imageIndex).map fun image =>
        getImageView image layer.flags sub.arrayIndex)
    (hrun : (getLayerImage r layer swapchainIndex sub.imageIndex).bind f = some s') :
    (colorView r viewIndex layer).isSome := by
  obtain ⟨image, hget, -⟩ := Option.bind_eq_some_iff.mp hrun
  rw [hview, hget]
  rfl

theorem complete_of_doCsLayer (hrun : doCsLayer r viewIndex layer s = some s') : layer.Complete r viewIndex := by
  obtain ⟨scArray, data, flags, numbers⟩ := layer
  cases data with
  | projection v => exact ⟨color_isSome_of_bind rfl hrun, fun ⟨_, _, h⟩ => nomatch h⟩
  | projectionDepth v d =>
    refine ⟨color_isSome_of_bind rfl hrun, fun _ => ?_⟩
    obtain ⟨image, -, hrun⟩ := Option.bind_eq_some_iff.mp hrun
    obtain ⟨s₁, -, hrun⟩ := Option.bind_eq_some_iff.mp hrun
    obtain ⟨s₂, -, hrun⟩ := Option.bind_eq_some_iff.mp hrun
    obtain ⟨s₃, hdepth, -⟩ := Option.bind_eq_some_iff.mp hrun
    obtain ⟨dImage, hdget, -⟩ := Option.bind_eq_some_iff.mp hdepth
    unfold depthView
    dsimp only
    rw [hdget]
    rfl
  | quad visibility sub => exact ⟨color_isSome_of_bind rfl hrun, fun ⟨_, _, h⟩ => nomatch h⟩
  | cylinder visibility sub => exact ⟨color_isSome_of_bind rfl hrun, fun ⟨_, _, h⟩ => nomatch h⟩
  | equirect2 visibility sub => exact ⟨color_isSome_of_bind rfl hrun, fun ⟨_, _, h⟩ => nomatch h⟩
  | cube visibility => cases hrun
  | equirect1 visibility => cases hrun
  | other type => cases hrun

theorem getLayerImage_isSome (hplace : place.val = swapchainIndex) :
    (getLayerImage r layer swapchainIndex imageIndex).isSome = (layer.scArray place).isSome := by
  subst hplace
  unfold getLayerImage
  rw [loadAt_of_lt place.isLt, Option.isSome_map]
  rfl

theorem getLayerDepthImage_isSome (hplace : place.val = XRT_MAX_VIEWS + swapchainIndex) :
    (getLayerDepthImage r layer swapchainIndex imageIndex).isSome = (layer.scArray place).isSome :=
  getLayerImage_isSome hplace

theorem complete_iff_of_not_hasDepth (hflat : ¬layer.HasDepth) :
    layer.Complete r viewIndex ↔ (colorView r viewIndex layer).isSome :=
  ⟨CsLayer.Complete.color, fun hcolor => ⟨hcolor, fun hdepth => absurd hdepth hflat⟩⟩

theorem complete_iff_stored : layer.Complete r viewIndex ↔ layer.Stored viewIndex := by
  have hfirst : ((0 : Fin (XRT_MAX_VIEWS * 2)) : ℕ) = 0 := rfl
  have hview : ((if isViewIndexRight viewIndex then 1 else 0 : Fin (XRT_MAX_VIEWS * 2)) : ℕ) =
      if isViewIndexRight viewIndex then 1 else 0 := by split_ifs <;> rfl
  have hdview : ((if isViewIndexRight viewIndex then 3 else 2 : Fin (XRT_MAX_VIEWS * 2)) : ℕ) =
      XRT_MAX_VIEWS + if isViewIndexRight viewIndex then 1 else 0 := by split_ifs <;> rfl
  obtain ⟨scArray, data, flags, numbers⟩ := layer
  cases data with
  | projection v =>
    rw [complete_iff_of_not_hasDepth fun ⟨_, _, h⟩ => nomatch h]
    simp only [colorView, CsLayer.Stored, Option.isSome_map, getLayerImage_isSome hview]
  | projectionDepth v d =>
    have hcolor : (colorView r viewIndex ⟨scArray, .projectionDepth v d, flags, numbers⟩).isSome =
        (scArray (if isViewIndexRight viewIndex then 1 else 0)).isSome := by
      simp only [colorView, Option.isSome_map, getLayerImage_isSome hview]
    have hdepth : (depthView r viewIndex ⟨scArray, .projectionDepth v d, flags, numbers⟩).isSome =
        (scArray (if isViewIndexRight viewIndex then 3 else 2)).isSome := by
      simp only [depthView, Option.isSome_map, getLayerDepthImage_isSome hdview]
    constructor
    · rintro ⟨hc, hd⟩
      exact ⟨hcolor ▸ hc, hdepth ▸ hd ⟨v, d, rfl⟩⟩
    · rintro ⟨hc, hd⟩
      exact ⟨hcolor.trans hc, fun _ => hdepth.trans hd⟩
  | quad visibility sub =>
    rw [complete_iff_of_not_hasDepth fun ⟨_, _, h⟩ => nomatch h]
    simp only [colorView, CsLayer.Stored, Option.isSome_map, getLayerImage_isSome hfirst]
  | cylinder visibility sub =>
    rw [complete_iff_of_not_hasDepth fun ⟨_, _, h⟩ => nomatch h]
    simp only [colorView, CsLayer.Stored, Option.isSome_map, getLayerImage_isSome hfirst]
  | equirect2 visibility sub =>
    rw [complete_iff_of_not_hasDepth fun ⟨_, _, h⟩ => nomatch h]
    simp only [colorView, CsLayer.Stored, Option.isSome_map, getLayerImage_isSome hfirst]
  | cube visibility => exact ⟨fun h => (nomatch h.color), False.elim⟩
  | equirect1 visibility => exact ⟨fun h => (nomatch h.color), False.elim⟩
  | other type => exact ⟨fun h => (nomatch h.color), False.elim⟩

/-! ## The run -/

/-- An entry for a layer whose slots start at `first`. -/
structure EntryAt (r : CsRenderer V S N G) (viewIndex : Fin XRT_MAX_VIEWS) (layer : CsLayer N)
    (srcImageViews : Fin RENDER_MAX_IMAGES_SIZE → V) (entry : UboLayer G) (first : ℕ) : Prop where
  layerType : entry.layerType = xrtLayerToCsLayerType layer.data
  unpremultipliedAlpha : entry.unpremultipliedAlpha = layer.flags.unpremultipliedAlpha
  colorIndex : entry.colorImageIndex = first
  depthIndex : layer.HasDepth → entry.depthImageIndex = first + 1
  colorSlot : ∀ i : Fin RENDER_MAX_IMAGES_SIZE, i.val = first → colorView r viewIndex layer = some (srcImageViews i)
  depthSlot : ∀ i : Fin RENDER_MAX_IMAGES_SIZE, i.val = first + 1 → layer.HasDepth →
    depthView r viewIndex layer = some (srcImageViews i)

structure Packs (r : CsRenderer V S N G) (viewIndex : Fin XRT_MAX_VIEWS) (s : CsState V S G) (done : List (CsLayer N)) :
    Prop where
  curLayer : s.curLayer = done.length
  curImage : s.curImage = total CsLayer.images done
  drawn : ∀ layer ∈ done, layer.drawn viewIndex
  entry : ∀ (k : Fin RENDER_MAX_LAYERS) (layer : CsLayer N), done[k.val]? = some layer →
    EntryAt r viewIndex layer s.srcImageViews (s.layers k) (start CsLayer.images done k)

variable {done layers : List (CsLayer N)} {entry : UboLayer G} {k : Fin RENDER_MAX_LAYERS}

theorem finishLayer_eq (layer : CsLayer N) (hk : k.val = s.curLayer) :
    finishLayer layer s = some { s.withLayer k fun entry =>
      { entry with
        layerType := xrtLayerToCsLayerType layer.data
        unpremultipliedAlpha := layer.flags.unpremultipliedAlpha } with curLayer := s.curLayer + 1 } := by
  unfold finishLayer
  rw [writeLayer_eq hk]
  rfl

theorem EntryAt.of_views {views views' : Fin RENDER_MAX_IMAGES_SIZE → V} {first : ℕ}
    (h : EntryAt r viewIndex layer views entry first) (hpos : 0 < layer.images)
    (hviews : ∀ i : Fin RENDER_MAX_IMAGES_SIZE, i.val < first + layer.images → views' i = views i) :
    EntryAt r viewIndex layer views' entry first where
  layerType := h.layerType
  unpremultipliedAlpha := h.unpremultipliedAlpha
  colorIndex := h.colorIndex
  depthIndex := h.depthIndex
  colorSlot i hi := by
    rw [hviews i (by omega)]
    exact h.colorSlot i hi
  depthSlot i hi hdepth := by
    have htwo := images_of_hasDepth hdepth
    rw [hviews i (by omega)]
    exact h.depthSlot i hi hdepth

theorem Packs.start_lt {k : ℕ} (hpacks : Packs r viewIndex s done) (hlayer : done[k]? = some layer) :
    start CsLayer.images done k + layer.images ≤ s.curImage := by
  rw [hpacks.curImage]
  exact start_add_le_total hlayer

theorem Packs.step {s₁ s₂ : CsState V S G} (hpacks : Packs r viewIndex s done) (hdrawn : layer.drawn viewIndex)
    (hlayer : s.curLayer < RENDER_MAX_LAYERS) (hbuilt : Built r viewIndex layer s s₁)
    (hfinish : finishLayer layer s₁ = some s₂) : Packs r viewIndex s₂ (done ++ [layer]) := by
  obtain ⟨k, hk⟩ : ∃ k : Fin RENDER_MAX_LAYERS, k.val = s.curLayer := ⟨⟨_, hlayer⟩, rfl⟩
  rw [finishLayer_eq layer (hk.trans hbuilt.curLayer.symm)] at hfinish
  obtain rfl := Option.some.inj hfinish
  refine ⟨?_, ?_, fun other hother => ?_, fun i other hother => ?_⟩
  · rw [List.length_append, List.length_singleton, ← hpacks.curLayer, ← hbuilt.curLayer]
  · refine hbuilt.curImage.trans ?_
    rw [total_append, total_cons, total_nil, Nat.add_zero, hpacks.curImage]
  · rcases List.mem_append.mp hother with hold | hnew
    · exact hpacks.drawn other hold
    · exact List.mem_singleton.mp hnew ▸ hdrawn
  · rcases Nat.lt_or_ge i done.length with hlt | hge
    · rw [List.getElem?_append_left hlt] at hother
      have hne : i.val ≠ s.curLayer := hpacks.curLayer ▸ Nat.ne_of_lt hlt
      have hentry : s₁.layers i = s.layers i := hbuilt.otherLayers i hne
      have hold := hpacks.entry i other hother
      have hpos := images_pos (hpacks.drawn other (List.mem_of_getElem? hother))
      have hstart : start CsLayer.images (done ++ [layer]) i = start CsLayer.images done i :=
        start_append_of_lt (Nat.le_of_lt hlt)
      have hik : i ≠ k := fun heq => hne (heq.symm ▸ hk)
      dsimp only
      rw [withLayer_of_ne hik, hentry, hstart]
      exact hold.of_views hpos fun slot hslot =>
        hbuilt.otherViews slot (Nat.lt_of_lt_of_le hslot (hpacks.start_lt hother))
    · have hi : i.val = done.length := by
        have hlen := (List.getElem?_eq_some_iff.mp hother).1
        rw [List.length_append, List.length_singleton] at hlen
        omega
      obtain rfl : i = k := Fin.ext (hi.trans (hpacks.curLayer.symm.trans hk.symm))
      rw [hi, List.getElem?_concat_length] at hother
      obtain rfl := Option.some.inj hother
      have hstart : start CsLayer.images (done ++ [layer]) i = s.curImage := by
        rw [hi, start_append_of_lt (Nat.le_refl _), start_length, hpacks.curImage]
      dsimp only
      rw [withLayer_self, hstart]
      exact ⟨rfl, rfl, hbuilt.colorIndex i hk, hbuilt.depthIndex i hk, hbuilt.colorSlot, hbuilt.depthSlot⟩

theorem packLayers_of_not_drawn (hdrawn : ¬layer.drawn viewIndex) :
    packLayers r viewIndex (layer :: layers) s = packLayers r viewIndex layers s := by
  rw [packLayers]
  by_cases hvisible : isLayerViewVisible layer.data viewIndex
  · have hskip : requiredImageSamplers layer.data = none := by
      simpa [CsLayer.drawn, hvisible] using hdrawn
    rw [if_neg (by simp [hvisible]), hskip]
  · rw [if_pos (by simp [hvisible])]

theorem packLayers_of_drawn (hdrawn : layer.drawn viewIndex) :
    packLayers r viewIndex (layer :: layers) s =
      if s.curImage + layer.images > r.imageArraySize then some s
      else ((doCsLayer r viewIndex layer s).bind (finishLayer layer)).bind (packLayers r viewIndex layers) := by
  obtain ⟨hvisible, hsome⟩ := Bool.and_eq_true_iff.mp hdrawn
  obtain ⟨required, hrequired⟩ := Option.isSome_iff_exists.mp hsome
  have himages : layer.images = required := by rw [CsLayer.images, hrequired, Option.getD_some]
  rw [packLayers, if_neg (by simp [hvisible]), hrequired, himages, Option.bind_assoc]

abbrev packedLayers (r : CsRenderer V S N G) (viewIndex : Fin XRT_MAX_VIEWS) (used : ℕ) (layers : List (CsLayer N)) :=
  packed CsLayer.images r.imageArraySize used (drawnLayers viewIndex layers)

theorem Packs.draw (hpacks : Packs r viewIndex s done) (hdrawn : layer.drawn viewIndex)
    (hcomplete : layer.Complete r viewIndex) (hlength : done.length < RENDER_MAX_LAYERS)
    (hfits : s.curImage + layer.images ≤ r.imageArraySize) :
    ∃ s', (doCsLayer r viewIndex layer s).bind (finishLayer layer) = some s' ∧ Packs r viewIndex s' (done ++ [layer]) ∧
      s'.curImage = s.curImage + layer.images := by
  have hlayer : s.curLayer < RENDER_MAX_LAYERS := hpacks.curLayer ▸ hlength
  obtain ⟨s₁, hrun, hbuilt⟩ := doCsLayer_built hdrawn hcomplete hlayer (Nat.le_trans hfits (imageArraySize_le r))
  obtain ⟨k, hk⟩ : ∃ k : Fin RENDER_MAX_LAYERS, k.val = s.curLayer := ⟨⟨_, hlayer⟩, rfl⟩
  have hfinish := finishLayer_eq layer (hk.trans hbuilt.curLayer.symm)
  refine ⟨_, ?_, hpacks.step hdrawn hlayer hbuilt hfinish, hbuilt.curImage⟩
  rw [hrun, Option.bind_some]
  exact hfinish

theorem packLayers_packs (hpacks : Packs r viewIndex s done) (hlength : done.length + layers.length ≤ RENDER_MAX_LAYERS)
    (hcomplete : ∀ layer ∈ packedLayers r viewIndex s.curImage layers, layer.Complete r viewIndex) :
    ∃ s', packLayers r viewIndex layers s = some s' ∧
      Packs r viewIndex s' (done ++ packedLayers r viewIndex s.curImage layers) := by
  induction layers generalizing s done with
  | nil => exact ⟨s, rfl, by rwa [packedLayers, drawnLayers, List.filter_nil, packed, List.append_nil]⟩
  | cons layer layers ih =>
    rw [List.length_cons] at hlength
    by_cases hdrawn : layer.drawn viewIndex
    · have hcons : drawnLayers viewIndex (layer :: layers) = layer :: drawnLayers viewIndex layers :=
        List.filter_cons_of_pos hdrawn
      rw [packLayers_of_drawn hdrawn]
      rw [packedLayers, hcons, packed] at hcomplete ⊢
      by_cases hfits : s.curImage + layer.images ≤ r.imageArraySize
      · rw [if_pos hfits] at hcomplete ⊢
        rw [if_neg (Nat.not_lt.mpr hfits)]
        obtain ⟨s₁, hrun, hpacks₁, himage⟩ :=
          hpacks.draw hdrawn (hcomplete layer (List.mem_cons_self ..)) (by omega) hfits
        have hroom : (done ++ [layer]).length + layers.length ≤ RENDER_MAX_LAYERS := by
          rw [List.length_append, List.length_singleton]
          omega
        obtain ⟨s', hrest, hpacks'⟩ := ih hpacks₁ hroom fun other hother =>
          hcomplete other (List.mem_cons_of_mem _ (himage ▸ hother))
        refine ⟨s', by rw [hrun, Option.bind_some, hrest], ?_⟩
        rw [List.append_assoc] at hpacks'
        exact himage ▸ hpacks'
      · rw [if_neg hfits] at hcomplete ⊢
        rw [if_pos (Nat.lt_of_not_le hfits)]
        exact ⟨s, rfl, by rwa [List.append_nil]⟩
    · have hcons : drawnLayers viewIndex (layer :: layers) = drawnLayers viewIndex layers :=
        List.filter_cons_of_neg hdrawn
      rw [packLayers_of_not_drawn hdrawn]
      rw [packedLayers, hcons] at hcomplete ⊢
      exact ih hpacks (by omega) hcomplete

theorem complete_of_packLayers (hpacks : Packs r viewIndex s done)
    (hlength : done.length + layers.length ≤ RENDER_MAX_LAYERS) (hrun : packLayers r viewIndex layers s = some s') :
    ∀ layer ∈ packedLayers r viewIndex s.curImage layers, layer.Complete r viewIndex := by
  induction layers generalizing s done with
  | nil => exact fun layer hlayer => nomatch hlayer
  | cons layer layers ih =>
    rw [List.length_cons] at hlength
    by_cases hdrawn : layer.drawn viewIndex
    · have hcons : drawnLayers viewIndex (layer :: layers) = layer :: drawnLayers viewIndex layers :=
        List.filter_cons_of_pos hdrawn
      rw [packLayers_of_drawn hdrawn] at hrun
      rw [packedLayers, hcons, packed]
      by_cases hfits : s.curImage + layer.images ≤ r.imageArraySize
      · rw [if_pos hfits]
        rw [if_neg (Nat.not_lt.mpr hfits)] at hrun
        obtain ⟨s₁, hfirst, hrest⟩ := Option.bind_eq_some_iff.mp hrun
        obtain ⟨_, hbuild, -⟩ := Option.bind_eq_some_iff.mp hfirst
        have hcomplete := complete_of_doCsLayer hbuild
        obtain ⟨_, hsame, hpacks₁, himage⟩ := hpacks.draw hdrawn hcomplete (by omega) hfits
        obtain rfl := Option.some.inj (hfirst.symm.trans hsame)
        have hroom : (done ++ [layer]).length + layers.length ≤ RENDER_MAX_LAYERS := by
          rw [List.length_append, List.length_singleton]
          omega
        intro other hother
        rcases List.mem_cons.mp hother with rfl | hother
        · exact hcomplete
        · exact ih hpacks₁ hroom hrest other (himage.symm ▸ hother)
      · rw [if_neg hfits]
        exact fun other hother => nomatch hother
    · have hcons : drawnLayers viewIndex (layer :: layers) = drawnLayers viewIndex layers :=
        List.filter_cons_of_neg hdrawn
      rw [packLayers_of_not_drawn hdrawn] at hrun
      rw [packedLayers, hcons]
      exact ih hpacks (by omega) hrun

/-! ## The call -/

theorem packs_nil (hlayer : s.curLayer = 0) (himage : s.curImage = 0) :
    Packs r viewIndex s ([] : List (CsLayer N)) :=
  ⟨hlayer, himage, fun _ h => (nomatch h), fun _ _ h => (nomatch h)⟩

theorem EntryAt.indexes_iff {views : Fin RENDER_MAX_IMAGES_SIZE → V} {first slot : ℕ}
    (h : EntryAt r viewIndex layer views entry first) (hpos : 0 < layer.images) :
    layer.Indexes entry slot ↔ first ≤ slot ∧ slot < first + layer.images := by
  unfold CsLayer.Indexes
  by_cases hdepth : layer.HasDepth
  · rw [h.colorIndex, h.depthIndex hdepth, images_of_hasDepth hdepth]
    simp only [hdepth, true_and]
    omega
  · have hone : layer.images = 1 := by
      obtain ⟨scArray, data, flags, numbers⟩ := layer
      cases data with
      | projectionDepth v d => exact absurd ⟨v, d, rfl⟩ hdepth
      | projection | quad | cylinder | equirect2 => rfl
      | cube | equirect1 | other => exact absurd hpos (Nat.lt_irrefl 0)
    rw [h.colorIndex, hone]
    simp only [hdepth, false_and, or_false]
    omega

def closeLayers (r : CsRenderer V S N G) (s : CsState V S G) : CsState V S G :=
  { s with
    layerCount := s.curLayer
    layers := fun i => if s.curLayer ≤ i then { s.layers i with layerType := LAYER_COMP_TYPE_NOOP } else s.layers i
    srcSamplers := fun i => if s.curImage ≤ i ∧ i < r.imageArraySize then r.clampToEdge else s.srcSamplers i
    srcImageViews := fun i => if s.curImage ≤ i ∧ i < r.imageArraySize then r.mockView else s.srcImageViews i
    curImage := max s.curImage r.imageArraySize }

theorem closeLayers_layers (hk : k < s.curLayer) : (closeLayers r s).layers k = s.layers k := if_neg (Nat.not_le.mpr hk)

theorem closeLayers_srcImageViews {i : Fin RENDER_MAX_IMAGES_SIZE} (hi : i < s.curImage) :
    (closeLayers r s).srcImageViews i = s.srcImageViews i := if_neg fun h => Nat.not_le.mpr hi h.1

theorem EntryAt.entryOf {first : ℕ} (h : EntryAt r viewIndex layer s'.srcImageViews entry first)
    (hpos : 0 < layer.images) (hfits : first + layer.images ≤ r.imageArraySize) :
    EntryOf r viewIndex layer s' entry := by
  have hsize := imageArraySize_le r
  refine ⟨h.layerType, h.unpremultipliedAlpha, ?_, fun hdepth => ?_, fun hdepth => ?_⟩
  · exact ⟨⟨first, by omega⟩, h.colorIndex, Nat.lt_of_lt_of_le (Nat.lt_add_of_pos_right hpos) hfits, h.colorSlot _ rfl⟩
  · rw [images_of_hasDepth hdepth] at hfits
    exact ⟨⟨first + 1, by omega⟩, h.depthIndex hdepth, Nat.lt_of_succ_le hfits, h.depthSlot _ rfl hdepth⟩
  · rw [h.colorIndex, h.depthIndex hdepth]
    exact Nat.ne_of_lt (Nat.lt_succ_self first)

theorem Packs.filled {shown rest : List (CsLayer N)} (hpacks : Packs r viewIndex s shown)
    (hlength : shown.length ≤ RENDER_MAX_LAYERS) (hfits : s.curImage ≤ r.imageArraySize)
    (hdrawn : drawnLayers viewIndex layers = shown ++ rest)
    (hcut : ∀ layer ∈ rest.head?, r.imageArraySize < s.curImage + layer.images) :
    Filled r viewIndex layers (closeLayers r s) := by
  have hcount : (closeLayers r s).layerCount = shown.length := hpacks.curLayer
  have hget : ∀ {k : ℕ}, k < shown.length → (drawnLayers viewIndex layers)[k]? = shown[k]? := fun hk => by
    rw [hdrawn, List.getElem?_append_left hk]
  have hpos : ∀ {k : ℕ} {layer : CsLayer N}, shown[k]? = some layer → 0 < layer.images := fun hlayer =>
    images_pos (hpacks.drawn _ (List.mem_of_getElem? hlayer))
  have hentry : ∀ {k : Fin RENDER_MAX_LAYERS} {layer : CsLayer N}, shown[k.val]? = some layer →
      EntryAt r viewIndex layer (closeLayers r s).srcImageViews ((closeLayers r s).layers k)
        (start CsLayer.images shown k) := fun {k layer} hlayer => by
    rw [closeLayers_layers (hpacks.curLayer ▸ (List.getElem?_eq_some_iff.mp hlayer).1)]
    exact (hpacks.entry k layer hlayer).of_views (hpos hlayer) fun slot hslot =>
      closeLayers_srcImageViews (Nat.lt_of_lt_of_le hslot (hpacks.start_lt hlayer))
  refine ⟨hcount ▸ hlength, ?_, fun k hk => ?_, fun j k hjk hk first second slot hfirst hsecond hj => ?_,
    fun k hk => ?_, fun slot hslot hfree => ?_⟩
  · rw [hcount, hdrawn]
    cases rest with
    | nil => exact .inl (by rw [List.append_nil])
    | cons next rest =>
      refine .inr ⟨next, by simp, ?_⟩
      rw [start_append_of_lt (Nat.le_refl _), start_length, ← hpacks.curImage]
      exact hcut next rfl
  · rw [hcount] at hk
    have hlayer : shown[k.val]? = some shown[k.val] := List.getElem?_eq_getElem hk
    exact ⟨_, (hget hk).trans hlayer,
      hentry hlayer |>.entryOf (hpos hlayer) (Nat.le_trans (hpacks.start_lt hlayer) hfits)⟩
  · rw [hcount] at hk
    rw [hget (Nat.lt_trans hjk hk)] at hfirst
    rw [hget hk] at hsecond
    rw [(hentry hfirst).indexes_iff (hpos hfirst)] at hj
    rw [(hentry hsecond).indexes_iff (hpos hsecond)]
    have hbefore : start CsLayer.images shown j + first.images ≤ start CsLayer.images shown k :=
      start_add_le hfirst hjk
    omega
  · exact congrArg UboLayer.layerType (if_pos hk)
  · have hpast : s.curImage ≤ slot := by
      by_contra hlt
      have hused : slot < total CsLayer.images shown := hpacks.curImage ▸ Nat.lt_of_not_le hlt
      obtain ⟨k, layer, hlayer, hlow, hhigh⟩ := exists_slot hused
      have hk : k < shown.length := (List.getElem?_eq_some_iff.mp hlayer).1
      have hshown : k < (closeLayers r s).layerCount := Nat.lt_of_lt_of_eq hk hcount.symm
      refine hfree ⟨k, Nat.lt_of_lt_of_le hk hlength⟩ hshown layer ((hget hk).trans hlayer) ?_
      exact ((hentry (k := ⟨k, _⟩) hlayer).indexes_iff (hpos hlayer)).mpr ⟨hlow, hhigh⟩
    exact ⟨if_pos ⟨hpast, hslot⟩, if_pos ⟨hpast, hslot⟩⟩

theorem packedLayers_cut (r : CsRenderer V S N G) (viewIndex : Fin XRT_MAX_VIEWS) (layers : List (CsLayer N)) :
    ∃ rest, drawnLayers viewIndex layers = packedLayers r viewIndex 0 layers ++ rest ∧ ∀ layer ∈ rest.head?,
      r.imageArraySize < total CsLayer.images (packedLayers r viewIndex 0 layers) + layer.images := by
  rcases packed_cut CsLayer.images r.imageArraySize 0 (drawnLayers viewIndex layers) with
    hall | ⟨next, rest, hl, hlt⟩
  · exact ⟨[], by rw [List.append_nil]; exact hall.symm, fun _ h => (nomatch h)⟩
  · refine ⟨next :: rest, hl, fun layer hlayer => ?_⟩
    obtain rfl : next = layer := Option.some.inj hlayer
    rwa [Nat.zero_add] at hlt

/-- The call fills the uniform block and the slots when, and only when, the swapchains of the layers that get slots are
where it looks for them. -/
theorem compRenderCsLayer_fills_iff (r : CsRenderer V S N G) (viewIndex : Fin XRT_MAX_VIEWS) (layers : List (CsLayer N))
    (s : CsState V S G) (hlength : layers.length ≤ RENDER_MAX_LAYERS) :
    (∃ s', compRenderCsLayer r viewIndex layers s = some s' ∧ Filled r viewIndex layers s') ↔
      ∀ layer ∈ packedLayers r viewIndex 0 layers, layer.Stored viewIndex := by
  let s₀ : CsState V S G :=
    { s with
      layers := fun i => { s.layers i with numbers := r.clearChromaKey (s.layers i).numbers }
      curLayer := 0
      curImage := 0 }
  have hrun : compRenderCsLayer r viewIndex layers s = (packLayers r viewIndex layers s₀).map (closeLayers r) := rfl
  have hnil : Packs r viewIndex s₀ ([] : List (CsLayer N)) := packs_nil rfl rfl
  have hroom : ([] : List (CsLayer N)).length + layers.length ≤ RENDER_MAX_LAYERS := by
    rwa [List.length_nil, Nat.zero_add]
  constructor
  · rintro ⟨s', hs', -⟩ layer hlayer
    obtain ⟨s₁, hs₁, -⟩ := Option.map_eq_some_iff.mp (hrun.symm.trans hs')
    exact complete_iff_stored.mp (complete_of_packLayers hnil hroom hs₁ layer hlayer)
  · intro hstored
    obtain ⟨s₁, hs₁, hpacks⟩ := packLayers_packs hnil hroom fun layer hlayer =>
      (complete_iff_stored (r := r)).mpr (hstored layer hlayer)
    obtain ⟨rest, hrest, hcut⟩ := packedLayers_cut r viewIndex layers
    have hfits : s₁.curImage ≤ r.imageArraySize := by
      rw [hpacks.curImage, List.nil_append, ← Nat.zero_add (total _ _)]
      exact total_packed_le (Nat.zero_le r.imageArraySize)
    have hshort : (packedLayers r viewIndex 0 layers).length ≤ RENDER_MAX_LAYERS :=
      Nat.le_trans (packed_le 0 _).length_le (Nat.le_trans (List.length_filter_le _ _) hlength)
    refine ⟨closeLayers r s₁, by rw [hrun, hs₁]; rfl, hpacks.filled hshort hfits hrest ?_⟩
    rwa [hpacks.curImage]

/-- Two layers with depth: the four slots are taken, and a third finds none. -/
theorem compRenderCsLayer_fills_iff_stereo :
    let r : CsRenderer ℕ Unit Unit Unit :=
      ⟨fun sc _ => ⟨fun _ => 2 * sc, fun _ => 2 * sc + 1⟩, (), (), 0, 5, id, fun _ _ => id⟩
    let layer : CsLayer Unit :=
      ⟨depthArray (fun i => some i) (fun i => some (i + 10)) 2 2,
        .projectionDepth (fun _ => ⟨0, 0⟩) (fun _ => ⟨0, 0⟩), ⟨false, false⟩, ()⟩
    let s : CsState ℕ Unit Unit := ⟨fun _ => ⟨0, false, 0, 0, ()⟩, 0, fun _ => (), fun _ => 0, 0, 0⟩
    ∃ s', compRenderCsLayer r 1 [layer, layer, layer] s = some s' ∧ Filled r 1 [layer, layer, layer] s' := by
  intro r layer s
  refine (compRenderCsLayer_fills_iff r 1 [layer, layer, layer] s (by decide)).mpr fun other hother => ?_
  obtain rfl : other = layer := by
    have hmem := (packed_le 0 _).subset hother
    simpa [drawnLayers] using (List.mem_filter.mp hmem).1
  exact ⟨rfl, rfl⟩

/-- A layer with one view and a depth image, as the accumulator stores it: the depth swapchain is not found. -/
theorem compRenderCsLayer_monoDepth :
    ¬∃ s', compRenderCsLayer (V := ℕ) (S := Unit) (N := Unit) (G := Unit)
      ⟨fun sc _ => ⟨fun _ => 2 * sc, fun _ => 2 * sc + 1⟩, (), (), 0, 16, id, fun _ _ => id⟩ 0
      [⟨depthArray (fun _ => some 1) (fun _ => some 2) 1 1,
        .projectionDepth (fun _ => ⟨0, 0⟩) (fun _ => ⟨0, 0⟩), ⟨false, false⟩, ()⟩]
      ⟨fun _ => ⟨0, false, 0, 0, ()⟩, 0, fun _ => (), fun _ => 0, 0, 0⟩ = some s' := by
  rintro ⟨s', hs'⟩
  cases hs'

end AugmentedInsanity.Comp
