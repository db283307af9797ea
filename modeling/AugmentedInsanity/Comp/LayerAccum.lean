/-
The layer accumulator of the compositors (`comp_layer_accum.c`, which the layer calls reach through `base_layer_*`): the
layers of one frame, pushed one after the other onto an array that nothing checks the end of. Each call writes its
swapchains in a closed form (`compLayerAccumProjection_eq`, `compLayerAccumProjectionDepth_eq`), and any number of pushes
fits exactly when the array is long enough (`pushAll_ok`, `pushAll_error`).
-/
import AugmentedInsanity.Lib.Scan
import AugmentedInsanity.Xrt.Defines

namespace AugmentedInsanity.Comp

open Scan Xrt

/-! ## Arrays -/

/-- What a layer call must not do: access an array past its end, or fail an assertion. -/
inductive LayerFault
  | pastEnd (index : ℕ)
  | assertFailed
  deriving DecidableEq

section
variable {n : ℕ} {α : Type*} {a : Fin n → α} {index : ℕ}

def loadAt (a : Fin n → α) (index : ℕ) : Except LayerFault α :=
  if h : index < n then .ok (a ⟨index, h⟩) else .error (.pastEnd index)

def storeAt (a : Fin n → α) (index : ℕ) (x : α) : Except LayerFault (Fin n → α) :=
  if h : index < n then .ok (Function.update a ⟨index, h⟩ x) else .error (.pastEnd index)

theorem loadAt_of_lt (h : index < n) : loadAt a index = .ok (a ⟨index, h⟩) := dif_pos h

theorem storeAt_of_lt (h : index < n) (x : α) : storeAt a index x = .ok (Function.update a ⟨index, h⟩ x) := dif_pos h

theorem storeAt_of_ge (h : n ≤ index) (x : α) : storeAt a index x = .error (.pastEnd index) := dif_neg (Nat.not_lt.2 h)

end

/-! ## The accumulator -/

/-- `sc_array` of `struct comp_layer`: the colour swapchains of the views, and places for as many depth swapchains. -/
abbrev ScArray := Fin (XRT_MAX_VIEWS * 2) → Option ℕ

structure CompLayer where
  scArray : ScArray
  data : XrtLayerData

structure CompLayerAccum where
  data : XrtLayerFrameData
  layers : Fin XRT_MAX_LAYERS → CompLayer
  layerCount : ℕ

def compLayerAccumBegin (cla : CompLayerAccum) (data : XrtLayerFrameData) : CompLayerAccum :=
  { cla with data := data, layerCount := 0 }

/-- What all of the calls do: fill in the layer at `layer_count`, and count it. -/
def CompLayerAccum.push (cla : CompLayerAccum) (layer : CompLayer) : Except LayerFault CompLayerAccum :=
  match storeAt cla.layers cla.layerCount layer with
  | .error f => .error f
  | .ok layers => .ok { cla with layers := layers, layerCount := cla.layerCount + 1 }

def pushSingleSwapchainLayer (cla : CompLayerAccum) (xsc : Option ℕ) (data : XrtLayerData) :
    Except LayerFault CompLayerAccum :=
  match storeAt (fun _ => none : ScArray) 0 xsc with
  | .error f => .error f
  | .ok scArray => cla.push ⟨scArray, data⟩

/-- The loop of `comp_layer_accum_projection`. -/
def storeColour (xsc : ℕ → Option ℕ) (i : ℕ) (sc : ScArray) : Except LayerFault ScArray := storeAt sc i (xsc i)

/-- `comp_layer_accum_projection`; the array of swapchains is read below the number of views. -/
def compLayerAccumProjection (cla : CompLayerAccum) (xsc : ℕ → Option ℕ) (data : XrtLayerData) :
    Except LayerFault CompLayerAccum :=
  if XRT_MAX_VIEWS * 2 < data.viewCount.toNat then .error .assertFailed
  else
    match forFrom (storeColour xsc) 0 data.viewCount.toNat (fun _ => none) with
    | .error f => .error f
    | .ok scArray => cla.push ⟨scArray, data⟩

/-- The loop of `comp_layer_accum_projection_depth`. -/
def storeColourAndDepth (xsc dXsc : ℕ → Option ℕ) (viewCount i : ℕ) (sc : ScArray) : Except LayerFault ScArray :=
  match storeAt sc i (xsc i) with
  | .error f => .error f
  | .ok sc => storeAt sc (i + viewCount) (dXsc i)

/-- `comp_layer_accum_projection_depth`, which asserts nothing about the number of views. -/
def compLayerAccumProjectionDepth (cla : CompLayerAccum) (xsc dXsc : ℕ → Option ℕ) (data : XrtLayerData) :
    Except LayerFault CompLayerAccum :=
  match forFrom (storeColourAndDepth xsc dXsc data.viewCount.toNat) 0 data.viewCount.toNat (fun _ => none) with
  | .error f => .error f
  | .ok scArray => cla.push ⟨scArray, data⟩

def compLayerAccumQuad (cla : CompLayerAccum) (xsc : Option ℕ) (data : XrtLayerData) :=
  pushSingleSwapchainLayer cla xsc data

def compLayerAccumCube (cla : CompLayerAccum) (xsc : Option ℕ) (data : XrtLayerData) :=
  pushSingleSwapchainLayer cla xsc data

def compLayerAccumCylinder (cla : CompLayerAccum) (xsc : Option ℕ) (data : XrtLayerData) :=
  pushSingleSwapchainLayer cla xsc data

def compLayerAccumEquirect1 (cla : CompLayerAccum) (xsc : Option ℕ) (data : XrtLayerData) :=
  pushSingleSwapchainLayer cla xsc data

def compLayerAccumEquirect2 (cla : CompLayerAccum) (xsc : Option ℕ) (data : XrtLayerData) :=
  pushSingleSwapchainLayer cla xsc data

def compLayerGetSwapchain (cl : CompLayer) (swapchainIndex : ℕ) : Except LayerFault (Option ℕ) :=
  loadAt cl.scArray swapchainIndex

/-- `comp_layer_get_depth_swapchain`. The depth swapchains are looked for behind the places of `XRT_MAX_VIEWS` colour
swapchains, however many of those there are. -/
def compLayerGetDepthSwapchain (cl : CompLayer) (swapchainIndex : ℕ) : Except LayerFault (Option ℕ) :=
  if cl.data.type ≠ .projectionDepth then .error .assertFailed else loadAt cl.scArray (XRT_MAX_VIEWS + swapchainIndex)

/-! ## What the calls write -/

/-- The first `n` places hold `xsc`, the others nothing. -/
def colourArray (xsc : ℕ → Option ℕ) (n : ℕ) : ScArray := fun j => if j.val < n then xsc j else none

/-- The first `n` places hold `xsc`; from the place `viewCount` on, `n` places hold `dXsc`. -/
def depthArray (xsc dXsc : ℕ → Option ℕ) (viewCount n : ℕ) : ScArray := fun j =>
  if j.val < n then xsc j
  else if viewCount ≤ j.val ∧ j.val < viewCount + n then dXsc (j - viewCount)
  else none

theorem colourArray_zero (xsc : ℕ → Option ℕ) : colourArray xsc 0 = fun _ => none := by
  funext j
  simp [colourArray]

theorem colourArray_succ (xsc : ℕ → Option ℕ) {i : ℕ} (hi : i < XRT_MAX_VIEWS * 2) :
    Function.update (colourArray xsc i) ⟨i, hi⟩ (xsc i) = colourArray xsc (i + 1) := by
  funext j
  by_cases hj : j = ⟨i, hi⟩
  · subst hj
    simp [colourArray]
  · have hne : j.val ≠ i := fun h => hj (Fin.ext h)
    have hiff : j.val < i + 1 ↔ j.val < i := by omega
    rw [Function.update_of_ne hj, colourArray, colourArray]
    simp only [hiff]

theorem depthArray_zero (xsc dXsc : ℕ → Option ℕ) (viewCount : ℕ) :
    depthArray xsc dXsc viewCount 0 = fun _ => none := by
  funext j
  have hnone : ¬ (viewCount ≤ j.val ∧ j.val < viewCount + 0) := by omega
  rw [depthArray, if_neg (Nat.not_lt_zero _), if_neg hnone]

theorem depthArray_succ (xsc dXsc : ℕ → Option ℕ) {viewCount i : ℕ} (hi : i < viewCount)
    (hcolour : i < XRT_MAX_VIEWS * 2) (hdepth : i + viewCount < XRT_MAX_VIEWS * 2) :
    Function.update (Function.update (depthArray xsc dXsc viewCount i) ⟨i, hcolour⟩ (xsc i)) ⟨i + viewCount, hdepth⟩
      (dXsc i) = depthArray xsc dXsc viewCount (i + 1) := by
  funext j
  -- Only the places `i` and `i + viewCount` are written, the second after the first.
  by_cases hjd : j = ⟨i + viewCount, hdepth⟩
  · subst hjd
    have hpast : ¬ i + viewCount < i + 1 := by omega
    have hin : viewCount ≤ i + viewCount ∧ i + viewCount < viewCount + (i + 1) := by omega
    rw [Function.update_self, depthArray, if_neg hpast, if_pos hin, Nat.add_sub_cancel]
  · rw [Function.update_of_ne hjd]
    have hned : j.val ≠ i + viewCount := fun h => hjd (Fin.ext h)
    by_cases hjc : j = ⟨i, hcolour⟩
    · subst hjc
      rw [Function.update_self, depthArray, if_pos (Nat.lt_succ_self i)]
    · have hnec : j.val ≠ i := fun h => hjc (Fin.ext h)
      have hiffc : j.val < i + 1 ↔ j.val < i := by omega
      have hiffd : viewCount ≤ j.val ∧ j.val < viewCount + (i + 1) ↔ viewCount ≤ j.val ∧ j.val < viewCount + i := by
        omega
      rw [Function.update_of_ne hjc, depthArray, depthArray]
      simp only [hiffc, hiffd]

theorem storeColour_loop (xsc : ℕ → Option ℕ) {n : ℕ} (hn : n ≤ XRT_MAX_VIEWS * 2) :
    forFrom (storeColour xsc) 0 n (fun _ => none) = .ok (colourArray xsc n) := by
  have hloop := forFrom_inv (b := storeColour xsc) (I := fun i sc => sc = colourArray xsc i) (i := 0) (n := n)
    (s := fun _ => none) ?_ (colourArray_zero xsc).symm
  · obtain ⟨sc, hsc, hend⟩ := hloop
    rw [hsc, hend, Nat.zero_add]
  · rintro i sc - hi rfl
    have hplace : i < XRT_MAX_VIEWS * 2 := by omega
    exact ⟨_, storeAt_of_lt hplace _, colourArray_succ xsc hplace⟩

theorem storeColourAndDepth_loop (xsc dXsc : ℕ → Option ℕ) {n : ℕ} (hn : n ≤ XRT_MAX_VIEWS) :
    forFrom (storeColourAndDepth xsc dXsc n) 0 n (fun _ => none) = .ok (depthArray xsc dXsc n n) := by
  have hloop := forFrom_inv (b := storeColourAndDepth xsc dXsc n) (I := fun i sc => sc = depthArray xsc dXsc n i)
    (i := 0) (n := n) (s := fun _ => none) ?_ (depthArray_zero xsc dXsc n).symm
  · obtain ⟨sc, hsc, hend⟩ := hloop
    rw [hsc, hend, Nat.zero_add]
  · rintro i sc - hi rfl
    have hcolour : i < XRT_MAX_VIEWS * 2 := by omega
    have hdepth : i + n < XRT_MAX_VIEWS * 2 := by omega
    refine ⟨_, ?_, depthArray_succ xsc dXsc (by omega) hcolour hdepth⟩
    unfold storeColourAndDepth
    rw [storeAt_of_lt hcolour]
    exact storeAt_of_lt hdepth _

section
variable (cla : CompLayerAccum) (xsc dXsc : ℕ → Option ℕ) {data : XrtLayerData}

theorem pushSingleSwapchainLayer_eq (data : XrtLayerData) :
    pushSingleSwapchainLayer cla (xsc 0) data = cla.push ⟨colourArray xsc 1, data⟩ := by
  have hplace : 0 < XRT_MAX_VIEWS * 2 := by decide
  unfold pushSingleSwapchainLayer
  rw [← colourArray_zero xsc, storeAt_of_lt hplace, colourArray_succ xsc hplace]

theorem compLayerAccumProjection_eq (hviews : data.viewCount.toNat ≤ XRT_MAX_VIEWS) :
    compLayerAccumProjection cla xsc data = cla.push ⟨colourArray xsc data.viewCount.toNat, data⟩ := by
  have hassert : ¬ XRT_MAX_VIEWS * 2 < data.viewCount.toNat := by omega
  unfold compLayerAccumProjection
  rw [if_neg hassert, storeColour_loop xsc (Nat.not_lt.1 hassert)]

theorem compLayerAccumProjectionDepth_eq (hviews : data.viewCount.toNat ≤ XRT_MAX_VIEWS) :
    compLayerAccumProjectionDepth cla xsc dXsc data =
      cla.push ⟨depthArray xsc dXsc data.viewCount.toNat data.viewCount.toNat, data⟩ := by
  unfold compLayerAccumProjectionDepth
  rw [storeColourAndDepth_loop xsc dXsc hviews]

end

/-! ## Layers one after the other -/

structure CompLayerAccum.Holds (cla : CompLayerAccum) (layers : List CompLayer) : Prop where
  count : cla.layerCount = layers.length
  fits : layers.length ≤ XRT_MAX_LAYERS
  layer : ∀ (k : Fin XRT_MAX_LAYERS) (cl : CompLayer), layers[k.val]? = some cl → cla.layers k = cl

theorem compLayerAccumBegin_holds (cla : CompLayerAccum) (data : XrtLayerFrameData) :
    (compLayerAccumBegin cla data).Holds [] :=
  ⟨rfl, Nat.zero_le _, fun k cl h => by cases h⟩

variable {cla : CompLayerAccum} {layers : List CompLayer} {before : List CompLayer}

theorem CompLayerAccum.Holds.push (h : cla.Holds layers) (hfits : layers.length < XRT_MAX_LAYERS) (cl : CompLayer) :
    ∃ cla', cla.push cl = .ok cla' ∧ cla'.Holds (layers ++ [cl]) := by
  have hplace : cla.layerCount < XRT_MAX_LAYERS := by
    rw [h.count]
    exact hfits
  unfold CompLayerAccum.push
  rw [storeAt_of_lt hplace]
  refine ⟨_, rfl, ?_, ?_, ?_⟩
  · rw [List.length_append, List.length_singleton, ← h.count]
  · rw [List.length_append, List.length_singleton]
    omega
  · intro k cl' hk
    by_cases hnew : k = ⟨cla.layerCount, hplace⟩
    · have hk' : (layers ++ [cl])[layers.length]? = some cl' := by rw [← hk, hnew, ← h.count]
      rw [List.getElem?_concat_length] at hk'
      rw [← Option.some.inj hk', hnew]
      exact Function.update_self ..
    · have hne : k.val ≠ layers.length := fun heq => hnew (Fin.ext (heq.trans h.count.symm))
      have hlt : k.val < (layers ++ [cl]).length := (List.getElem?_eq_some_iff.1 hk).1
      rw [List.length_append, List.length_singleton] at hlt
      rw [List.getElem?_append_left (by omega)] at hk
      exact (Function.update_of_ne hnew ..).trans (h.layer k cl' hk)

theorem CompLayerAccum.Holds.push_full (h : cla.Holds layers) (hfull : layers.length = XRT_MAX_LAYERS)
    (cl : CompLayer) : cla.push cl = .error (.pastEnd XRT_MAX_LAYERS) := by
  unfold CompLayerAccum.push
  rw [h.count, hfull, storeAt_of_ge (Nat.le_refl _)]

def CompLayerAccum.pushAll (cla : CompLayerAccum) (layers : List CompLayer) : Except LayerFault CompLayerAccum :=
  layers.foldlM CompLayerAccum.push cla

theorem pushAll_ok (h : cla.Holds before) (layers : List CompLayer)
    (hfits : before.length + layers.length ≤ XRT_MAX_LAYERS) :
    ∃ cla', cla.pushAll layers = .ok cla' ∧ cla'.Holds (before ++ layers) := by
  induction layers generalizing cla before with
  | nil => exact ⟨cla, rfl, by rwa [List.append_nil]⟩
  | cons cl layers ih =>
    rw [List.length_cons] at hfits
    obtain ⟨cla₁, hpush, h₁⟩ := h.push (by omega) cl
    have hrest : (before ++ [cl]).length + layers.length ≤ XRT_MAX_LAYERS := by
      rw [List.length_append, List.length_singleton]
      omega
    obtain ⟨cla', hall, h'⟩ := ih h₁ hrest
    refine ⟨cla', ?_, by rwa [List.append_assoc] at h'⟩
    rw [CompLayerAccum.pushAll, List.foldlM_cons, hpush]
    exact hall

theorem pushAll_error (h : cla.Holds before) (layers : List CompLayer)
    (hpast : XRT_MAX_LAYERS < before.length + layers.length) :
    cla.pushAll layers = .error (.pastEnd XRT_MAX_LAYERS) := by
  induction layers generalizing cla before with
  | nil =>
    rw [List.length_nil] at hpast
    exact absurd h.fits (Nat.not_le.2 hpast)
  | cons cl layers ih =>
    rw [List.length_cons] at hpast
    rw [CompLayerAccum.pushAll, List.foldlM_cons]
    -- Either this push is past the end, or one that comes after it.
    by_cases hfull : before.length = XRT_MAX_LAYERS
    · rw [h.push_full hfull]
      rfl
    · have hroom : before.length < XRT_MAX_LAYERS := Nat.lt_of_le_of_ne h.fits hfull
      obtain ⟨cla₁, hpush, h₁⟩ := h.push hroom cl
      have hrest : XRT_MAX_LAYERS < (before ++ [cl]).length + layers.length := by
        rw [List.length_append, List.length_singleton]
        omega
      rw [hpush]
      exact ih h₁ hrest

end AugmentedInsanity.Comp
