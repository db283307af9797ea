/-
What an entry of a layer slot names: a device and swapchains, by ids a client chose. A lookup by such an id
finds the object, finds an empty place, or is outside the table; the proofs about the helpers that make the
layer calls start from these cases.
-/
import AugmentedInsanity.Ipc.Server.Layers

namespace AugmentedInsanity.Ipc

open Xrt Tables Scan

/-! ## What a layer names -/

def namedDevice (ics : IpcClientState) (layer : IpcLayerEntry) : Option XrtDevice :=
  (getXdevAndValidate ics layer.xdevId).toOption

def swapchainAt (ics : IpcClientState) (id : UInt32) : Option XrtSwapchain :=
  if h : id.toNat < IPC_MAX_CLIENT_SWAPCHAINS then ics.xscs ⟨id.toNat, h⟩ else none

/-- The `k`-th swapchain a layer names, if it exists. -/
def namedSwapchain (ics : IpcClientState) (layer : IpcLayerEntry) (k : ℕ) : Option XrtSwapchain :=
  if h : k < XRT_MAX_VIEWS * 2 then swapchainAt ics (layer.swapchainIds ⟨k, h⟩) else none

def IpcLayerEntry.views (layer : IpcLayerEntry) : ℕ := layer.data.viewCount.toNat

/-- The layer is of a known type, and its device and swapchains exist. -/
def LayerValid (ics : IpcClientState) (layer : IpcLayerEntry) : Prop :=
  (namedDevice ics layer).isSome = true ∧
    match layer.data.type with
    | .projection => ∀ k, k < layer.views → (namedSwapchain ics layer k).isSome = true
    | .projectionDepth => ∀ k, k < layer.views →
      (namedSwapchain ics layer k).isSome = true ∧ (namedSwapchain ics layer (k + layer.views)).isSome = true
    | .passthrough => True
    | .other _ => False
    | _ => (namedSwapchain ics layer 0).isSome = true

/-- Every view of the layer has the swapchain the layer names for it. -/
def ViewsNamed (ics : IpcClientState) (layer : IpcLayerEntry) (offset : ℕ) (xcs : List XrtSwapchain) : Prop :=
  ∀ k, k < layer.views → ∃ xsc, xcs[k]? = some xsc ∧ namedSwapchain ics layer (k + offset) = some xsc

/-- The device, the swapchain and the data are those of the layer. -/
def SingleNamed (ics : IpcClientState) (layer : IpcLayerEntry) (xdev : XrtDevice) (xcs : XrtSwapchain)
    (data : XrtLayerData) : Prop :=
  namedDevice ics layer = some xdev ∧ namedSwapchain ics layer 0 = some xcs ∧ data = layer.data

/-- The call carries exactly what the layer names; a compositor reads as many swapchains as the layer has
views. -/
def Names (ics : IpcClientState) (layer : IpcLayerEntry) (call : CompLayerCall) : Prop :=
  match layer.data.type, call with
  | .projection, .projection xdev xcs data =>
    namedDevice ics layer = some xdev ∧ ViewsNamed ics layer 0 xcs ∧ data = layer.data
  | .projectionDepth, .projectionDepth xdev xcs dXcs data =>
    namedDevice ics layer = some xdev ∧ ViewsNamed ics layer 0 xcs ∧ ViewsNamed ics layer layer.views dXcs ∧
      data = layer.data
  | .quad, .quad xdev xcs data => SingleNamed ics layer xdev xcs data
  | .cube, .cube xdev xcs data => SingleNamed ics layer xdev xcs data
  | .cylinder, .cylinder xdev xcs data => SingleNamed ics layer xdev xcs data
  | .equirect1, .equirect1 xdev xcs data => SingleNamed ics layer xdev xcs data
  | .equirect2, .equirect2 xdev xcs data => SingleNamed ics layer xdev xcs data
  | .passthrough, .passthrough xdev data => namedDevice ics layer = some xdev ∧ data = layer.data
  | _, _ => False

/-! ## Missing swapchains -/

/-- The `k`-th swapchain id of a layer is one of the table, where nothing is. -/
def EmptyAt (ics : IpcClientState) (layer : IpcLayerEntry) (k : ℕ) : Prop :=
  ∃ h : k < XRT_MAX_VIEWS * 2, (layer.swapchainIds ⟨k, h⟩).toNat < IPC_MAX_CLIENT_SWAPCHAINS ∧
    namedSwapchain ics layer k = none

/-- Both swapchains of the view `j` of a layer with depth exist. -/
def DepthFoundAt (ics : IpcClientState) (layer : IpcLayerEntry) (j : ℕ) : Prop :=
  (namedSwapchain ics layer j).isSome = true ∧ (namedSwapchain ics layer (j + layer.views)).isSome = true

/-- Both swapchains of the view `j` of a layer with depth have an id of the table, and one does not exist. -/
def DepthEmptyAt (ics : IpcClientState) (layer : IpcLayerEntry) (j : ℕ) : Prop :=
  j < XRT_MAX_VIEWS ∧
    ((EmptyAt ics layer j ∧
        (EmptyAt ics layer (j + layer.views) ∨ (namedSwapchain ics layer (j + layer.views)).isSome = true)) ∨
      ((namedSwapchain ics layer j).isSome = true ∧ EmptyAt ics layer (j + layer.views)))

/-! ## Lookups -/

theorem getXdevAndValidate_eq (ics : IpcClientState) (layer : IpcLayerEntry) :
    (∃ xdev, namedDevice ics layer = some xdev ∧ getXdevAndValidate ics layer.xdevId = .ok xdev) ∨
      (namedDevice ics layer = none ∧ getXdevAndValidate ics layer.xdevId = .error .errorIpcFailure) := by
  unfold namedDevice getXdevAndValidate
  rcases objectAt_cases ics.xdevs layer.xdevId with h | ⟨_, xdev, -, h⟩
  · rw [h]; exact Or.inr ⟨rfl, rfl⟩
  · rw [h]; exact Or.inl ⟨xdev, rfl, rfl⟩

theorem layerSwapchain_cases (ics : IpcClientState) (layer : IpcLayerEntry) (k : ℕ) :
    (∃ xsc, namedSwapchain ics layer k = some xsc ∧ layerSwapchain ics layer k = .ok (some xsc)) ∨
    (EmptyAt ics layer k ∧ layerSwapchain ics layer k = .ok none) ∨
    (namedSwapchain ics layer k = none ∧ ¬ EmptyAt ics layer k ∧ ∃ f, layerSwapchain ics layer k = .error f) := by
  unfold layerSwapchain
  by_cases hk : k < XRT_MAX_VIEWS * 2
  · rw [readAt_of_lt hk]
    simp only []
    have hnamed : namedSwapchain ics layer k = swapchainAt ics (layer.swapchainIds ⟨k, hk⟩) := dif_pos hk
    by_cases hid : (layer.swapchainIds ⟨k, hk⟩).toNat < IPC_MAX_CLIENT_SWAPCHAINS
    · rw [readAt_of_lt hid]
      have hat : namedSwapchain ics layer k = ics.xscs ⟨_, hid⟩ := hnamed.trans (dif_pos hid)
      rcases hx : ics.xscs ⟨(layer.swapchainIds ⟨k, hk⟩).toNat, hid⟩ with _ | xsc
      · exact Or.inr (Or.inl ⟨⟨hk, hid, hat.trans hx⟩, rfl⟩)
      · exact Or.inl ⟨xsc, hat.trans hx, rfl⟩
    · rw [readAt_of_ge hid]
      refine Or.inr (Or.inr ⟨hnamed.trans (dif_neg hid), fun he => ?_, _, rfl⟩)
      obtain ⟨_, hlt, -⟩ := he
      exact hid hlt
  · rw [readAt_of_ge hk]
    refine Or.inr (Or.inr ⟨dif_neg hk, fun he => ?_, _, rfl⟩)
    obtain ⟨hlt, -⟩ := he
    exact hk hlt

variable {layer : IpcLayerEntry} {ics : IpcClientState}

theorem EmptyAt.named {k : ℕ} (h : EmptyAt ics layer k) : namedSwapchain ics layer k = none := h.2.2

theorem layerSwapchain_some {k : ℕ} {xsc : XrtSwapchain} :
    layerSwapchain ics layer k = .ok (some xsc) ↔ namedSwapchain ics layer k = some xsc := by
  rcases layerSwapchain_cases ics layer k with ⟨x, hn, h⟩ | ⟨he, h⟩ | ⟨hn, -, f, h⟩
  · rw [hn, h]; simp
  · rw [he.named, h]; simp
  · rw [hn, h]; simp

theorem layerSwapchain_none {k : ℕ} : layerSwapchain ics layer k = .ok none ↔ EmptyAt ics layer k := by
  rcases layerSwapchain_cases ics layer k with ⟨x, hn, h⟩ | ⟨he, h⟩ | ⟨hn, hne, f, h⟩
  · refine iff_of_false (by rw [h]; simp) fun he => ?_
    rw [he.named] at hn; cases hn
  · exact iff_of_true h he
  · exact iff_of_false (by rw [h]; simp) hne

theorem depthSwapchains_cases (ics : IpcClientState) (layer : IpcLayerEntry) (j : ℕ) :
    (∃ xcs dXcs, j < XRT_MAX_VIEWS ∧ namedSwapchain ics layer j = some xcs ∧
      namedSwapchain ics layer (j + layer.views) = some dXcs ∧
      depthSwapchains ics layer j = .ok (some (xcs, dXcs))) ∨
    (DepthEmptyAt ics layer j ∧ depthSwapchains ics layer j = .ok none) ∨
    (¬ (j < XRT_MAX_VIEWS ∧ DepthFoundAt ics layer j) ∧ ¬ DepthEmptyAt ics layer j ∧
      ∃ f, depthSwapchains ics layer j = .error f) := by
  -- an id that cannot be read leaves the view neither found nor empty
  have bad : ∀ {k}, namedSwapchain ics layer k = none → ¬ EmptyAt ics layer k → (k = j ∨ k = j + layer.views) →
      ¬ (j < XRT_MAX_VIEWS ∧ DepthFoundAt ics layer j) ∧ ¬ DepthEmptyAt ics layer j := by
    intro k hnone hempty hk
    rcases hk with rfl | rfl
    · refine ⟨fun h => ?_, ?_⟩
      · rw [DepthFoundAt, hnone] at h; exact absurd h.2.1 Bool.false_ne_true
      · rintro ⟨-, ⟨he, -⟩ | ⟨hs, -⟩⟩
        · exact hempty he
        · rw [hnone] at hs; cases hs
    · refine ⟨fun h => ?_, ?_⟩
      · rw [DepthFoundAt, hnone] at h; exact absurd h.2.2 Bool.false_ne_true
      · rintro ⟨-, ⟨-, he | hs⟩ | ⟨-, he⟩⟩
        · exact hempty he
        · rw [hnone] at hs; cases hs
        · exact hempty he
  have outside : ∀ {k}, ¬ k < XRT_MAX_VIEWS * 2 → namedSwapchain ics layer k = none ∧ ¬ EmptyAt ics layer k :=
    fun hge => ⟨dif_neg hge, fun he => hge he.1⟩
  unfold depthSwapchains
  by_cases hj : j < XRT_MAX_VIEWS * 2
  swap
  · obtain ⟨hnone, hempty⟩ := outside hj
    rw [readAt_of_ge hj]
    obtain ⟨hfound, hempty⟩ := bad hnone hempty (Or.inl rfl)
    exact Or.inr (Or.inr ⟨hfound, hempty, _, rfl⟩)
  by_cases hd : j + layer.data.viewCount.toNat < XRT_MAX_VIEWS * 2
  swap
  · obtain ⟨hnone, hempty⟩ := outside (show ¬ j + layer.views < XRT_MAX_VIEWS * 2 from hd)
    rw [readAt_of_lt hj, readAt_of_ge hd]
    obtain ⟨hfound, hempty⟩ := bad hnone hempty (Or.inr rfl)
    exact Or.inr (Or.inr ⟨hfound, hempty, _, rfl⟩)
  have hx : layerSwapchain ics layer j = readAt .xscs ics.xscs (layer.swapchainIds ⟨j, hj⟩).toNat := by
    unfold layerSwapchain; rw [readAt_of_lt hj]
  have hdx : layerSwapchain ics layer (j + layer.views) =
      readAt .xscs ics.xscs (layer.swapchainIds ⟨j + layer.data.viewCount.toNat, hd⟩).toNat := by
    unfold layerSwapchain IpcLayerEntry.views; rw [readAt_of_lt hd]
  rw [readAt_of_lt hj, readAt_of_lt hd]
  simp only []
  by_cases hviews : XRT_MAX_VIEWS ≤ j
  · rw [if_pos hviews]
    refine Or.inr (Or.inr ⟨fun h => ?_, fun h => ?_, _, rfl⟩)
    · have := h.1; omega
    · have := h.1; omega
  rw [if_neg hviews, ← hx, ← hdx]
  have hlt : j < XRT_MAX_VIEWS := by omega
  rcases layerSwapchain_cases ics layer j with ⟨xcs, hn, h⟩ | ⟨he, h⟩ | ⟨hn, hne, f, h⟩
  · rw [h]
    rcases layerSwapchain_cases ics layer (j + layer.views) with ⟨dXcs, hn', h'⟩ | ⟨he', h'⟩ | ⟨hn', hne', f, h'⟩
    · rw [h']; exact Or.inl ⟨xcs, dXcs, hlt, hn, hn', rfl⟩
    · rw [h']; exact Or.inr (Or.inl ⟨⟨hlt, Or.inr ⟨by rw [hn]; rfl, he'⟩⟩, rfl⟩)
    · rw [h']
      obtain ⟨hfound, hempty⟩ := bad hn' hne' (Or.inr rfl)
      exact Or.inr (Or.inr ⟨hfound, hempty, f, rfl⟩)
  · rw [h]
    rcases layerSwapchain_cases ics layer (j + layer.views) with ⟨dXcs, hn', h'⟩ | ⟨he', h'⟩ | ⟨hn', hne', f, h'⟩
    · rw [h']; exact Or.inr (Or.inl ⟨⟨hlt, Or.inl ⟨he, Or.inr (by rw [hn']; rfl)⟩⟩, rfl⟩)
    · rw [h']; exact Or.inr (Or.inl ⟨⟨hlt, Or.inl ⟨he, Or.inl he'⟩⟩, rfl⟩)
    · rw [h']
      obtain ⟨hfound, hempty⟩ := bad hn' hne' (Or.inr rfl)
      exact Or.inr (Or.inr ⟨hfound, hempty, f, rfl⟩)
  · rw [h]
    obtain ⟨hfound, hempty⟩ := bad hn hne (Or.inl rfl)
    exact Or.inr (Or.inr ⟨hfound, hempty, f, rfl⟩)

theorem depthSwapchains_some {j : ℕ} {p : XrtSwapchain × XrtSwapchain}
    (h : depthSwapchains ics layer j = .ok (some p)) :
    j < XRT_MAX_VIEWS ∧ namedSwapchain ics layer j = some p.1 ∧ namedSwapchain ics layer (j + layer.views) = some p.2 := by
  rcases depthSwapchains_cases ics layer j with ⟨xcs, dXcs, hlt, hn, hn', heq⟩ | ⟨-, heq⟩ | ⟨-, -, f, heq⟩
  · rw [heq] at h
    obtain rfl := Option.some.inj (Except.ok.inj h)
    exact ⟨hlt, hn, hn'⟩
  · rw [heq] at h; cases h
  · rw [heq] at h; cases h

theorem depthSwapchains_found {j : ℕ} (hlt : j < XRT_MAX_VIEWS) (h : DepthFoundAt ics layer j) :
    ∃ p, depthSwapchains ics layer j = .ok (some p) := by
  rcases depthSwapchains_cases ics layer j with ⟨xcs, dXcs, -, -, -, heq⟩ | ⟨⟨-, he⟩, -⟩ | ⟨hnot, -⟩
  · exact ⟨_, heq⟩
  · rcases he with ⟨he, -⟩ | ⟨-, he⟩
    · rw [DepthFoundAt, he.named] at h; exact absurd h.1 Bool.false_ne_true
    · rw [DepthFoundAt, he.named] at h; exact absurd h.2 Bool.false_ne_true
  · exact absurd ⟨hlt, h⟩ hnot

theorem depthSwapchains_none {j : ℕ} : depthSwapchains ics layer j = .ok none ↔ DepthEmptyAt ics layer j := by
  constructor
  · intro h
    rcases depthSwapchains_cases ics layer j with ⟨xcs, dXcs, -, -, -, heq⟩ | ⟨he, -⟩ | ⟨-, -, f, heq⟩
    · rw [heq] at h; cases h
    · exact he
    · rw [heq] at h; cases h
  · intro he
    rcases depthSwapchains_cases ics layer j with ⟨xcs, dXcs, -, hn, hn', -⟩ | ⟨-, heq⟩ | ⟨-, hnot, -⟩
    · rcases he with ⟨-, ⟨he, -⟩ | ⟨-, he⟩⟩
      · rw [he.named] at hn; cases hn
      · rw [he.named] at hn'; cases hn'
    · exact heq
    · exact absurd he hnot

section
theorem namedDevice_some {xdev : XrtDevice} (h : namedDevice ics layer = some xdev) :
    getXdevAndValidate ics layer.xdevId = .ok xdev := by
  rcases getXdevAndValidate_eq ics layer with ⟨xdev', h', heq⟩ | ⟨h', -⟩
  · rw [h] at h'; cases h'; exact heq
  · rw [h] at h'; cases h'

theorem namedDevice_none (h : namedDevice ics layer = none) :
    getXdevAndValidate ics layer.xdevId = .error .errorIpcFailure := by
  rcases getXdevAndValidate_eq ics layer with ⟨xdev', h', -⟩ | ⟨-, heq⟩
  · rw [h] at h'; cases h'
  · exact heq

theorem findsBelow_layerSwapchain_iff {n : ℕ} :
    FindsBelow (layerSwapchain ics layer) 0 n ↔ ∀ k, k < n → (namedSwapchain ics layer k).isSome = true := by
  constructor
  · intro h k hk
    obtain ⟨xsc, hlook⟩ := h k hk
    rw [Nat.zero_add] at hlook
    rw [layerSwapchain_some.1 hlook]; rfl
  · intro h m hm
    obtain ⟨xsc, hx⟩ := Option.isSome_iff_exists.1 (h m hm)
    exact ⟨xsc, by rw [Nat.zero_add]; exact layerSwapchain_some.2 hx⟩

end

end AugmentedInsanity.Ipc
