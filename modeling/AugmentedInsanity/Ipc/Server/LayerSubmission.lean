/-
What `_update_layers` does with the layers a client wrote. It is to succeed only if every layer names an
existing device and existing swapchains, and each call it makes is to carry what its layer names. A failed
device lookup is returned as the `true` of a `bool`, ids are not checked, and the number of views comes
from the HMD, so both hold exactly of the slots described by `SlotFits` (`layerSubmission_iff`).
-/
import AugmentedInsanity.Ipc.Server.LayerNames

namespace AugmentedInsanity.Ipc

open Xrt Tables Scan

/-! ## What is to hold of a slot -/

def IpcLayerSlot.entries (slot : IpcLayerSlot) : List IpcLayerEntry :=
  (List.ofFn slot.layers).take slot.layerCount.toNat

variable {slot : IpcLayerSlot}

theorem IpcLayerSlot.entries_length (h : slot.layerCount.toNat ≤ IPC_MAX_LAYERS) :
    slot.entries.length = slot.layerCount.toNat := by
  unfold entries
  rw [List.length_take, List.length_ofFn]
  exact Nat.min_eq_left h

theorem IpcLayerSlot.entries_getElem {k : ℕ} (h : k < slot.entries.length) (hk : k < IPC_MAX_LAYERS) :
    slot.entries[k] = slot.layers ⟨k, hk⟩ :=
  List.getElem_take.trans (List.getElem_ofFn _)

/-- What is to hold of `_update_layers`: it is defined, it succeeds only if all layers of the slot are valid
and then made the call of each, and in any case each call is that of a layer, in the order of the slot. -/
def SubmitsNamed (ics : IpcClientState) (slot : IpcLayerSlot) : Prop :=
  ∃ ok calls, updateLayers ics slot = .ok (ok, calls) ∧
    (ok = true → slot.layerCount.toNat ≤ IPC_MAX_LAYERS ∧ (∀ l ∈ slot.entries, LayerValid ics l) ∧
      List.Forall₂ (Names ics) slot.entries calls) ∧
    ∃ kept, kept.Sublist slot.entries ∧ List.Forall₂ (Names ics) kept calls

/-! ## When a slot fits -/

/-- The device exists, and so do the swapchains for all the views the helper looks up: those of the HMD for
a projection layer, which has to have as many as the layer. -/
def LayerGood (ics : IpcClientState) (layer : IpcLayerEntry) : Prop :=
  match layer.data.type with
  | .projection => ∃ xdev hmd, namedDevice ics layer = some xdev ∧ xdev.hmd = some hmd ∧
    layer.views ≤ hmd.viewCount ∧ ∀ k, k < hmd.viewCount → (namedSwapchain ics layer k).isSome = true
  | .projectionDepth => (namedDevice ics layer).isSome = true ∧ layer.views ≤ XRT_MAX_VIEWS ∧
    ∀ k, k < layer.views → DepthFoundAt ics layer k
  | .passthrough => (namedDevice ics layer).isSome = true
  | .other _ => False
  | _ => (namedDevice ics layer).isSome = true ∧ (namedSwapchain ics layer 0).isSome = true

/-- The device exists, and the first swapchain that does not has an id of the table. -/
def LayerRejected (ics : IpcClientState) (layer : IpcLayerEntry) : Prop :=
  match layer.data.type with
  | .projection => ∃ xdev hmd, namedDevice ics layer = some xdev ∧ xdev.hmd = some hmd ∧
    ∃ j, j < hmd.viewCount ∧ EmptyAt ics layer j ∧ ∀ k, k < j → (namedSwapchain ics layer k).isSome = true
  | .projectionDepth => (namedDevice ics layer).isSome = true ∧
    ∃ j, j < layer.views ∧ DepthEmptyAt ics layer j ∧ ∀ k, k < j → DepthFoundAt ics layer k
  | .passthrough | .other _ => False
  | _ => (namedDevice ics layer).isSome = true ∧ EmptyAt ics layer 0

/-- The layer is left out without a failure: its type is unknown, or its helper returns the error of the
device lookup. -/
def LayerSkipped (ics : IpcClientState) (layer : IpcLayerEntry) : Prop :=
  match layer.data.type with
  | .projection | .projectionDepth | .passthrough => namedDevice ics layer = none
  | .other _ => True
  | _ => False

/-- All layers are good and in the table, or one is rejected before any other goes wrong. -/
def SlotFits (ics : IpcClientState) (slot : IpcLayerSlot) : Prop :=
  (slot.layerCount.toNat ≤ IPC_MAX_LAYERS ∧ ∀ l ∈ slot.entries, LayerGood ics l) ∨
    ∃ before l after, slot.entries = before ++ l :: after ∧ LayerRejected ics l ∧
      ∀ b ∈ before, LayerGood ics b ∨ LayerSkipped ics b

/-! ## Projection layers -/

def Misled (ics : IpcClientState) (r : Except Fault Updated) : Prop :=
  (∃ f, r = .error f) ∨ ∃ call, r = .ok (true, some call) ∧ ∀ l, ¬ Names ics l call

structure HelperSpec (ics : IpcClientState) (layer : IpcLayerEntry) (r : Except Fault Updated) : Prop where
  good : LayerGood ics layer → ∃ call, r = .ok (true, some call) ∧ Names ics layer call
  rejected : LayerRejected ics layer → r = .ok (false, none)
  skipped : LayerSkipped ics layer → r = .ok (true, none)
  misled : ¬ LayerGood ics layer → ¬ LayerRejected ics layer → ¬ LayerSkipped ics layer → Misled ics r

section
variable {ics : IpcClientState} {layer : IpcLayerEntry} {xdev : XrtDevice} {xcs : List XrtSwapchain}

theorem updateProjectionLayer_eq {hmd : XrtHmdParts} (hdev : namedDevice ics layer = some xdev)
    (hhmd : xdev.hmd = some hmd) :
    updateProjectionLayer ics layer =
      match collect (layerSwapchain ics layer) 0 hmd.viewCount with
      | .error f => .error f
      | .ok none => .ok (false, none)
      | .ok (some xcs) => .ok (true, some (.projection xdev xcs layer.data)) := by
  unfold updateProjectionLayer
  rw [namedDevice_some hdev]
  obtain ⟨ptr, hmd'⟩ := xdev
  cases hhmd
  rfl

theorem viewsNamed_of_found {n offset : ℕ} (hviews : layer.views ≤ n)
    (hfound : ∀ m, m < n → ∃ xsc, xcs[m]? = some xsc ∧ namedSwapchain ics layer (m + offset) = some xsc) :
    ViewsNamed ics layer offset xcs := fun k hk => hfound k (hk.trans_le hviews)

theorem not_names_of_short (hshort : xcs.length < layer.views) (l : IpcLayerEntry) :
    ¬ Names ics l (.projection xdev xcs layer.data) := by
  intro hnames
  unfold Names at hnames
  split at hnames
  · rename_i hcall
    cases hcall
    obtain ⟨-, hviews, hdata⟩ := hnames
    have hcount : l.views = layer.views := by unfold IpcLayerEntry.views; rw [hdata]
    obtain ⟨xsc, hget, -⟩ := hviews xcs.length (by omega)
    rw [List.getElem?_eq_none (le_refl _)] at hget
    cases hget
  all_goals first | (rename_i hcall; cases hcall) | exact hnames

theorem updateProjectionLayer_spec (htype : layer.data.type = .projection) :
    HelperSpec ics layer (updateProjectionLayer ics layer) := by
  constructor
  · intro hgood
    simp only [LayerGood, htype] at hgood
    obtain ⟨xdev, hmd, hdev, hhmd, hviews, hsome⟩ := hgood
    obtain ⟨xcs, hcollect, hfound⟩ := collect_of_found (findsBelow_layerSwapchain_iff.2 hsome)
    refine ⟨.projection xdev xcs layer.data, ?_, ?_⟩
    · rw [updateProjectionLayer_eq hdev hhmd, hcollect]
    · simp only [Names, htype]
      refine ⟨hdev, viewsNamed_of_found hviews fun m hm => ?_, trivial⟩
      obtain ⟨xsc, hget, hlook⟩ := hfound m hm
      rw [Nat.zero_add] at hlook
      exact ⟨xsc, hget, layerSwapchain_some.1 hlook⟩
  · intro hrejected
    simp only [LayerRejected, htype] at hrejected
    obtain ⟨xdev, hmd, hdev, hhmd, j, hj, hempty, hsome⟩ := hrejected
    have hmiss : layerSwapchain ics layer (0 + j) = .ok none := by
      rw [Nat.zero_add]; exact layerSwapchain_none.2 hempty
    rw [updateProjectionLayer_eq hdev hhmd, collect_of_missing hj hmiss (findsBelow_layerSwapchain_iff.2 hsome)]
  · intro hskipped
    simp only [LayerSkipped, htype] at hskipped
    unfold updateProjectionLayer
    rw [namedDevice_none hskipped]
    rfl
  · intro hgood hrejected hskipped
    simp only [LayerGood, LayerRejected, LayerSkipped, htype] at hgood hrejected hskipped
    obtain ⟨xdev, hdev⟩ := Option.ne_none_iff_exists'.1 hskipped
    rcases hhmd : xdev.hmd with _ | hmd
    · left
      refine ⟨.nullDeref, ?_⟩
      unfold updateProjectionLayer
      rw [namedDevice_some hdev]
      simp only [hhmd]
    · rw [updateProjectionLayer_eq hdev hhmd]
      rcases collect_cases (layerSwapchain ics layer) 0 hmd.viewCount with
        ⟨xcs, hcollect, hfound⟩ | ⟨hcollect, j, hj, hmiss, hbelow⟩ | ⟨f, hcollect, -⟩
      · right
        refine ⟨.projection xdev xcs layer.data, by rw [hcollect], not_names_of_short ?_⟩
        rw [collect_length hcollect]
        by_contra hviews
        have hsome := findsBelow_layerSwapchain_iff.1 fun m hm => (hfound m hm).imp fun _ h => h.2
        exact hgood ⟨xdev, hmd, hdev, hhmd, by omega, hsome⟩
      · rw [Nat.zero_add] at hmiss
        have hsome := findsBelow_layerSwapchain_iff.1 hbelow
        exact absurd ⟨xdev, hmd, hdev, hhmd, j, hj, layerSwapchain_none.1 hmiss, hsome⟩ hrejected
      · left
        exact ⟨f, by rw [hcollect]⟩

/-! ## Projection layers with depth -/

theorem updateProjectionLayerDepth_eq (hdev : namedDevice ics layer = some xdev) :
    updateProjectionLayerDepth ics layer =
      match collect (depthSwapchains ics layer) 0 layer.views with
      | .error f => .error f
      | .ok none => .ok (false, none)
      | .ok (some xcs) =>
        .ok (true, some (.projectionDepth xdev (xcs.map Prod.fst) (xcs.map Prod.snd) layer.data)) := by
  unfold updateProjectionLayerDepth
  rw [namedDevice_some hdev]
  rfl

theorem findsBelow_depthSwapchains_iff {n : ℕ} :
    FindsBelow (depthSwapchains ics layer) 0 n ↔ n ≤ XRT_MAX_VIEWS ∧ ∀ k, k < n → DepthFoundAt ics layer k := by
  constructor
  · intro h
    have hall : ∀ k, k < n → k < XRT_MAX_VIEWS ∧ DepthFoundAt ics layer k := by
      intro k hk
      obtain ⟨p, hlook⟩ := h k hk
      rw [Nat.zero_add] at hlook
      obtain ⟨hlt, hxcs, hdXcs⟩ := depthSwapchains_some hlook
      exact ⟨hlt, by rw [hxcs]; rfl, by rw [hdXcs]; rfl⟩
    refine ⟨?_, fun k hk => (hall k hk).2⟩
    -- the view past the last swapchain would have been looked up
    by_contra hviews
    have hlt := (hall XRT_MAX_VIEWS (by omega)).1
    omega
  · rintro ⟨hn, h⟩ m hm
    rw [Nat.zero_add]
    exact depthSwapchains_found (hm.trans_le hn) (h m hm)

theorem updateProjectionLayerDepth_spec (htype : layer.data.type = .projectionDepth) :
    HelperSpec ics layer (updateProjectionLayerDepth ics layer) := by
  constructor
  · intro hgood
    simp only [LayerGood, htype] at hgood
    obtain ⟨hdev, hviews, hfoundAt⟩ := hgood
    obtain ⟨xdev, hdev⟩ := Option.isSome_iff_exists.1 hdev
    obtain ⟨xcs, hcollect, hfound⟩ := collect_of_found (findsBelow_depthSwapchains_iff.2 ⟨hviews, hfoundAt⟩)
    have hviewOf : ∀ m, m < layer.views → ∃ p, xcs[m]? = some p ∧ namedSwapchain ics layer m = some p.1 ∧
        namedSwapchain ics layer (m + layer.views) = some p.2 := by
      intro m hm
      obtain ⟨p, hget, hlook⟩ := hfound m hm
      rw [Nat.zero_add] at hlook
      exact ⟨p, hget, (depthSwapchains_some hlook).2⟩
    refine ⟨.projectionDepth xdev (xcs.map Prod.fst) (xcs.map Prod.snd) layer.data, ?_, ?_⟩
    · rw [updateProjectionLayerDepth_eq hdev, hcollect]
    · simp only [Names, htype]
      refine ⟨hdev, viewsNamed_of_found le_rfl fun m hm => ?_, viewsNamed_of_found le_rfl fun m hm => ?_, trivial⟩
      · obtain ⟨p, hget, hcolour, -⟩ := hviewOf m hm
        exact ⟨p.1, by rw [List.getElem?_map, hget]; rfl, hcolour⟩
      · obtain ⟨p, hget, -, hdepth⟩ := hviewOf m hm
        exact ⟨p.2, by rw [List.getElem?_map, hget]; rfl, hdepth⟩
  · intro hrejected
    simp only [LayerRejected, htype] at hrejected
    obtain ⟨hdev, j, hj, hempty, hfoundAt⟩ := hrejected
    obtain ⟨xdev, hdev⟩ := Option.isSome_iff_exists.1 hdev
    have hmiss : depthSwapchains ics layer (0 + j) = .ok none := by
      rw [Nat.zero_add]; exact depthSwapchains_none.2 hempty
    have hbelow := findsBelow_depthSwapchains_iff.2 ⟨le_of_lt hempty.1, hfoundAt⟩
    rw [updateProjectionLayerDepth_eq hdev, collect_of_missing hj hmiss hbelow]
  · intro hskipped
    simp only [LayerSkipped, htype] at hskipped
    unfold updateProjectionLayerDepth
    rw [namedDevice_none hskipped]
    rfl
  · intro hgood hrejected hskipped
    simp only [LayerGood, LayerRejected, LayerSkipped, htype] at hgood hrejected hskipped
    obtain ⟨xdev, hdev⟩ := Option.ne_none_iff_exists'.1 hskipped
    have hsome : (namedDevice ics layer).isSome = true := by rw [hdev]; rfl
    rw [updateProjectionLayerDepth_eq hdev]
    rcases collect_cases (depthSwapchains ics layer) 0 layer.views with
      ⟨xcs, hcollect, hfound⟩ | ⟨hcollect, j, hj, hmiss, hbelow⟩ | ⟨f, hcollect, -⟩
    · have hall := findsBelow_depthSwapchains_iff.1 fun m hm => (hfound m hm).imp fun _ h => h.2
      exact absurd ⟨hsome, hall⟩ hgood
    · rw [Nat.zero_add] at hmiss
      have hall := findsBelow_depthSwapchains_iff.1 hbelow
      exact absurd ⟨hsome, j, hj, depthSwapchains_none.1 hmiss, hall.2⟩ hrejected
    · left
      exact ⟨f, by rw [hcollect]⟩

/-! ## The other layers -/

theorem updateSingleLayer_spec (call : XrtDevice → XrtSwapchain → XrtLayerData → CompLayerCall)
    (hgood : LayerGood ics layer ↔ (namedDevice ics layer).isSome = true ∧ (namedSwapchain ics layer 0).isSome = true)
    (hrejected : LayerRejected ics layer ↔ (namedDevice ics layer).isSome = true ∧ EmptyAt ics layer 0)
    (hskipped : ¬ LayerSkipped ics layer)
    (hnames : ∀ xdev xcs data, SingleNamed ics layer xdev xcs data → Names ics layer (call xdev xcs data)) :
    HelperSpec ics layer (updateSingleLayer call ics layer) := by
  have hlook : layerSwapchain ics layer 0 = readAt .xscs ics.xscs (layer.swapchainIds 0).toNat := rfl
  constructor
  · rw [hgood]
    rintro ⟨hdev, hxcs⟩
    obtain ⟨xdev, hdev⟩ := Option.isSome_iff_exists.1 hdev
    obtain ⟨xcs, hxcs⟩ := Option.isSome_iff_exists.1 hxcs
    refine ⟨call xdev xcs layer.data, ?_, hnames _ _ _ ⟨hdev, hxcs, rfl⟩⟩
    unfold updateSingleLayer doSingle
    rw [namedDevice_some hdev, ← hlook, layerSwapchain_some.2 hxcs]
  · rw [hrejected]
    rintro ⟨hdev, hempty⟩
    obtain ⟨xdev, hdev⟩ := Option.isSome_iff_exists.1 hdev
    unfold updateSingleLayer doSingle
    rw [namedDevice_some hdev, ← hlook, layerSwapchain_none.2 hempty]
  · intro h
    exact absurd h hskipped
  · rw [hgood, hrejected]
    intro hng hnr _
    left
    unfold updateSingleLayer doSingle
    rcases getXdevAndValidate_eq ics layer with ⟨xdev, hdev, hget⟩ | ⟨-, hget⟩
    · rw [hget, ← hlook]
      have hsome : (namedDevice ics layer).isSome = true := by rw [hdev]; rfl
      rcases layerSwapchain_cases ics layer 0 with ⟨xcs, hxcs, -⟩ | ⟨hempty, -⟩ | ⟨-, -, f, hf⟩
      · exact absurd ⟨hsome, by rw [hxcs]; rfl⟩ hng
      · exact absurd ⟨hsome, hempty⟩ hnr
      · exact ⟨f, by rw [hf]⟩
    · exact ⟨.uninitialised, by rw [hget]; rfl⟩

theorem updatePassthroughLayer_spec (htype : layer.data.type = .passthrough) :
    HelperSpec ics layer (updatePassthroughLayer ics layer) := by
  unfold updatePassthroughLayer
  rcases getXdevAndValidate_eq ics layer with ⟨xdev, hdev, hget⟩ | ⟨hdev, hget⟩
  · rw [hget]
    constructor
    · intro _
      exact ⟨_, rfl, by simp only [Names, htype]; exact ⟨hdev, trivial⟩⟩
    · intro h; simp only [LayerRejected, htype] at h
    · intro h; simp only [LayerSkipped, htype, hdev] at h; cases h
    · intro h; simp only [LayerGood, htype, hdev] at h; exact absurd rfl h
  · rw [hget]
    constructor
    · intro h; simp only [LayerGood, htype, hdev] at h; cases h
    · intro h; simp only [LayerRejected, htype] at h
    · intro _; rfl
    · intro _ _ h; simp only [LayerSkipped, htype] at h; exact absurd hdev h

end

theorem updateLayer_spec (ics : IpcClientState) (layer : IpcLayerEntry) :
    HelperSpec ics layer (updateLayer ics layer) := by
  unfold updateLayer
  rcases htype : layer.data.type with _ | _ | _ | _ | _ | _ | _ | _ | value
  case projection => exact updateProjectionLayer_spec htype
  case projectionDepth => exact updateProjectionLayerDepth_spec htype
  case passthrough => exact updatePassthroughLayer_spec htype
  case other =>
    constructor
    · intro h; simp only [LayerGood, htype] at h
    · intro h; simp only [LayerRejected, htype] at h
    · intro _; rfl
    · intro _ _ h; simp only [LayerSkipped, htype] at h; exact absurd trivial h
  all_goals
    refine updateSingleLayer_spec _ ?_ ?_ ?_ ?_
    · simp only [LayerGood, htype]
    · simp only [LayerRejected, htype]
    · simp only [LayerSkipped, htype]; exact not_false
    · intro xdev xcs data h; simp only [Names, htype]; exact h

/-! ## The loop over the slot -/

variable {ics : IpcClientState}

theorem LayerGood.valid {layer : IpcLayerEntry} (h : LayerGood ics layer) : LayerValid ics layer := by
  unfold LayerGood at h
  unfold LayerValid
  rcases htype : layer.data.type with _ | _ | _ | _ | _ | _ | _ | _ | value
  all_goals simp only [htype] at h ⊢
  case projection =>
    obtain ⟨xdev, hmd, hdev, -, hviews, hsome⟩ := h
    rw [hdev]
    exact ⟨rfl, fun k hk => hsome k (hk.trans_le hviews)⟩
  case projectionDepth => exact ⟨h.1, h.2.2⟩
  case passthrough => exact ⟨h, trivial⟩
  all_goals exact h

theorem LayerSkipped.not_valid {layer : IpcLayerEntry} (h : LayerSkipped ics layer) : ¬ LayerValid ics layer := by
  rintro ⟨hdev, hrest⟩
  unfold LayerSkipped at h
  split at h
  · rw [h] at hdev; cases hdev
  · rw [h] at hdev; cases hdev
  · rw [h] at hdev; cases hdev
  · rename_i htype
    rw [htype] at hrest
    exact hrest
  · exact h

def submitThen (ics : IpcClientState) (rest : Except Fault (Bool × List CompLayerCall)) :
    List IpcLayerEntry → Except Fault (Bool × List CompLayerCall)
  | [] => rest
  | layer :: layers =>
    match updateLayer ics layer with
    | .error f => .error f
    | .ok (false, call) => .ok (false, call.toList)
    | .ok (true, call) => (submitThen ics rest layers).map fun p => (p.1, call.toList ++ p.2)

/-- What follows the layers of the table: the end of the loop, or a read past the table. -/
def pastTable (n : ℕ) : Except Fault (Bool × List CompLayerCall) :=
  if n ≤ IPC_MAX_LAYERS then .ok (true, []) else .error (.outOfBounds .layers IPC_MAX_LAYERS)

theorem updateLayersFrom_eq (ics : IpcClientState) (slot : IpcLayerSlot) (n : ℕ) :
    ∀ i, i ≤ IPC_MAX_LAYERS →
      updateLayersFrom ics slot i n =
        submitThen ics (pastTable (i + n)) (((List.ofFn slot.layers).drop i).take n) := by
  induction n with
  | zero =>
    intro i hi
    rw [List.take_zero]
    exact (if_pos hi).symm
  | succ n ih =>
    intro i hi
    unfold updateLayersFrom
    have hlength : (List.ofFn slot.layers).length = IPC_MAX_LAYERS := List.length_ofFn
    by_cases hlt : i < IPC_MAX_LAYERS
    · rw [readAt_of_lt hlt, List.drop_eq_getElem_cons (by omega), List.take_succ_cons, List.getElem_ofFn]
      have hsum : i + (n + 1) = i + 1 + n := by omega
      rcases hlayer : updateLayer ics (slot.layers ⟨i, hlt⟩) with f | ⟨_ | _, call⟩
      all_goals simp only [submitThen, hlayer, ih (i + 1) hlt, hsum]
    · have hend : i = IPC_MAX_LAYERS := by omega
      subst hend
      rw [readAt_of_ge hlt, List.drop_eq_nil_of_le (by omega), List.take_nil]
      exact (if_neg (by omega)).symm

theorem updateLayers_eq (ics : IpcClientState) (slot : IpcLayerSlot) :
    updateLayers ics slot = submitThen ics (pastTable slot.layerCount.toNat) slot.entries := by
  have h := updateLayersFrom_eq ics slot slot.layerCount.toNat 0 (Nat.zero_le _)
  rw [Nat.zero_add, List.drop_zero] at h
  exact h

theorem submitThen_append (ics : IpcClientState) (rest : Except Fault (Bool × List CompLayerCall))
    (after before : List IpcLayerEntry) (h : ∀ b ∈ before, LayerGood ics b ∨ LayerSkipped ics b) :
    ∃ kept calls, kept.Sublist before ∧ List.Forall₂ (Names ics) kept calls ∧
      ((∀ b ∈ before, LayerGood ics b) → kept = before) ∧
      submitThen ics rest (before ++ after) = (submitThen ics rest after).map fun p => (p.1, calls ++ p.2) := by
  induction before with
  | nil =>
    refine ⟨[], [], List.Sublist.refl _, .nil, fun _ => rfl, ?_⟩
    rcases hafter : submitThen ics rest after with f | p
    · simp [hafter, Except.map]
    · simp [hafter, Except.map]
  | cons b before ih =>
    obtain ⟨hb, hbefore⟩ := List.forall_mem_cons.1 h
    obtain ⟨kept, calls, hsub, hnames, hkept, heq⟩ := ih hbefore
    have hspec := updateLayer_spec ics b
    rcases hafter : submitThen ics rest after with f | p
    all_goals rw [hafter] at heq
    all_goals
      rcases hb with hgood | hskipped
      · obtain ⟨call, hupdate, hcall⟩ := hspec.good hgood
        refine ⟨b :: kept, call :: calls, hsub.cons_cons b, .cons hcall hnames, fun hall => ?_, ?_⟩
        · rw [hkept (List.forall_mem_cons.1 hall).2]
        · rw [List.cons_append, submitThen, hupdate, heq]; rfl
      · refine ⟨kept, calls, hsub.cons b, hnames, fun hall => ?_, ?_⟩
        · exact absurd (List.forall_mem_cons.1 hall).1.valid hskipped.not_valid
        · rw [List.cons_append, submitThen, hspec.skipped hskipped, heq]; rfl

theorem updateLayers_of_all (ics : IpcClientState) (slot : IpcLayerSlot)
    (h : ∀ b ∈ slot.entries, LayerGood ics b ∨ LayerSkipped ics b) :
    ∃ kept calls, kept.Sublist slot.entries ∧ List.Forall₂ (Names ics) kept calls ∧
      ((∀ b ∈ slot.entries, LayerGood ics b) → kept = slot.entries) ∧
      updateLayers ics slot = (pastTable slot.layerCount.toNat).map fun p => (p.1, calls ++ p.2) := by
  obtain ⟨kept, calls, hsub, hnames, hkept, heq⟩ :=
    submitThen_append ics (pastTable slot.layerCount.toNat) [] slot.entries h
  rw [List.append_nil] at heq
  exact ⟨kept, calls, hsub, hnames, hkept, by rw [updateLayers_eq, heq]; rfl⟩

theorem not_submitsNamed_of_misled {before after : List IpcLayerEntry} {l : IpcLayerEntry}
    (hentries : slot.entries = before ++ l :: after) (hbefore : ∀ b ∈ before, LayerGood ics b ∨ LayerSkipped ics b)
    (hl : Misled ics (updateLayer ics l)) : ¬ SubmitsNamed ics slot := by
  rintro ⟨ok, calls, hupdate, -, kept, -, hnames⟩
  obtain ⟨-, callsBefore, -, -, -, heq⟩ :=
    submitThen_append ics (pastTable slot.layerCount.toNat) (l :: after) before hbefore
  rw [updateLayers_eq, hentries, heq] at hupdate
  rcases hl with ⟨f, hf⟩ | ⟨call, hcall, hnone⟩
  · rw [submitThen, hf] at hupdate
    cases hupdate
  · rw [submitThen, hcall] at hupdate
    rcases hafter : submitThen ics (pastTable slot.layerCount.toNat) after with f | p
    · rw [hafter] at hupdate; cases hupdate
    · rw [hafter] at hupdate
      obtain ⟨-, rfl⟩ := Prod.mk.inj (Except.ok.inj hupdate)
      obtain ⟨l', _, hl', -⟩ := List.forall₂_cons_right_iff.1 (List.forall₂_drop_append _ _ _ hnames)
      exact hnone l' hl'

/-! ## What is submitted -/

theorem updateLayers_of_good (hcount : slot.layerCount.toNat ≤ IPC_MAX_LAYERS)
    (hgood : ∀ l ∈ slot.entries, LayerGood ics l) :
    ∃ calls, updateLayers ics slot = .ok (true, calls) ∧ List.Forall₂ (Names ics) slot.entries calls := by
  obtain ⟨kept, calls, -, hnames, hkept, heq⟩ := updateLayers_of_all ics slot fun b hb => Or.inl (hgood b hb)
  obtain rfl := hkept hgood
  refine ⟨calls, ?_, hnames⟩
  rw [heq, pastTable, if_pos hcount]
  simp [Except.map]

theorem submitsNamed_of_fits (h : SlotFits ics slot) : SubmitsNamed ics slot := by
  rcases h with ⟨hcount, hgood⟩ | ⟨before, l, after, hentries, hl, hbefore⟩
  · obtain ⟨calls, heq, hnames⟩ := updateLayers_of_good hcount hgood
    exact ⟨true, calls, heq, fun _ => ⟨hcount, fun l hl => (hgood l hl).valid, hnames⟩, _, .refl _, hnames⟩
  · obtain ⟨kept, calls, hsub, hnames, -, heq⟩ :=
      submitThen_append ics (pastTable slot.layerCount.toNat) (l :: after) before hbefore
    refine ⟨false, calls, ?_, fun hok => (by cases hok), kept, ?_, hnames⟩
    · rw [updateLayers_eq, hentries, heq, submitThen, (updateLayer_spec ics l).rejected hl]
      simp [Except.map]
    · rw [hentries]
      exact hsub.trans (List.sublist_append_left before (l :: after))

theorem fits_of_submitsNamed (h : SubmitsNamed ics slot) : SlotFits ics slot := by
  rcases all_or_first (fun b => LayerGood ics b ∨ LayerSkipped ics b) slot.entries with
    hall | ⟨before, l, after, hentries, hbefore, hl⟩
  · left
    obtain ⟨kept, calls, -, -, -, heq⟩ := updateLayers_of_all ics slot hall
    obtain ⟨ok, calls', hupdate, hok, -⟩ := h
    rw [heq] at hupdate
    by_cases hcount : slot.layerCount.toNat ≤ IPC_MAX_LAYERS
    · rw [pastTable, if_pos hcount] at hupdate
      obtain ⟨rfl, -⟩ := Prod.mk.inj (Except.ok.inj hupdate)
      refine ⟨hcount, fun b hb => (hall b hb).resolve_right fun hskipped => ?_⟩
      exact hskipped.not_valid ((hok rfl).2.1 b hb)
    · rw [pastTable, if_neg hcount] at hupdate
      cases hupdate
  · right
    by_cases hrejected : LayerRejected ics l
    · exact ⟨before, l, after, hentries, hrejected, hbefore⟩
    · have hmisled := (updateLayer_spec ics l).misled (fun hg => hl (Or.inl hg)) hrejected fun hs => hl (Or.inr hs)
      exact absurd h (not_submitsNamed_of_misled hentries hbefore hmisled)

/-- The submission succeeds only on valid layers and makes the calls they name exactly when the slot fits. -/
theorem layerSubmission_iff (ics : IpcClientState) (slot : IpcLayerSlot) :
    SubmitsNamed ics slot ↔ SlotFits ics slot :=
  ⟨fits_of_submitsNamed, submitsNamed_of_fits⟩

/-- A slot with one layer, which names the device 0 and the swapchain 0. -/
def oneLayer (type : XrtLayerType) : IpcLayerSlot :=
  ⟨⟨0, 0, 0⟩, 1, Function.update (fun _ => .zero) 0 ⟨0, fun _ => 0, ⟨type, 1, []⟩⟩⟩

def clientWithoutDevices : IpcClientState := { IpcClientState.zero with xs := some 0, xc := some 1 }

/-- For a device that does not exist a quad layer is submitted with parameters that were never written, and a
projection layer is dropped as a success. -/
theorem missingDevice_notSubmitted :
    ¬ SubmitsNamed clientWithoutDevices (oneLayer .quad) ∧ ¬ SubmitsNamed clientWithoutDevices (oneLayer .projection) := by
  have hquad : updateLayers clientWithoutDevices (oneLayer .quad) = .error .uninitialised := by decide +kernel
  have hprojection : updateLayers clientWithoutDevices (oneLayer .projection) = .ok (true, []) := by decide +kernel
  constructor
  · rintro ⟨ok, calls, hupdate, -⟩
    rw [hquad] at hupdate
    cases hupdate
  · rintro ⟨ok, calls, hupdate, hok, -⟩
    rw [hprojection] at hupdate
    obtain ⟨rfl, rfl⟩ := Prod.mk.inj (Except.ok.inj hupdate)
    have hnames := (hok rfl).2.2.length_eq
    revert hnames
    decide +kernel

end AugmentedInsanity.Ipc
