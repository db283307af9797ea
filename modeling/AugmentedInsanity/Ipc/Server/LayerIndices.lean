/-
The indices of a layer submission. The slot id, the number of layers, the numbers of views and the
swapchain ids come from the client, and the submission stays in the tables exactly for the slots described
by `SlotInTables` (`updateLayers_inTables`).
-/
import AugmentedInsanity.Ipc.Server.LayerSubmission

namespace AugmentedInsanity.Ipc

open Xrt Tables Scan

/-! ## Ids outside the tables -/

/-- The place of the `k`-th swapchain id is outside the layer, or the id is outside the swapchain table. -/
def IdOutside (layer : IpcLayerEntry) (k : ℕ) : Prop :=
  ∀ h : k < XRT_MAX_VIEWS * 2, IPC_MAX_CLIENT_SWAPCHAINS ≤ (layer.swapchainIds ⟨k, h⟩).toNat

/-- The view `j` of a layer with depth is past the arrays of the helper, or one of its ids is outside. -/
def DepthOutsideAt (layer : IpcLayerEntry) (j : ℕ) : Prop :=
  XRT_MAX_VIEWS ≤ j ∨ IdOutside layer j ∨ IdOutside layer (j + layer.views)

/-- The helper finds everything it looks up and returns `true`. -/
def LayerPasses (ics : IpcClientState) (layer : IpcLayerEntry) : Prop :=
  match layer.data.type with
  | .projection => namedDevice ics layer = none ∨ ∃ xdev hmd, namedDevice ics layer = some xdev ∧
    xdev.hmd = some hmd ∧ ∀ k, k < hmd.viewCount → (namedSwapchain ics layer k).isSome = true
  | .projectionDepth => namedDevice ics layer = none ∨
    (layer.views ≤ XRT_MAX_VIEWS ∧ ∀ k, k < layer.views → DepthFoundAt ics layer k)
  | .passthrough | .other _ => True
  | _ => (namedDevice ics layer).isSome = true ∧ (namedSwapchain ics layer 0).isSome = true

/-- The device exists, and the first lookup that finds nothing is outside a table. -/
def LayerOutside (ics : IpcClientState) (layer : IpcLayerEntry) : Prop :=
  match layer.data.type with
  | .projection => ∃ xdev hmd, namedDevice ics layer = some xdev ∧ xdev.hmd = some hmd ∧
    ∃ j, j < hmd.viewCount ∧ IdOutside layer j ∧ ∀ k, k < j → (namedSwapchain ics layer k).isSome = true
  | .projectionDepth => (namedDevice ics layer).isSome = true ∧
    ∃ j, j < layer.views ∧ DepthOutsideAt layer j ∧ ∀ k, k < j → DepthFoundAt ics layer k
  | .passthrough | .other _ => False
  | _ => (namedDevice ics layer).isSome = true ∧ IdOutside layer 0

/-- No layer that is reached has an index outside, and if all are passed the slot has room for their number. -/
def SlotInTables (ics : IpcClientState) (slot : IpcLayerSlot) : Prop :=
  (∀ before l after, slot.entries = before ++ l :: after → (∀ b ∈ before, LayerPasses ics b) → ¬ LayerOutside ics l) ∧
    ((∀ l ∈ slot.entries, LayerPasses ics l) → slot.layerCount.toNat ≤ IPC_MAX_LAYERS)

/-! ## Lookups -/

section
variable {ics : IpcClientState} {layer : IpcLayerEntry} {k : ℕ} {j : ℕ}

theorem IdOutside.named (h : IdOutside layer k) : namedSwapchain ics layer k = none := by
  unfold namedSwapchain
  by_cases hk : k < XRT_MAX_VIEWS * 2
  · rw [dif_pos hk]
    exact dif_neg (Nat.not_lt.2 (h hk))
  · exact dif_neg hk

theorem IdOutside.not_empty (h : IdOutside layer k) : ¬ EmptyAt ics layer k := by
  rintro ⟨hk, hlt, -⟩
  exact Nat.not_lt.2 (h hk) hlt

theorem named_or_empty_or_outside (ics : IpcClientState) (layer : IpcLayerEntry) (k : ℕ) :
    (namedSwapchain ics layer k).isSome = true ∨ EmptyAt ics layer k ∨ IdOutside layer k := by
  by_cases hk : k < XRT_MAX_VIEWS * 2
  · by_cases hid : (layer.swapchainIds ⟨k, hk⟩).toNat < IPC_MAX_CLIENT_SWAPCHAINS
    · rcases hn : namedSwapchain ics layer k with _ | xsc
      · exact Or.inr (Or.inl ⟨hk, hid, hn⟩)
      · exact Or.inl rfl
    · exact Or.inr (Or.inr fun _ => Nat.not_lt.1 hid)
  · exact Or.inr (Or.inr fun h => absurd h hk)

theorem layerSwapchain_error_iff : (∃ f, layerSwapchain ics layer k = .error f) ↔ IdOutside layer k := by
  rcases named_or_empty_or_outside ics layer k with hs | he | ho
  · obtain ⟨xsc, hn⟩ := Option.isSome_iff_exists.1 hs
    refine iff_of_false (by rw [layerSwapchain_some.2 hn]; simp) fun ho => ?_
    rw [ho.named] at hn; cases hn
  · exact iff_of_false (by rw [layerSwapchain_none.2 he]; simp) fun ho => ho.not_empty he
  · refine iff_of_true ?_ ho
    rcases layerSwapchain_cases ics layer k with ⟨xsc, hn, -⟩ | ⟨he, -⟩ | ⟨-, -, hf⟩
    · rw [ho.named] at hn; cases hn
    · exact absurd he ho.not_empty
    · exact hf

theorem layerSwapchain_outOfBounds {f : Fault} (h : layerSwapchain ics layer k = .error f) :
    ∃ table index, f = .outOfBounds table index := by
  unfold layerSwapchain at h
  split at h
  · rename_i hr; cases h; exact ⟨_, _, readAt_error hr⟩
  · exact ⟨_, _, readAt_error h⟩

theorem DepthOutsideAt.not_found (h : DepthOutsideAt layer j) : ¬ (j < XRT_MAX_VIEWS ∧ DepthFoundAt ics layer j) := by
  rintro ⟨hlt, hfound⟩
  rcases h with hge | ho | ho
  · omega
  · rw [DepthFoundAt, ho.named] at hfound; exact absurd hfound.1 Bool.false_ne_true
  · rw [DepthFoundAt, ho.named] at hfound; exact absurd hfound.2 Bool.false_ne_true

theorem DepthOutsideAt.not_empty (h : DepthOutsideAt layer j) : ¬ DepthEmptyAt ics layer j := by
  rintro ⟨hlt, hempty⟩
  rcases h with hge | ho | ho
  · omega
  · rcases hempty with ⟨he, -⟩ | ⟨hs, -⟩
    · exact ho.not_empty he
    · rw [ho.named] at hs; cases hs
  · rcases hempty with ⟨-, he | hs⟩ | ⟨-, he⟩
    · exact ho.not_empty he
    · rw [ho.named] at hs; cases hs
    · exact ho.not_empty he

theorem depth_found_or_empty_or_outside (ics : IpcClientState) (layer : IpcLayerEntry) (j : ℕ) :
    (j < XRT_MAX_VIEWS ∧ DepthFoundAt ics layer j) ∨ DepthEmptyAt ics layer j ∨ DepthOutsideAt layer j := by
  by_cases hlt : j < XRT_MAX_VIEWS
  · rcases named_or_empty_or_outside ics layer j with hs | he | ho
    · rcases named_or_empty_or_outside ics layer (j + layer.views) with hs' | he' | ho'
      · exact Or.inl ⟨hlt, hs, hs'⟩
      · exact Or.inr (Or.inl ⟨hlt, Or.inr ⟨hs, he'⟩⟩)
      · exact Or.inr (Or.inr (Or.inr (Or.inr ho')))
    · rcases named_or_empty_or_outside ics layer (j + layer.views) with hs' | he' | ho'
      · exact Or.inr (Or.inl ⟨hlt, Or.inl ⟨he, Or.inr hs'⟩⟩)
      · exact Or.inr (Or.inl ⟨hlt, Or.inl ⟨he, Or.inl he'⟩⟩)
      · exact Or.inr (Or.inr (Or.inr (Or.inr ho')))
    · exact Or.inr (Or.inr (Or.inr (Or.inl ho)))
  · exact Or.inr (Or.inr (Or.inl (Nat.not_lt.1 hlt)))

theorem depthSwapchains_outOfBounds {f : Fault} (h : depthSwapchains ics layer j = .error f) :
    ∃ table index, f = .outOfBounds table index := by
  unfold depthSwapchains at h
  split at h
  · rename_i hr; cases h; exact ⟨_, _, readAt_error hr⟩
  · rename_i hr _; cases h; exact ⟨_, _, readAt_error hr⟩
  · split at h
    · cases h; exact ⟨_, _, rfl⟩
    · split at h
      · rename_i hr; cases h; exact ⟨_, _, readAt_error hr⟩
      · rename_i hr _; cases h; exact ⟨_, _, readAt_error hr⟩
      · cases h
      · cases h

theorem depthSwapchains_error_iff : (∃ f, depthSwapchains ics layer j = .error f) ↔ DepthOutsideAt layer j := by
  rcases depthSwapchains_cases ics layer j with ⟨xcs, dXcs, hlt, hn, hn', heq⟩ | ⟨he, heq⟩ | ⟨hfound, hempty, f, heq⟩
  · refine iff_of_false (by rw [heq]; simp) fun ho => ?_
    have hfound : DepthFoundAt ics layer j := ⟨by rw [hn]; rfl, by rw [hn']; rfl⟩
    exact ho.not_found ⟨hlt, hfound⟩
  · exact iff_of_false (by rw [heq]; simp) fun ho => ho.not_empty he
  · refine iff_of_true ⟨f, heq⟩ ?_
    exact ((depth_found_or_empty_or_outside ics layer j).resolve_left hfound).resolve_left hempty

/-! ## Helpers -/

theorem collect_inTables {α : Type} {f : ℕ → Except Fault (Option α)} {k n : ℕ}
    (hf : ∀ j e, f j = .error e → ∃ table index, e = .outOfBounds table index) :
    InTables (collect f k n) ↔ ¬ ∃ j, j < n ∧ (∃ e, f (k + j) = .error e) ∧ FindsBelow f k j := by
  constructor
  · rintro hin ⟨j, hj, ⟨e, herr⟩, hbelow⟩
    obtain ⟨table, index, rfl⟩ := hf _ _ herr
    exact hin table index (collect_of_error hj herr hbelow)
  · intro h table index herr
    obtain ⟨j, hj, hej, hbelow⟩ := collect_error_iff.1 herr
    exact h ⟨j, hj, ⟨_, hej⟩, hbelow⟩

structure IndexSpec (ics : IpcClientState) (layer : IpcLayerEntry) (r : Except Fault Updated) : Prop where
  passes : (∃ call, r = .ok (true, call)) ↔ LayerPasses ics layer
  inTables : InTables r ↔ ¬ LayerOutside ics layer

theorem collected_index {α : Type} {f : ℕ → Except Fault (Option α)} {n : ℕ} {r : Except Fault Updated}
    (hf : ∀ j e, f j = .error e → ∃ table index, e = .outOfBounds table index)
    (herr : ∀ e, collect f 0 n = .error e → r = .error e) (hmiss : collect f 0 n = .ok none → r = .ok (false, none))
    (hfound : ∀ l, collect f 0 n = .ok (some l) → ∃ call, r = .ok (true, call)) :
    ((∃ call, r = .ok (true, call)) ↔ FindsBelow f 0 n) ∧
      (InTables r ↔ ¬ ∃ j, j < n ∧ (∃ e, f j = .error e) ∧ FindsBelow f 0 j) := by
  have hin := collect_inTables (k := 0) (n := n) hf
  simp only [Nat.zero_add] at hin
  rw [← hin, ← collect_found_iff]
  rcases hl : collect f 0 n with e | _ | l
  · rw [herr e hl]; simp
  · rw [hmiss hl]; simp
  · obtain ⟨call, hcall⟩ := hfound l hl
    rw [hcall]; simp

theorem updateProjectionLayer_index (htype : layer.data.type = .projection) :
    IndexSpec ics layer (updateProjectionLayer ics layer) := by
  rcases hdev : namedDevice ics layer with _ | xdev
  · have heq : updateProjectionLayer ics layer = .ok (true, none) := by
      unfold updateProjectionLayer; rw [namedDevice_none hdev]; rfl
    constructor
    · simp [heq, LayerPasses, htype, hdev]
    · simp [heq, LayerOutside, htype, hdev]
  rcases hhmd : xdev.hmd with _ | hmd
  · have heq : updateProjectionLayer ics layer = .error .nullDeref := by
      unfold updateProjectionLayer; rw [namedDevice_some hdev]; simp only [hhmd]
    constructor
    · simp [heq, LayerPasses, htype, hdev, hhmd]
    · simp [heq, LayerOutside, htype, hdev, hhmd]
  have heq := updateProjectionLayer_eq hdev hhmd
  obtain ⟨hpasses, hin⟩ := collected_index (r := updateProjectionLayer ics layer)
    (fun _ _ => layerSwapchain_outOfBounds) (fun e he => by rw [heq, he]) (fun hn => by rw [heq, hn])
    (fun l hl => ⟨_, by rw [heq, hl]⟩)
  simp only [findsBelow_layerSwapchain_iff, layerSwapchain_error_iff] at hpasses hin
  constructor
  · rw [hpasses]
    simp [LayerPasses, htype, hdev, hhmd]
  · rw [hin]
    simp [LayerOutside, htype, hdev, hhmd]

theorem updateProjectionLayerDepth_index (htype : layer.data.type = .projectionDepth) :
    IndexSpec ics layer (updateProjectionLayerDepth ics layer) := by
  rcases hdev : namedDevice ics layer with _ | xdev
  · have heq : updateProjectionLayerDepth ics layer = .ok (true, none) := by
      unfold updateProjectionLayerDepth; rw [namedDevice_none hdev]; rfl
    constructor
    · simp [heq, LayerPasses, htype, hdev]
    · simp [heq, LayerOutside, htype, hdev]
  have heq := updateProjectionLayerDepth_eq hdev
  obtain ⟨hpasses, hin⟩ := collected_index (r := updateProjectionLayerDepth ics layer)
    (fun _ _ => depthSwapchains_outOfBounds) (fun e he => by rw [heq, he]) (fun hn => by rw [heq, hn])
    (fun l hl => ⟨_, by rw [heq, hl]⟩)
  simp only [findsBelow_depthSwapchains_iff, depthSwapchains_error_iff] at hpasses hin
  constructor
  · rw [hpasses]
    simp [LayerPasses, htype, hdev]
  · rw [hin]
    simp only [LayerOutside, htype, hdev, Option.isSome_some, true_and]
    refine not_congr ⟨fun ⟨j, hj, ho, hbelow⟩ => ⟨j, hj, ho, hbelow.2⟩, ?_⟩
    rintro ⟨j, hj, ho, hbelow⟩
    -- a view past the arrays is outside itself, so the loop stops at the first of them
    by_cases hlt : j ≤ XRT_MAX_VIEWS
    · exact ⟨j, hj, ho, hlt, hbelow⟩
    · exact ⟨XRT_MAX_VIEWS, by omega, Or.inl (le_refl _), le_refl _, fun k hk => hbelow k (by omega)⟩

theorem updateSingleLayer_index (call : XrtDevice → XrtSwapchain → XrtLayerData → CompLayerCall)
    (hpasses : LayerPasses ics layer ↔
      (namedDevice ics layer).isSome = true ∧ (namedSwapchain ics layer 0).isSome = true)
    (houtside : LayerOutside ics layer ↔ (namedDevice ics layer).isSome = true ∧ IdOutside layer 0) :
    IndexSpec ics layer (updateSingleLayer call ics layer) := by
  have hlook : layerSwapchain ics layer 0 = readAt .xscs ics.xscs (layer.swapchainIds 0).toNat := rfl
  rcases hdev : namedDevice ics layer with _ | xdev
  · have heq : updateSingleLayer call ics layer = .error .uninitialised := by
      unfold updateSingleLayer doSingle; rw [namedDevice_none hdev]; rfl
    constructor
    · simp [heq, hpasses, hdev]
    · simp [heq, houtside, hdev]
  have hret : updateSingleLayer call ics layer = (layerSwapchain ics layer 0).map fun
      | none => (false, none)
      | some xcs => (true, some (call xdev xcs layer.data)) := by
    unfold updateSingleLayer doSingle
    rw [namedDevice_some hdev, hlook]
    rcases readAt .xscs ics.xscs (layer.swapchainIds 0).toNat with f | _ | xcs <;> rfl
  constructor
  · rw [hret, hpasses, hdev]
    rcases named_or_empty_or_outside ics layer 0 with hs | he | ho
    · obtain ⟨xcs, hn⟩ := Option.isSome_iff_exists.1 hs
      rw [layerSwapchain_some.2 hn, hn]; simp [Except.map]
    · rw [layerSwapchain_none.2 he, he.named]; simp [Except.map]
    · obtain ⟨f, hf⟩ := layerSwapchain_error_iff.2 ho
      rw [hf, ho.named]; simp [Except.map]
  · rw [hret, houtside, hdev, inTables_map]
    constructor
    · rintro hin ⟨-, ho⟩
      obtain ⟨f, hf⟩ := layerSwapchain_error_iff.2 ho
      obtain ⟨table, index, rfl⟩ := layerSwapchain_outOfBounds hf
      exact hin table index hf
    · intro h table index hf
      exact h ⟨rfl, layerSwapchain_error_iff.1 ⟨_, hf⟩⟩

theorem updateLayer_index (ics : IpcClientState) (layer : IpcLayerEntry) :
    IndexSpec ics layer (updateLayer ics layer) := by
  unfold updateLayer
  rcases htype : layer.data.type with _ | _ | _ | _ | _ | _ | _ | _ | value
  case projection => exact updateProjectionLayer_index htype
  case projectionDepth => exact updateProjectionLayerDepth_index htype
  case passthrough =>
    have hin : ∃ call, updatePassthroughLayer ics layer = .ok (true, call) := by
      unfold updatePassthroughLayer
      rcases getXdevAndValidate_eq ics layer with ⟨xdev, -, hget⟩ | ⟨-, hget⟩
      · exact ⟨_, by rw [hget]⟩
      · exact ⟨_, by rw [hget]; rfl⟩
    obtain ⟨call, heq⟩ := hin
    constructor
    · simp [heq, LayerPasses, htype]
    · simp [heq, LayerOutside, htype]
  case other =>
    constructor
    · simp [LayerPasses, htype]
    · simp [LayerOutside, htype]
  all_goals
    refine updateSingleLayer_index _ ?_ ?_
    · simp only [LayerPasses, htype]
    · simp only [LayerOutside, htype]

end

variable {ics : IpcClientState} {rest : Except Fault (Bool × List CompLayerCall)}

theorem LayerPasses.not_outside {layer : IpcLayerEntry} (h : LayerPasses ics layer) : ¬ LayerOutside ics layer := by
  obtain ⟨call, hcall⟩ := (updateLayer_index ics layer).passes.2 h
  refine (updateLayer_index ics layer).inTables.1 ?_
  rw [hcall]
  exact inTables_ok _

/-! ## The loop over the slot -/

theorem submitThen_inTables_append {before after : List IpcLayerEntry} (h : ∀ b ∈ before, LayerPasses ics b) :
    InTables (submitThen ics rest (before ++ after)) ↔ InTables (submitThen ics rest after) := by
  induction before with
  | nil => exact Iff.rfl
  | cons b before ih =>
    obtain ⟨hb, hbefore⟩ := List.forall_mem_cons.1 h
    obtain ⟨call, hcall⟩ := (updateLayer_index ics b).passes.2 hb
    rw [List.cons_append, submitThen, hcall]
    simp only [inTables_map]
    exact ih hbefore

theorem submitThen_inTables_cons {l : IpcLayerEntry} {after : List IpcLayerEntry} (h : ¬ LayerPasses ics l) :
    InTables (submitThen ics rest (l :: after)) ↔ ¬ LayerOutside ics l := by
  rw [← (updateLayer_index ics l).inTables, submitThen]
  rcases hl : updateLayer ics l with f | ⟨_ | _, call⟩
  · simp
  · simp
  · exact absurd ((updateLayer_index ics l).passes.1 ⟨call, hl⟩) h

theorem pastTable_inTables {n : ℕ} : InTables (pastTable n) ↔ n ≤ IPC_MAX_LAYERS := by
  unfold pastTable
  split
  · simpa using ‹n ≤ IPC_MAX_LAYERS›
  · simpa using ‹¬ n ≤ IPC_MAX_LAYERS›

theorem updateLayers_inTables (ics : IpcClientState) (slot : IpcLayerSlot) :
    InTables (updateLayers ics slot) ↔ SlotInTables ics slot := by
  rw [updateLayers_eq]
  unfold SlotInTables
  rcases all_or_first (LayerPasses ics) slot.entries with hall | ⟨before, l, after, hentries, hbefore, hl⟩
  · have hloop : InTables (submitThen ics (pastTable slot.layerCount.toNat) (slot.entries ++ [])) ↔
        InTables (submitThen ics (pastTable slot.layerCount.toNat) []) := submitThen_inTables_append hall
    rw [List.append_nil] at hloop
    rw [hloop, show submitThen ics (pastTable slot.layerCount.toNat) [] = pastTable slot.layerCount.toNat from rfl,
      pastTable_inTables]
    refine ⟨fun hcount => ⟨fun before l after hentries _ => ?_, fun _ => hcount⟩, fun h => h.2 hall⟩
    exact (hall l (by rw [hentries]; simp)).not_outside
  · rw [hentries, submitThen_inTables_append hbefore, submitThen_inTables_cons hl]
    constructor
    · intro hin
      refine ⟨fun before' l' after' hsplit hbefore' ho => ?_, fun hall => absurd (hall l (by simp)) hl⟩
      obtain rfl := first_unique hsplit hbefore hl hbefore' fun hpass => hpass.not_outside ho
      exact hin ho
    · intro h
      exact h.1 before l after rfl hbefore

/-! ## Sync -/

/-- The slot is one of the shared memory, and its layers stay in the tables. -/
def SyncInTables (ics : IpcClientState) (ism : Option IpcSharedMemory) (slotId : UInt32) : Prop :=
  ∀ m, ism = some m → ∃ h : slotId.toNat < IPC_MAX_SLOTS, SlotInTables ics (m.slots ⟨slotId.toNat, h⟩)

variable {ism : Option IpcSharedMemory} {currentSlotIndex slotId : UInt32}

theorem syncSlot_inTables {commit : CompCall} :
    InTables (syncSlot ics ism currentSlotIndex slotId commit) ↔ SyncInTables ics ism slotId := by
  unfold syncSlot SyncInTables
  rcases ism with _ | m
  · simp
  · simp only [Option.some.injEq, forall_eq']
    by_cases hslot : slotId.toNat < IPC_MAX_SLOTS
    · rw [readAt_of_lt hslot, exists_prop_of_true hslot, ← updateLayers_inTables]
      simp only []
      rcases updateLayers ics (m.slots ⟨slotId.toNat, hslot⟩) with f | ⟨ok, calls⟩
      · simp
      · simp
    · rw [readAt_of_ge hslot]
      simp [hslot]

theorem layerSync_inTables {handles : List Int} :
    InTables (ipcHandleCompositorLayerSync ics ism currentSlotIndex slotId handles) ↔
      (ics.xc.isSome = true → SyncInTables ics ism slotId) := by
  unfold ipcHandleCompositorLayerSync
  rcases ics.xc with _ | xc
  · simp
  · simp [syncSlot_inTables]

def SemaphoreExists (ics : IpcClientState) (id : UInt32) : Prop :=
  ∃ h : id.toNat < IPC_MAX_CLIENT_SEMAPHORES, (ics.xcsems ⟨id.toNat, h⟩).isSome = true

theorem layerSyncWithSemaphore_inTables {currentSlotIndex slotId semaphoreId : UInt32} {semaphoreValue : UInt64} :
    InTables (ipcHandleCompositorLayerSyncWithSemaphore ics ism currentSlotIndex slotId semaphoreId semaphoreValue) ↔
      (ics.xc.isSome = true → SemaphoreExists ics semaphoreId → SyncInTables ics ism slotId) := by
  unfold ipcHandleCompositorLayerSyncWithSemaphore SemaphoreExists
  rcases ics.xc with _ | xc
  · simp
  · by_cases hid : semaphoreId.toNat < IPC_MAX_CLIENT_SEMAPHORES
    · simp only [dif_pos hid]
      rcases hsem : ics.xcsems ⟨semaphoreId.toNat, hid⟩ with _ | xcsem
      · simp [hsem]
      · simp [hsem, hid, syncSlot_inTables]
    · simp [hid]

end AugmentedInsanity.Ipc
