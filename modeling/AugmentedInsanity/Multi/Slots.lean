/-
The slots of the multi compositor: a client fills the progress slot layer by layer, its wait thread, or the commit
itself, moves the frame on to the scheduled slot, and the render thread from there to the delivered slot. Here are the
slots with what has become of the frames and of the swapchain references put into them.
-/
import AugmentedInsanity.Lib.Ledger
import AugmentedInsanity.Xrt.Defines

namespace AugmentedInsanity.Multi

open Ledger Xrt

abbrev MULTI_MAX_LAYERS : ℕ := XRT_MAX_LAYERS

/-! ## Layers -/

/-- The swapchains that pointers refer to; some may be `NULL`. -/
def swapchains (pointers : List (Option ℕ)) : Multiset ℕ := (pointers.filterMap id : List ℕ)

theorem swapchains_append (p q : List (Option ℕ)) : swapchains (p ++ q) = swapchains p + swapchains q := by
  unfold swapchains
  rw [List.filterMap_append, Multiset.coe_add]

/-- The pointers of `struct multi_layer_entry`; those past the end of the list are `NULL`. -/
structure MultiLayerEntry where
  xscs : List (Option ℕ)
  size : xscs.length ≤ 2 * XRT_MAX_VIEWS
  deriving DecidableEq

/-- A call that adds a layer, with the pointers it is given: `view_count` of them, or pairs, for projection layers, and
one for quads, cubes, cylinders and equirects of both versions. -/
inductive LayerCall
  | projection (xsc : List (Option ℕ))
  | projectionDepth (views : List (Option ℕ × Option ℕ))
  | single (xsc : Option ℕ)
  deriving DecidableEq

/-- What is written to `xscs`, from its start. -/
def LayerCall.pointers : LayerCall → List (Option ℕ)
  | .projection xsc => xsc
  | .projectionDepth views => views.map Prod.fst ++ views.map Prod.snd
  | .single xsc => [xsc]

/-- The pointers that have a place in `xscs`. The next field is `data`, which is written last. -/
def LayerCall.entry (call : LayerCall) : MultiLayerEntry where
  xscs := call.pointers.take (2 * XRT_MAX_VIEWS)
  size := List.length_take_le _ _

/-- The references that the call takes and that are not in `xscs`. -/
def LayerCall.past (call : LayerCall) : Multiset ℕ := swapchains (call.pointers.drop (2 * XRT_MAX_VIEWS))

theorem LayerCall.swapchains_pointers (call : LayerCall) :
    swapchains call.pointers = swapchains call.entry.xscs + call.past := by
  rw [LayerCall.past, LayerCall.entry, ← swapchains_append, List.take_append_drop]

/-! ## Slots -/

/-- `struct multi_layer_slot`, with the number of the frame among the client's frames. -/
structure MultiLayerSlot where
  frameId : ℤ
  displayTimeNs : ℤ
  layers : List MultiLayerEntry
  active : Bool
  serial : ℕ
  deriving DecidableEq

/-- `U_ZERO`. -/
def MultiLayerSlot.zero : MultiLayerSlot := ⟨0, 0, [], false, 0⟩

/-- What `slot_clear_locked` and `slot_move_into_cleared` leave. -/
def MultiLayerSlot.cleared : MultiLayerSlot := { MultiLayerSlot.zero with frameId := -1 }

def MultiLayerSlot.frames (slot : MultiLayerSlot) : Multiset ℕ := if slot.active then {slot.serial} else 0

def MultiLayerSlot.refs (slot : MultiLayerSlot) : Multiset ℕ := (slot.layers.map fun l => swapchains l.xscs).sum

def MultiLayerSlot.frameList (slot : MultiLayerSlot) : List ℕ := if slot.active then [slot.serial] else []

@[simp] theorem frames_zero : MultiLayerSlot.zero.frames = 0 := rfl
@[simp] theorem frames_cleared : MultiLayerSlot.cleared.frames = 0 := rfl
@[simp] theorem refs_zero : MultiLayerSlot.zero.refs = 0 := rfl
@[simp] theorem refs_cleared : MultiLayerSlot.cleared.refs = 0 := rfl
@[simp] theorem frameList_cleared : MultiLayerSlot.cleared.frameList = [] := rfl

theorem frames_eq_zero (slot : MultiLayerSlot) : slot.frames = 0 ↔ slot.active = false := by
  unfold MultiLayerSlot.frames
  cases slot.active <;> simp

/-- The slots of `struct multi_compositor`, and what has become of the frames that were begun in them and of the
references taken for their layers. A frame is committed when `layer_commit` is called on it. -/
structure MultiSlots where
  progress : MultiLayerSlot
  scheduled : MultiLayerSlot
  delivered : MultiLayerSlot
  /-- How many frames the client has begun. -/
  begun : ℕ
  /-- Frames for which `u_pa_retired` was called. -/
  retired : Multiset ℕ
  taken : Multiset ℕ
  dropped : Multiset ℕ
  /-- The frame in the progress slot is yet to be committed. -/
  uncommitted : Bool
  /-- The committed frames in order. -/
  commits : List ℕ
  /-- The frames that arrived in the delivered slot, in order. -/
  deliveries : List ℕ
  deriving DecidableEq

namespace MultiSlots

def create : MultiSlots := ⟨.zero, .zero, .zero, 0, 0, 0, 0, false, [], []⟩

def frames (s : MultiSlots) : Multiset ℕ := s.progress.frames + (s.scheduled.frames + s.delivered.frames)

def refs (s : MultiSlots) : Multiset ℕ := s.progress.refs + (s.scheduled.refs + s.delivered.refs)

/-- `slot_clear_locked`, as far as it concerns what is in the slot. -/
def dispose (s : MultiSlots) (slot : MultiLayerSlot) : MultiSlots :=
  { s with retired := slot.frames + s.retired, dropped := slot.refs + s.dropped }

/-- `multi_compositor_layer_begin` once the wait thread is done: the slot is zeroed, and not cleared. -/
def layerBegin (s : MultiSlots) (frameId displayTimeNs : ℤ) : MultiSlots :=
  { s with
    progress :=
      { MultiLayerSlot.zero with
        active := true
        frameId := frameId
        displayTimeNs := displayTimeNs
        serial := s.begun }
    begun := s.begun + 1
    uncommitted := true }

/-- `multi_compositor_layer_projection` and the other calls that add a layer. -/
def addLayer (s : MultiSlots) (call : LayerCall) : MultiSlots :=
  { s with
    progress := { s.progress with layers := s.progress.layers ++ [call.entry] }
    taken := swapchains call.pointers + s.taken }

/-- A commit makes the frame in the progress slot a committed one. -/
def commit (s : MultiSlots) : MultiSlots :=
  { s with
    commits := s.commits ++ if s.uncommitted then s.progress.frameList else []
    uncommitted := false }

/-- `slot_move_and_clear_locked` from the progress slot to the scheduled one. -/
def schedule (s : MultiSlots) : MultiSlots :=
  { s.dispose s.scheduled with scheduled := s.progress, progress := .cleared }

/-- `slot_move_and_clear_locked` from the scheduled slot to the delivered one. -/
def deliver (s : MultiSlots) : MultiSlots :=
  { s.dispose s.delivered with
    delivered := s.scheduled
    scheduled := .cleared
    deliveries := s.deliveries ++ s.scheduled.frameList }

/-- `multi_compositor_retire_delivered_locked`. -/
def retireDelivered (s : MultiSlots) : MultiSlots := { s.dispose s.delivered with delivered := .cleared }

/-- The slots are cleared one after the other in `multi_compositor_destroy`. -/
def clearAll (s : MultiSlots) : MultiSlots :=
  { ((s.dispose s.progress).dispose s.scheduled).dispose s.delivered with
    progress := .cleared
    scheduled := .cleared
    delivered := .cleared }

end MultiSlots

/-! ## What is to hold of the slots -/

/-- Each frame begun is in one slot, or retired, once, and so with each reference taken; frames are delivered in the
order of their commits, and the layers of each slot fit. -/
structure SlotsOk (s : MultiSlots) : Prop where
  frames : Accounted (Multiset.range s.begun) s.frames s.retired
  refs : Accounted s.taken s.refs s.dropped
  commits : s.commits.Pairwise (· < ·)
  deliveries : s.deliveries.Sublist s.commits
  progress : s.progress.layers.length ≤ MULTI_MAX_LAYERS
  scheduled : s.scheduled.layers.length ≤ MULTI_MAX_LAYERS
  delivered : s.delivered.layers.length ≤ MULTI_MAX_LAYERS

def MultiSlots.Drained (s : MultiSlots) : Prop := s.frames = 0 ∧ s.refs = 0

def MultiSlots.committed (s : MultiSlots) : List ℕ := if s.uncommitted then [] else s.progress.frameList

theorem committed_of_inactive {s : MultiSlots} (h : s.progress.active = false) : s.committed = [] := by
  unfold MultiSlots.committed MultiLayerSlot.frameList
  rw [h]
  cases s.uncommitted <;> rfl

/-- The frames that are yet to be delivered come after those that were, in the order of the commits. -/
structure SlotsInv (s : MultiSlots) : Prop extends SlotsOk s where
  chain : (s.deliveries ++ (s.scheduled.frameList ++ s.committed)).Sublist s.commits
  past : ∀ frame ∈ s.commits, frame < s.begun
  fresh : s.uncommitted = true → s.progress.active = true → ∀ frame ∈ s.commits, frame < s.progress.serial

theorem slotsInv_create : SlotsInv MultiSlots.create where
  frames := accounted_zero
  refs := accounted_zero
  commits := List.Pairwise.nil
  deliveries := List.Sublist.slnil
  progress := Nat.zero_le _
  scheduled := Nat.zero_le _
  delivered := Nat.zero_le _
  chain := List.Sublist.slnil
  past := by rintro frame ⟨⟩
  fresh := by rintro ⟨⟩

/-! ## Begin -/

section

variable {s : MultiSlots}

theorem layerBegin_frames_iff (h : SlotsOk s) (frameId displayTimeNs : ℤ) :
    Accounted (Multiset.range (s.begun + 1)) (s.layerBegin frameId displayTimeNs).frames s.retired ↔
      s.progress.active = false := by
  have hissued : Accounted (Multiset.range (s.begun + 1))
      (s.progress.frames + (s.layerBegin frameId displayTimeNs).frames) s.retired := by
    have htake := h.frames.take {s.begun}
    rw [Multiset.singleton_add, ← Multiset.range_succ] at htake
    have hheld : {s.begun} + s.frames = s.progress.frames + (s.layerBegin frameId displayTimeNs).frames := by
      simp only [MultiSlots.frames, MultiSlots.layerBegin, MultiLayerSlot.frames, if_true]
      abel
    rw [← hheld]
    exact htake
  rw [hissued.lost_iff, frames_eq_zero]

theorem layerBegin_refs_iff (h : SlotsOk s) (frameId displayTimeNs : ℤ) :
    Accounted s.taken (s.layerBegin frameId displayTimeNs).refs s.dropped ↔ s.progress.refs = 0 := by
  have hrefs := h.refs
  have hheld : s.refs = s.progress.refs + (s.layerBegin frameId displayTimeNs).refs := by
    simp only [MultiSlots.refs, MultiSlots.layerBegin, MultiLayerSlot.refs, MultiLayerSlot.zero, List.map_nil,
      List.sum_nil, zero_add]
  rw [hheld] at hrefs
  exact hrefs.lost_iff

def MultiSlots.ProgressFree (s : MultiSlots) : Prop := s.progress.active = false ∧ s.progress.refs = 0

instance (s : MultiSlots) : Decidable s.ProgressFree := inferInstanceAs (Decidable (_ ∧ _))

theorem layerBegin_iff (h : SlotsOk s) (frameId displayTimeNs : ℤ) :
    SlotsOk (s.layerBegin frameId displayTimeNs) ↔ s.ProgressFree := by
  constructor
  · intro hok
    exact ⟨(layerBegin_frames_iff h frameId displayTimeNs).1 hok.frames,
      (layerBegin_refs_iff h frameId displayTimeNs).1 hok.refs⟩
  · rintro ⟨hactive, hrefs⟩
    exact
      { frames := (layerBegin_frames_iff h frameId displayTimeNs).2 hactive
        refs := (layerBegin_refs_iff h frameId displayTimeNs).2 hrefs
        commits := h.commits
        deliveries := h.deliveries
        progress := Nat.zero_le _
        scheduled := h.scheduled
        delivered := h.delivered }

theorem layerBegin_inv (h : SlotsInv s) (frameId displayTimeNs : ℤ) (hfree : s.ProgressFree) :
    SlotsInv (s.layerBegin frameId displayTimeNs) where
  toSlotsOk := (layerBegin_iff h.toSlotsOk frameId displayTimeNs).2 hfree
  chain := by
    refine List.Sublist.trans ?_ h.chain
    apply List.Sublist.append_left
    apply List.Sublist.append_left
    exact List.nil_sublist _
  past := fun frame hframe => (h.past frame hframe).trans (Nat.lt_succ_self _)
  fresh := fun _ _ => h.past

/-! ## Layers -/

theorem addLayer_refs_iff (h : SlotsOk s) (call : LayerCall) :
    Accounted (s.addLayer call).taken (s.addLayer call).refs s.dropped ↔ call.past = 0 := by
  have hheld : (s.addLayer call).refs = swapchains call.entry.xscs + s.refs := by
    simp only [MultiSlots.refs, MultiSlots.addLayer, MultiLayerSlot.refs, List.map_append, List.map_cons, List.map_nil,
      List.sum_append, List.sum_cons, List.sum_nil]
    abel
  have htaken : (s.addLayer call).taken = swapchains call.entry.xscs + call.past + s.taken := by
    rw [← call.swapchains_pointers]
    rfl
  rw [hheld, htaken]
  exact h.refs.take_iff _ _

/-- There is room in the slot for the layer, and in the layer for its swapchains. -/
def MultiSlots.HasRoom (s : MultiSlots) (call : LayerCall) : Prop :=
  s.progress.layers.length < MULTI_MAX_LAYERS ∧ call.past = 0

instance (s : MultiSlots) (call : LayerCall) : Decidable (s.HasRoom call) := inferInstanceAs (Decidable (_ ∧ _))

theorem addLayer_iff (h : SlotsOk s) (call : LayerCall) : SlotsOk (s.addLayer call) ↔ s.HasRoom call := by
  have hlength : (s.addLayer call).progress.layers.length = s.progress.layers.length + 1 := List.length_append
  constructor
  · intro hok
    have hprogress := hok.progress
    exact ⟨by omega, (addLayer_refs_iff h call).1 hok.refs⟩
  · rintro ⟨hroom, hpast⟩
    exact
      { frames := h.frames
        refs := (addLayer_refs_iff h call).2 hpast
        commits := h.commits
        deliveries := h.deliveries
        progress := by omega
        scheduled := h.scheduled
        delivered := h.delivered }

theorem addLayer_inv (h : SlotsInv s) (call : LayerCall) (hroom : s.HasRoom call) : SlotsInv (s.addLayer call) where
  toSlotsOk := (addLayer_iff h.toSlotsOk call).2 hroom
  chain := h.chain
  past := h.past
  fresh := h.fresh

/-! ## Commits -/

theorem SlotsOk.progress_lt (h : SlotsOk s) (hactive : s.progress.active = true) : s.progress.serial < s.begun := by
  apply Multiset.mem_range.1
  apply h.frames.mem_of_held
  apply Multiset.mem_add.2
  apply Or.inl
  rw [MultiLayerSlot.frames, if_pos hactive]
  exact Multiset.mem_singleton_self _

theorem commit_inv (h : SlotsInv s) : SlotsInv s.commit := by
  -- frames are committed while they are in the progress slot, and at once then
  have hnew : ∀ frame ∈ (if s.uncommitted then s.progress.frameList else []),
      s.uncommitted = true ∧ s.progress.active = true ∧ frame = s.progress.serial := by
    intro frame hframe
    unfold MultiLayerSlot.frameList at hframe
    split at hframe
    · rename_i huncommitted
      split at hframe
      · rename_i hactive
        exact ⟨huncommitted, hactive, List.mem_singleton.1 hframe⟩
      · cases hframe
    · cases hframe
  have hpairwise : (if s.uncommitted then s.progress.frameList else []).Pairwise (· < ·) := by
    unfold MultiLayerSlot.frameList
    split
    · split
      · exact List.pairwise_singleton _ _
      · exact List.Pairwise.nil
    · exact List.Pairwise.nil
  have hchain : s.commit.committed = s.committed ++ if s.uncommitted then s.progress.frameList else [] := by
    unfold MultiSlots.committed MultiSlots.commit
    cases s.uncommitted <;> simp
  exact
    { frames := h.frames
      refs := h.refs
      commits := by
        apply List.pairwise_append.2
        refine ⟨h.commits, hpairwise, fun a ha b hb => ?_⟩
        obtain ⟨huncommitted, hactive, rfl⟩ := hnew b hb
        exact h.fresh huncommitted hactive a ha
      deliveries := h.deliveries.trans (List.sublist_append_left _ _)
      progress := h.progress
      scheduled := h.scheduled
      delivered := h.delivered
      chain := by
        rw [hchain, ← List.append_assoc, ← List.append_assoc, List.append_assoc s.commit.deliveries]
        exact h.chain.append_right _
      past := by
        intro frame hframe
        rcases List.mem_append.1 hframe with hold | hmem
        · exact h.past frame hold
        · obtain ⟨-, hactive, rfl⟩ := hnew frame hmem
          exact h.progress_lt hactive
      fresh := by rintro ⟨⟩ }

/-! ## Moves -/

theorem SlotsOk.dispose (h : SlotsOk s) (slot : MultiLayerSlot) (frames refs : Multiset ℕ)
    (hframes : s.frames = slot.frames + frames) (hrefs : s.refs = slot.refs + refs) :
    Accounted (Multiset.range s.begun) frames (s.dispose slot).retired ∧
      Accounted s.taken refs (s.dispose slot).dropped := by
  constructor
  · exact (hframes ▸ h.frames).release
  · exact (hrefs ▸ h.refs).release

theorem schedule_inv (h : SlotsInv s) (hcommitted : s.uncommitted = false) : SlotsInv s.schedule := by
  have hbooks := h.toSlotsOk.dispose s.scheduled s.schedule.frames s.schedule.refs
    (by simp only [MultiSlots.frames, MultiSlots.schedule, MultiSlots.dispose, frames_cleared]; abel)
    (by simp only [MultiSlots.refs, MultiSlots.schedule, MultiSlots.dispose, refs_cleared]; abel)
  exact
    { frames := hbooks.1
      refs := hbooks.2
      commits := h.commits
      deliveries := h.deliveries
      progress := Nat.zero_le _
      scheduled := h.progress
      delivered := h.delivered
      chain := by
        have hprogress : s.committed = s.progress.frameList := by simp [MultiSlots.committed, hcommitted]
        rw [committed_of_inactive rfl, List.append_nil]
        refine List.Sublist.trans ?_ h.chain
        apply List.Sublist.append_left
        rw [hprogress]
        exact List.sublist_append_right _ _
      past := h.past
      fresh := by
        intro _ hactive
        cases hactive }

theorem deliver_inv (h : SlotsInv s) : SlotsInv s.deliver := by
  have hbooks := h.toSlotsOk.dispose s.delivered s.deliver.frames s.deliver.refs
    (by simp only [MultiSlots.frames, MultiSlots.deliver, MultiSlots.dispose, frames_cleared]; abel)
    (by simp only [MultiSlots.refs, MultiSlots.deliver, MultiSlots.dispose, refs_cleared]; abel)
  have hchain : s.deliveries ++ (s.scheduled.frameList ++ s.committed) =
      s.deliver.deliveries ++ (s.deliver.scheduled.frameList ++ s.deliver.committed) :=
    (List.append_assoc _ _ _).symm
  have hchain' := h.chain
  rw [hchain] at hchain'
  exact
    { frames := hbooks.1
      refs := hbooks.2
      commits := h.commits
      deliveries := (List.sublist_append_left _ _).trans hchain'
      progress := h.progress
      scheduled := Nat.zero_le _
      delivered := h.scheduled
      chain := hchain'
      past := h.past
      fresh := h.fresh }

theorem retireDelivered_inv (h : SlotsInv s) : SlotsInv s.retireDelivered := by
  have hbooks := h.toSlotsOk.dispose s.delivered s.retireDelivered.frames s.retireDelivered.refs
    (by simp only [MultiSlots.frames, MultiSlots.retireDelivered, MultiSlots.dispose, frames_cleared]; abel)
    (by simp only [MultiSlots.refs, MultiSlots.retireDelivered, MultiSlots.dispose, refs_cleared]; abel)
  exact
    { frames := hbooks.1
      refs := hbooks.2
      commits := h.commits
      deliveries := h.deliveries
      progress := h.progress
      scheduled := h.scheduled
      delivered := Nat.zero_le _
      chain := h.chain
      past := h.past
      fresh := h.fresh }

theorem clearAll_drained (s : MultiSlots) : s.clearAll.Drained := ⟨rfl, rfl⟩

theorem clearAll_inv (h : SlotsInv s) : SlotsInv s.clearAll where
  frames := by
    have hframes := h.frames
    unfold Accounted at *
    rw [(clearAll_drained s).1, zero_add]
    refine Eq.trans ?_ hframes
    simp only [MultiSlots.clearAll, MultiSlots.dispose, MultiSlots.frames]
    abel
  refs := by
    have hrefs := h.refs
    unfold Accounted at *
    rw [(clearAll_drained s).2, zero_add]
    refine Eq.trans ?_ hrefs
    simp only [MultiSlots.clearAll, MultiSlots.dispose, MultiSlots.refs]
    abel
  commits := h.commits
  deliveries := h.deliveries
  progress := Nat.zero_le _
  scheduled := Nat.zero_le _
  delivered := Nat.zero_le _
  chain := by
    rw [committed_of_inactive rfl]
    exact (List.append_nil _).symm ▸ h.deliveries
  past := h.past
  fresh := by
    intro _ hactive
    cases hactive

end

end AugmentedInsanity.Multi
