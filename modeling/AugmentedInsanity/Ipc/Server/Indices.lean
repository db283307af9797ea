/-
The indices the server takes from a message. Ids of devices, tracking origins, spaces, futures and uses go
through checks; the ids of swapchains and semaphores, the slot id, what the shared memory holds and some
counts do not. `indices_inTables_iff` says for each message when handling it stays in the tables.
-/
import AugmentedInsanity.Ipc.Server.Dispatch
import AugmentedInsanity.Ipc.Server.LayerIndices

namespace AugmentedInsanity.Ipc

open Xrt Tables Runs

/-! ## When a message fits -/

def SwapchainRoom (ics : IpcClientState) : Prop := ∃ j, ics.swapchainActive j = false

/-- The overseer's entries that destroying a space releases are in its tables. -/
def LocalIndicesFit (ics : IpcClientState) (spaceId : UInt32) : Prop :=
  (spaceId = ics.localSpaceIndex → ics.localSpaceOverseerIndex.toNat < XRT_MAX_CLIENT_SPACES) ∧
    (spaceId = ics.localFloorSpaceIndex → ics.localFloorSpaceOverseerIndex.toNat < XRT_MAX_CLIENT_SPACES)

def SpaceMsgFits (ics : IpcClientState) : SpaceMsg → Prop
  | .destroy spaceId => ∀ p, validateSpaceId ics spaceId = .ok p → LocalIndicesFit ics spaceId
  | _ => True

def CompositorMsgFits (ics : IpcClientState) (ism : Option IpcSharedMemory) : CompositorMsg → Prop
  | .layerSync slotId handles =>
    handles.length ≤ XRT_MAX_IPC_HANDLES → ics.xc.isSome = true → SyncInTables ics ism slotId
  | .layerSyncWithSemaphore slotId semaphoreId _ =>
    ics.xc.isSome = true → SemaphoreExists ics semaphoreId → SyncInTables ics ism slotId
  | .semaphoreDestroy id => ics.xc.isSome = true → id.toNat < IPC_MAX_CLIENT_SEMAPHORES
  | _ => True

def SwapchainMsgFits (ics : IpcClientState) : SwapchainMsg → Prop
  | .import _ handleCount =>
    handleCount ≤ XRT_MAX_IPC_HANDLES → SwapchainRoom ics → handleCount ≤ XRT_MAX_SWAPCHAIN_IMAGES
  | .waitImage id | .acquireImage id | .releaseImage id | .destroy id =>
    ics.xc.isSome = true → id.toNat < IPC_MAX_CLIENT_SWAPCHAINS
  | _ => True

/-- A device asked for view poses writes no more than `n` of them. -/
def GetViewPoses.Fits (xdev : XrtDevice) (n : ℕ) (viewCount : UInt32) : GetViewPoses → Prop
  | .notImplemented => True
  | .ofHead headPose => headPose = .success → xdev.hmd.isSome = true → viewCount.toNat ≤ n
  | .own written _ => (written viewCount).val ≤ n

def DeviceMsgFits (a : SystemAnswers) (ics : IpcClientState) (id : UInt32) : DeviceMsg → Prop
  | .getViewPoses2 viewCount => ∀ xdev, getXdevAndValidate ics id = .ok xdev →
    (a.getViewPoses xdev).Fits xdev XRT_MAX_VIEWS viewCount
  | .getVisibilityMask viewIndex => ∀ xdev, getXdevAndValidate ics id = .ok xdev → xdev.hmd.isSome = true →
    a.getVisibilityMask xdev ≠ .notImplemented → viewIndex.toNat < XRT_MAX_VIEWS
  | _ => True

/-- The indices of a message are in the tables, as far as its handler gets to use them. -/
def MessageFits (a : SystemAnswers) (s : IpcServer) (i : Fin IPC_MAX_CLIENTS) : IpcMsg → Prop
  | .space msg => SpaceMsgFits (s.client i) msg
  | .compositor msg => CompositorMsgFits (s.client i) (s.isms i) msg
  | .swapchain msg => SwapchainMsgFits (s.client i) msg
  | .device id msg => DeviceMsgFits a (s.client i) id msg
  | _ => True

/-! ## Dispatch -/

section
variable {s : IpcServer} {i : Fin IPC_MAX_CLIENTS} {α : Type}

@[simp] theorem inTables_replied {r : Except Fault XrtResult} : InTables (replied s r) ↔ InTables r := inTables_map

@[simp] theorem inTables_onClient {r : Except Fault (Except XrtResult α × IpcClientState)} :
    InTables (onClient s i r) ↔ InTables r := inTables_map

@[simp] theorem inTables_onClientResult {r : Except Fault (XrtResult × IpcClientState)} :
    InTables (onClientResult s i r) ↔ InTables r := inTables_map

@[simp] theorem inTables_onSync {r : Except Fault (Except XrtResult LayerSync)} :
    InTables (onSync s r) ↔ InTables r := inTables_map

end

/-! ## Devices, tracking origins and spaces -/

section
variable {ics : IpcClientState}

variable {id : UInt32} {xdev : XrtDevice} {table : Table}

theorem withXdev_inTables {use : XrtDevice → Except Fault XrtResult} :
    InTables (withXdev ics id use) ↔ ∀ xdev, getXdevAndValidate ics id = .ok xdev → InTables (use xdev) := by
  unfold withXdev
  rcases getXdevAndValidate ics id with xret | xdev
  · simp
  · simp

theorem askXdev_inTables (id : UInt32) (answer : XrtDevice → XrtResult) : InTables (askXdev ics id answer) :=
  withXdev_inTables.2 fun _ _ => inTables_ok _

theorem fillArray_inTables {n count : ℕ} : InTables (fillArray table n count) ↔ count ≤ n := by
  unfold fillArray
  split
  · simpa using ‹count ≤ n›
  · simpa using ‹¬ count ≤ n›

theorem getTrackedPose_inTables (id : UInt32) (isHeadPose : Bool) (inputActive : XrtDevice → Option Bool)
    (answer : XrtDevice → XrtResult) :
    InTables (ipcHandleDeviceGetTrackedPose ics id isHeadPose inputActive answer) := by
  refine withXdev_inTables.2 fun xdev _ => ?_
  split
  · simp
  · simp

theorem getHandTracking_inTables (id : UInt32) (answer : XrtDevice → XrtResult) :
    InTables (ipcHandleDeviceGetHandTracking ics id answer) :=
  inTables_ite.2 fun _ => askXdev_inTables id answer

theorem setOutput_inTables (id : UInt32) (answer : XrtDevice → XrtResult) :
    InTables (ipcHandleDeviceSetOutput ics id answer) :=
  inTables_ite.2 fun _ => askXdev_inTables id answer

theorem uDeviceGetViewPoses_inTables {headPose : XrtResult} {n : ℕ} {viewCount : UInt32} :
    InTables (uDeviceGetViewPoses xdev headPose n viewCount) ↔
      (headPose = .success → xdev.hmd.isSome = true → viewCount.toNat ≤ n) := by
  unfold uDeviceGetViewPoses
  rw [inTables_ite, not_not]
  refine imp_congr_right fun _ => ?_
  rcases xdev.hmd with _ | hmd
  · by_cases hzero : viewCount = 0
    · subst hzero
      simp [inTables_bind, fillArray_inTables, pure, Except.pure]
    · simp [hzero]
  · simp only [reduceCtorEq, and_false, if_false, Option.isSome_some, true_implies, inTables_bind, fillArray_inTables]
    constructor
    · rintro ⟨hfovs, hposes⟩
      exact (hposes () (if_pos hfovs)).1
    · intro h
      exact ⟨(min_le_left _ _).trans h, fun _ _ => ⟨h, fun _ _ => inTables_ok _⟩⟩

theorem viewPosesCall_inTables {n : ℕ} {viewCount : UInt32} {getViewPoses : GetViewPoses} :
    InTables (getViewPoses.call xdev n viewCount) ↔ getViewPoses.Fits xdev n viewCount := by
  cases getViewPoses with
  | notImplemented => exact iff_of_true (inTables_ok _) trivial
  | ofHead headPose => exact uDeviceGetViewPoses_inTables
  | own written result => exact inTables_map.trans fillArray_inTables

theorem getViewPoses_inTables (id viewCount : UInt32) (getViewPoses : XrtDevice → GetViewPoses) :
    InTables (ipcHandleDeviceGetViewPoses ics id viewCount getViewPoses) := by
  refine withXdev_inTables.2 fun xdev _ => inTables_ite.2 fun hcount => viewPosesCall_inTables.2 ?_
  simp only [Bool.or_eq_true, decide_eq_true_eq, not_or, Nat.not_lt] at hcount
  cases getViewPoses xdev with
  | notImplemented => trivial
  | ofHead headPose => exact fun _ _ => hcount.2
  | own written result => exact (Nat.lt_succ_iff.1 (written viewCount).isLt).trans hcount.2

theorem readFov_inTables {viewIndex : UInt32} :
    InTables (readFov xdev viewIndex) ↔ (xdev.hmd.isSome = true → viewIndex.toNat < XRT_MAX_VIEWS) := by
  unfold readFov
  rcases xdev.hmd with _ | hmd
  · simp
  · by_cases hview : viewIndex.toNat < XRT_MAX_VIEWS
    · simp [hview]
    · simp [hview]

theorem getVisibilityMask_inTables {viewIndex : UInt32} {getVisibilityMask : XrtDevice → GetVisibilityMask}
    {sent : XrtResult} :
    InTables (ipcHandleDeviceGetVisibilityMask ics id viewIndex getVisibilityMask sent) ↔
      ∀ xdev, getXdevAndValidate ics id = .ok xdev → xdev.hmd.isSome = true →
        getVisibilityMask xdev ≠ .notImplemented → viewIndex.toNat < XRT_MAX_VIEWS := by
  unfold ipcHandleDeviceGetVisibilityMask uDeviceGetVisibilityMask
  rw [withXdev_inTables]
  refine forall_congr' fun xdev => imp_congr_right fun _ => ?_
  cases getVisibilityMask xdev with
  | null => simp [readFov_inTables]
  | ofFov => simp [readFov_inTables]
  | notImplemented => simp

theorem askXtrack_inTables (id : UInt32) (answer : XrtResult) : InTables (askXtrack ics id answer) := by
  unfold askXtrack
  split
  · simp
  · simp

theorem spaceLocateDevice_inTables (baseSpaceId xdevId : UInt32) (answer : XrtResult) :
    InTables (ipcHandleSpaceLocateDevice ics baseSpaceId xdevId answer) := by
  unfold ipcHandleSpaceLocateDevice
  split
  · simp
  · exact askXdev_inTables xdevId _

/-! ## Uses -/

theorem markUse_inTables {n : ℕ} {used : Fin n → Bool} {type : UInt32} {before : Bool} {counted : XrtResult}
    (h : type.toNat < n) : InTables (markUse table used type before counted) := by
  unfold markUse
  rw [readAt_of_lt h]
  refine inTables_ite.2 fun _ => inTables_ite.2 fun _ => ?_
  rw [inTables_map, inTables_writeAt]
  exact h

theorem markRefSpace_inTables (type : UInt32) (before : Bool) (counted : XrtResult) :
    InTables (markRefSpace ics type before counted) := by
  unfold markRefSpace validateReferenceSpaceType
  by_cases htype : XRT_SPACE_REFERENCE_TYPE_COUNT ≤ type.toNat
  · rw [if_pos htype]; exact inTables_ok _
  · rw [if_neg htype, inTables_map]
    exact markUse_inTables (by omega)

theorem markFeature_inTables (type : UInt32) (before : Bool) (counted : XrtResult) :
    InTables (markFeature ics type before counted) := by
  unfold markFeature validateDeviceFeatureType
  by_cases htype : XRT_DEVICE_FEATURE_MAX_ENUM ≤ type.toNat
  · rw [if_pos htype]; exact inTables_ok _
  · rw [if_neg htype, inTables_map]
    exact markUse_inTables (by omega)

/-! ## Spaces that are local -/

theorem releaseIfLocal_inTables {tbl : Fin XRT_MAX_CLIENT_SPACES → Option OverseerSpace} {isLocal : Bool}
    {index : UInt32} :
    InTables (releaseIfLocal table tbl isLocal index) ↔ (isLocal = true → index.toNat < XRT_MAX_CLIENT_SPACES) := by
  unfold releaseIfLocal
  cases isLocal with
  | false => simp
  | true => simp

theorem spaceDestroy_inTables {xso : XrtSpaceOverseer} {spaceId : UInt32} :
    InTables (ipcHandleSpaceDestroy xso ics spaceId) ↔
      ∀ p, validateSpaceId ics spaceId = .ok p → LocalIndicesFit ics spaceId := by
  unfold ipcHandleSpaceDestroy LocalIndicesFit
  rcases validateSpaceId ics spaceId with xret | ⟨id, xs⟩
  · simp
  · simp only [inTables_bind, releaseIfLocal_inTables, beq_iff_eq, Except.ok.injEq, forall_eq']
    constructor
    · rintro ⟨hlocal, hrest⟩
      have hrelease : ∃ tbl, releaseIfLocal .localspace xso.localspace (spaceId == ics.localSpaceIndex)
          ics.localSpaceOverseerIndex = .ok tbl := releaseIfLocal_inBounds fun h => hlocal (beq_iff_eq.1 h)
      obtain ⟨tbl, htbl⟩ := hrelease
      exact ⟨hlocal, (hrest tbl htbl).1⟩
    · rintro ⟨hlocal, hfloor⟩
      exact ⟨hlocal, fun _ _ => ⟨hfloor, fun _ _ => inTables_ok _⟩⟩

/-! ## Swapchains and semaphores -/

theorem swapchainForImage_inTables : InTables (swapchainForImage ics id) ↔ id.toNat < IPC_MAX_CLIENT_SWAPCHAINS := by
  unfold swapchainForImage
  rw [inTables_bind, inTables_readAt]
  refine and_iff_left_of_imp fun _ a _ => ?_
  rcases a with _ | xsc
  · simp
  · simp

theorem swapchainCreate_inTables (info : XrtSwapchainCreateInfo) (created : Except XrtResult XrtSwapchain) :
    InTables (ipcHandleSwapchainCreate ics info created) := by
  unfold ipcHandleSwapchainCreate
  split
  · simp
  · split
    · simp
    · split
      · simp
      · simp

theorem swapchainRoom_iff : SwapchainRoom ics ↔ ∃ index, validateSwapchainState ics = .ok index := by
  unfold SwapchainRoom validateSwapchainState
  rcases hfree : firstIndex fun i => !ics.swapchainActive i with _ | index
  · refine iff_of_false ?_ (by simp)
    rintro ⟨j, hj⟩
    have := firstIndex_eq_none.1 hfree j
    rw [hj] at this
    cases this
  · exact iff_of_true ⟨index, by simpa using firstIndex_spec hfree⟩ ⟨index, rfl⟩

theorem swapchainImport_inTables {info : XrtSwapchainCreateInfo} {handleCount : ℕ}
    {created : Except XrtResult XrtSwapchain} :
    InTables (ipcHandleSwapchainImport ics info handleCount created) ↔
      (SwapchainRoom ics → handleCount ≤ XRT_MAX_SWAPCHAIN_IMAGES) := by
  rw [swapchainRoom_iff]
  unfold ipcHandleSwapchainImport
  rcases validateSwapchainState ics with xret | index
  · simp
  · by_cases hcount : XRT_MAX_SWAPCHAIN_IMAGES < handleCount
    · simp [hcount]
    · simp only [if_neg hcount]
      refine iff_of_true ?_ fun _ => Nat.not_lt.1 hcount
      split
      · simp
      · split <;> simp

theorem swapchainWaitImage_inTables {waited : XrtSwapchain → XrtResult} :
    InTables (ipcHandleSwapchainWaitImage ics id waited) ↔
      (ics.xc.isSome = true → id.toNat < IPC_MAX_CLIENT_SWAPCHAINS) := by
  unfold ipcHandleSwapchainWaitImage
  rcases ics.xc with _ | xc
  · simp
  · simp [inTables_bind, swapchainForImage_inTables, pure, Except.pure]

theorem swapchainAcquireImage_inTables {acquired : XrtSwapchain → UInt32} :
    InTables (ipcHandleSwapchainAcquireImage ics id acquired) ↔
      (ics.xc.isSome = true → id.toNat < IPC_MAX_CLIENT_SWAPCHAINS) := by
  unfold ipcHandleSwapchainAcquireImage
  rcases ics.xc with _ | xc
  · simp
  · simp [inTables_bind, swapchainForImage_inTables, pure, Except.pure]

theorem swapchainReleaseImage_inTables :
    InTables (ipcHandleSwapchainReleaseImage ics id) ↔
      (ics.xc.isSome = true → id.toNat < IPC_MAX_CLIENT_SWAPCHAINS) := by
  unfold ipcHandleSwapchainReleaseImage
  rcases ics.xc with _ | xc
  · simp
  · simp [inTables_bind, swapchainForImage_inTables, pure, Except.pure]

theorem swapchainDestroy_inTables :
    InTables (ipcHandleSwapchainDestroy ics id) ↔
      (ics.xc.isSome = true → id.toNat < IPC_MAX_CLIENT_SWAPCHAINS) := by
  unfold ipcHandleSwapchainDestroy
  rcases ics.xc with _ | xc
  · simp
  · simp only [Option.isNone_some, Bool.false_eq_true, if_false, inTables_bind, inTables_readAt, inTables_writeAt,
      Option.isSome_some, true_implies]
    exact and_iff_left_of_imp fun hid _ _ => ⟨hid, fun _ _ => ⟨hid, fun _ _ => inTables_ok _⟩⟩

theorem semaphoreCreate_inTables (created : Except XrtResult ℕ) :
    InTables (ipcHandleCompositorSemaphoreCreate ics created) := by
  refine inTables_ite.2 fun _ => ?_
  split
  · simp
  · split <;> simp

theorem semaphoreDestroy_inTables :
    InTables (ipcHandleCompositorSemaphoreDestroy ics id) ↔
      (ics.xc.isSome = true → id.toNat < IPC_MAX_CLIENT_SEMAPHORES) := by
  unfold ipcHandleCompositorSemaphoreDestroy
  rcases ics.xc with _ | xc
  · simp
  · simp only [Option.isNone_some, Bool.false_eq_true, if_false, inTables_bind, inTables_readAt, Option.isSome_some,
      true_implies]
    refine and_iff_left_of_imp fun hid a _ => ?_
    rcases a with _ | xcsem
    · exact inTables_ok _
    · simp [inTables_bind, hid, pure, Except.pure]

theorem sessionCreate_inTables (isOverlay : Bool) (zOrder : UInt32) (created : Except XrtResult (ℕ × Option ℕ)) :
    InTables (ipcHandleSessionCreate ics isOverlay zOrder created) := by
  refine inTables_ite.2 fun _ => ?_
  split <;> simp

theorem sessionDestroy_inTables : InTables (ipcHandleSessionDestroy ics) := inTables_ite.2 fun _ => inTables_ok _

end

/-! ## Messages -/

section
variable (a : SystemAnswers) (s : IpcServer) (i : Fin IPC_MAX_CLIENTS)

theorem dispatchInstance_inTables (msg : InstanceMsg) : InTables (dispatchInstance a s i msg) := by
  cases msg <;> simp [dispatchInstance]

theorem dispatchSystem_inTables (msg : SystemMsg) : InTables (dispatchSystem a s i msg) := by
  cases msg
  case devicesBeginFeature type => exact inTables_onClientResult.2 (markFeature_inTables type false _)
  case devicesEndFeature type => exact inTables_onClientResult.2 (markFeature_inTables type true _)
  all_goals exact inTables_ok _

theorem dispatchSession_inTables (msg : SessionMsg) : InTables (dispatchSession a s i msg) := by
  cases msg
  case create isOverlay zOrder => exact inTables_onClient.2 (sessionCreate_inTables isOverlay zOrder _)
  case destroy => exact inTables_onClient.2 sessionDestroy_inTables
  all_goals exact inTables_ok _

theorem dispatchSpace_inTables (msg : SpaceMsg) :
    InTables (dispatchSpace a s i msg) ↔ SpaceMsgFits (s.client i) msg := by
  cases msg
  case destroy spaceId => exact inTables_map.trans spaceDestroy_inTables
  case locateDevice baseSpaceId xdevId =>
    exact iff_of_true (inTables_replied.2 (spaceLocateDevice_inTables baseSpaceId xdevId _)) trivial
  case markRefSpaceInUse type => exact iff_of_true (inTables_onClientResult.2 (markRefSpace_inTables type false _)) trivial
  case unmarkRefSpaceInUse type => exact iff_of_true (inTables_onClientResult.2 (markRefSpace_inTables type true _)) trivial
  case getTrackingOriginOffset originId => exact iff_of_true (inTables_replied.2 (askXtrack_inTables originId _)) trivial
  case setTrackingOriginOffset originId => exact iff_of_true (inTables_replied.2 (askXtrack_inTables originId _)) trivial
  all_goals exact iff_of_true (inTables_ok _) trivial

theorem dispatchCompositor_inTables (msg : CompositorMsg) :
    InTables (dispatchCompositor a s i msg) ↔ CompositorMsgFits (s.client i) (s.isms i) msg := by
  cases msg
  case layerSync slotId handles =>
    simp only [dispatchCompositor, CompositorMsgFits, inTables_ite, inTables_onSync, layerSync_inTables, Nat.not_lt]
  case layerSyncWithSemaphore => exact inTables_onSync.trans layerSyncWithSemaphore_inTables
  case semaphoreCreate => exact iff_of_true (inTables_onClient.2 (semaphoreCreate_inTables _)) trivial
  case semaphoreDestroy => exact inTables_onClient.trans semaphoreDestroy_inTables
  all_goals exact iff_of_true (inTables_ok _) trivial

theorem dispatchSwapchain_inTables (msg : SwapchainMsg) :
    InTables (dispatchSwapchain a s i msg) ↔ SwapchainMsgFits (s.client i) msg := by
  cases msg
  case getProperties => exact iff_of_true (inTables_ok _) trivial
  case create info => exact iff_of_true (inTables_onClient.2 (swapchainCreate_inTables info _)) trivial
  case «import» info handleCount =>
    simp only [dispatchSwapchain, SwapchainMsgFits, inTables_ite, inTables_onClient, swapchainImport_inTables, Nat.not_lt]
  case waitImage => exact inTables_replied.trans swapchainWaitImage_inTables
  case acquireImage => exact inTables_replied.trans (inTables_map.trans swapchainAcquireImage_inTables)
  case releaseImage => exact inTables_replied.trans swapchainReleaseImage_inTables
  case destroy => exact inTables_onClient.trans swapchainDestroy_inTables

theorem dispatchTracking_inTables (msg : TrackingMsg) : InTables (dispatchTracking s i msg) := by
  cases msg
  case originGetList => exact inTables_ok _
  case originGetInfo trackingOriginId => exact inTables_replied.2 (askXtrack_inTables trackingOriginId _)

theorem dispatchFuture_inTables (futureId : UInt32) (msg : FutureMsg) : InTables (dispatchFuture a s i futureId msg) := by
  cases msg <;> simp [dispatchFuture]

theorem dispatchDevice_inTables (id : UInt32) (msg : DeviceMsg) :
    InTables (dispatchDevice a s i id msg) ↔ DeviceMsgFits a (s.client i) id msg := by
  cases msg
  case getInfo => exact iff_of_true (inTables_onClientResult.2 (inTables_ok _)) trivial
  case getInfoNoArrays => exact iff_of_true (inTables_onClientResult.2 (inTables_ok _)) trivial
  case getTrackedPose isHeadPose =>
    exact iff_of_true (inTables_replied.2 (getTrackedPose_inTables id isHeadPose _ _)) trivial
  case getHandTracking => exact iff_of_true (inTables_replied.2 (getHandTracking_inTables id _)) trivial
  case getViewPoses viewCount => exact iff_of_true (inTables_replied.2 (getViewPoses_inTables id viewCount _)) trivial
  case getViewPoses2 viewCount =>
    refine inTables_replied.trans (withXdev_inTables.trans ?_)
    simp only [viewPosesCall_inTables]
    exact Iff.rfl
  case setOutput => exact iff_of_true (inTables_replied.2 (setOutput_inTables id _)) trivial
  case setHapticOutput => exact iff_of_true (inTables_replied.2 (setOutput_inTables id _)) trivial
  case getVisibilityMask => exact inTables_replied.trans getVisibilityMask_inTables
  all_goals exact iff_of_true (inTables_replied.2 (askXdev_inTables id _)) trivial

/-- Handling a message stays in the tables of the server exactly when the message fits. -/
theorem indices_inTables_iff (msg : IpcMsg) : InTables (ipcDispatch a s i msg) ↔ MessageFits a s i msg := by
  cases msg
  case «instance» msg => exact iff_of_true (dispatchInstance_inTables a s i msg) trivial
  case system msg => exact iff_of_true (dispatchSystem_inTables a s i msg) trivial
  case session msg => exact iff_of_true (dispatchSession_inTables a s i msg) trivial
  case space msg => exact dispatchSpace_inTables a s i msg
  case compositor msg => exact dispatchCompositor_inTables a s i msg
  case swapchain msg => exact dispatchSwapchain_inTables a s i msg
  case tracking msg => exact iff_of_true (dispatchTracking_inTables s i msg) trivial
  case future futureId msg => exact iff_of_true (dispatchFuture_inTables a s i futureId msg) trivial
  case device id msg => exact dispatchDevice_inTables a s i id msg
  case unhandled => exact iff_of_true (inTables_ok _) trivial

end

def emptySystem : SystemAnswers :=
  ⟨.success, .ok true, [], .ok (1, some 1), .ok ⟨0, 1, 0, false⟩, .ok 0, .ok 0, fun _ => none, fun _ => none,
    fun _ => .notImplemented, fun _ => .ofFov⟩

/-- A client with a session destroys the swapchain behind the last of the table. -/
theorem destroyPastTable_notInTables :
    ∃ s, Reaches step (initServerState .rootOnly false true)
        [.connect 5 true true, .call 0 (.resource (.sessionCreate false 0 (.ok (1, some 1))))] s ∧
      ¬ InTables (ipcDispatch emptySystem s 0 (.swapchain (.destroy 64))) := by
  refine ⟨_, ⟨_, rfl, _, rfl, rfl⟩, fun h => ?_⟩
  exact h .xscs 64 rfl

end AugmentedInsanity.Ipc
