/-
What a dispatch adapter leaves in its reply (`adapters.cpp`): the runtime's own relation when a module fails,
else the pose and the flags the modules left and no velocity (`adapters_reply`).
-/
import AugmentedInsanity.Augins.Adapters

namespace AugmentedInsanity.Augins

open Xrt

variable {W : Type}

/-! ## Runs of a chain -/

/-- Every module in turn succeeds, from the first location to the last. -/
inductive AllSucceed (call : Callback W) : List AugModuleEntry → XrSpaceLocation → W → XrSpaceLocation → W → Prop
  | nil (loc : XrSpaceLocation) (w : W) : AllSucceed call [] loc w loc w
  | cons {e : AugModuleEntry} {chain : List AugModuleEntry} {loc loc' loc'' : XrSpaceLocation} {w w' w'' : W} :
      call e loc w = (XR_SUCCESS, loc', w') → AllSucceed call chain loc' w' loc'' w'' →
        AllSucceed call (e :: chain) loc w loc'' w''

/-- Some module fails, after those before it have succeeded. -/
inductive SomeFails (call : Callback W) : List AugModuleEntry → XrSpaceLocation → W → W → Prop
  | here {e : AugModuleEntry} {chain : List AugModuleEntry} {loc loc' : XrSpaceLocation} {w w' : W} {xr : XrResult} :
      call e loc w = (xr, loc', w') → xr ≠ XR_SUCCESS → SomeFails call (e :: chain) loc w w'
  | later {e : AugModuleEntry} {chain : List AugModuleEntry} {loc loc' : XrSpaceLocation} {w w' w'' : W} :
      call e loc w = (XR_SUCCESS, loc', w') → SomeFails call chain loc' w' w'' → SomeFails call (e :: chain) loc w w''

variable {chain : List AugModuleEntry} {call : Callback W} {pair : UInt32 × XrSpaceLocationFlags}

theorem AllSucceed.runChain {loc loc' : XrSpaceLocation} {w w' : W} (h : AllSucceed call chain loc w loc' w') :
    runChain call chain loc w = (XR_SUCCESS, loc', w') := by
  induction h with
  | nil loc w => rfl
  | cons hcall _ ih =>
    rw [Augins.runChain, hcall]
    exact ih

theorem SomeFails.runChain {loc : XrSpaceLocation} {w w' : W} (h : SomeFails call chain loc w w') :
    ∃ xr loc', xr ≠ XR_SUCCESS ∧ runChain call chain loc w = (xr, loc', w') := by
  induction h with
  | @here e chain loc loc' w w' xr hcall hxr =>
    refine ⟨xr, loc', hxr, ?_⟩
    rw [Augins.runChain, hcall]
    simp only [if_pos hxr]
  | later hcall _ ih =>
    obtain ⟨xr, loc', hxr, hrun⟩ := ih
    refine ⟨xr, loc', hxr, ?_⟩
    rw [Augins.runChain, hcall]
    exact hrun

/-! ## The two encodings -/

def flagPairs : List (UInt32 × XrSpaceLocationFlags) :=
  [(XRT_SPACE_RELATION_ORIENTATION_VALID_BIT, XR_SPACE_LOCATION_ORIENTATION_VALID_BIT),
    (XRT_SPACE_RELATION_POSITION_VALID_BIT, XR_SPACE_LOCATION_POSITION_VALID_BIT),
    (XRT_SPACE_RELATION_ORIENTATION_TRACKED_BIT, XR_SPACE_LOCATION_ORIENTATION_TRACKED_BIT),
    (XRT_SPACE_RELATION_POSITION_TRACKED_BIT, XR_SPACE_LOCATION_POSITION_TRACKED_BIT)]

theorem xrLocFlagsToXrtRelation_bits (lf : XrSpaceLocationFlags) (hpair : pair ∈ flagPairs) :
    xrLocFlagsToXrtRelation lf &&& pair.1 ≠ 0 ↔ lf &&& pair.2 ≠ 0 := by
  simp only [flagPairs, List.mem_cons, List.not_mem_nil, or_false] at hpair
  unfold xrLocFlagsToXrtRelation
  -- the bit was put in exactly when its counterpart was there
  rcases hpair with rfl | rfl | rfl | rfl <;> split_ifs <;>
    first
    | exact iff_of_true (by decide) (by assumption)
    | exact iff_of_false (by decide) (by assumption)

theorem xrtRelationToXrLocFlags_bits (rf : UInt32) (hpair : pair ∈ flagPairs) :
    xrtRelationToXrLocFlags rf &&& pair.2 ≠ 0 ↔ rf &&& pair.1 ≠ 0 := by
  simp only [flagPairs, List.mem_cons, List.not_mem_nil, or_false] at hpair
  unfold xrtRelationToXrLocFlags
  rcases hpair with rfl | rfl | rfl | rfl <;> split_ifs <;>
    first
    | exact iff_of_true (by decide) (by assumption)
    | exact iff_of_false (by decide) (by assumption)

theorem xrLocFlagsToXrtRelation_velocity (lf : XrSpaceLocationFlags) :
    xrLocFlagsToXrtRelation lf &&& (XRT_SPACE_RELATION_LINEAR_VELOCITY_VALID_BIT |||
      XRT_SPACE_RELATION_ANGULAR_VELOCITY_VALID_BIT) = 0 := by
  unfold xrLocFlagsToXrtRelation
  split_ifs <;> decide

/-! ## The reply -/

/-- Pose and flags are the location's, and no velocity is said to be valid. -/
structure FromModules (loc : XrSpaceLocation) (rel : XrtSpaceRelation) : Prop where
  pose : rel.pose = loc.pose
  flags : ∀ pair ∈ flagPairs, rel.relationFlags &&& pair.1 ≠ 0 ↔ loc.locationFlags &&& pair.2 ≠ 0
  velocity : rel.relationFlags &&& (XRT_SPACE_RELATION_LINEAR_VELOCITY_VALID_BIT |||
    XRT_SPACE_RELATION_ANGULAR_VELOCITY_VALID_BIT) = 0

/-- Every module succeeds and leaves the location as it is. -/
def Identity (call : Callback W) (chain : List AugModuleEntry) : Prop :=
  ∀ e ∈ chain, ∀ loc w, (call e loc w).1 = XR_SUCCESS ∧ (call e loc w).2.1 = loc

/-- The reply to the runtime's relation `rel` after the chain: that relation itself with an error when a module
fails, and what the modules left when none does. -/
structure Replied (call : Callback W) (chain : List AugModuleEntry) (rel : XrtSpaceRelation) (w : W)
    (reply : XrtResult × XrtSpaceRelation × W) : Prop where
  failed : ∀ w', SomeFails call chain (unpackRelation rel) w w' → reply = (.errorIpcFailure, rel, w')
  done : ∀ loc w', AllSucceed call chain (unpackRelation rel) w loc w' →
    ∃ rel', reply = (.success, rel', w') ∧ FromModules loc rel'
  identity : Identity call chain → reply.1 = .success ∧ reply.2.1.pose = rel.pose ∧
    ∀ pair ∈ flagPairs, reply.2.1.relationFlags &&& pair.1 ≠ 0 ↔ rel.relationFlags &&& pair.1 ≠ 0

theorem fromModules_pack (loc : XrSpaceLocation) : FromModules loc (packLocation loc) where
  pose := rfl
  flags _ hpair := xrLocFlagsToXrtRelation_bits loc.locationFlags hpair
  velocity := xrLocFlagsToXrtRelation_velocity loc.locationFlags

theorem identity_succeeds (h : Identity call chain) (loc : XrSpaceLocation) (w : W) :
    ∃ w', AllSucceed call chain loc w loc w' := by
  induction chain generalizing w with
  | nil => exact ⟨w, .nil loc w⟩
  | cons e chain ih =>
    obtain ⟨hxr, hloc⟩ := h e List.mem_cons_self loc w
    obtain ⟨w', hrest⟩ := ih (fun e' he' => h e' (List.mem_cons_of_mem _ he')) (call e loc w).2.2
    have hcall : call e loc w = (XR_SUCCESS, loc, (call e loc w).2.2) := by
      rw [Prod.ext_iff, Prod.ext_iff]
      exact ⟨hxr, hloc, rfl⟩
    exact ⟨w', .cons hcall hrest⟩

theorem runModules_replied (r : Registry) (xrName : String) (call : Callback W) (rel : XrtSpaceRelation) (w : W) :
    Replied call (augGetModulesFor r (some xrName) (some kMaxChain)).2 rel w (runModules r xrName call rel w) := by
  have hdone : ∀ loc w', AllSucceed call (augGetModulesFor r (some xrName) (some kMaxChain)).2 (unpackRelation rel)
      w loc w' → runModules r xrName call rel w = (.success, packLocation loc, w') := by
    intro loc w' h
    simp only [runModules, h.runChain, ne_eq, not_true_eq_false, if_false]
  refine ⟨fun w' h => ?_, fun loc w' h => ⟨_, hdone loc w' h, fromModules_pack loc⟩, fun h => ?_⟩
  · obtain ⟨xr, loc, hxr, hrun⟩ := h.runChain
    simp only [runModules, hrun, if_pos hxr, xrResultToXrt, if_neg hxr]
  · obtain ⟨w', hall⟩ := identity_succeeds h (unpackRelation rel) w
    rw [hdone _ w' hall]
    refine ⟨rfl, rfl, fun pair hpair => ?_⟩
    exact ((fromModules_pack _).flags pair hpair).trans (xrtRelationToXrLocFlags_bits rel.relationFlags hpair)

/-- Both adapters: the runtime's own reply when it fails, or when the device is not the head; else the reply of
the chain of modules to it. -/
theorem adapters_reply (rt : Runtime W) (r : Registry) (tls : List String) (baseSpaceId : UInt32)
    (baseOffset : XrtPose) (atTimestamp : Int64) (spaceId : UInt32) (offset : XrtPose) (xdevId : UInt32)
    (outRelation : XrtSpaceRelation) (w : W) :
    (∀ res rel w', rt.spaceLocateSpace baseSpaceId baseOffset atTimestamp spaceId offset outRelation w =
        (res, rel, w') →
      (res ≠ .success → augAdapterSpaceLocateSpace rt r tls baseSpaceId baseOffset atTimestamp spaceId offset
        outRelation w = (res, rel, w')) ∧
      (res = .success → Replied
        (fun e => rt.xrLocateSpace e.fn (e.dataDir :: tls) spaceId.toUInt64 baseSpaceId.toUInt64 atTimestamp)
        (augGetModulesFor r (some "xrLocateSpace") (some kMaxChain)).2 rel w'
        (augAdapterSpaceLocateSpace rt r tls baseSpaceId baseOffset atTimestamp spaceId offset outRelation w))) ∧
    ∀ res rel w', rt.spaceLocateDevice baseSpaceId baseOffset atTimestamp xdevId outRelation w = (res, rel, w') →
      (res ≠ .success ∨ rt.xdevIsHeadRole xdevId w' = false → augAdapterSpaceLocateDevice rt r tls baseSpaceId
        baseOffset atTimestamp xdevId outRelation w = (res, rel, w')) ∧
      (res = .success → rt.xdevIsHeadRole xdevId w' = true → Replied
        (fun e => rt.augLocateDeviceInSpace e.fn (e.dataDir :: tls) baseSpaceId.toUInt64 atTimestamp)
        (augGetModulesFor r (some "aug_LocateDeviceInSpace") (some kMaxChain)).2 rel w'
        (augAdapterSpaceLocateDevice rt r tls baseSpaceId baseOffset atTimestamp xdevId outRelation w)) := by
  refine ⟨fun res rel w' hdefault => ⟨fun hres => ?_, ?_⟩, fun res rel w' hdefault => ⟨fun hres => ?_, ?_⟩⟩
  · simp only [augAdapterSpaceLocateSpace, hdefault, if_pos hres]
  · rintro rfl
    simp only [augAdapterSpaceLocateSpace, hdefault, ne_eq, not_true_eq_false, if_false]
    exact runModules_replied r "xrLocateSpace" _ rel w'
  · by_cases hsuccess : res = .success
    · subst hsuccess
      have hrole := hres.resolve_left (not_not.2 rfl)
      simp only [augAdapterSpaceLocateDevice, hdefault, ne_eq, not_true_eq_false, if_false, hrole, Bool.not_false,
        if_true]
    · simp only [augAdapterSpaceLocateDevice, hdefault, if_pos hsuccess]
  · rintro rfl hrole
    simp only [augAdapterSpaceLocateDevice, hdefault, ne_eq, not_true_eq_false, if_false, hrole, Bool.not_true,
      Bool.false_eq_true]
    exact runModules_replied r "aug_LocateDeviceInSpace" _ rel w'

/-- Two modules for `xrLocateSpace`. -/
def twoModules : Registry :=
  augDispatchRegister (augDispatchRegister Registry.empty ⟨some "xrLocateSpace", some 1, "m", "d", 0⟩)
    ⟨some "xrLocateSpace", some 2, "n", "d", 1⟩

/-- The second fails, and the reply is the runtime's. -/
theorem adapters_reply_failed :
    augAdapterSpaceLocateSpace (countingRuntime .zero) twoModules [] 0 .zero 0 1 .zero .zero 15 =
      (.errorIpcFailure, .zero, 17) := by
  have hreply := ((adapters_reply (countingRuntime .zero) twoModules [] 0 .zero 0 1 .zero 0 .zero 15).1
    .success .zero 15 rfl).2 rfl
  have hchain : (augGetModulesFor twoModules (some "xrLocateSpace") (some kMaxChain)).2 =
      [⟨1, "m", "d"⟩, ⟨2, "n", "d"⟩] := by decide
  refine hreply.failed 17 ?_
  rw [hchain]
  exact .later rfl (.here rfl (by decide))

end AugmentedInsanity.Augins
