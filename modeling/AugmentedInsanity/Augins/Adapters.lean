/-
The dispatch adapters (`adapters.cpp`): run the runtime's own handler, hand its answer to the
registered modules in turn, pack what they leave. `module_abi.h` promises that the chain runs over
all registered modules unless one fails. The adapters snapshot at most `kMaxChain` entries, so the
promise is kept exactly up to that many registrations (`chainsAll_iff`).
-/
import AugmentedInsanity.Augins.Dispatch
import AugmentedInsanity.Xrt.Defines

namespace AugmentedInsanity.Augins

open Xrt StableOrder

/-! ## OpenXR types -/

abbrev XrResult := Int32
abbrev XR_SUCCESS : XrResult := 0

abbrev XrSpace := UInt64
abbrev XrTime := Int64
abbrev XrSpaceLocationFlags := UInt64

abbrev XR_SPACE_LOCATION_ORIENTATION_VALID_BIT : XrSpaceLocationFlags := 1
abbrev XR_SPACE_LOCATION_POSITION_VALID_BIT : XrSpaceLocationFlags := 2
abbrev XR_SPACE_LOCATION_ORIENTATION_TRACKED_BIT : XrSpaceLocationFlags := 4
abbrev XR_SPACE_LOCATION_POSITION_TRACKED_BIT : XrSpaceLocationFlags := 8

abbrev XR_TYPE_SPACE_LOCATION : UInt32 := 42

structure XrSpaceLocation where
  type : UInt32
  next : UInt64
  locationFlags : XrSpaceLocationFlags
  pose : XrtPose
  deriving DecidableEq

/-! ## Conversions -/

def xrtRelationToXrLocFlags (rf : UInt32) : XrSpaceLocationFlags :=
  (if rf &&& XRT_SPACE_RELATION_ORIENTATION_VALID_BIT ≠ 0 then XR_SPACE_LOCATION_ORIENTATION_VALID_BIT else 0) |||
  (if rf &&& XRT_SPACE_RELATION_POSITION_VALID_BIT ≠ 0 then XR_SPACE_LOCATION_POSITION_VALID_BIT else 0) |||
  (if rf &&& XRT_SPACE_RELATION_ORIENTATION_TRACKED_BIT ≠ 0 then XR_SPACE_LOCATION_ORIENTATION_TRACKED_BIT else 0) |||
  (if rf &&& XRT_SPACE_RELATION_POSITION_TRACKED_BIT ≠ 0 then XR_SPACE_LOCATION_POSITION_TRACKED_BIT else 0)

def xrLocFlagsToXrtRelation (lf : XrSpaceLocationFlags) : UInt32 :=
  (if lf &&& XR_SPACE_LOCATION_ORIENTATION_VALID_BIT ≠ 0 then XRT_SPACE_RELATION_ORIENTATION_VALID_BIT else 0) |||
  (if lf &&& XR_SPACE_LOCATION_POSITION_VALID_BIT ≠ 0 then XRT_SPACE_RELATION_POSITION_VALID_BIT else 0) |||
  (if lf &&& XR_SPACE_LOCATION_ORIENTATION_TRACKED_BIT ≠ 0 then XRT_SPACE_RELATION_ORIENTATION_TRACKED_BIT else 0) |||
  (if lf &&& XR_SPACE_LOCATION_POSITION_TRACKED_BIT ≠ 0 then XRT_SPACE_RELATION_POSITION_TRACKED_BIT else 0)

def xrResultToXrt (xr : XrResult) : XrtResult := if xr = XR_SUCCESS then .success else .errorIpcFailure

/-- The reply of the default handler as modules see it. -/
def unpackRelation (rel : XrtSpaceRelation) : XrSpaceLocation :=
  ⟨XR_TYPE_SPACE_LOCATION, 0, xrtRelationToXrLocFlags rel.relationFlags, rel.pose⟩

/-- The reply packed from what the modules left; velocities are zeroed. -/
def packLocation (loc : XrSpaceLocation) : XrtSpaceRelation :=
  ⟨xrLocFlagsToXrtRelation loc.locationFlags, loc.pose, .zero, .zero⟩

/-! ## The adapters -/

/-- What the adapters call: the runtime's handlers, the role check and the modules' functions, on
everything else there is (`W`). A module function gets the stack of data directories of the calling
thread; a handler gets what the reply held before. -/
structure Runtime (W : Type) where
  spaceLocateSpace : UInt32 → XrtPose → Int64 → UInt32 → XrtPose → XrtSpaceRelation → W →
    XrtResult × XrtSpaceRelation × W
  spaceLocateDevice : UInt32 → XrtPose → Int64 → UInt32 → XrtSpaceRelation → W →
    XrtResult × XrtSpaceRelation × W
  xdevIsHeadRole : UInt32 → W → Bool
  xrLocateSpace : Symbol → List String → XrSpace → XrSpace → XrTime → XrSpaceLocation → W →
    XrResult × XrSpaceLocation × W
  augLocateDeviceInSpace : Symbol → List String → XrSpace → XrTime → XrSpaceLocation → W →
    XrResult × XrSpaceLocation × W

abbrev kMaxChain : ℕ := 16

variable {W : Type} {gs : List Registration} {entries : List InternalEntry}

/-- A module's function, with the arguments of the request filled in. -/
abbrev Callback (W : Type) := AugModuleEntry → XrSpaceLocation → W → XrResult × XrSpaceLocation × W

/-- The loop over the chain: it stops at the first result that is not `XR_SUCCESS`. -/
def runChain (call : Callback W) : List AugModuleEntry → XrSpaceLocation → W → XrResult × XrSpaceLocation × W
  | [], loc, w => (XR_SUCCESS, loc, w)
  | e :: chain, loc, w =>
    match call e loc w with
    | (xr, loc, w) => if xr ≠ XR_SUCCESS then (xr, loc, w) else runChain call chain loc w

/-- The steps the adapters share: unpack, run the chain, pack. -/
def runModules (r : Registry) (xrName : String) (call : Callback W) (rel : XrtSpaceRelation) (w : W) :
    XrtResult × XrtSpaceRelation × W :=
  let (_, chain) := augGetModulesFor r (some xrName) (some kMaxChain)
  let (xr, loc, w) := runChain call chain (unpackRelation rel) w
  if xr ≠ XR_SUCCESS then (xrResultToXrt xr, rel, w) else (.success, packLocation loc, w)

section
variable (rt : Runtime W) (r : Registry) (tls : List String)

def augAdapterSpaceLocateSpace (baseSpaceId : UInt32) (baseOffset : XrtPose) (atTimestamp : Int64)
    (spaceId : UInt32) (offset : XrtPose) (outRelation : XrtSpaceRelation) (w : W) :
    XrtResult × XrtSpaceRelation × W :=
  let (res, rel, w) := rt.spaceLocateSpace baseSpaceId baseOffset atTimestamp spaceId offset outRelation w
  if res ≠ .success then (res, rel, w)
  else
    runModules r "xrLocateSpace"
      (fun e => rt.xrLocateSpace e.fn (e.dataDir :: tls) spaceId.toUInt64 baseSpaceId.toUInt64 atTimestamp) rel w

def augAdapterSpaceLocateDevice (baseSpaceId : UInt32) (baseOffset : XrtPose) (atTimestamp : Int64)
    (xdevId : UInt32) (outRelation : XrtSpaceRelation) (w : W) : XrtResult × XrtSpaceRelation × W :=
  let (res, rel, w) := rt.spaceLocateDevice baseSpaceId baseOffset atTimestamp xdevId outRelation w
  if res ≠ .success then (res, rel, w)
  else if !rt.xdevIsHeadRole xdevId w then (.success, rel, w)
  else
    runModules r "aug_LocateDeviceInSpace"
      (fun e => rt.augLocateDeviceInSpace e.fn (e.dataDir :: tls) baseSpaceId.toUInt64 atTimestamp) rel w

end

/-! ## What the contract asks for -/

/-- One callback of the fold: skipped once a callback has failed. -/
def foldStep (call : Callback W) (acc : XrResult × XrSpaceLocation × W) (e : InternalEntry) :
    XrResult × XrSpaceLocation × W :=
  if acc.1 = XR_SUCCESS then call e.toModuleEntry acc.2.1 acc.2.2 else acc

/-- The fold of all of `entries` over the default handler's answer. -/
def foldModules (entries : List InternalEntry) (call : Callback W) (rel : XrtSpaceRelation) (w : W) :
    XrtResult × XrtSpaceRelation × W :=
  match entries.foldl (foldStep call) (XR_SUCCESS, unpackRelation rel, w) with
  | (xr, loc, w) => if xr = XR_SUCCESS then (.success, packLocation loc, w) else (.errorIpcFailure, rel, w)

/-- After the registrations `gs` and one sort, the space adapter answers with the fold of all the
callbacks registered for it, by ascending (priority, registration order). -/
def SpaceChainsAll (gs : List Registration) : Prop :=
  ∀ entries, Arrangement InternalEntry.priority (registeredFor gs "xrLocateSpace") entries →
    ∀ (W : Type) (rt : Runtime W) (tls : List String) (baseSpaceId : UInt32) (baseOffset : XrtPose)
      (atTimestamp : Int64) (spaceId : UInt32) (offset : XrtPose) (outRelation : XrtSpaceRelation) (w : W),
    augAdapterSpaceLocateSpace rt (registryOf gs) tls baseSpaceId baseOffset atTimestamp spaceId offset
        outRelation w =
      match rt.spaceLocateSpace baseSpaceId baseOffset atTimestamp spaceId offset outRelation w with
      | (.success, rel, w) =>
        foldModules entries
          (fun e => rt.xrLocateSpace e.fn (e.dataDir :: tls) spaceId.toUInt64 baseSpaceId.toUInt64 atTimestamp)
          rel w
      | failed => failed

/-- The same of the device adapter, for the head device. -/
def DeviceChainsAll (gs : List Registration) : Prop :=
  ∀ entries, Arrangement InternalEntry.priority (registeredFor gs "aug_LocateDeviceInSpace") entries →
    ∀ (W : Type) (rt : Runtime W) (tls : List String) (baseSpaceId : UInt32) (baseOffset : XrtPose)
      (atTimestamp : Int64) (xdevId : UInt32) (outRelation : XrtSpaceRelation) (w : W),
    augAdapterSpaceLocateDevice rt (registryOf gs) tls baseSpaceId baseOffset atTimestamp xdevId
        outRelation w =
      match rt.spaceLocateDevice baseSpaceId baseOffset atTimestamp xdevId outRelation w with
      | (.success, rel, w) =>
        if rt.xdevIsHeadRole xdevId w then
          foldModules entries
            (fun e => rt.augLocateDeviceInSpace e.fn (e.dataDir :: tls) baseSpaceId.toUInt64 atTimestamp) rel w
        else (.success, rel, w)
      | failed => failed

/-! ## The loop is the fold -/

theorem foldl_foldStep_failed {call : Callback W} {xr : XrResult} (h : xr ≠ XR_SUCCESS)
    (entries : List InternalEntry) (loc : XrSpaceLocation) (w : W) :
    entries.foldl (foldStep call) (xr, loc, w) = (xr, loc, w) := by
  induction entries with
  | nil => rfl
  | cons e entries ih => rw [List.foldl_cons, foldStep, if_neg h, ih]

theorem runChain_eq_foldl (call : Callback W) (entries : List InternalEntry) (loc : XrSpaceLocation) (w : W) :
    runChain call (entries.map InternalEntry.toModuleEntry) loc w =
      entries.foldl (foldStep call) (XR_SUCCESS, loc, w) := by
  induction entries generalizing loc w with
  | nil => rfl
  | cons e entries ih =>
    rw [List.map_cons, runChain, List.foldl_cons, foldStep, if_pos rfl]
    rcases call e.toModuleEntry loc w with ⟨xr, loc', w'⟩
    by_cases h : xr = XR_SUCCESS
    · subst h; simp only [ne_eq, not_true_eq_false, if_false]; exact ih loc' w'
    · simp only [if_pos (show xr ≠ XR_SUCCESS from h)]
      exact (foldl_foldStep_failed h entries loc' w').symm

theorem runModules_eq {xrName : String} (h : Arrangement InternalEntry.priority (registeredFor gs xrName) entries)
    (call : Callback W) (rel : XrtSpaceRelation) (w : W) :
    runModules (registryOf gs) xrName call rel w = foldModules (entries.take kMaxChain) call rel w := by
  have he : (registryOf gs).entries xrName = entries := (registryOf_arrangement gs xrName).unique h
  unfold runModules foldModules
  rw [augGetModulesFor_snapshot _ _ (by decide), he]
  simp only [runChain_eq_foldl]
  rcases (entries.take kMaxChain).foldl (foldStep call) (XR_SUCCESS, unpackRelation rel, w) with ⟨xr, loc, w'⟩
  by_cases hxr : xr = XR_SUCCESS
  · simp [hxr]
  · simp [hxr, xrResultToXrt]

/-! ## The bound on the chain -/

/-- A callback that counts its calls and fails once `kMaxChain` were made. -/
def countCalls : Callback ℕ := fun _ loc w => (if w < kMaxChain then XR_SUCCESS else -1, loc, w + 1)

theorem foldStep_countCalls (loc : XrSpaceLocation) (w : ℕ) (e : InternalEntry) :
    foldStep countCalls (XR_SUCCESS, loc, w) e = (if w < kMaxChain then XR_SUCCESS else -1, loc, w + 1) := by
  unfold foldStep countCalls
  rw [if_pos rfl]

theorem foldl_countCalls_le (entries : List InternalEntry) (loc : XrSpaceLocation) (w : ℕ)
    (h : w + entries.length ≤ kMaxChain) :
    entries.foldl (foldStep countCalls) (XR_SUCCESS, loc, w) = (XR_SUCCESS, loc, w + entries.length) := by
  induction entries generalizing w with
  | nil => rfl
  | cons e entries ih =>
    rw [List.length_cons] at h ⊢
    rw [List.foldl_cons, foldStep_countCalls, if_pos (by omega), ih _ (by omega)]
    congr 2; omega

theorem foldl_countCalls_gt (entries : List InternalEntry) (loc : XrSpaceLocation) (w : ℕ)
    (hw : w ≤ kMaxChain) (h : kMaxChain < w + entries.length) :
    (entries.foldl (foldStep countCalls) (XR_SUCCESS, loc, w)).1 = -1 := by
  induction entries generalizing w with
  | nil => simp at h; omega
  | cons e entries ih =>
    rw [List.length_cons] at h
    rw [List.foldl_cons, foldStep_countCalls]
    by_cases hlt : w < kMaxChain
    · rw [if_pos hlt]; exact ih _ (by omega) (by omega)
    · rw [if_neg hlt, foldl_foldStep_failed (by decide)]

theorem foldModules_countCalls_ne (h : kMaxChain < entries.length) (rel : XrtSpaceRelation) :
    foldModules (entries.take kMaxChain) countCalls rel 0 ≠ foldModules entries countCalls rel 0 := by
  have hcut := foldl_countCalls_le (entries.take kMaxChain) (unpackRelation rel) 0 (by simp)
  have hall := foldl_countCalls_gt entries (unpackRelation rel) 0 (by simp) (by omega)
  unfold foldModules
  rw [hcut]
  rcases hf : entries.foldl (foldStep countCalls) (XR_SUCCESS, unpackRelation rel, 0) with ⟨xr, loc, w⟩
  rw [hf] at hall
  simp only at hall
  subst hall
  simp [show ¬ ((-1 : XrResult) = XR_SUCCESS) by decide]

/-- A runtime whose handlers succeed with a fixed answer and whose modules count calls. -/
def countingRuntime (rel : XrtSpaceRelation) : Runtime ℕ where
  spaceLocateSpace := fun _ _ _ _ _ _ w => (.success, rel, w)
  spaceLocateDevice := fun _ _ _ _ _ w => (.success, rel, w)
  xdevIsHeadRole := fun _ _ => true
  xrLocateSpace := fun fn _ _ _ _ => countCalls ⟨fn, "", ""⟩
  augLocateDeviceInSpace := fun fn _ _ _ => countCalls ⟨fn, "", ""⟩

theorem not_spaceChainsAll (h : kMaxChain < (registeredFor gs "xrLocateSpace").length) : ¬ SpaceChainsAll gs := by
  intro hall
  have harr := registryOf_arrangement gs "xrLocateSpace"
  rw [← harr.length_eq] at h
  have heq := hall _ harr ℕ (countingRuntime .zero) [] 0 .zero 0 0 .zero .zero 0
  unfold augAdapterSpaceLocateSpace at heq
  simp only [countingRuntime, ne_eq, not_true_eq_false, if_false, runModules_eq harr] at heq
  exact foldModules_countCalls_ne h _ heq

theorem not_deviceChainsAll (h : kMaxChain < (registeredFor gs "aug_LocateDeviceInSpace").length) :
    ¬ DeviceChainsAll gs := by
  intro hall
  have harr := registryOf_arrangement gs "aug_LocateDeviceInSpace"
  rw [← harr.length_eq] at h
  have heq := hall _ harr ℕ (countingRuntime .zero) [] 0 .zero 0 0 .zero 0
  unfold augAdapterSpaceLocateDevice at heq
  simp only [countingRuntime, ne_eq, not_true_eq_false, Bool.not_true, Bool.false_eq_true, if_true, if_false,
    runModules_eq harr] at heq
  exact foldModules_countCalls_ne h _ heq

/-- The adapters chain all the registered modules exactly when at most `kMaxChain` are registered for
the name: beyond that the ones that would run last are left out. -/
theorem chainsAll_iff (gs : List Registration) :
    (SpaceChainsAll gs ↔ (registeredFor gs "xrLocateSpace").length ≤ kMaxChain) ∧
      (DeviceChainsAll gs ↔ (registeredFor gs "aug_LocateDeviceInSpace").length ≤ kMaxChain) := by
  refine ⟨⟨fun h => not_lt.1 fun hlt => not_spaceChainsAll hlt h, ?_⟩,
    ⟨fun h => not_lt.1 fun hlt => not_deviceChainsAll hlt h, ?_⟩⟩
  · intro hle entries harr W rt tls base boff at' space off out w
    rw [← harr.length_eq] at hle
    unfold augAdapterSpaceLocateSpace
    rcases rt.spaceLocateSpace base boff at' space off out w with ⟨res, rel, w'⟩
    cases res with
    | success =>
      simp only [ne_eq, not_true_eq_false, if_false, runModules_eq harr, List.take_of_length_le hle]
    | _ => rfl
  · intro hle entries harr W rt tls base boff at' xdev out w
    rw [← harr.length_eq] at hle
    unfold augAdapterSpaceLocateDevice
    rcases rt.spaceLocateDevice base boff at' xdev out w with ⟨res, rel, w'⟩
    cases res with
    | success =>
      simp only [ne_eq, not_true_eq_false, if_false, runModules_eq harr, List.take_of_length_le hle]
      cases rt.xdevIsHeadRole xdev w' with
      | true => rfl
      | false => rfl
    | _ => rfl

/-- Seventeen modules of ascending priority for `xrLocateSpace`. -/
def seventeenModules : List Registration :=
  (List.range 17).map fun i => ⟨some "xrLocateSpace", some (i + 1), "m", "d", i⟩

/-- The seventeenth is left out. -/
theorem seventeenModules_not_all : ¬ SpaceChainsAll seventeenModules := not_spaceChainsAll (by decide)

end AugmentedInsanity.Augins
