/-
The features of the system devices (`b_system_devices.c`): each is used by a number of users, and the devices
that provide it are told when the first one comes and when the last one goes. The count is changed first, and
stays changed when a device refuses.
-/
import Mathlib.Data.Int.Notation
import Mathlib.Data.List.Nodup
import AugmentedInsanity.Xrt.Device

namespace AugmentedInsanity.Base

open Xrt

/-! ## Counts of uses -/

/-- `xrt_reference_inc_and_was_zero`: the new count, and whether it went up from 0. -/
def xrtReferenceIncAndWasZero (count : ℤ) : ℤ × Bool := (count + 1, decide (count + 1 = 1))

/-- `xrt_reference_dec_and_is_zero`: the new count, and whether it went down to 0. -/
def xrtReferenceDecAndIsZero (count : ℤ) : ℤ × Bool := (count - 1, decide (count - 1 = 0))

/-! ## Roles -/

inductive XrtDeviceFeatureType
  | handTrackingLeft
  | handTrackingRight
  | eyeTracking
  | faceTracking
  deriving DecidableEq

/-- The feature of a value that was checked against `XRT_DEVICE_FEATURE_MAX_ENUM`. -/
def XrtDeviceFeatureType.ofIndex : Fin XRT_DEVICE_FEATURE_MAX_ENUM → XrtDeviceFeatureType
  | 0 => .handTrackingLeft
  | 1 => .handTrackingRight
  | 2 => .eyeTracking
  | 3 => .faceTracking

/-- The devices of the two hands of `unobstructed` or of `conforming`. -/
structure HandTrackingRoles where
  left : Option XrtDevice
  right : Option XrtDevice
  deriving DecidableEq

/-- `static_roles`, the part that provides features. -/
structure StaticRoles where
  eyes : Option XrtDevice
  face : Option XrtDevice
  unobstructed : HandTrackingRoles
  conforming : HandTrackingRoles
  deriving DecidableEq

/-- The sources that `set_hand_tracking_enabled` goes through; both can be the same device. -/
def handTrackingSources (unobstructed conforming : Option XrtDevice) : List XrtDevice :=
  (if unobstructed = conforming then [unobstructed] else [unobstructed, conforming]).filterMap id

/-- The devices that are told of a feature. The eyes and the face are not checked for being there: `none` is a
call through a null pointer. -/
def featureDevices (roles : StaticRoles) (type : Fin XRT_DEVICE_FEATURE_MAX_ENUM) : Option (List XrtDevice) :=
  match XrtDeviceFeatureType.ofIndex type with
  | .handTrackingLeft => some (handTrackingSources roles.unobstructed.left roles.conforming.left)
  | .handTrackingRight => some (handTrackingSources roles.unobstructed.right roles.conforming.right)
  | .eyeTracking => roles.eyes.map fun xdev => [xdev]
  | .faceTracking => roles.face.map fun xdev => [xdev]

theorem handTrackingSources_nodup (unobstructed conforming : Option XrtDevice) :
    (handTrackingSources unobstructed conforming).Nodup := by
  unfold handTrackingSources
  split
  · cases unobstructed <;> simp
  · rename_i hne
    cases unobstructed <;> cases conforming <;> simp_all

variable {xdevs : List XrtDevice}

theorem featureDevices_nodup {roles : StaticRoles} {type : Fin XRT_DEVICE_FEATURE_MAX_ENUM}
    (h : featureDevices roles type = some xdevs) : xdevs.Nodup := by
  unfold featureDevices at h
  cases hf : XrtDeviceFeatureType.ofIndex type <;> rw [hf] at h
  case handTrackingLeft => cases h; exact handTrackingSources_nodup _ _
  case handTrackingRight => cases h; exact handTrackingSources_nodup _ _
  case eyeTracking => obtain ⟨xdev, -, rfl⟩ := Option.map_eq_some_iff.1 h; simp
  case faceTracking => obtain ⟨xdev, -, rfl⟩ := Option.map_eq_some_iff.1 h; simp

/-! ## Telling the devices -/

/-- The devices are told one after the other, up to the first that does not answer with success: the result, and
the devices that were told. -/
def setFeature (answer : XrtDevice → XrtResult) : List XrtDevice → XrtResult × List XrtDevice
  | [] => (.success, [])
  | xdev :: xdevs =>
    if answer xdev ≠ .success then (answer xdev, [xdev])
    else
      let rest := setFeature answer xdevs
      (rest.1, xdev :: rest.2)

variable {answer : XrtDevice → XrtResult}

theorem setFeature_success : (setFeature answer xdevs).1 = .success ↔ ∀ xdev ∈ xdevs, answer xdev = .success := by
  induction xdevs with
  | nil => simp [setFeature]
  | cons xdev xdevs ih =>
    by_cases h : answer xdev = .success
    · simp [setFeature, h, ih]
    · simp [setFeature, h]

theorem told_isPrefix (answer : XrtDevice → XrtResult) (xdevs : List XrtDevice) :
    (setFeature answer xdevs).2 <+: xdevs := by
  induction xdevs with
  | nil => exact List.prefix_refl _
  | cons xdev xdevs ih =>
    by_cases h : answer xdev = .success
    · simpa [setFeature, h, List.cons_prefix_cons] using ih
    · simp [setFeature, h, List.cons_prefix_cons]

theorem setFeature_all : (setFeature answer xdevs).2 = xdevs ↔ ∀ xdev ∈ xdevs.dropLast, answer xdev = .success := by
  induction xdevs with
  | nil => simp [setFeature]
  | cons xdev xdevs ih =>
    cases xdevs with
    | nil => by_cases h : answer xdev = .success <;> simp [setFeature, h]
    | cons next xdevs =>
      by_cases h : answer xdev = .success
      · rw [List.dropLast_cons_of_ne_nil (by simp), List.forall_mem_cons, ← ih]
        simp [setFeature, h]
      · rw [List.dropLast_cons_of_ne_nil (by simp), List.forall_mem_cons]
        simp [setFeature, h]

theorem exists_not_told (hnodup : xdevs.Nodup) (h : (setFeature answer xdevs).2 ≠ xdevs) :
    ∃ xdev ∈ xdevs, xdev ∉ (setFeature answer xdevs).2 := by
  obtain ⟨rest, hrest⟩ := told_isPrefix answer xdevs
  rw [← hrest] at hnodup
  obtain ⟨xdev, hx⟩ : ∃ xdev, xdev ∈ rest := by
    apply List.exists_mem_of_ne_nil
    rintro rfl
    exact h (by simpa using hrest)
  refine ⟨xdev, hrest ▸ List.mem_append_right _ hx, ?_⟩
  intro htold
  exact (List.disjoint_of_nodup_append hnodup) htold hx

end AugmentedInsanity.Base
