/-
How devices get their roles (`u_device_assign_xdev_roles` of `u_device.c`). One pass over the devices gives each role to the
first device of its type; a controller for any hand goes to the left hand, and makes room for a left controller if the right
hand is free. Devices that the serial numbers in the environment name get their roles whatever their types are.
-/
import AugmentedInsanity.Lib.Matchings
import AugmentedInsanity.Xrt.Device

namespace AugmentedInsanity.Util

open Xrt PairMatching

/-! ## Devices -/

/-- `enum xrt_device_type`, as far as roles depend on it. -/
abbrev XRT_DEVICE_TYPE_HMD : UInt32 := 1
abbrev XRT_DEVICE_TYPE_RIGHT_HAND_CONTROLLER : UInt32 := 2
abbrev XRT_DEVICE_TYPE_LEFT_HAND_CONTROLLER : UInt32 := 3
abbrev XRT_DEVICE_TYPE_ANY_HAND_CONTROLLER : UInt32 := 4
abbrev XRT_DEVICE_TYPE_GAMEPAD : UInt32 := 5
abbrev XRT_DEVICE_TYPE_HAND_TRACKER : UInt32 := 7
abbrev XRT_DEVICE_TYPE_EYE_TRACKER : UInt32 := 8
abbrev XRT_DEVICE_TYPE_FACE_TRACKER : UInt32 := 9

/-- `XRT_INPUT_NAME(0x0008, POSE)`. -/
abbrev XRT_INPUT_GENERIC_EYE_GAZE_POSE : XrtInputName := 0x0805
abbrev XRT_INPUT_HTC_EYE_FACE_TRACKING : XrtInputName := 0x060107
abbrev XRT_INPUT_HTC_LIP_FACE_TRACKING : XrtInputName := 0x060207
abbrev XRT_INPUT_FB_FACE_TRACKING2_AUDIO : XrtInputName := 0x060307
abbrev XRT_INPUT_FB_FACE_TRACKING2_VISUAL : XrtInputName := 0x060407
abbrev XRT_INPUT_ANDROID_FACE_TRACKING : XrtInputName := 0x060507

def inputNameIsFaceTracker (name : XrtInputName) : Bool :=
  [XRT_INPUT_FB_FACE_TRACKING2_VISUAL, XRT_INPUT_FB_FACE_TRACKING2_AUDIO, XRT_INPUT_ANDROID_FACE_TRACKING,
    XRT_INPUT_HTC_EYE_FACE_TRACKING, XRT_INPUT_HTC_LIP_FACE_TRACKING].contains name

/-- The list of devices, some of them `NULL`. -/
abbrev Xdevs := List (Option XrtDeviceFields)

/-- `xdevs[i]`, if it is not `NULL`. -/
def Xdevs.at (xdevs : Xdevs) (i : ℕ) : Option XrtDeviceFields := xdevs[i]?.join

/-- `xdevs[i]->device_type`. -/
def Xdevs.typeAt (xdevs : Xdevs) (i : ℕ) : Option UInt32 := (xdevs.at i).map (·.deviceType)

/-- `strncmp(a, b, n) == 0`, of strings without their terminators. -/
def strncmpEq (a b : List UInt8) (n : ℕ) : Bool := (a ++ [0]).take n == (b ++ [0]).take n

/-- The options `XRT_DEVICE_HEAD_SERIAL`, `XRT_DEVICE_LEFT_SERIAL` and `XRT_DEVICE_RIGHT_SERIAL`. -/
structure SerialOverrides where
  head : Option (List UInt8)
  left : Option (List UInt8)
  right : Option (List UInt8)
  deriving DecidableEq

def SerialOverrides.none : SerialOverrides := ⟨.none, .none, .none⟩

/-- A serial number is set and is that of the device. -/
def serialMatches (serial : Option (List UInt8)) (xdev : XrtDeviceFields) : Bool :=
  serial.any fun serial => strncmpEq xdev.serial.chars serial XRT_DEVICE_NAME_LEN

/-! ## Roles -/

/-- The indices of the devices with roles; `none` is `XRT_DEVICE_ROLE_UNASSIGNED`. -/
structure XdevRoles where
  head : Option ℕ
  eyes : Option ℕ
  face : Option ℕ
  left : Option ℕ
  right : Option ℕ
  gamepad : Option ℕ
  deriving DecidableEq

def XdevRoles.unassigned : XdevRoles := ⟨none, none, none, none, none, none⟩

def fill (role : Option ℕ) (i : ℕ) : Option ℕ := if role = none then some i else role

def tryMoveAssignment (xdevs : Xdevs) (hand otherHand : Option ℕ) : Option ℕ × Option ℕ :=
  match hand with
  | none => (hand, otherHand)
  | some h =>
    if xdevs.typeAt h = some XRT_DEVICE_TYPE_ANY_HAND_CONTROLLER ∧ otherHand = none then (none, some h)
    else (hand, otherHand)

/-- The `switch` over the type of a device. -/
def assignByType (xdevs : Xdevs) (roles : XdevRoles) (i : ℕ) (deviceType : UInt32) : XdevRoles :=
  if deviceType = XRT_DEVICE_TYPE_HMD then { roles with head := fill roles.head i }
  else if deviceType = XRT_DEVICE_TYPE_EYE_TRACKER then { roles with eyes := fill roles.eyes i }
  else if deviceType = XRT_DEVICE_TYPE_FACE_TRACKER then { roles with face := fill roles.face i }
  else if deviceType = XRT_DEVICE_TYPE_LEFT_HAND_CONTROLLER then
    let (left, right) := tryMoveAssignment xdevs roles.left roles.right
    { roles with left := fill left i, right := right }
  else if deviceType = XRT_DEVICE_TYPE_RIGHT_HAND_CONTROLLER then
    let (right, left) := tryMoveAssignment xdevs roles.right roles.left
    { roles with left := left, right := fill right i }
  else if deviceType = XRT_DEVICE_TYPE_GAMEPAD then { roles with gamepad := fill roles.gamepad i }
  else if deviceType = XRT_DEVICE_TYPE_ANY_HAND_CONTROLLER then
    if roles.left = none then { roles with left := some i }
    else if roles.right = none then { roles with right := some i }
    else roles
  else roles

/-- The first loop. -/
def assignXdev (xdevs : Xdevs) (serials : SerialOverrides) (roles : XdevRoles) (i : ℕ) : XdevRoles :=
  match xdevs.at i with
  | none => roles
  | some xdev =>
    if serialMatches serials.head xdev then { roles with head := some i }
    else if serialMatches serials.left xdev then { roles with left := some i }
    else if serialMatches serials.right xdev then { roles with right := some i }
    else assignByType xdevs roles i xdev.deviceType

/-- The second loop, which ends at the first hand tracker. -/
def fillHands (xdevs : Xdevs) (roles : XdevRoles) : XdevRoles :=
  match (List.range xdevs.length).find? fun i => xdevs.typeAt i = some XRT_DEVICE_TYPE_HAND_TRACKER with
  | none => roles
  | some i => { roles with left := fill roles.left i, right := fill roles.right i }

/-- The third loop over the inputs of a device. -/
def fillByInput (i : ℕ) (roles : XdevRoles) (input : XrtInput) : XdevRoles :=
  { roles with
    eyes := if input.name = XRT_INPUT_GENERIC_EYE_GAZE_POSE then fill roles.eyes i else roles.eyes
    face := if inputNameIsFaceTracker input.name then fill roles.face i else roles.face }

/-- The third loop. -/
def fillByInputs (xdevs : Xdevs) (roles : XdevRoles) (i : ℕ) : XdevRoles :=
  match xdevs.at i with
  | none => roles
  | some xdev => xdev.inputs.foldl (fillByInput i) roles

/-- The roles after the first loop has gone over the first `k` devices. -/
def rolesAfter (xdevs : Xdevs) (serials : SerialOverrides) (k : ℕ) : XdevRoles :=
  (List.range k).foldl (assignXdev xdevs serials) .unassigned

/-- `u_device_assign_xdev_roles`; `none` is a failed assertion. -/
def uDeviceAssignXdevRoles (xdevs : Xdevs) (serials : SerialOverrides) : Option XdevRoles :=
  if xdevs.length < 2147483647 then
    let roles := rolesAfter xdevs serials xdevs.length
    let roles := fillHands xdevs roles
    some ((List.range xdevs.length).foldl (fillByInputs xdevs) roles)
  else none

variable {xdevs : Xdevs} {serials : SerialOverrides} {roles : XdevRoles} {left right : Option ℕ} {i k : ℕ}

/-! ## Hands -/

def FitsLeft (xdevs : Xdevs) (k i : ℕ) : Prop :=
  i < k ∧ (xdevs.typeAt i = some XRT_DEVICE_TYPE_LEFT_HAND_CONTROLLER ∨
    xdevs.typeAt i = some XRT_DEVICE_TYPE_ANY_HAND_CONTROLLER)

def FitsRight (xdevs : Xdevs) (k i : ℕ) : Prop :=
  i < k ∧ (xdevs.typeAt i = some XRT_DEVICE_TYPE_RIGHT_HAND_CONTROLLER ∨
    xdevs.typeAt i = some XRT_DEVICE_TYPE_ANY_HAND_CONTROLLER)

theorem FitsLeft.mono (h : FitsLeft xdevs k i) : FitsLeft xdevs (k + 1) i := ⟨Nat.lt_succ_of_lt h.1, h.2⟩

theorem FitsRight.mono (h : FitsRight xdevs k i) : FitsRight xdevs (k + 1) i := ⟨Nat.lt_succ_of_lt h.1, h.2⟩

theorem FitsLeft.old (h : FitsLeft xdevs (k + 1) i) (hk : ¬FitsLeft xdevs (k + 1) k) : FitsLeft xdevs k i := by
  refine ⟨Nat.lt_of_le_of_ne (Nat.le_of_lt_succ h.1) ?_, h.2⟩
  rintro rfl
  exact hk h

theorem FitsRight.old (h : FitsRight xdevs (k + 1) i) (hk : ¬FitsRight xdevs (k + 1) k) : FitsRight xdevs k i := by
  refine ⟨Nat.lt_of_le_of_ne (Nat.le_of_lt_succ h.1) ?_, h.2⟩
  rintro rfl
  exact hk h

theorem not_fitsRight (htype : xdevs.typeAt i = some XRT_DEVICE_TYPE_LEFT_HAND_CONTROLLER) : ¬FitsRight xdevs k i := by
  rintro ⟨-, hright | hany⟩
  · exact absurd (htype.symm.trans hright) (by decide)
  · exact absurd (htype.symm.trans hany) (by decide)

theorem not_fitsLeft (htype : xdevs.typeAt i = some XRT_DEVICE_TYPE_RIGHT_HAND_CONTROLLER) : ¬FitsLeft xdevs k i := by
  rintro ⟨-, hleft | hany⟩
  · exact absurd (htype.symm.trans hleft) (by decide)
  · exact absurd (htype.symm.trans hany) (by decide)

/-- What holds of the hands after the first `k` devices: they are matched with controllers, and one hand is left free only
if the others do not fit it. -/
structure HandsInv (xdevs : Xdevs) (k : ℕ) (left right : Option ℕ) : Prop where
  matching : Matching (FitsLeft xdevs k) (FitsRight xdevs k) left right
  leftFree : left = none → ∀ i, ¬FitsLeft xdevs k i
  rightFree : right = none → ∀ j, FitsRight xdevs k j → left = some j ∧ ∀ i, FitsLeft xdevs k i → i = j

theorem HandsInv.maximum (h : HandsInv xdevs k left right) :
    Maximum (FitsLeft xdevs k) (FitsRight xdevs k) left right := by
  rcases left with _ | a
  · rcases right with _ | b
    · refine maximum_of_none (h.leftFree rfl) fun j hj => ?_
      cases (h.rightFree rfl j hj).1
    · exact maximum_of_one h.matching rfl fun i _ hi _ => absurd hi (h.leftFree rfl i)
  · rcases right with _ | b
    · exact maximum_of_one h.matching rfl fun i j hi hj => (h.rightFree rfl j hj).2 i hi
    · exact maximum_of_both h.matching

theorem HandsInv.skip (h : HandsInv xdevs k left right) (hleft : ¬FitsLeft xdevs (k + 1) k)
    (hright : ¬FitsRight xdevs (k + 1) k) : HandsInv xdevs (k + 1) left right := by
  refine ⟨⟨fun i hi => (h.matching.atLeft i hi).mono, fun i hi => (h.matching.atRight i hi).mono, h.matching.ne⟩,
    fun hnone i hi => h.leftFree hnone i (hi.old hleft), fun hnone j hj => ?_⟩
  obtain ⟨heq, hall⟩ := h.rightFree hnone j (hj.old hright)
  exact ⟨heq, fun i hi => hall i (hi.old hleft)⟩

theorem HandsInv.of_both {a b : ℕ} (hleft : FitsLeft xdevs k a) (hright : FitsRight xdevs k b) (hne : a ≠ b) :
    HandsInv xdevs k (some a) (some b) := by
  refine ⟨⟨?_, ?_, ?_⟩, nofun, nofun⟩
  · rintro _ ⟨⟩
    exact hleft
  · rintro _ ⟨⟩
    exact hright
  · rintro _ ⟨⟩ heq
    exact hne (Option.some.inj heq).symm

theorem fill_some (a i : ℕ) : fill (some a) i = some a := rfl

theorem HandsInv.ne_new (h : HandsInv xdevs k left right) : left ≠ some k ∧ right ≠ some k :=
  ⟨fun heq => Nat.lt_irrefl k (h.matching.atLeft k heq).1, fun heq => Nat.lt_irrefl k (h.matching.atRight k heq).1⟩

theorem HandsInv.keep {a b : ℕ} (h : HandsInv xdevs k (some a) (some b)) : HandsInv xdevs (k + 1) (some a) (some b) :=
  .of_both (h.matching.atLeft a rfl).mono (h.matching.atRight b rfl).mono fun heq =>
    h.matching.ne a rfl (congrArg some heq.symm)

theorem HandsInv.leftController (h : HandsInv xdevs k left right)
    (htype : xdevs.typeAt k = some XRT_DEVICE_TYPE_LEFT_HAND_CONTROLLER) :
    HandsInv xdevs (k + 1) (fill (tryMoveAssignment xdevs left right).1 k) (tryMoveAssignment xdevs left right).2 := by
  have hfits : FitsLeft xdevs (k + 1) k := ⟨Nat.lt_succ_self k, .inl htype⟩
  have hright : ¬FitsRight xdevs (k + 1) k := not_fitsRight htype
  rcases left with _ | a
  · rcases right with _ | b
    · refine ⟨⟨?_, nofun, fun _ _ => nofun⟩, nofun, fun _ j hj => ?_⟩
      · rintro _ ⟨⟩
        exact hfits
      · cases (h.rightFree rfl j (hj.old hright)).1
    · exact .of_both hfits (h.matching.atRight b rfl).mono fun heq => h.ne_new.2 (congrArg some heq.symm)
  · rcases right with _ | b
    · by_cases hany : xdevs.typeAt a = some XRT_DEVICE_TYPE_ANY_HAND_CONTROLLER
      · -- the controller for any hand makes room
        have ha := h.matching.atLeft a rfl
        have hmove : tryMoveAssignment xdevs (some a) none = (none, some a) := if_pos ⟨hany, rfl⟩
        rw [hmove]
        exact .of_both hfits ⟨Nat.lt_succ_of_lt ha.1, .inr hany⟩ (Nat.ne_of_gt ha.1)
      · have hstay : tryMoveAssignment xdevs (some a) none = (some a, none) := if_neg fun hand => hany hand.1
        rw [hstay]
        refine ⟨⟨?_, nofun, fun _ _ => nofun⟩, nofun, fun _ j hj => ?_⟩
        · rintro _ ⟨⟩
          exact (h.matching.atLeft a rfl).mono
        · obtain ⟨heq, -⟩ := h.rightFree rfl j (hj.old hright)
          obtain rfl := Option.some.inj heq
          rcases h.matching.atLeft a rfl with ⟨-, hleft | hany'⟩
          · exact absurd hj (not_fitsRight hleft)
          · exact absurd hany' hany
    · have hstay : tryMoveAssignment xdevs (some a) (some b) = (some a, some b) := if_neg fun hand => by cases hand.2
      rw [hstay]
      exact h.keep

theorem HandsInv.rightController (h : HandsInv xdevs k left right)
    (htype : xdevs.typeAt k = some XRT_DEVICE_TYPE_RIGHT_HAND_CONTROLLER) :
    HandsInv xdevs (k + 1) (tryMoveAssignment xdevs right left).2 (fill (tryMoveAssignment xdevs right left).1 k) := by
  have hfits : FitsRight xdevs (k + 1) k := ⟨Nat.lt_succ_self k, .inl htype⟩
  have hleft : ¬FitsLeft xdevs (k + 1) k := not_fitsLeft htype
  rcases right with _ | b
  · rcases left with _ | a
    · refine ⟨⟨nofun, ?_, nofun⟩, fun _ i hi => h.leftFree rfl i (hi.old hleft), nofun⟩
      rintro _ ⟨⟩
      exact hfits
    · exact .of_both (h.matching.atLeft a rfl).mono hfits fun heq => h.ne_new.1 (congrArg some heq)
  · rcases left with _ | a
    · -- a controller for any hand would be in the left one
      have hany : xdevs.typeAt b ≠ some XRT_DEVICE_TYPE_ANY_HAND_CONTROLLER := fun hany =>
        h.leftFree rfl b ⟨(h.matching.atRight b rfl).1, .inr hany⟩
      have hstay : tryMoveAssignment xdevs (some b) none = (some b, none) := if_neg fun hand => hany hand.1
      rw [hstay]
      refine ⟨⟨nofun, ?_, nofun⟩, fun _ i hi => h.leftFree rfl i (hi.old hleft), nofun⟩
      rintro _ ⟨⟩
      exact (h.matching.atRight b rfl).mono
    · have hstay : tryMoveAssignment xdevs (some b) (some a) = (some b, some a) := if_neg fun hand => by cases hand.2
      rw [hstay]
      exact h.keep

theorem HandsInv.anyController (h : HandsInv xdevs k left right)
    (htype : xdevs.typeAt k = some XRT_DEVICE_TYPE_ANY_HAND_CONTROLLER) :
    HandsInv xdevs (k + 1) (fill left k) (if left = none then right else fill right k) := by
  have hfitsLeft : FitsLeft xdevs (k + 1) k := ⟨Nat.lt_succ_self k, .inr htype⟩
  have hfitsRight : FitsRight xdevs (k + 1) k := ⟨Nat.lt_succ_self k, .inr htype⟩
  rcases left with _ | a
  · rcases right with _ | b
    · refine ⟨⟨?_, nofun, fun _ _ => nofun⟩, nofun, fun _ j hj => ?_⟩
      · rintro _ ⟨⟩
        exact hfitsLeft
      · have hnew : ∀ i, i < k + 1 → ¬FitsLeft xdevs k i → ¬FitsRight xdevs k i → (FitsLeft xdevs (k + 1) i ∨
            FitsRight xdevs (k + 1) i) → i = k := by
          intro i hi hl hr hfits
          by_contra hne
          have hlt : i < k := by omega
          rcases hfits with hfits | hfits
          · exact hl ⟨hlt, hfits.2⟩
          · exact hr ⟨hlt, hfits.2⟩
        have hno : ∀ j, ¬FitsRight xdevs k j := fun j hj => by cases (h.rightFree rfl j hj).1
        obtain rfl := hnew j hj.1 (h.leftFree rfl j) (hno j) (.inr hj)
        exact ⟨rfl, fun i hi => hnew i hi.1 (h.leftFree rfl i) (hno i) (.inl hi)⟩
    · exact .of_both hfitsLeft (h.matching.atRight b rfl).mono fun heq => h.ne_new.2 (congrArg some heq.symm)
  · rcases right with _ | b
    · exact .of_both (h.matching.atLeft a rfl).mono hfitsRight fun heq => h.ne_new.1 (congrArg some heq)
    · exact h.keep

/-! ## The first loop -/

/-- The first index below `n` with a property. -/
def first (n : ℕ) (p : ℕ → Prop) [DecidablePred p] : Option ℕ := (List.range n).find? fun i => decide (p i)

theorem first_succ (n : ℕ) (p : ℕ → Prop) [DecidablePred p] :
    first (n + 1) p = if p n then fill (first n p) n else first n p := by
  unfold first fill
  rw [List.range_succ, List.find?_append, List.find?_singleton]
  by_cases hp : p n
  · cases (List.range n).find? fun i => decide (p i) <;> simp [hp]
  · cases (List.range n).find? fun i => decide (p i) <;> simp [hp]

theorem rolesAfter_succ (xdevs : Xdevs) (serials : SerialOverrides) (k : ℕ) :
    rolesAfter xdevs serials (k + 1) = assignXdev xdevs serials (rolesAfter xdevs serials k) k := by
  rw [rolesAfter, List.range_succ, List.foldl_append]
  rfl

theorem assignXdev_none (xdevs : Xdevs) (roles : XdevRoles) (i : ℕ) :
    assignXdev xdevs .none roles i = (xdevs.typeAt i).elim roles (assignByType xdevs roles i) := by
  unfold assignXdev Xdevs.typeAt
  cases xdevs.at i <;> rfl

theorem HandsInv.assign (h : HandsInv xdevs k roles.left roles.right) :
    HandsInv xdevs (k + 1) (assignXdev xdevs .none roles k).left (assignXdev xdevs .none roles k).right := by
  rw [assignXdev_none]
  by_cases hleft : xdevs.typeAt k = some XRT_DEVICE_TYPE_LEFT_HAND_CONTROLLER
  · rw [hleft]
    exact h.leftController hleft
  by_cases hright : xdevs.typeAt k = some XRT_DEVICE_TYPE_RIGHT_HAND_CONTROLLER
  · rw [hright]
    exact h.rightController hright
  by_cases hany : xdevs.typeAt k = some XRT_DEVICE_TYPE_ANY_HAND_CONTROLLER
  · have := h.anyController hany
    rw [hany]
    show HandsInv xdevs (k + 1) (if roles.left = none then { roles with left := some k }
      else if roles.right = none then { roles with right := some k } else roles).left
      (if roles.left = none then { roles with left := some k }
      else if roles.right = none then { roles with right := some k } else roles).right
    unfold fill at this
    split_ifs at this ⊢ <;> exact this
  · have hskip := h.skip (by rintro ⟨-, h | h⟩; exact hleft h; exact hany h) (by rintro ⟨-, h | h⟩; exact hright h; exact hany h)
    cases htype : xdevs.typeAt k with
    | none => exact hskip
    | some deviceType =>
      rw [htype, Option.some.injEq] at hleft hright hany
      show HandsInv xdevs (k + 1) (assignByType xdevs roles k deviceType).left
        (assignByType xdevs roles k deviceType).right
      unfold assignByType
      rw [if_neg hleft, if_neg hright, if_neg hany]
      split_ifs <;> exact hskip

theorem handsInv (xdevs : Xdevs) (k : ℕ) :
    HandsInv xdevs k (rolesAfter xdevs .none k).left (rolesAfter xdevs .none k).right := by
  induction k with
  | zero =>
    exact ⟨⟨nofun, nofun, nofun⟩, fun _ i hi => Nat.not_lt_zero i hi.1, fun _ j hj => absurd hj.1 (Nat.not_lt_zero j)⟩
  | succ k ih =>
    rw [rolesAfter_succ]
    exact ih.assign

structure FirstOfType (xdevs : Xdevs) (k : ℕ) (roles : XdevRoles) : Prop where
  head : roles.head = first k fun i => xdevs.typeAt i = some XRT_DEVICE_TYPE_HMD
  eyes : roles.eyes = first k fun i => xdevs.typeAt i = some XRT_DEVICE_TYPE_EYE_TRACKER
  face : roles.face = first k fun i => xdevs.typeAt i = some XRT_DEVICE_TYPE_FACE_TRACKER
  gamepad : roles.gamepad = first k fun i => xdevs.typeAt i = some XRT_DEVICE_TYPE_GAMEPAD

theorem assignByType_others (xdevs : Xdevs) (roles : XdevRoles) (i : ℕ) (deviceType : UInt32) :
    (assignByType xdevs roles i deviceType).head =
        (if deviceType = XRT_DEVICE_TYPE_HMD then fill roles.head i else roles.head) ∧
      (assignByType xdevs roles i deviceType).eyes =
        (if deviceType = XRT_DEVICE_TYPE_EYE_TRACKER then fill roles.eyes i else roles.eyes) ∧
      (assignByType xdevs roles i deviceType).face =
        (if deviceType = XRT_DEVICE_TYPE_FACE_TRACKER then fill roles.face i else roles.face) ∧
      (assignByType xdevs roles i deviceType).gamepad =
        (if deviceType = XRT_DEVICE_TYPE_GAMEPAD then fill roles.gamepad i else roles.gamepad) := by
  unfold assignByType
  by_cases hhead : deviceType = XRT_DEVICE_TYPE_HMD
  · subst hhead
    exact ⟨rfl, rfl, rfl, rfl⟩
  by_cases heyes : deviceType = XRT_DEVICE_TYPE_EYE_TRACKER
  · subst heyes
    exact ⟨rfl, rfl, rfl, rfl⟩
  by_cases hface : deviceType = XRT_DEVICE_TYPE_FACE_TRACKER
  · subst hface
    exact ⟨rfl, rfl, rfl, rfl⟩
  by_cases hgamepad : deviceType = XRT_DEVICE_TYPE_GAMEPAD
  · subst hgamepad
    exact ⟨rfl, rfl, rfl, rfl⟩
  rw [if_neg hhead, if_neg heyes, if_neg hface, if_neg hgamepad, if_neg hhead, if_neg heyes, if_neg hface,
    if_neg hgamepad]
  split_ifs <;> exact ⟨rfl, rfl, rfl, rfl⟩

theorem FirstOfType.assign (h : FirstOfType xdevs k roles) :
    FirstOfType xdevs (k + 1) (assignXdev xdevs .none roles k) := by
  rw [assignXdev_none]
  cases htype : xdevs.typeAt k with
  | none =>
    refine ⟨?_, ?_, ?_, ?_⟩
    all_goals rw [first_succ, htype, if_neg nofun]
    · exact h.head
    · exact h.eyes
    · exact h.face
    · exact h.gamepad
  | some deviceType =>
    obtain ⟨hhead, heyes, hface, hgamepad⟩ := assignByType_others xdevs roles k deviceType
    refine ⟨?_, ?_, ?_, ?_⟩
    all_goals simp only [first_succ, htype, Option.some.injEq]
    · rw [← h.head]
      exact hhead
    · rw [← h.eyes]
      exact heyes
    · rw [← h.face]
      exact hface
    · rw [← h.gamepad]
      exact hgamepad

theorem firstOfType (xdevs : Xdevs) (k : ℕ) : FirstOfType xdevs k (rolesAfter xdevs .none k) := by
  induction k with
  | zero => exact ⟨rfl, rfl, rfl, rfl⟩
  | succ k ih =>
    rw [rolesAfter_succ]
    exact ih.assign

/-! ## The other loops -/

theorem fillHands_eq (xdevs : Xdevs) (roles : XdevRoles) :
    fillHands xdevs roles = { roles with
      left := roles.left.or (first xdevs.length fun i => xdevs.typeAt i = some XRT_DEVICE_TYPE_HAND_TRACKER)
      right := roles.right.or (first xdevs.length fun i => xdevs.typeAt i = some XRT_DEVICE_TYPE_HAND_TRACKER) } := by
  unfold fillHands first
  cases (List.range xdevs.length).find? fun i => decide (xdevs.typeAt i = some XRT_DEVICE_TYPE_HAND_TRACKER) with
  | none => simp
  | some i => cases hleft : roles.left <;> cases hright : roles.right <;> rfl

def hasInput (xdevs : Xdevs) (p : XrtInputName → Bool) (i : ℕ) : Bool :=
  (xdevs.at i).any fun xdev => xdev.inputs.any fun input => p input.name

theorem fill_fill (role : Option ℕ) (i : ℕ) : fill (fill role i) i = fill role i := by
  cases role <;> rfl

theorem foldl_fill (p : XrtInput → Bool) (i : ℕ) (inputs : List XrtInput) (role : Option ℕ) :
    inputs.foldl (fun role input => if p input then fill role i else role) role =
      if inputs.any p then fill role i else role := by
  induction inputs generalizing role with
  | nil => rfl
  | cons input inputs ih =>
    rw [List.foldl_cons, ih, List.any_cons]
    by_cases hp : p input = true
    · by_cases hany : inputs.any p = true
      · simp [hp, hany, fill_fill]
      · simp [hp, hany]
    · simp [hp]

theorem foldl_fillByInput (i : ℕ) (inputs : List XrtInput) (roles : XdevRoles) :
    inputs.foldl (fillByInput i) roles = { roles with
      eyes := inputs.foldl (fun role input => if decide (input.name = XRT_INPUT_GENERIC_EYE_GAZE_POSE) then fill role i
        else role) roles.eyes
      face := inputs.foldl (fun role input => if inputNameIsFaceTracker input.name then fill role i else role)
        roles.face } := by
  induction inputs generalizing roles with
  | nil => rfl
  | cons input inputs ih =>
    rw [List.foldl_cons, ih]
    simp only [List.foldl_cons, fillByInput, decide_eq_true_eq]

theorem fillByInputs_eq (xdevs : Xdevs) (roles : XdevRoles) (i : ℕ) :
    fillByInputs xdevs roles i = { roles with
      eyes := if hasInput xdevs (fun name => decide (name = XRT_INPUT_GENERIC_EYE_GAZE_POSE)) i then fill roles.eyes i
        else roles.eyes
      face := if hasInput xdevs inputNameIsFaceTracker i then fill roles.face i else roles.face } := by
  unfold fillByInputs hasInput
  cases xdevs.at i with
  | none => rfl
  | some xdev =>
    dsimp only
    rw [Option.any_some, Option.any_some, foldl_fillByInput, foldl_fill, foldl_fill]

theorem or_fill (role other : Option ℕ) (i : ℕ) : fill (role.or other) i = role.or (fill other i) := by
  cases role <;> rfl

theorem foldl_fillByInputs (xdevs : Xdevs) (roles : XdevRoles) (k : ℕ) :
    (List.range k).foldl (fillByInputs xdevs) roles = { roles with
      eyes := roles.eyes.or
        (first k fun i => hasInput xdevs (fun name => decide (name = XRT_INPUT_GENERIC_EYE_GAZE_POSE)) i)
      face := roles.face.or (first k fun i => hasInput xdevs inputNameIsFaceTracker i) } := by
  induction k with
  | zero => cases roles with | mk head eyes face left right gamepad => cases eyes <;> cases face <;> rfl
  | succ k ih =>
    rw [List.range_succ, List.foldl_append, ih, List.foldl_cons, List.foldl_nil, fillByInputs_eq]
    simp only [first_succ, or_fill]
    split_ifs <;> rfl

/-! ## The roles -/

/-- What `u_device_assign_xdev_roles` gives without serial numbers: as many hands as possible get controllers, the others
the first hand tracker; each other role gets the first device of its type, and the eyes and the face else the first device
with a fitting input. -/
structure GivenByType (xdevs : Xdevs) (roles : XdevRoles) (left right : Option ℕ) : Prop where
  hands : Maximum (FitsLeft xdevs xdevs.length) (FitsRight xdevs xdevs.length) left right
  left : roles.left =
    left.or (first xdevs.length fun i => xdevs.typeAt i = some XRT_DEVICE_TYPE_HAND_TRACKER)
  right : roles.right =
    right.or (first xdevs.length fun i => xdevs.typeAt i = some XRT_DEVICE_TYPE_HAND_TRACKER)
  head : roles.head = first xdevs.length fun i => xdevs.typeAt i = some XRT_DEVICE_TYPE_HMD
  gamepad : roles.gamepad = first xdevs.length fun i => xdevs.typeAt i = some XRT_DEVICE_TYPE_GAMEPAD
  eyes : roles.eyes = (first xdevs.length fun i => xdevs.typeAt i = some XRT_DEVICE_TYPE_EYE_TRACKER).or
    (first xdevs.length fun i => hasInput xdevs (fun name => decide (name = XRT_INPUT_GENERIC_EYE_GAZE_POSE)) i)
  face : roles.face = (first xdevs.length fun i => xdevs.typeAt i = some XRT_DEVICE_TYPE_FACE_TRACKER).or
    (first xdevs.length fun i => hasInput xdevs inputNameIsFaceTracker i)

theorem uDeviceAssignXdevRoles_givenByType (xdevs : Xdevs) (hlength : xdevs.length < 2147483647) :
    ∃ roles left right, uDeviceAssignXdevRoles xdevs .none = some roles ∧ GivenByType xdevs roles left right := by
  have hfirst := firstOfType xdevs xdevs.length
  refine ⟨_, _, _, if_pos hlength, (handsInv xdevs xdevs.length).maximum, ?_, ?_, ?_, ?_, ?_, ?_⟩
  all_goals rw [foldl_fillByInputs, fillHands_eq]
  · exact hfirst.head
  · exact hfirst.gamepad
  · rw [← hfirst.eyes]
  · rw [← hfirst.face]

/-- A device of a type, with a serial number and no inputs. -/
def deviceOfType (deviceType : UInt32) (serial : XrtDeviceStr) : XrtDeviceFields :=
  ⟨0, deviceType, .empty, serial, none, [], [], [], []⟩

def anyAndLeft : Xdevs :=
  [some (deviceOfType XRT_DEVICE_TYPE_ANY_HAND_CONTROLLER .empty), none,
    some (deviceOfType XRT_DEVICE_TYPE_LEFT_HAND_CONTROLLER .empty)]

theorem uDeviceAssignXdevRoles_givenByType_moved :
    ∃ roles left right, uDeviceAssignXdevRoles anyAndLeft .none = some roles ∧
      GivenByType anyAndLeft roles left right :=
  uDeviceAssignXdevRoles_givenByType anyAndLeft (by decide)

end AugmentedInsanity.Util
