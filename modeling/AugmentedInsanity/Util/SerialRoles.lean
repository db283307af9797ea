/-
Devices that have their roles by serial number. The head and two hands are each given by one; the pass over the devices can
still move a controller for any hand out of the hand its serial number names, to make room for the next controller of that
hand.
-/
import Mathlib.Data.Nat.Find
import AugmentedInsanity.Util.DeviceRoles

namespace AugmentedInsanity.Util

open Xrt PairMatching

/-! ## Named devices -/

/-- Each serial number is that of one device, and the three are different. -/
structure Named (xdevs : Xdevs) (serials : SerialOverrides) (h l r : ℕ) : Prop where
  head : ∀ i, (xdevs.at i).any (serialMatches serials.head) = true ↔ i = h
  left : ∀ i, (xdevs.at i).any (serialMatches serials.left) = true ↔ i = l
  right : ∀ i, (xdevs.at i).any (serialMatches serials.right) = true ↔ i = r
  headLeft : h ≠ l
  headRight : h ≠ r
  leftRight : l ≠ r

def SerialOverrides.names (serials : SerialOverrides) (xdev : XrtDeviceFields) : Bool :=
  serialMatches serials.head xdev || serialMatches serials.left xdev || serialMatches serials.right xdev

def unnamed (xdevs : Xdevs) (serials : SerialOverrides) : Xdevs :=
  xdevs.map fun xdev => xdev.filter fun xdev => !serials.names xdev

def Fits (xdevs : Xdevs) (serials : SerialOverrides) (i : ℕ) : Prop :=
  FitsLeft (unnamed xdevs serials) (i + 1) i ∨ FitsRight (unnamed xdevs serials) (i + 1) i

variable {xdevs : Xdevs} {serials : SerialOverrides} {roles : XdevRoles} {h l r i k : ℕ}

theorem unnamed_at (xdevs : Xdevs) (serials : SerialOverrides) (i : ℕ) :
    (unnamed xdevs serials).at i = (xdevs.at i).filter fun xdev => !serials.names xdev := by
  unfold unnamed Xdevs.at
  rw [List.getElem?_map]
  cases xdevs[i]? <;> rfl

theorem typeAt_of_unnamed {deviceType : UInt32} (htype : (unnamed xdevs serials).typeAt i = some deviceType) :
    xdevs.typeAt i = some deviceType := by
  unfold Xdevs.typeAt at htype ⊢
  rw [unnamed_at] at htype
  obtain ⟨xdev, hxdev, rfl⟩ := Option.map_eq_some_iff.mp htype
  rw [(Option.filter_eq_some_iff.mp hxdev).1]
  rfl

namespace Named

variable (hn : Named xdevs serials h l r)
include hn

theorem unnamed_named (hi : i = h ∨ i = l ∨ i = r) : (unnamed xdevs serials).at i = none := by
  rw [unnamed_at]
  cases hxdev : xdevs.at i with
  | none => rfl
  | some xdev =>
    have hnames : serials.names xdev = true := by
      have hhead := hn.head i
      have hleft := hn.left i
      have hright := hn.right i
      rw [hxdev, Option.any_some] at hhead hleft hright
      unfold SerialOverrides.names
      rcases hi with hi | hi | hi
      · rw [hhead.mpr hi, Bool.true_or, Bool.true_or]
      · rw [hleft.mpr hi, Bool.or_true, Bool.true_or]
      · rw [hright.mpr hi, Bool.or_true]
    rw [Option.filter_some, hnames]
    rfl

theorem unnamed_other (hh : i ≠ h) (hl : i ≠ l) (hr : i ≠ r) : (unnamed xdevs serials).at i = xdevs.at i := by
  rw [unnamed_at]
  cases hxdev : xdevs.at i with
  | none => rfl
  | some xdev =>
    have hhead := hn.head i
    have hleft := hn.left i
    have hright := hn.right i
    rw [hxdev, Option.any_some] at hhead hleft hright
    have hnames : serials.names xdev = false := by
      unfold SerialOverrides.names
      rw [Bool.eq_false_iff.mpr fun hx => hh (hhead.mp hx), Bool.eq_false_iff.mpr fun hx => hl (hleft.mp hx),
        Bool.eq_false_iff.mpr fun hx => hr (hright.mp hx)]
      rfl
    rw [Option.filter_some, hnames]
    rfl

/-! ## Steps -/

theorem assign_head : assignXdev xdevs serials roles h = { roles with head := some h } := by
  have hhead := (hn.head h).mpr rfl
  unfold assignXdev
  cases hxdev : xdevs.at h with
  | none => rw [hxdev] at hhead; cases hhead
  | some xdev =>
    rw [hxdev, Option.any_some] at hhead
    exact if_pos hhead

theorem assign_left : assignXdev xdevs serials roles l = { roles with left := some l } := by
  have hhead := hn.head l
  have hleft := (hn.left l).mpr rfl
  unfold assignXdev
  cases hxdev : xdevs.at l with
  | none => rw [hxdev] at hleft; cases hleft
  | some xdev =>
    rw [hxdev, Option.any_some] at hhead hleft
    dsimp only
    rw [if_neg fun hx => hn.headLeft (hhead.mp hx).symm, if_pos hleft]

theorem assign_right : assignXdev xdevs serials roles r = { roles with right := some r } := by
  have hhead := hn.head r
  have hleft := hn.left r
  have hright := (hn.right r).mpr rfl
  unfold assignXdev
  cases hxdev : xdevs.at r with
  | none => rw [hxdev] at hright; cases hright
  | some xdev =>
    rw [hxdev, Option.any_some] at hhead hleft hright
    dsimp only
    rw [if_neg fun hx => hn.headRight (hhead.mp hx).symm, if_neg fun hx => hn.leftRight (hleft.mp hx).symm,
      if_pos hright]

theorem assign_other (hh : i ≠ h) (hl : i ≠ l) (hr : i ≠ r) :
    assignXdev xdevs serials roles i =
      ((unnamed xdevs serials).typeAt i).elim roles (assignByType xdevs roles i) := by
  have hat := hn.unnamed_other hh hl hr
  have hhead := hn.head i
  have hleft := hn.left i
  have hright := hn.right i
  unfold assignXdev Xdevs.typeAt
  rw [hat]
  cases hxdev : xdevs.at i with
  | none => rfl
  | some xdev =>
    rw [hxdev, Option.any_some] at hhead hleft hright
    dsimp only
    rw [if_neg fun hx => hh (hhead.mp hx), if_neg fun hx => hl (hleft.mp hx), if_neg fun hx => hr (hright.mp hx)]
    rfl

end Named

/-! ## The two hands -/

inductive Hand
  | left
  | right
  deriving DecidableEq

namespace Hand

def other : Hand → Hand
  | left => right
  | right => left

/-- The type of the controllers that fit only this hand. -/
def controller : Hand → UInt32
  | left => XRT_DEVICE_TYPE_LEFT_HAND_CONTROLLER
  | right => XRT_DEVICE_TYPE_RIGHT_HAND_CONTROLLER

@[simp] theorem other_other (side : Hand) : side.other.other = side := by
  cases side <;> rfl

theorem controller_ne_any (side : Hand) : side.controller ≠ XRT_DEVICE_TYPE_ANY_HAND_CONTROLLER := by
  cases side <;> decide

end Hand

def XdevRoles.hand (roles : XdevRoles) : Hand → Option ℕ
  | .left => roles.left
  | .right => roles.right

variable {side : Hand} {deviceType : UInt32} {a b n : ℕ}

def NoHand (deviceType : UInt32) : Prop :=
  (∀ side : Hand, deviceType ≠ side.controller) ∧ deviceType ≠ XRT_DEVICE_TYPE_ANY_HAND_CONTROLLER

theorem assignByType_noHand (hno : NoHand deviceType) (side : Hand) :
    (assignByType xdevs roles i deviceType).hand side = roles.hand side := by
  have hleft : deviceType ≠ XRT_DEVICE_TYPE_LEFT_HAND_CONTROLLER := hno.1 .left
  have hright : deviceType ≠ XRT_DEVICE_TYPE_RIGHT_HAND_CONTROLLER := hno.1 .right
  unfold assignByType
  rw [if_neg hleft, if_neg hright, if_neg hno.2]
  split_ifs <;> cases side <;> rfl

theorem assignByType_own (side : Hand) : (assignByType xdevs roles i side.controller).hand side =
    fill (tryMoveAssignment xdevs (roles.hand side) (roles.hand side.other)).1 i := by
  cases side <;> rfl

theorem assignByType_own_other (side : Hand) : (assignByType xdevs roles i side.controller).hand side.other =
    (tryMoveAssignment xdevs (roles.hand side) (roles.hand side.other)).2 := by
  cases side <;> rfl

theorem assignByType_any (htaken : roles.hand side = some a) :
    (assignByType xdevs roles i XRT_DEVICE_TYPE_ANY_HAND_CONTROLLER).hand side = some a ∧
      (assignByType xdevs roles i XRT_DEVICE_TYPE_ANY_HAND_CONTROLLER).hand side.other =
        fill (roles.hand side.other) i := by
  have hassign : assignByType xdevs roles i XRT_DEVICE_TYPE_ANY_HAND_CONTROLLER =
      if roles.left = none then { roles with left := some i }
      else if roles.right = none then { roles with right := some i } else roles := rfl
  obtain ⟨head, eyes, face, left, right, gamepad⟩ := roles
  rw [hassign]
  cases side
  · obtain rfl : left = some a := htaken
    cases right <;> exact ⟨rfl, rfl⟩
  · obtain rfl : right = some a := htaken
    cases left <;> exact ⟨rfl, rfl⟩

theorem tryMoveAssignment_stays {hand otherHand : Option ℕ}
    (hstays : ∀ a, hand = some a → xdevs.typeAt a ≠ some XRT_DEVICE_TYPE_ANY_HAND_CONTROLLER ∨ otherHand ≠ none) :
    tryMoveAssignment xdevs hand otherHand = (hand, otherHand) := by
  cases hand with
  | none => rfl
  | some a => exact if_neg fun hmoves => (hstays a rfl).elim (fun hany => hany hmoves.1) fun hsome => hsome hmoves.2

/-- A hand stays as it is: its controller is not one for any hand, or it has nowhere to go. -/
structure Stays (xdevs : Xdevs) (side : Hand) (a : ℕ) (roles : XdevRoles) : Prop where
  hand : roles.hand side = some a
  kept : xdevs.typeAt a ≠ some XRT_DEVICE_TYPE_ANY_HAND_CONTROLLER ∨ roles.hand side.other ≠ none

theorem fill_ne_none (role : Option ℕ) (i : ℕ) : fill role i ≠ none := by
  cases role <;> nofun

theorem Stays.assignByType (hstays : Stays xdevs side a roles) (i : ℕ) (deviceType : UInt32) :
    Stays xdevs side a (assignByType xdevs roles i deviceType) := by
  by_cases hno : NoHand deviceType
  · refine ⟨?_, ?_⟩
    · rw [assignByType_noHand hno]
      exact hstays.hand
    · rw [assignByType_noHand hno]
      exact hstays.kept
  by_cases hany : deviceType = XRT_DEVICE_TYPE_ANY_HAND_CONTROLLER
  · subst hany
    obtain ⟨hhand, hother⟩ := @assignByType_any xdevs _ i _ _ hstays.hand
    exact ⟨hhand, .inr (hother ▸ fill_ne_none _ i)⟩
  by_cases hown : deviceType = side.controller
  · subst hown
    have hmove : tryMoveAssignment xdevs (roles.hand side) (roles.hand side.other) =
        (roles.hand side, roles.hand side.other) := by
      refine tryMoveAssignment_stays fun b hb => ?_
      obtain rfl : a = b := Option.some.inj (hstays.hand.symm.trans hb)
      exact hstays.kept
    refine ⟨?_, ?_⟩
    · rw [assignByType_own, hmove, hstays.hand]
      rfl
    · rw [assignByType_own_other, hmove]
      exact hstays.kept
  · -- a controller of the other hand, which cannot move to this one
    have hother : deviceType = side.other.controller := by
      by_contra hne
      refine hno ⟨fun s => ?_, hany⟩
      cases s <;> cases side <;> first | exact hown | exact hne
    subst hother
    have hmove : tryMoveAssignment xdevs (roles.hand side.other) (roles.hand side) =
        (roles.hand side.other, roles.hand side) :=
      tryMoveAssignment_stays fun _ _ => .inr (hstays.hand ▸ nofun)
    have hown' := @assignByType_own xdevs roles i side.other
    have hother' := @assignByType_own_other xdevs roles i side.other
    rw [Hand.other_other, hmove] at hown' hother'
    exact ⟨hother'.trans hstays.hand, .inr (hown' ▸ fill_ne_none _ i)⟩

/-! ## Runs -/

def pin (l r : ℕ) : Hand → ℕ
  | .left => l
  | .right => r

theorem eq_pin (side : Hand) (hi : i = l ∨ i = r) : i = pin l r side ∨ i = pin l r side.other := by
  cases side
  · exact hi
  · exact hi.symm

namespace Named

variable (hn : Named xdevs serials h l r)
include hn

theorem assign_pin (roles : XdevRoles) (side : Hand) :
    (assignXdev xdevs serials roles (pin l r side)).hand side = some (pin l r side) ∧
      (assignXdev xdevs serials roles (pin l r side)).hand side.other = roles.hand side.other := by
  cases side
  · exact (congrArg (fun roles : XdevRoles => roles.left = some l ∧ roles.right = _) hn.assign_left).mpr ⟨rfl, rfl⟩
  · exact (congrArg (fun roles : XdevRoles => roles.right = some r ∧ roles.left = _) hn.assign_right).mpr ⟨rfl, rfl⟩

theorem assign_stays (hstays : Stays xdevs side a roles) (hi : i ≠ pin l r side) :
    Stays xdevs side a (assignXdev xdevs serials roles i) := by
  by_cases hh : i = h
  · rw [hh, hn.assign_head]
    cases side <;> exact ⟨hstays.hand, hstays.kept⟩
  by_cases ho : i = pin l r side.other
  · obtain ⟨hother, hhand⟩ := hn.assign_pin roles side.other
    rw [Hand.other_other] at hhand
    rw [ho]
    exact ⟨hhand.trans hstays.hand, .inr (hother ▸ nofun)⟩
  · have hl : i ≠ l := fun heq => (eq_pin side (.inl heq)).elim hi ho
    have hr : i ≠ r := fun heq => (eq_pin side (.inr heq)).elim hi ho
    rw [hn.assign_other hh hl hr]
    cases (unnamed xdevs serials).typeAt i with
    | none => exact hstays
    | some deviceType => exact hstays.assignByType i deviceType

theorem rolesAfter_stays (hstays : Stays xdevs side a (rolesAfter xdevs serials k)) (hk : pin l r side < k)
    (hkn : k ≤ n) : Stays xdevs side a (rolesAfter xdevs serials n) := by
  induction n, hkn using Nat.le_induction with
  | base => exact hstays
  | succ n hkn ih =>
    rw [rolesAfter_succ]
    exact hn.assign_stays ih (Nat.ne_of_gt (Nat.lt_of_lt_of_le hk hkn))

theorem rolesAfter_idle (hkn : k ≤ n) (hpin : ∀ i, k ≤ i → i < n → i ≠ l ∧ i ≠ r)
    (hidle : ∀ i, k ≤ i → i < n → ¬Fits xdevs serials i) (side : Hand) :
    (rolesAfter xdevs serials n).hand side = (rolesAfter xdevs serials k).hand side := by
  induction n, hkn using Nat.le_induction with
  | base => rfl
  | succ n hkn ih =>
    have hih := ih (fun i hk hi => hpin i hk (Nat.lt_succ_of_lt hi)) fun i hk hi => hidle i hk (Nat.lt_succ_of_lt hi)
    rw [rolesAfter_succ, ← hih]
    by_cases hh : n = h
    · rw [hh, hn.assign_head]
      cases side <;> rfl
    · obtain ⟨hl, hr⟩ := hpin n hkn (Nat.lt_succ_self n)
      rw [hn.assign_other hh hl hr]
      cases htype : (unnamed xdevs serials).typeAt n with
      | none => rfl
      | some deviceType =>
        refine assignByType_noHand ⟨?_, ?_⟩ side
        · rintro (_ | _) rfl
          · exact hidle n hkn (Nat.lt_succ_self n) (.inl ⟨Nat.lt_succ_self n, .inl htype⟩)
          · exact hidle n hkn (Nat.lt_succ_self n) (.inr ⟨Nat.lt_succ_self n, .inl htype⟩)
        · rintro rfl
          exact hidle n hkn (Nat.lt_succ_self n) (.inl ⟨Nat.lt_succ_self n, .inr htype⟩)

end Named

/-! ## Before the named controllers -/

theorem tryMoveAssignment_congr {ydevs : Xdevs} {hand otherHand : Option ℕ}
    (hsame : ∀ a, hand = some a → xdevs.typeAt a = ydevs.typeAt a) :
    tryMoveAssignment xdevs hand otherHand = tryMoveAssignment ydevs hand otherHand := by
  cases hand with
  | none => rfl
  | some a =>
    unfold tryMoveAssignment
    dsimp only
    rw [hsame a rfl]

theorem assignByType_congr {ydevs : Xdevs} (hsame : ∀ side a, roles.hand side = some a →
    xdevs.typeAt a = ydevs.typeAt a) : assignByType xdevs roles i deviceType = assignByType ydevs roles i deviceType := by
  have hleft : tryMoveAssignment xdevs roles.left roles.right = tryMoveAssignment ydevs roles.left roles.right :=
    tryMoveAssignment_congr (hsame .left)
  have hright : tryMoveAssignment xdevs roles.right roles.left = tryMoveAssignment ydevs roles.right roles.left :=
    tryMoveAssignment_congr (hsame .right)
  unfold assignByType
  rw [hleft, hright]

/-- No controller but the named ones, or not more than the other hand can take, asks for a hand. -/
def Free (xdevs : Xdevs) (k : ℕ) : Hand → Prop
  | .left => ∀ i, ¬FitsLeft xdevs k i
  | .right => ∀ j, FitsRight xdevs k j → FitsLeft xdevs k j ∧ ∀ i, FitsLeft xdevs k i → i = j

theorem HandsInv.free_iff (hinv : HandsInv xdevs k roles.left roles.right) (side : Hand) :
    roles.hand side = none ↔ Free xdevs k side := by
  cases side with
  | left =>
    refine ⟨hinv.leftFree, fun hfree => ?_⟩
    by_contra hne
    obtain ⟨a, ha⟩ := Option.ne_none_iff_exists'.mp hne
    exact hfree a (hinv.matching.atLeft a ha)
  | right =>
    refine ⟨fun hnone j hj => ?_, fun hfree => ?_⟩
    · obtain ⟨hleft, hall⟩ := hinv.rightFree hnone j hj
      exact ⟨hinv.matching.atLeft j hleft, hall⟩
    · by_contra hne
      obtain ⟨b, hb⟩ := Option.ne_none_iff_exists'.mp hne
      obtain ⟨hfits, hall⟩ := hfree b (hinv.matching.atRight b hb)
      cases hleft : roles.left with
      | none => exact hinv.leftFree hleft b hfits
      | some a =>
        obtain rfl := hall a (hinv.matching.atLeft a hleft)
        exact hinv.matching.ne a hleft hb

theorem Named.handsInv (hn : Named xdevs serials h l r) (hl : k ≤ l) (hr : k ≤ r) :
    HandsInv (unnamed xdevs serials) k (rolesAfter xdevs serials k).left (rolesAfter xdevs serials k).right := by
  induction k with
  | zero =>
    exact ⟨⟨nofun, nofun, nofun⟩, fun _ i hi => Nat.not_lt_zero i hi.1, fun _ j hj => absurd hj.1 (Nat.not_lt_zero j)⟩
  | succ k ih =>
    have hinv := ih (Nat.le_of_succ_le hl) (Nat.le_of_succ_le hr)
    rw [rolesAfter_succ]
    by_cases hh : k = h
    · have hnone : (unnamed xdevs serials).typeAt k = none :=
        congrArg (Option.map _) (hn.unnamed_named (.inl hh))
      rw [hh, hn.assign_head, ← hh]
      refine hinv.skip ?_ ?_
      all_goals
        rintro ⟨-, htype | htype⟩
        all_goals
          rw [hnone] at htype
          cases htype
    · have hassign := hinv.assign
      rw [assignXdev_none] at hassign
      rw [hn.assign_other hh (Nat.ne_of_lt hl) (Nat.ne_of_lt hr)]
      cases htype : (unnamed xdevs serials).typeAt k with
      | none =>
        rw [htype] at hassign
        exact hassign
      | some deviceType =>
        rw [htype] at hassign
        have hsame : ∀ side a, (rolesAfter xdevs serials k).hand side = some a →
            xdevs.typeAt a = (unnamed xdevs serials).typeAt a := by
          rintro (_ | _) a ha
          · obtain ⟨-, hfits | hfits⟩ := hinv.matching.atLeft a ha
            all_goals rw [hfits, typeAt_of_unnamed hfits]
          · obtain ⟨-, hfits | hfits⟩ := hinv.matching.atRight a ha
            all_goals rw [hfits, typeAt_of_unnamed hfits]
        rw [Option.elim_some, assignByType_congr hsame]
        exact hassign

/-! ## Between the named controllers -/

/-- A controller for any hand is the first to be named for one, and the next device that asks for a hand is a controller
of that hand while the other one is free. -/
structure Moved (xdevs : Xdevs) (serials : SerialOverrides) (side : Hand) (a b : ℕ) : Prop where
  before : a < b
  anyHand : xdevs.typeAt a = some XRT_DEVICE_TYPE_ANY_HAND_CONTROLLER
  free : Free (unnamed xdevs serials) a side.other
  next : ∃ i, a < i ∧ i < b ∧ (unnamed xdevs serials).typeAt i = some side.controller ∧
    ∀ j, a < j → j < i → ¬Fits xdevs serials j

theorem fits_of_controller (htype : (unnamed xdevs serials).typeAt i = some side.controller) : Fits xdevs serials i := by
  cases side
  · exact .inl ⟨Nat.lt_succ_self i, .inl htype⟩
  · exact .inr ⟨Nat.lt_succ_self i, .inl htype⟩

theorem Fits.cases (hfits : Fits xdevs serials i) (side : Hand) :
    (unnamed xdevs serials).typeAt i = some side.controller ∨
      (unnamed xdevs serials).typeAt i = some side.other.controller ∨
      (unnamed xdevs serials).typeAt i = some XRT_DEVICE_TYPE_ANY_HAND_CONTROLLER := by
  obtain ⟨-, hown | hany⟩ | ⟨-, hown | hany⟩ := hfits
  · cases side
    · exact .inl hown
    · exact .inr (.inl hown)
  · exact .inr (.inr hany)
  · cases side
    · exact .inr (.inl hown)
    · exact .inl hown
  · exact .inr (.inr hany)

theorem assignByType_moves (hhand : roles.hand side = some a)
    (hany : xdevs.typeAt a = some XRT_DEVICE_TYPE_ANY_HAND_CONTROLLER) (hfree : roles.hand side.other = none) :
    (assignByType xdevs roles i side.controller).hand side = some i ∧
      (assignByType xdevs roles i side.controller).hand side.other = some a := by
  have hmove : tryMoveAssignment xdevs (roles.hand side) (roles.hand side.other) = (none, some a) := by
    rw [hhand, hfree]
    exact if_pos ⟨hany, rfl⟩
  exact ⟨by rw [assignByType_own, hmove]; rfl, by rw [assignByType_own_other, hmove]⟩

theorem assignByType_settles (hhand : roles.hand side = some a) (hfree : roles.hand side.other = none)
    (htype : deviceType = side.other.controller ∨ deviceType = XRT_DEVICE_TYPE_ANY_HAND_CONTROLLER) :
    Stays xdevs side a (assignByType xdevs roles i deviceType) := by
  rcases htype with rfl | rfl
  · have hmove : tryMoveAssignment xdevs (roles.hand side.other) (roles.hand side) = (none, some a) := by
      rw [hhand, hfree]
      rfl
    have hown := @assignByType_own xdevs roles i side.other
    have hother := @assignByType_own_other xdevs roles i side.other
    rw [Hand.other_other, hmove] at hown hother
    exact ⟨hother, .inr (hown ▸ nofun)⟩
  · obtain ⟨hstill, hother⟩ := @assignByType_any xdevs _ i _ _ hhand
    exact ⟨hstill, .inr (hother ▸ fill_ne_none _ i)⟩

theorem pin_le (hle : pin l r side ≤ pin l r side.other) : pin l r side ≤ l ∧ pin l r side ≤ r := by
  cases side
  · exact ⟨le_rfl, hle⟩
  · exact ⟨hle, le_rfl⟩

theorem ne_of_between (hlow : pin l r side < i) (hhigh : i < pin l r side.other) : i ≠ l ∧ i ≠ r := by
  refine ⟨fun heq => ?_, fun heq => ?_⟩
  · rcases eq_pin (l := l) (r := r) side (.inl heq) with h | h <;> omega
  · rcases eq_pin (l := l) (r := r) side (.inr heq) with h | h <;> omega

namespace Named

variable (hn : Named xdevs serials h l r)
include hn

theorem ne_head_of_fits (hfits : Fits xdevs serials i) : i ≠ h := by
  rintro rfl
  have hnone : (unnamed xdevs serials).typeAt i = none := congrArg (Option.map _) (hn.unnamed_named (.inl rfl))
  rcases hfits.cases .left with htype | htype | htype
  all_goals
    rw [hnone] at htype
    cases htype

theorem rolesAfter_next (hlow : pin l r side < i) (hhigh : i < pin l r side.other)
    (hhand : (rolesAfter xdevs serials i).hand side = some a)
    (hany : xdevs.typeAt a = some XRT_DEVICE_TYPE_ANY_HAND_CONTROLLER)
    (hfree : (rolesAfter xdevs serials i).hand side.other = none) (hfits : Fits xdevs serials i) :
    Stays xdevs side (if (unnamed xdevs serials).typeAt i = some side.controller then i else a)
      (rolesAfter xdevs serials (i + 1)) := by
  obtain ⟨hl, hr⟩ := ne_of_between hlow hhigh
  rw [rolesAfter_succ, hn.assign_other (hn.ne_head_of_fits hfits) hl hr]
  by_cases hown : (unnamed xdevs serials).typeAt i = some side.controller
  · rw [if_pos hown, hown, Option.elim_some]
    obtain ⟨hnew, -⟩ := assignByType_moves (i := i) hhand hany hfree
    refine ⟨hnew, .inl ?_⟩
    rw [typeAt_of_unnamed hown]
    exact fun heq => side.controller_ne_any (Option.some.inj heq)
  · rw [if_neg hown]
    rcases hfits.cases side with htype | htype | htype
    · exact absurd htype hown
    · rw [htype]
      exact assignByType_settles hhand hfree (.inl rfl)
    · rw [htype]
      exact assignByType_settles hhand hfree (.inr rfl)

theorem rolesAfter_both (hlt : pin l r side < pin l r side.other) :
    ∃ a, Stays xdevs side a (rolesAfter xdevs serials (pin l r side.other + 1)) ∧
      (a = pin l r side ↔ ¬Moved xdevs serials side (pin l r side) (pin l r side.other)) := by
  obtain ⟨hpl, hpr⟩ := pin_le (Nat.le_of_lt hlt)
  have hfree := (hn.handsInv hpl hpr).free_iff side.other
  obtain ⟨hpin, hpinOther⟩ := hn.assign_pin (rolesAfter xdevs serials (pin l r side)) side
  rw [← rolesAfter_succ] at hpin hpinOther
  -- once the hand stays as it is, it does to the end
  have hend : ∀ {k a}, Stays xdevs side a (rolesAfter xdevs serials k) → pin l r side < k → k ≤ pin l r side.other + 1 →
      Stays xdevs side a (rolesAfter xdevs serials (pin l r side.other + 1)) := fun hstays => hn.rolesAfter_stays hstays
  by_cases hsettled : xdevs.typeAt (pin l r side) = some XRT_DEVICE_TYPE_ANY_HAND_CONTROLLER ∧
      (rolesAfter xdevs serials (pin l r side)).hand side.other = none
  swap
  · have hstays : Stays xdevs side (pin l r side) (rolesAfter xdevs serials (pin l r side + 1)) := by
      refine ⟨hpin, ?_⟩
      rw [hpinOther]
      exact not_and_or.mp hsettled
    exact ⟨_, hend hstays (Nat.lt_succ_self _) (by omega), iff_of_true rfl fun hmoved =>
      hsettled ⟨hmoved.anyHand, hfree.mpr hmoved.free⟩⟩
  obtain ⟨hany, hnone⟩ := hsettled
  -- up to the first device that asks for a hand, the hands are as after the named controller
  have hidle : ∀ k, pin l r side < k → k ≤ pin l r side.other →
      (∀ i, pin l r side < i → i < k → ¬Fits xdevs serials i) →
      (rolesAfter xdevs serials k).hand side = some (pin l r side) ∧
        (rolesAfter xdevs serials k).hand side.other = none := by
    intro k hlow hhigh hno
    have hsame := hn.rolesAfter_idle (Nat.succ_le_of_lt hlow)
      (fun i hi hik => ne_of_between hi (lt_of_lt_of_le hik hhigh)) hno
    exact ⟨(hsame side).trans hpin, (hsame side.other).trans (hpinOther.trans hnone)⟩
  by_cases hfits : ∃ i, pin l r side < i ∧ i < pin l r side.other ∧ Fits xdevs serials i
  · classical
    obtain ⟨i, ⟨hlow, hhigh, hi⟩, hfirst⟩ : ∃ i, (pin l r side < i ∧ i < pin l r side.other ∧ Fits xdevs serials i) ∧
        ∀ j, pin l r side < j → j < i → ¬Fits xdevs serials j :=
      ⟨Nat.find hfits, Nat.find_spec hfits, fun j hlow hj hfit => Nat.find_min hfits hj
        ⟨hlow, Nat.lt_trans hj (Nat.find_spec hfits).2.1, hfit⟩⟩
    obtain ⟨hhand, hother⟩ := hidle i hlow (Nat.le_of_lt hhigh) hfirst
    refine ⟨_, hend (hn.rolesAfter_next hlow hhigh hhand hany hother hi) (Nat.lt_succ_of_lt hlow) (by omega), ?_⟩
    by_cases hown : (unnamed xdevs serials).typeAt i = some side.controller
    · rw [if_pos hown]
      exact iff_of_false (Nat.ne_of_gt hlow) fun hmoved =>
        hmoved ⟨hlt, hany, hfree.mp hnone, i, hlow, hhigh, hown, hfirst⟩
    · rw [if_neg hown]
      refine iff_of_true rfl fun hmoved => ?_
      obtain ⟨j, hlowj, -, hj, hfirstj⟩ := hmoved.next
      rcases Nat.lt_trichotomy i j with hij | rfl | hji
      · exact hfirstj i hlow hij hi
      · exact hown hj
      · exact hfirst j hlowj hji (fits_of_controller hj)
  · have hno : ∀ i, pin l r side < i → i < pin l r side.other → ¬Fits xdevs serials i := fun i hlow hhigh hi =>
      hfits ⟨i, hlow, hhigh, hi⟩
    obtain ⟨hhand, -⟩ := hidle _ hlt le_rfl hno
    obtain ⟨hlast, hstill⟩ := hn.assign_pin (rolesAfter xdevs serials (pin l r side.other)) side.other
    rw [← rolesAfter_succ, Hand.other_other] at hstill
    rw [← rolesAfter_succ] at hlast
    refine ⟨_, ⟨hstill.trans hhand, .inr (hlast ▸ nofun)⟩, iff_of_true rfl fun hmoved => ?_⟩
    obtain ⟨j, hlowj, hhighj, hj, -⟩ := hmoved.next
    exact hno j hlowj hhighj (fits_of_controller hj)

theorem lt_length : h < xdevs.length ∧ l < xdevs.length ∧ r < xdevs.length := by
  have hlt : ∀ i (p : XrtDeviceFields → Bool), (xdevs.at i).any p = true → i < xdevs.length := by
    intro i p hany
    by_contra hge
    unfold Xdevs.at at hany
    rw [List.getElem?_eq_none_iff.mpr (Nat.le_of_not_lt hge)] at hany
    cases hany
  exact ⟨hlt h _ ((hn.head h).mpr rfl), hlt l _ ((hn.left l).mpr rfl), hlt r _ ((hn.right r).mpr rfl)⟩

theorem rolesAfter_head (hk : h < k) : (rolesAfter xdevs serials k).head = some h := by
  induction k, hk using Nat.le_induction with
  | base => rw [rolesAfter_succ, hn.assign_head]
  | succ k hk ih =>
    rw [rolesAfter_succ]
    by_cases hl : k = l
    · rw [hl, hn.assign_left, ← hl]
      exact ih
    by_cases hr : k = r
    · rw [hr, hn.assign_right, ← hr]
      exact ih
    rw [hn.assign_other (Nat.ne_of_gt hk) hl hr]
    cases (unnamed xdevs serials).typeAt k with
    | none => exact ih
    | some deviceType =>
      rw [Option.elim_some, (assignByType_others xdevs _ k deviceType).1, ih, fill_some, ite_self]

theorem rolesAfter_hands (hlt : pin l r side < pin l r side.other) (hkn : pin l r side.other < n) :
    (rolesAfter xdevs serials n).hand side.other = some (pin l r side.other) ∧
      (rolesAfter xdevs serials n).hand side ≠ none ∧
      ((rolesAfter xdevs serials n).hand side = some (pin l r side) ↔
        ¬Moved xdevs serials side (pin l r side) (pin l r side.other)) := by
  obtain ⟨a, hstays, hmoved⟩ := hn.rolesAfter_both hlt
  obtain ⟨hlast, -⟩ := hn.assign_pin (rolesAfter xdevs serials (pin l r side.other)) side.other
  rw [← rolesAfter_succ] at hlast
  have hother : Stays xdevs side.other (pin l r side.other) (rolesAfter xdevs serials (pin l r side.other + 1)) := by
    refine ⟨hlast, .inr ?_⟩
    rw [Hand.other_other, hstays.hand]
    nofun
  have hend := hn.rolesAfter_stays hstays (Nat.lt_succ_of_lt hlt) hkn
  refine ⟨(hn.rolesAfter_stays hother (Nat.lt_succ_self _) hkn).hand, hend.hand ▸ nofun, ?_⟩
  rw [hend.hand, Option.some.injEq]
  exact hmoved

end Named

/-! ## The roles -/

/-- A controller for any hand that a named controller has put out of a hand. -/
structure Displaced (xdevs : Xdevs) (serials : SerialOverrides) (side : Hand) (k i : ℕ) : Prop where
  anyHand : xdevs.typeAt i = some XRT_DEVICE_TYPE_ANY_HAND_CONTROLLER
  had : (rolesAfter xdevs serials k).hand side = some i
  lost : (rolesAfter xdevs serials (k + 1)).hand side ≠ some i

/-- The named devices have their roles, and a controller that one of them has displaced has the other hand unless another
device has it. -/
structure RolesAsNamed (xdevs : Xdevs) (serials : SerialOverrides) (h l r : ℕ) (roles : XdevRoles) : Prop where
  returned : uDeviceAssignXdevRoles xdevs serials = some roles
  head : roles.head = some h
  left : roles.left = some l
  right : roles.right = some r
  displaced : ∀ side i, Displaced xdevs serials side (pin l r side) i →
    (∀ j, roles.hand side.other = some j → j = i) → roles.hand side.other = some i

theorem RolesAsNamed.hand (hroles : RolesAsNamed xdevs serials h l r roles) (side : Hand) :
    roles.hand side = some (pin l r side) := by
  cases side
  · exact hroles.left
  · exact hroles.right

theorem uDeviceAssignXdevRoles_eq (hlength : xdevs.length < 2147483647) :
    ∃ roles, uDeviceAssignXdevRoles xdevs serials = some roles ∧
      roles.head = (rolesAfter xdevs serials xdevs.length).head ∧
      ∀ side, (rolesAfter xdevs serials xdevs.length).hand side ≠ none →
        roles.hand side = (rolesAfter xdevs serials xdevs.length).hand side := by
  refine ⟨_, if_pos hlength, ?_, ?_⟩
  all_goals rw [foldl_fillByInputs, fillHands_eq]
  rintro (_ | _) hne
  all_goals
    obtain ⟨i, hi⟩ := Option.ne_none_iff_exists'.mp hne
    unfold XdevRoles.hand at hi ⊢
    dsimp only at hi ⊢
    rw [hi, Option.some_or]

theorem uDeviceAssignXdevRoles_rolesAsNamed (hn : Named xdevs serials h l r) (hlength : xdevs.length < 2147483647) :
    (∃ roles, RolesAsNamed xdevs serials h l r roles) ↔
      ¬Moved xdevs serials .left l r ∧ ¬Moved xdevs serials .right r l := by
  obtain ⟨roles, hreturned, hhead, hhands⟩ := @uDeviceAssignXdevRoles_eq xdevs serials hlength
  obtain ⟨hh, hl, hr⟩ := hn.lt_length
  have hall : ∀ side, pin l r side < xdevs.length := by
    rintro (_ | _)
    · exact hl
    · exact hr
  -- `side` is that of the first named controller
  obtain ⟨side, hlt⟩ : ∃ side, pin l r side < pin l r side.other := by
    rcases Nat.lt_or_gt_of_ne hn.leftRight with hlt | hgt
    · exact ⟨.left, hlt⟩
    · exact ⟨.right, hgt⟩
  obtain ⟨hother, hne, hiff⟩ := hn.rolesAfter_hands hlt (hall side.other)
  rw [← hhands side.other (hother ▸ nofun)] at hother
  rw [← hhands side hne] at hiff
  have hlate : ¬Moved xdevs serials side.other (pin l r side.other) (pin l r side) := fun hmoved =>
    Nat.lt_asymm hlt hmoved.before
  have hmoved : (¬Moved xdevs serials .left l r ∧ ¬Moved xdevs serials .right r l) ↔
      ¬Moved xdevs serials side (pin l r side) (pin l r side.other) := by
    cases side
    · exact and_iff_left hlate
    · exact and_iff_right hlate
  rw [hmoved, ← hiff]
  constructor
  · rintro ⟨roles', hroles⟩
    obtain rfl : roles = roles' := Option.some.inj (hreturned.symm.trans hroles.returned)
    exact hroles.hand side
  · intro hhand
    have hboth : ∀ s, roles.hand s = some (pin l r s) := by
      intro s
      cases side <;> cases s <;> first | exact hhand | exact hother
    refine ⟨roles, hreturned, hhead.trans (hn.rolesAfter_head hh), hboth .left, hboth .right, fun s i _ hfree => ?_⟩
    rw [hboth s.other, hfree _ (hboth s.other)]

def serialOf (char : UInt8) (hchar : char ≠ 0) : XrtDeviceStr :=
  ⟨[char], by simp [hchar.symm], (by decide : 1 < 256)⟩

/-- The serial numbers `h`, `l` and `r`. -/
def headLeftRight : SerialOverrides := ⟨some [104], some [108], some [114]⟩

def anyNamedLeft : Xdevs :=
  [some (deviceOfType XRT_DEVICE_TYPE_ANY_HAND_CONTROLLER (serialOf 108 (by decide))),
    some (deviceOfType XRT_DEVICE_TYPE_LEFT_HAND_CONTROLLER .empty),
    some (deviceOfType XRT_DEVICE_TYPE_RIGHT_HAND_CONTROLLER (serialOf 114 (by decide))),
    some (deviceOfType XRT_DEVICE_TYPE_HMD (serialOf 104 (by decide)))]

theorem at_iff {p : XrtDeviceFields → Bool} {a : ℕ} (ha : a < xdevs.length)
    (hall : ∀ i : Fin xdevs.length, (xdevs.at i).any p = true ↔ (i : ℕ) = a) (i : ℕ) :
    (xdevs.at i).any p = true ↔ i = a := by
  rcases Nat.lt_or_ge i xdevs.length with hi | hi
  · exact hall ⟨i, hi⟩
  · refine iff_of_false ?_ (by omega)
    unfold Xdevs.at
    rw [List.getElem?_eq_none_iff.mpr hi]
    nofun

theorem anyNamedLeft_named : Named anyNamedLeft headLeftRight 3 0 2 :=
  ⟨at_iff (by decide) (by decide), at_iff (by decide) (by decide), at_iff (by decide) (by decide), by decide, by decide,
    by decide⟩

theorem anyNamedLeft_left :
    (uDeviceAssignXdevRoles anyNamedLeft headLeftRight).map (·.left) = some (some 1) := by
  decide

theorem not_rolesAsNamed_anyNamedLeft : Named anyNamedLeft headLeftRight 3 0 2 ∧
    ¬∃ roles, RolesAsNamed anyNamedLeft headLeftRight 3 0 2 roles := by
  refine ⟨anyNamedLeft_named, ?_⟩
  rintro ⟨roles, hroles⟩
  have hleft := anyNamedLeft_left
  rw [hroles.returned, Option.map_some, hroles.left] at hleft
  exact absurd (Option.some.inj (Option.some.inj hleft)) (by decide)

def anyFirst : Xdevs :=
  [some (deviceOfType XRT_DEVICE_TYPE_ANY_HAND_CONTROLLER .empty),
    some (deviceOfType XRT_DEVICE_TYPE_RIGHT_HAND_CONTROLLER (serialOf 114 (by decide))),
    some (deviceOfType XRT_DEVICE_TYPE_ANY_HAND_CONTROLLER (serialOf 108 (by decide))),
    some (deviceOfType XRT_DEVICE_TYPE_HMD (serialOf 104 (by decide)))]

theorem anyFirst_named : Named anyFirst headLeftRight 3 2 1 :=
  ⟨at_iff (by decide) (by decide), at_iff (by decide) (by decide), at_iff (by decide) (by decide), by decide, by decide,
    by decide⟩

/-- The named controllers put the first one out of both hands. -/
theorem uDeviceAssignXdevRoles_rolesAsNamed_anyFirst : ∃ roles, RolesAsNamed anyFirst headLeftRight 3 2 1 roles :=
  (uDeviceAssignXdevRoles_rolesAsNamed anyFirst_named (by decide)).2
    ⟨fun hmoved => absurd hmoved.before (by decide), fun hmoved => absurd hmoved.anyHand (by decide)⟩

end AugmentedInsanity.Util
