/-
How the prober collects devices (`p_select_device` of `p_prober.c`): the drivers of the devices that were probed,
then the auto probers, each while there is room; the HMD goes first; wrappers take the places of overridden
devices; and without an HMD the devices are destroyed again. That last loop begins at the second place
(`pSelectDevice_iff`).
-/
import AugmentedInsanity.Lib.PackedSlots
import AugmentedInsanity.Util.DeviceRoles

namespace AugmentedInsanity.SelectDevice

open Xrt Util PackedSlots

/-! ## Devices -/

/-- A device a driver has created; `hmd` says if it has head parts. -/
structure Device where
  ptr : ℕ
  deviceType : UInt32
  hmd : Bool
  serial : XrtDeviceStr
  deriving DecidableEq

def Device.isHmd (xdev : Device) : Bool := xdev.deviceType = XRT_DEVICE_TYPE_HMD

inductive XrtTrackingOverrideType
  | direct
  | attached
  deriving DecidableEq

structure XrtTrackingOverride where
  targetDeviceSerial : List UInt8
  trackerDeviceSerial : List UInt8
  inputName : XrtInputName
  offset : XrtPose
  overrideType : XrtTrackingOverrideType
  deriving DecidableEq

/-- `struct xrt_device *`: a driver's, or a wrapper, which copies the fields of its target. -/
inductive Xdev
  | driver (xdev : Device)
  | multi (overrideType : XrtTrackingOverrideType) (inputName : XrtInputName) (offset : XrtPose) (target tracker : Xdev)

namespace Xdev

/-- The driver's device that is wrapped; destroying a wrapper destroys its target, and not its tracker. -/
def root : Xdev → Device
  | driver xdev => xdev
  | multi _ _ _ target _ => target.root

def serial (xdev : Xdev) : XrtDeviceStr := xdev.root.serial

/-- `xdev->hmd != NULL`. -/
def hmd (xdev : Xdev) : Bool := xdev.root.hmd

end Xdev

/-! ## Found devices -/

/-- The list, if an HMD is in it, and the devices whose `destroy` has been called. -/
structure Slots where
  xdevs : List (Option Xdev)
  haveHmd : Bool
  destroyed : List Device

/-- An array of `NULL`s. -/
def Slots.empty (xdevCount : ℕ) : Slots := ⟨List.replicate xdevCount none, false, []⟩

def handleFoundDevice (s : Slots) (xdev : Device) : Slots :=
  let i := s.xdevs.findIdx Option.isNone
  if i + 1 > s.xdevs.length then { s with destroyed := s.destroyed ++ [xdev] }
  else if xdev.deviceType = XRT_DEVICE_TYPE_HMD then
    if s.haveHmd then { s with destroyed := s.destroyed ++ [xdev] }
    else { s with haveHmd := true, xdevs := s.xdevs.set i (some (.driver xdev)) }
  else { s with xdevs := s.xdevs.set i (some (.driver xdev)) }

/-! ## Drivers -/

/-- What a driver returns, and the array of devices it has filled. -/
structure Found where
  numFound : ℤ
  newXdevs : List (Option Device)

/-- The devices the loop over a driver's answer comes to. -/
def Found.created (f : Found) : List Device := (f.newXdevs.take f.numFound.toNat).reduceOption

variable (W : Type)

structure XrtProberDevice where
  vendorId : UInt16
  productId : UInt16

/-- `struct xrt_prober_entry`; `found` gets the index of the probed device. `W` is everything else there is. -/
structure XrtProberEntry where
  vendorId : UInt16
  productId : UInt16
  driverName : String
  found : ℕ → W → Found × W

/-- `struct xrt_auto_prober`; `lelo_dallas_autoprobe` is told if an HMD has been found. -/
structure XrtAutoProber where
  name : String
  leloDallasAutoprobe : Bool → W → Found × W

abbrev XRT_MAX_AUTO_PROBERS : ℕ := 16

inductive ActiveConfig
  | none
  | tracking
  | remote
  deriving DecidableEq

/-- `struct prober`; `trackingOverrides` are those of the configuration, if it has any. -/
structure Prober where
  devices : List XrtProberDevice
  entries : List (XrtProberEntry W)
  autoProbers : List (XrtAutoProber W)
  disabledDrivers : List String
  listLocked : Bool
  active : ActiveConfig
  trackingOverrides : Option (List XrtTrackingOverride)

/-- The list so far, and the devices that drivers have returned so far. -/
structure Discovery where
  slots : Slots
  created : List Device
  world : W

variable {W}

/-- The loop over what a driver has returned. -/
def addFound (d : Discovery W) (f : Found × W) : Discovery W where
  slots := f.1.created.foldl handleFoundDevice d.slots
  created := d.created ++ f.1.created
  world := f.2

/-- One turn of the inner loop: the probed device `pdev` at `i`, and an entry. -/
def addFromEntry (p : Prober W) (d : Discovery W) (i : ℕ) (pdev : XrtProberDevice) (entry : XrtProberEntry W) :
    Discovery W :=
  if pdev.vendorId ≠ entry.vendorId ∨ pdev.productId ≠ entry.productId then d
  else if p.disabledDrivers.contains entry.driverName then d
  else addFound d (entry.found i d.world)

def addFromDevices (p : Prober W) (d : Discovery W) : Discovery W :=
  if p.listLocked then d
  else p.devices.zipIdx.foldl (fun d pdev => p.entries.foldl (fun d entry => addFromEntry p d pdev.2 pdev.1 entry) d) d

def addFromAutoProber (p : Prober W) (d : Discovery W) (autoProber : XrtAutoProber W) : Discovery W :=
  if p.disabledDrivers.contains autoProber.name then d
  else addFound d (autoProber.leloDallasAutoprobe d.slots.haveHmd d.world)

def addFromAutoProbers (p : Prober W) (d : Discovery W) : Discovery W :=
  (p.autoProbers.take XRT_MAX_AUTO_PROBERS).foldl (addFromAutoProber p) d

/-- The `switch` over the active configuration. -/
def discover (p : Prober W) (xdevCount : ℕ) (w : W) : Discovery W :=
  match p.active with
  | .none | .tracking => addFromAutoProbers p (addFromDevices p ⟨Slots.empty xdevCount, [], w⟩)
  | .remote => ⟨Slots.empty xdevCount, [], w⟩

/-! ## The list -/

/-- The loop from the second place on: the first device with head parts goes to the first place. -/
def moveHmdFirst (xdevs : List (Option Xdev)) : List (Option Xdev) :=
  match xdevs.tail.findIdx? fun xdev => xdev.any Xdev.hmd with
  | none => xdevs
  | some i => toFront xdevs (i + 1)

/-- The last device with a serial number, and its place. -/
def lastWithSerial (xdevs : List (Option Xdev)) (serial : List UInt8) : Option (ℕ × Xdev) :=
  xdevs.zipIdx.foldl (fun found entry =>
    match entry.1 with
    | none => found
    | some xdev => if strncmpEq xdev.serial.chars serial XRT_DEVICE_NAME_LEN then some (entry.2, xdev) else found) none

/-- `allocated` says if there was memory for the wrapper. -/
def applyTrackingOverride (allocated : Bool) (xdevs : List (Option Xdev)) (o : XrtTrackingOverride) :
    List (Option Xdev) :=
  match lastWithSerial xdevs o.targetDeviceSerial, lastWithSerial xdevs o.trackerDeviceSerial with
  | some (targetIdx, target), some (_, tracker) =>
    if allocated then xdevs.set targetIdx (some (.multi o.overrideType o.inputName o.offset target tracker)) else xdevs
  | _, _ => xdevs

/-- The last loop: every place but the first is emptied. -/
def destroyAfterFirst (s : Slots) : Slots where
  xdevs := s.xdevs.take 1 ++ List.replicate (s.xdevs.length - 1) none
  haveHmd := s.haveHmd
  destroyed := s.destroyed ++ (s.xdevs.drop 1).reduceOption.map Xdev.root

/-- The slots when `p_select_device` returns, and the devices that drivers have returned to it. `allocated i` says
if there was memory for the wrapper of the override `i`. -/
def pSelectDevice (p : Prober W) (allocated : ℕ → Bool) (xdevCount : ℕ) (w : W) : Slots × List Device :=
  let d := discover p xdevCount w
  let xdevs := (p.trackingOverrides.getD []).zipIdx.foldl (fun xdevs o => applyTrackingOverride (allocated o.2) xdevs o.1)
    (moveHmdFirst d.slots.xdevs)
  let s := { d.slots with xdevs }
  (if s.haveHmd then s else destroyAfterFirst s, d.created)

/-! ## What is kept -/

def oneHmd : Bool → List Device → List Device
  | _, [] => []
  | haveHmd, xdev :: xdevs =>
    if xdev.isHmd then if haveHmd then oneHmd true xdevs else xdev :: oneHmd true xdevs
    else xdev :: oneHmd haveHmd xdevs

def kept (xdevCount : ℕ) (created : List Device) : List Device := (oneHmd false created).take xdevCount

theorem oneHmd_sublist (haveHmd : Bool) (xdevs : List Device) : (oneHmd haveHmd xdevs).Sublist xdevs := by
  induction xdevs generalizing haveHmd with
  | nil => exact List.Sublist.refl _
  | cons xdev xdevs ih =>
    rw [oneHmd]
    split
    · split
      · exact (ih true).cons xdev
      · exact (ih true).cons_cons xdev
    · exact (ih haveHmd).cons_cons xdev

theorem countP_oneHmd (haveHmd : Bool) (xdevs : List Device) :
    (oneHmd haveHmd xdevs).countP Device.isHmd ≤ if haveHmd then 0 else 1 := by
  induction xdevs generalizing haveHmd with
  | nil => simp [oneHmd]
  | cons xdev xdevs ih =>
    rw [oneHmd]
    split
    · next hhmd =>
      have hrest := ih true
      split
      · next hhave => simpa [hhave] using hrest
      · next hhave =>
        rw [List.countP_cons_of_pos hhmd]
        simpa [hhave] using hrest
    · next hhmd =>
      rw [List.countP_cons_of_neg hhmd]
      exact ih haveHmd

theorem kept_sublist (xdevCount : ℕ) (created : List Device) : (kept xdevCount created).Sublist created :=
  (List.take_sublist _ _).trans (oneHmd_sublist false created)

theorem countP_kept (xdevCount : ℕ) (created : List Device) : (kept xdevCount created).countP Device.isHmd ≤ 1 :=
  Nat.le_trans (List.Sublist.countP_le (List.take_sublist _ _)) (countP_oneHmd false created)

theorem length_kept (xdevCount : ℕ) (created : List Device) : (kept xdevCount created).length ≤ xdevCount :=
  List.length_take_le _ _

structure Holds (xdevCount : ℕ) (devices : List Device) (s : Slots) : Prop where
  xdevs : s.xdevs = packed xdevCount (devices.map Xdev.driver)
  haveHmd : s.haveHmd = devices.any Device.isHmd
  room : devices.length ≤ xdevCount

variable {xdevCount : ℕ}

theorem Holds.handle {devices : List Device} {s : Slots} (h : Holds xdevCount devices s) (xdev : Device) :
    handleFoundDevice s xdev =
      if devices.length = xdevCount ∨ (xdev.isHmd = true ∧ devices.any Device.isHmd = true) then
        { s with destroyed := s.destroyed ++ [xdev] }
      else ⟨packed xdevCount ((devices ++ [xdev]).map Xdev.driver), (devices ++ [xdev]).any Device.isHmd,
        s.destroyed⟩ := by
  have hroom : (devices.map Xdev.driver).length ≤ xdevCount := by rw [List.length_map]; exact h.room
  have hlen := length_packed hroom
  have hidx := findIdx_packed hroom
  rw [List.length_map] at hidx
  simp only [handleFoundDevice, h.xdevs, hidx, hlen, h.haveHmd]
  by_cases hfull : devices.length = xdevCount
  · rw [if_pos (by omega), if_pos (Or.inl hfull)]
  · have hlt : (devices.map Xdev.driver).length < xdevCount := by
      rw [List.length_map]
      exact lt_of_le_of_ne h.room hfull
    have hset := set_packed hlt (Xdev.driver xdev)
    rw [List.length_map] at hset
    rw [if_neg (by have := h.room; omega), hset]
    by_cases hhmd : xdev.deviceType = XRT_DEVICE_TYPE_HMD
    · have hisHmd : xdev.isHmd = true := decide_eq_true hhmd
      rcases hany : devices.any Device.isHmd with _ | _
      · simp [hhmd, hisHmd, hfull, hany]
      · simp [hhmd, hisHmd]
    · have hisHmd : xdev.isHmd = false := decide_eq_false hhmd
      simp [hhmd, hisHmd, hfull]

theorem Holds.handleAll {devices : List Device} {s : Slots} (h : Holds xdevCount devices s) (created : List Device) :
    ∃ destroyed, (created.foldl handleFoundDevice s).destroyed = s.destroyed ++ destroyed ∧
      Holds xdevCount (devices ++ (oneHmd (devices.any Device.isHmd) created).take (xdevCount - devices.length))
        (created.foldl handleFoundDevice s) ∧
      created.Perm ((oneHmd (devices.any Device.isHmd) created).take (xdevCount - devices.length) ++ destroyed) := by
  induction created generalizing devices s with
  | nil => exact ⟨[], by simp, by simpa [oneHmd] using h, by simp [oneHmd]⟩
  | cons xdev created ih =>
    rw [List.foldl_cons, h.handle xdev]
    split
    · next hdrop =>
      -- a device too many, or an HMD too many
      obtain ⟨destroyed, hdestroyed, hholds, hperm⟩ :=
        @ih devices { s with destroyed := s.destroyed ++ [xdev] } ⟨h.xdevs, h.haveHmd, h.room⟩
      have hsame : (oneHmd (devices.any Device.isHmd) (xdev :: created)).take (xdevCount - devices.length) =
          (oneHmd (devices.any Device.isHmd) created).take (xdevCount - devices.length) := by
        rcases hdrop with hfull | ⟨hhmd, hany⟩
        · simp [hfull]
        · rw [oneHmd, if_pos hhmd, if_pos hany, hany]
      refine ⟨xdev :: destroyed, by rw [hdestroyed, List.append_assoc]; rfl, ?_, ?_⟩
      · rwa [hsame]
      · rw [hsame]
        exact (hperm.cons xdev).trans List.perm_middle.symm
    · next hkeep =>
      obtain ⟨hroom, hhmds⟩ := not_or.1 hkeep
      have hlt : devices.length < xdevCount := lt_of_le_of_ne h.room hroom
      have hnext : Holds xdevCount (devices ++ [xdev]) ⟨packed xdevCount ((devices ++ [xdev]).map Xdev.driver),
          (devices ++ [xdev]).any Device.isHmd, s.destroyed⟩ :=
        ⟨rfl, rfl, by rw [List.length_append, List.length_singleton]; omega⟩
      obtain ⟨destroyed, hdestroyed, hholds, hperm⟩ := ih hnext
      have htake : (oneHmd (devices.any Device.isHmd) (xdev :: created)).take (xdevCount - devices.length) =
          xdev :: (oneHmd ((devices ++ [xdev]).any Device.isHmd) created).take
            (xdevCount - (devices ++ [xdev]).length) := by
        have hlen : xdevCount - devices.length = xdevCount - (devices ++ [xdev]).length + 1 := by
          rw [List.length_append, List.length_singleton]
          omega
        rw [hlen, oneHmd]
        rcases hhmd : xdev.isHmd with _ | _
        · simp [hhmd]
        · have hany : devices.any Device.isHmd = false := Bool.eq_false_iff.2 fun hany => hhmds ⟨hhmd, hany⟩
          simp [hhmd, hany]
      refine ⟨destroyed, hdestroyed, ?_, ?_⟩
      · rw [htake]
        rwa [List.append_assoc] at hholds
      · rw [htake]
        exact hperm.cons xdev

theorem holds_empty (xdevCount : ℕ) : Holds xdevCount [] (Slots.empty xdevCount) := ⟨rfl, rfl, Nat.zero_le _⟩

/-! ## Both loops -/

def Discovery.Filled (xdevCount : ℕ) (d : Discovery W) : Prop :=
  d.slots = d.created.foldl handleFoundDevice (Slots.empty xdevCount)

variable {d : Discovery W} {p : Prober W}

theorem Discovery.Filled.addFound (h : d.Filled xdevCount) (f : Found × W) : (addFound d f).Filled xdevCount := by
  show f.1.created.foldl handleFoundDevice d.slots =
    (d.created ++ f.1.created).foldl handleFoundDevice (Slots.empty xdevCount)
  rw [List.foldl_append, h]

theorem Discovery.Filled.loop {β : Type} {turn : Discovery W → β → Discovery W}
    (hturn : ∀ d b, d.Filled xdevCount → (turn d b).Filled xdevCount) (l : List β) (h : d.Filled xdevCount) :
    (l.foldl turn d).Filled xdevCount := by
  induction l generalizing d with
  | nil => exact h
  | cons b l ih => exact ih (hturn d b h)

theorem Discovery.Filled.addFromEntry (h : d.Filled xdevCount) (i : ℕ) (pdev : XrtProberDevice)
    (entry : XrtProberEntry W) : (addFromEntry p d i pdev entry).Filled xdevCount := by
  unfold SelectDevice.addFromEntry
  split_ifs
  · exact h
  · exact h
  · exact h.addFound _

theorem Discovery.Filled.addFromDevices (h : d.Filled xdevCount) : (addFromDevices p d).Filled xdevCount := by
  unfold SelectDevice.addFromDevices
  split
  · exact h
  · exact Filled.loop (fun d pdev hd => Filled.loop (fun d entry hd => hd.addFromEntry pdev.2 pdev.1 entry) _ hd) _ h

theorem Discovery.Filled.addFromAutoProbers (h : d.Filled xdevCount) : (addFromAutoProbers p d).Filled xdevCount := by
  refine Filled.loop (fun d autoProber hd => ?_) _ h
  unfold addFromAutoProber
  split
  · exact hd
  · exact hd.addFound _

theorem discover_filled (p : Prober W) (xdevCount : ℕ) (w : W) : (discover p xdevCount w).Filled xdevCount := by
  unfold discover
  have hempty : (⟨Slots.empty xdevCount, [], w⟩ : Discovery W).Filled xdevCount := rfl
  split
  · exact hempty.addFromDevices.addFromAutoProbers
  · exact hempty.addFromDevices.addFromAutoProbers
  · exact hempty

/-! ## The order -/

/-- `l'` is `l` after its first device with head parts behind the first place has gone to the first place. -/
def HmdFirst (l l' : List Device) : Prop :=
  ((∀ x ∈ l.tail, x.hmd = false) ∧ l' = l) ∨
    ∃ a h b, l = a ++ h :: b ∧ a ≠ [] ∧ h.hmd = true ∧ (∀ x ∈ a.tail, x.hmd = false) ∧ l' = h :: (a ++ b)

variable {l : List Device} {l' : List Device}

theorem moveHmdFirst_packed {n : ℕ} (h : l.length ≤ n) :
    ∃ l', moveHmdFirst (packed n (l.map Xdev.driver)) = packed n (l'.map Xdev.driver) ∧ HmdFirst l l' := by
  have hfind : (packed n (l.map Xdev.driver)).tail.findIdx? (fun xdev => xdev.any Xdev.hmd) =
      l.tail.findIdx? Device.hmd := by
    rw [findIdx?_tail_packed _ (by rwa [List.length_map]), ← List.map_tail, List.findIdx?_map]
    rfl
  unfold moveHmdFirst
  rw [hfind]
  rcases hidx : l.tail.findIdx? Device.hmd with _ | i
  · exact ⟨l, rfl, Or.inl ⟨List.findIdx?_eq_none_iff.1 hidx, rfl⟩⟩
  · obtain ⟨a, x, b, htail, hlen, hx, ha⟩ := findIdx?_split hidx
    cases l with
    | nil => cases hidx
    | cons first l =>
      have hl : l = a ++ x :: b := htail
      subst hl
      refine ⟨x :: ((first :: a) ++ b), ?_, Or.inr ⟨first :: a, x, b, rfl, by simp, hx, ha, rfl⟩⟩
      have hfront := toFront_packed n ((first :: a).map Xdev.driver) (Xdev.driver x) (b.map Xdev.driver)
      rw [List.length_map, List.length_cons, hlen] at hfront
      simpa using hfront

theorem HmdFirst.perm (h : HmdFirst l l') : l.Perm l' := by
  rcases h with ⟨_, rfl⟩ | ⟨a, x, b, rfl, _, _, _, rfl⟩
  · exact List.Perm.refl _
  · exact List.perm_middle

theorem HmdFirst.sublist (h : HmdFirst l l') : l'.tail.Sublist l := by
  rcases h with ⟨_, rfl⟩ | ⟨a, x, b, rfl, _, _, _, rfl⟩
  · exact List.tail_sublist _
  · exact (List.Sublist.refl a).append (List.sublist_cons_self x b)

/-! ## Wrappers -/

variable {xdevs : List (Option Xdev)} {hmd : Device}

theorem lastWithSerial_mem {serial : List UInt8} {i : ℕ} {xdev : Xdev}
    (h : lastWithSerial xdevs serial = some (i, xdev)) : xdevs[i]? = some (some xdev) := by
  suffices hfold : ∀ (l : List (Option Xdev × ℕ)) (found : Option (ℕ × Xdev)),
      (∀ entry ∈ l, xdevs[entry.2]? = some entry.1) →
      (∀ e ∈ found, xdevs[e.1]? = some (some e.2)) →
      ∀ e ∈ l.foldl (fun found entry =>
        match entry.1 with
        | none => found
        | some xdev => if strncmpEq xdev.serial.chars serial XRT_DEVICE_NAME_LEN then some (entry.2, xdev) else found)
        found, xdevs[e.1]? = some (some e.2) by
    refine hfold xdevs.zipIdx none (fun entry hentry => ?_) (by simp) (i, xdev) h
    exact List.mem_zipIdx_iff_getElem?.1 hentry
  intro l
  induction l with
  | nil => exact fun found _ hfound => hfound
  | cons entry l ih =>
    intro found hl hfound
    refine ih _ (fun e he => hl e (List.mem_cons_of_mem _ he)) ?_
    have hentry := hl entry List.mem_cons_self
    obtain ⟨_ | xdev, k⟩ := entry
    · exact hfound
    · dsimp only
      split
      · rintro e ⟨⟩
        exact hentry
      · exact hfound

theorem applyTrackingOverride_roots (allocated : Bool) (xdevs : List (Option Xdev)) (o : XrtTrackingOverride) :
    (applyTrackingOverride allocated xdevs o).map (Option.map Xdev.root) = xdevs.map (Option.map Xdev.root) := by
  unfold applyTrackingOverride
  split
  · next targetIdx target _ tracker htarget _ =>
    split
    · obtain ⟨hlt, hval⟩ := List.getElem?_eq_some_iff.1 (lastWithSerial_mem htarget)
      have hself : xdevs.set targetIdx (some target) = xdevs := by rw [← hval, List.set_getElem_self]
      conv_rhs => rw [← hself]
      rw [List.map_set, List.map_set]
      rfl
    · rfl
  · rfl

theorem applyTrackingOverrides_roots (allocated : ℕ → Bool) (os : List (XrtTrackingOverride × ℕ))
    (xdevs : List (Option Xdev)) :
    (os.foldl (fun xdevs o => applyTrackingOverride (allocated o.2) xdevs o.1) xdevs).map (Option.map Xdev.root) =
      xdevs.map (Option.map Xdev.root) := by
  induction os generalizing xdevs with
  | nil => rfl
  | cons o os ih => rw [List.foldl_cons, ih, applyTrackingOverride_roots]

/-! ## Selection -/

/-- The drivers' devices in the list, wrapped or not. -/
def roots (xdevs : List (Option Xdev)) : List Device := xdevs.reduceOption.map Xdev.root

/-- What a selection promises of the devices that drivers have created: each is in the list once or destroyed
once; at most one HMD is in the list, and if so it is first and the others are in the order of discovery; and
without one nothing is in the list. -/
structure Selected (s : Slots) (created : List Device) : Prop where
  owned : created.Perm (roots s.xdevs ++ s.destroyed)
  oneHmd : (roots s.xdevs).countP Device.isHmd ≤ 1
  hmdFirst : ∀ hmd ∈ roots s.xdevs, hmd.isHmd = true →
    ∃ first others, s.xdevs = some first :: others ∧ first.root = hmd ∧ (roots others).Sublist created
  noHmd : (∀ xdev ∈ roots s.xdevs, xdev.isHmd = false) → ∀ xdev ∈ s.xdevs, xdev = none

/-- Of the devices there is room for: there are none, or the HMD is the first of them and no other has head parts,
or it is the first of those behind the first place that has head parts. -/
def HmdLeads (devices : List Device) : Prop :=
  devices = [] ∨ ∃ a hmd b, devices = a ++ hmd :: b ∧ hmd.isHmd = true ∧
    ((a = [] ∧ ∀ xdev ∈ b, xdev.hmd = false) ∨ (a ≠ [] ∧ hmd.hmd = true ∧ ∀ xdev ∈ a.tail, xdev.hmd = false))

theorem pSelectDevice_slots (p : Prober W) (allocated : ℕ → Bool) (xdevCount : ℕ) (w : W) :
    ∃ ordered destroyed, HmdFirst (kept xdevCount (pSelectDevice p allocated xdevCount w).2) ordered ∧
      (pSelectDevice p allocated xdevCount w).2.Perm
        (kept xdevCount (pSelectDevice p allocated xdevCount w).2 ++ destroyed) ∧
      if (kept xdevCount (pSelectDevice p allocated xdevCount w).2).any Device.isHmd then
        (pSelectDevice p allocated xdevCount w).1.xdevs.map (Option.map Xdev.root) = packed xdevCount ordered ∧
          (pSelectDevice p allocated xdevCount w).1.destroyed = destroyed
      else
        (pSelectDevice p allocated xdevCount w).1.xdevs.map (Option.map Xdev.root) =
            packed xdevCount (ordered.take 1) ∧
          (pSelectDevice p allocated xdevCount w).1.destroyed = destroyed ++ ordered.tail := by
  have hcreated : (pSelectDevice p allocated xdevCount w).2 = (discover p xdevCount w).created := rfl
  rw [hcreated]
  generalize hd : discover p xdevCount w = d
  have hfilled : d.Filled xdevCount := hd ▸ discover_filled p xdevCount w
  obtain ⟨destroyed, hdestroyed, hholds, hperm⟩ := (holds_empty xdevCount).handleAll d.created
  rw [← hfilled] at hdestroyed hholds
  have hkept : kept xdevCount d.created = [] ++ (oneHmd (([] : List Device).any Device.isHmd) d.created).take
      (xdevCount - ([] : List Device).length) := rfl
  rw [← hkept] at hholds
  obtain ⟨ordered, hmove, hfirst⟩ := moveHmdFirst_packed (length_kept xdevCount d.created)
  -- the wrappers change no root
  have hroots := applyTrackingOverrides_roots allocated (p.trackingOverrides.getD []).zipIdx
    (moveHmdFirst d.slots.xdevs)
  rw [hholds.xdevs, hmove, map_packed, List.map_map, show Xdev.root ∘ Xdev.driver = id from rfl, List.map_id] at hroots
  have hlen : ordered.length ≤ xdevCount := hfirst.perm.length_eq ▸ length_kept xdevCount d.created
  refine ⟨ordered, destroyed, hfirst, hperm, ?_⟩
  rw [← hholds.haveHmd]
  unfold pSelectDevice
  simp only [hd]
  rw [hholds.xdevs, hmove]
  split
  · exact ⟨hroots, hdestroyed⟩
  · have hcount := congrArg List.length hroots
    rw [List.length_map, length_packed hlen] at hcount
    constructor
    · rw [destroyAfterFirst, List.map_append, List.map_take, hroots, List.map_replicate, hcount]
      exact take_one_packed hlen
    · rw [destroyAfterFirst, ← List.reduceOption_map, List.map_drop, hroots, drop_one_packed hlen, hdestroyed]
      rfl

theorem roots_of_map {n : ℕ} (h : xdevs.map (Option.map Xdev.root) = packed n l) : roots xdevs = l := by
  rw [roots, ← List.reduceOption_map, h, reduceOption_packed]

theorem cons_of_map {n : ℕ} (h : xdevs.map (Option.map Xdev.root) = packed n (hmd :: l)) :
    ∃ first others, xdevs = some first :: others ∧ first.root = hmd ∧ roots others = l := by
  have hcons : packed n (hmd :: l) = some hmd :: (packed n (hmd :: l)).tail := by simp [packed]
  have htail : ((packed n (hmd :: l)).tail).reduceOption = l := by simp [packed, List.reduceOption]
  rw [hcons] at h
  obtain ⟨slot, others, rfl, hslot, hothers⟩ := List.map_eq_cons_iff.1 h
  obtain ⟨first, rfl, hroot⟩ := Option.map_eq_some_iff.1 hslot
  exact ⟨first, others, rfl, hroot, by rw [roots, ← List.reduceOption_map, hothers, htail]⟩

theorem eq_of_countP_le_one (h : l.countP Device.isHmd ≤ 1) {a b : List Device} {x y : Device} (hl : l = a ++ x :: b)
    (hx : x.isHmd = true) (hy : y ∈ l) (hyhmd : y.isHmd = true) : y = x := by
  subst hl
  rw [List.countP_append, List.countP_cons_of_pos hx] at h
  have ha : a.countP Device.isHmd = 0 := by omega
  have hb : b.countP Device.isHmd = 0 := by omega
  rcases List.mem_append.1 hy with hmem | hmem
  · exact absurd hyhmd (List.countP_eq_zero.1 ha y hmem)
  · rcases List.mem_cons.1 hmem with rfl | hmem
    · rfl
    · exact absurd hyhmd (List.countP_eq_zero.1 hb y hmem)

theorem find?_append_hmd {a b : List Device} {x : Device} (ha : ∀ y ∈ a, y.hmd = false) (hx : x.hmd = true) :
    (a ++ x :: b).find? Device.hmd = some x := by
  have hnone : a.find? Device.hmd = none := List.find?_eq_none.2 fun y hy => by
    rw [ha y hy]
    exact Bool.false_ne_true
  rw [List.find?_append, hnone, List.find?_cons_of_pos hx]
  rfl

theorem HmdFirst.head_of_hmdLeads (h : HmdFirst l l') (hlead : HmdLeads l) (hcount : l.countP Device.isHmd ≤ 1)
    (hmem : hmd ∈ l) (hhmd : hmd.isHmd = true) : ∃ others, l' = hmd :: others := by
  rcases hlead with rfl | ⟨a, x, b, hl, hx, hplace⟩
  · cases hmem
  have heq := eq_of_countP_le_one hcount hl hx hmem hhmd
  subst heq
  rcases hplace with ⟨rfl, hb⟩ | ⟨ha, hhead, hrest⟩
  · -- the HMD has been first, and nothing goes before it
    rcases h with ⟨_, rfl⟩ | ⟨a', y, b', hl', ha', hy, _, _⟩
    · exact ⟨b, hl⟩
    · rw [hl] at hl'
      obtain ⟨z, a', rfl⟩ := List.exists_cons_of_ne_nil ha'
      have hb' : b = a' ++ y :: b' := (List.cons.inj hl').2
      exact absurd hy (by rw [hb y (hb' ▸ List.mem_append_right _ List.mem_cons_self)]; exact Bool.false_ne_true)
  · obtain ⟨z, a, rfl⟩ := List.exists_cons_of_ne_nil ha
    rcases h with ⟨hnone, _⟩ | ⟨a', y, b', hl', ha', hy, hrest', rfl⟩
    · rw [hl] at hnone
      exact absurd hhead (by rw [hnone hmd (List.mem_append_right _ List.mem_cons_self)]; exact Bool.false_ne_true)
    · -- both are the first with head parts behind the first place
      obtain ⟨z', a', rfl⟩ := List.exists_cons_of_ne_nil ha'
      rw [hl] at hl'
      have htail : a ++ hmd :: b = a' ++ y :: b' := (List.cons.inj hl').2
      have hsame : (a ++ hmd :: b).find? Device.hmd = some hmd := find?_append_hmd hrest hhead
      have hother : (a' ++ y :: b').find? Device.hmd = some y := find?_append_hmd hrest' hy
      rw [htail, hother] at hsame
      rw [Option.some.inj hsame]
      exact ⟨_, rfl⟩

theorem HmdFirst.hmdLeads {l' others : List Device} (h : HmdFirst l l') (hhmd : hmd.isHmd = true)
    (hfirst : l' = hmd :: others) : HmdLeads l := by
  rcases h with ⟨hnone, rfl⟩ | ⟨a, x, b, rfl, ha, hx, hrest, rfl⟩
  · exact Or.inr ⟨[], hmd, others, hfirst, hhmd, Or.inl ⟨rfl, by rw [hfirst] at hnone; exact hnone⟩⟩
  · obtain rfl := (List.cons.inj hfirst).1
    exact Or.inr ⟨a, x, b, rfl, hhmd, Or.inr ⟨ha, hx, hrest⟩⟩

/-- The devices that drivers return are handed on or destroyed as promised exactly if none of them is kept, or if
the HMD gets to the first place. -/
theorem pSelectDevice_iff (p : Prober W) (allocated : ℕ → Bool) (xdevCount : ℕ) (w : W) :
    Selected (pSelectDevice p allocated xdevCount w).1 (pSelectDevice p allocated xdevCount w).2 ↔
      HmdLeads (kept xdevCount (pSelectDevice p allocated xdevCount w).2) := by
  obtain ⟨ordered, destroyed, hfirst, hperm, hslots⟩ := pSelectDevice_slots p allocated xdevCount w
  have hcount := countP_kept xdevCount (pSelectDevice p allocated xdevCount w).2
  have hsub := kept_sublist xdevCount (pSelectDevice p allocated xdevCount w).2
  generalize (pSelectDevice p allocated xdevCount w).2 = created at *
  generalize (pSelectDevice p allocated xdevCount w).1 = s at *
  generalize kept xdevCount created = devices at *
  split at hslots
  · next hany =>
    obtain ⟨hxdevs, rfl⟩ := hslots
    have hroots := roots_of_map hxdevs
    obtain ⟨hmd, hmem, hhmd⟩ := List.any_eq_true.1 hany
    constructor
    · intro h
      have hin : hmd ∈ roots s.xdevs := hroots ▸ hfirst.perm.mem_iff.1 hmem
      obtain ⟨first, others, hs, hroot, _⟩ := h.hmdFirst hmd hin hhmd
      have hhead : roots s.xdevs = hmd :: roots others := by
        rw [hs, roots, List.reduceOption_cons_of_some, List.map_cons, hroot]
        rfl
      exact hfirst.hmdLeads hhmd (hroots.symm.trans hhead)
    · intro hlead
      refine ⟨?_, ?_, ?_, ?_⟩
      · rw [hroots]
        exact hperm.trans (hfirst.perm.append_right _)
      · rwa [hroots, ← hfirst.perm.countP_eq]
      · intro hmd' hin hhmd'
        have hmem' : hmd' ∈ devices := hfirst.perm.mem_iff.2 (hroots ▸ hin)
        obtain ⟨rest, rfl⟩ := hfirst.head_of_hmdLeads hlead hcount hmem' hhmd'
        obtain ⟨first, others, hs, hroot, hothers⟩ := cons_of_map hxdevs
        exact ⟨first, others, hs, hroot, hothers ▸ hfirst.sublist.trans hsub⟩
      · intro hnone
        have hin : hmd ∈ roots s.xdevs := hroots ▸ hfirst.perm.mem_iff.1 hmem
        rw [hnone hmd hin] at hhmd
        cases hhmd
  · next hany =>
    obtain ⟨hxdevs, hdestroyed⟩ := hslots
    have hroots := roots_of_map hxdevs
    have hnot : ∀ xdev ∈ devices, xdev.isHmd = false := fun xdev hmem =>
      Bool.eq_false_iff.2 fun hhmd => hany (List.any_eq_true.2 ⟨xdev, hmem, hhmd⟩)
    have hempty : HmdLeads devices ↔ devices = [] := by
      refine ⟨?_, Or.inl⟩
      rintro (h | ⟨a, x, b, rfl, hx, _⟩)
      · exact h
      · rw [hnot x (List.mem_append_right _ List.mem_cons_self)] at hx
        cases hx
    have hroots_not : ∀ xdev ∈ roots s.xdevs, xdev.isHmd = false := fun xdev hmem =>
      hnot xdev (hfirst.perm.mem_iff.2 (List.mem_of_mem_take (hroots ▸ hmem)))
    rw [hempty]
    constructor
    · intro h
      -- nothing may stay, but the first device does
      have hnone := h.noHmd hroots_not
      cases ordered with
      | nil => exact List.perm_nil.1 hfirst.perm
      | cons first others =>
        obtain ⟨xdev, rest, hs, _⟩ := cons_of_map hxdevs
        have := hnone (some xdev) (hs ▸ List.mem_cons_self)
        cases this
    · rintro rfl
      obtain rfl := List.nil_perm.1 hfirst.perm
      have hgone : ∀ xdev ∈ s.xdevs, xdev = none := by
        intro xdev hmem
        have hmap := List.mem_map_of_mem (f := Option.map Xdev.root) hmem
        rw [hxdevs] at hmap
        exact Option.map_eq_none_iff.1 (List.mem_replicate.1 hmap).2
      refine ⟨?_, ?_, ?_, fun _ => hgone⟩
      · rw [hroots, hdestroyed]
        simpa using hperm
      · rw [hroots]
        exact Nat.zero_le _
      · intro hmd hin
        rw [hroots] at hin
        cases hin

def controllerProber : XrtAutoProber Unit where
  name := "controllers"
  leloDallasAutoprobe := fun _ w => (⟨1, [some ⟨0, XRT_DEVICE_TYPE_RIGHT_HAND_CONTROLLER, false, .empty⟩]⟩, w)

/-- The only device, a controller, stays in the first place. -/
theorem pSelectDevice_controller :
    ¬ Selected (pSelectDevice ⟨[], [], [controllerProber], [], false, .none, none⟩ (fun _ => true) 2 ()).1
      (pSelectDevice ⟨[], [], [controllerProber], [], false, .none, none⟩ (fun _ => true) 2 ()).2 := by
  intro h
  have hnone := h.noHmd (by decide)
  have hfirst : some (Xdev.driver ⟨0, XRT_DEVICE_TYPE_RIGHT_HAND_CONTROLLER, false, .empty⟩) ∈
      (pSelectDevice ⟨[], [], [controllerProber], [], false, .none, none⟩ (fun _ => true) 2 ()).1.xdevs :=
    List.mem_cons_self
  cases hnone _ hfirst

end AugmentedInsanity.SelectDevice
