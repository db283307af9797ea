/-
The description of a device, from the call of the client to the last item of the server. The server flattens the
pairs of all profiles and the client cuts them at running offsets; both add up 32-bit counts, so
`deviceInfo_described` asks that the counts of the device fit in them.
-/
import AugmentedInsanity.Ipc.Conversations.UpdateInputs

namespace AugmentedInsanity.Ipc.Device

open Xrt Exchange Ipc.Client

/-! ## Counts -/

/-- The counts of a device fit in those of `struct ipc_device_info`. -/
structure CountsFit (xdev : XrtDeviceFields) : Prop where
  inputs : xdev.inputs.length < UInt32.size
  outputs : xdev.outputs.length < UInt32.size
  bindingProfiles : xdev.bindingProfiles.length < UInt32.size
  inputPairs : (xdev.bindingProfiles.flatMap XrtBindingProfile.inputs).length < UInt32.size
  outputPairs : (xdev.bindingProfiles.flatMap XrtBindingProfile.outputs).length < UInt32.size

theorem toNat_add_ofNat {total : UInt32} {n : ℕ} (h : total.toNat + n < UInt32.size) :
    (total + .ofNat n).toNat = total.toNat + n := by
  have hn : (UInt32.ofNat n).toNat = n := UInt32.toNat_ofNat_of_lt' (by omega)
  rw [UInt32.toNat_add, hn]
  exact Nat.mod_eq_of_lt h

theorem totalCount_toNat {counts : List ℕ} (h : counts.sum < UInt32.size) : (totalCount counts).toNat = counts.sum := by
  have hfold : ∀ (counts : List ℕ) (total : UInt32), total.toNat + counts.sum < UInt32.size →
      (counts.foldl (fun total n => total + .ofNat n) total).toNat = total.toNat + counts.sum := by
    intro counts
    induction counts with
    | nil => intro total _; rfl
    | cons n counts ih =>
      intro total htotal
      rw [List.sum_cons] at htotal ⊢
      have hstep : (total + UInt32.ofNat n).toNat = total.toNat + n := toNat_add_ofNat (by omega)
      rw [List.foldl_cons, ih _ (by omega), hstep]
      omega
  rw [totalCount, hfold counts 0 (by simpa using h)]
  exact Nat.zero_add _

variable {profiles : List XrtBindingProfile}

theorem totalCount_pairs {α : Type} {pairs : XrtBindingProfile → List α}
    (h : (profiles.flatMap pairs).length < UInt32.size) :
    (totalCount (profiles.map fun xbp => (pairs xbp).length)).toNat = (profiles.flatMap pairs).length := by
  rw [List.length_flatMap] at h ⊢
  exact totalCount_toNat h

/-! ## Profiles -/

theorem bindingProfileInfos_length {inputIndex outputIndex : UInt32} :
    (bindingProfileInfos inputIndex outputIndex profiles).length = profiles.length := by
  induction profiles generalizing inputIndex outputIndex with
  | nil => rfl
  | cons xbp profiles ih => rw [bindingProfileInfos, List.length_cons, List.length_cons, ih]

theorem slice {α : Type} {all xs ys : List α} {offset : UInt32} (hall : all.drop offset.toNat = xs ++ ys)
    (hfits : offset.toNat + (xs ++ ys).length < UInt32.size) :
    (all.drop offset.toNat).take (UInt32.ofNat xs.length).toNat = xs ∧
      all.drop (offset + .ofNat xs.length).toNat = ys ∧
      (offset + .ofNat xs.length).toNat + ys.length < UInt32.size := by
  rw [List.length_append] at hfits
  have hxs : (UInt32.ofNat xs.length).toNat = xs.length := UInt32.toNat_ofNat_of_lt' (by omega)
  have hnext : (offset + UInt32.ofNat xs.length).toNat = offset.toNat + xs.length := toNat_add_ofNat (by omega)
  refine ⟨?_, ?_, ?_⟩
  · rw [hall, hxs, List.take_left]
  · rw [hnext, ← List.drop_drop, hall, List.drop_left]
  · rw [hnext]
    omega

theorem wireProfiles_infos {allInputPairs : List XrtBindingInputPair} {allOutputPairs : List XrtBindingOutputPair}
    {inputOffset outputOffset inputIndex outputIndex : UInt32}
    (hin : allInputPairs.drop inputOffset.toNat = profiles.flatMap XrtBindingProfile.inputs)
    (hout : allOutputPairs.drop outputOffset.toNat = profiles.flatMap XrtBindingProfile.outputs)
    (hinFits : inputOffset.toNat + (profiles.flatMap XrtBindingProfile.inputs).length < UInt32.size)
    (houtFits : outputOffset.toNat + (profiles.flatMap XrtBindingProfile.outputs).length < UInt32.size) :
    wireProfiles allInputPairs allOutputPairs inputOffset outputOffset
      (bindingProfileInfos inputIndex outputIndex profiles) = profiles := by
  induction profiles generalizing inputOffset outputOffset inputIndex outputIndex with
  | nil => rfl
  | cons xbp profiles ih =>
    rw [List.flatMap_cons] at hin hout hinFits houtFits
    obtain ⟨hinputs, hinNext, hinFitsNext⟩ := slice hin hinFits
    obtain ⟨houtputs, houtNext, houtFitsNext⟩ := slice hout houtFits
    rw [bindingProfileInfos, wireProfiles]
    dsimp only
    rw [hinputs, houtputs, ih hinNext houtNext hinFitsNext houtFitsNext]

/-! ## The conversation -/

/-- The client calls `ipc_client_xdev_init`. -/
def infoConversation (deviceId : UInt32) (xtrack : UInt32 → Except XrtResult ℕ) (ics : IpcClientState)
    (dev : XrtDevice → XrtDeviceAnswers) (mem : ServerMemory) :
    Link Item (XrtResult × Option IpcClientXdev) XrtResult :=
  ⟨ipcClientXdevInit deviceId xtrack, serveDevice ics dev mem, [], []⟩

/-- The client's device is described as the server's is; the values of its inputs come with updates. -/
structure Describes (client server : XrtDeviceFields) : Prop where
  name : client.name = server.name
  deviceType : client.deviceType = server.deviceType
  str : client.str = server.str
  serial : client.serial = server.serial
  supported : client.supported = server.supported
  inputs : client.inputs.map XrtInput.name = server.inputs.map XrtInput.name
  outputs : client.outputs = server.outputs
  bindingProfiles : client.bindingProfiles = server.bindingProfiles

/-- The conversation ends at a message boundary; the client has made the device, or could not find its tracking
origin. -/
structure DeviceDescribed (deviceId : UInt32) (xtrack : UInt32 → Except XrtResult ℕ) (ics : IpcClientState)
    (dev : XrtDevice → XrtDeviceAnswers) (d : Link Item (XrtResult × Option IpcClientXdev) XrtResult) : Prop where
  atBoundary : d.AtBoundary
  described : ∀ x (id : Fin XRT_SYSTEM_MAX_DEVICES), getXdevAndValidate ics deviceId = .ok x →
    (getXtrackIdOrAdd ics (dev x).fields.trackingOrigin).1 = .ok id →
      match xtrack (.ofNat id) with
      | .error xret => d.left = .done (xret, none)
      | .ok origin => ∃ base : XrtDeviceFields, d.left = .done (.success, some ⟨deviceId, base⟩) ∧
          base.trackingOrigin = some origin ∧ Describes base (dev x).fields

section
variable {deviceId : UInt32} {xtrack : UInt32 → Except XrtResult ℕ} {ics : IpcClientState}
  {dev : XrtDevice → XrtDeviceAnswers} {mem : ServerMemory} {q : ServerProc} {id : Fin XRT_SYSTEM_MAX_DEVICES}

theorem always_passAllocated {R : Type} {k : ItemKind} {allocated : Bool} {items : List k.Data} {count : UInt32} {f : R}
    {next : List k.Data → Proc Item R} {P : Link Item R XrtResult → Prop} (hcount : count.toNat = items.length)
    (h : Always ⟨next items, q, [], []⟩ (· = .success) P) : Always ⟨.recvSome (D := ItemKind.Data) k count.toNat f next,
      if count = 0 then q
      else if !allocated then .done .errorAllocation
      else .sendAll k items .errorIpcFailure q, [], []⟩ (· = .success) P := by
  unfold Proc.recvSome
  by_cases hzero : count = 0
  · subst hzero
    rw [if_pos rfl, if_neg (by decide)]
    rwa [List.eq_nil_of_length_eq_zero hcount.symm] at h
  · have hpos : 0 < count.toNat := by
      rcases Nat.eq_zero_or_pos count.toNat with h | h
      · exact absurd (UInt32.toNat_inj.1 h) hzero
      · exact h
    rw [if_neg hzero, if_pos hpos]
    cases allocated with
    | false => exact always_of_failure (by decide)
    | true =>
      rw [if_neg (by decide), always_passLeft hcount.symm hpos]
      exact h

theorem always_passPairs {R : Type} {k : ItemKind} {zero : k.Data} {allocated : Bool} {pairs : List k.Data}
    {total : UInt32} {f : R} {next : List k.Data → Proc Item R} {P : Link Item R XrtResult → Prop}
    (htotal : total.toNat = pairs.length) (h : Always ⟨next pairs, q, [], []⟩ (· = .success) P) :
    Always ⟨.recvSome (D := ItemKind.Data) k total.toNat f next, sendBindingPairs k zero allocated pairs total q,
      [], []⟩ (· = .success) P := by
  have hexact : pairs ++ List.replicate (total.toNat - pairs.length) zero = pairs := by
    rw [htotal, Nat.sub_self, List.replicate_zero, List.append_nil]
  unfold sendBindingPairs
  rw [if_neg (show ¬ total.toNat < pairs.length by omega), hexact]
  exact always_passAllocated htotal h

theorem always_passProfiles {R : Type} {count : UInt32} {f : R} {next : List IpcBindingProfileInfo → Proc Item R}
    {P : Link Item R XrtResult → Prop} (hcount : count.toNat = profiles.length)
    (h : Always ⟨next (bindingProfileInfos 0 0 profiles), q, [], []⟩ (· = .success) P) :
    Always ⟨.recvSome (D := ItemKind.Data) .bindingProfileInfo profiles.length f next,
      sendBindingProfiles mem profiles count q, [], []⟩ (· = .success) P := by
  unfold sendBindingProfiles
  rw [← hcount, hcount, List.take_length, ← hcount]
  exact always_passAllocated (hcount.trans bindingProfileInfos_length.symm) h

theorem getXtrackIdOrAdd_error {xtrack : Option ℕ} {xret : XrtResult}
    (h : (getXtrackIdOrAdd ics xtrack).1 = .error xret) : xret = .errorIpcFailure := by
  unfold getXtrackIdOrAdd at h
  split at h
  · cases h
  · split at h
    · exact (Except.error.inj h).symm
    · cases h

theorem info_afterReply {x : XrtDevice} (hx : getXdevAndValidate ics deviceId = .ok x)
    (hid : (getXtrackIdOrAdd ics (dev x).fields.trackingOrigin).1 = .ok id) (hfits : CountsFit (dev x).fields) :
    Always (infoConversation deviceId xtrack ics dev mem) (· = .success)
      (DeviceDescribed deviceId xtrack ics dev) := by
  have hinputs : (UInt32.ofNat (dev x).fields.inputs.length).toNat = (dev x).fields.inputs.length :=
    UInt32.toNat_ofNat_of_lt' hfits.inputs
  have houtputs : (UInt32.ofNat (dev x).fields.outputs.length).toNat = (dev x).fields.outputs.length :=
    UInt32.toNat_ofNat_of_lt' hfits.outputs
  have hprofiles : (UInt32.ofNat (dev x).fields.bindingProfiles.length).toNat = (dev x).fields.bindingProfiles.length :=
    UInt32.toNat_ofNat_of_lt' hfits.bindingProfiles
  unfold infoConversation serveDevice ipcClientXdevInit
  rw [always_passOneRight, dispatchDevice, ipcHandleDeviceGetInfo, getXdevOrReturn_of_ok hx, hid]
  dsimp only
  rw [always_passOneLeft, if_neg (not_not.2 rfl)]
  dsimp only [fillDeviceInfo]
  rw [hinputs, houtputs, hprofiles, List.take_length, always_passSomeLeft (List.length_map _),
    always_passSomeLeft (List.length_map _)]
  -- the profiles come first, then the pairs of all of them in two arrays
  refine always_passProfiles hprofiles ?_
  refine always_passPairs (totalCount_pairs hfits.inputPairs) ?_
  refine always_passPairs (totalCount_pairs hfits.outputPairs) ?_
  have hwire : wireProfiles ((dev x).fields.bindingProfiles.flatMap XrtBindingProfile.inputs)
      ((dev x).fields.bindingProfiles.flatMap XrtBindingProfile.outputs) 0 0
      (bindingProfileInfos 0 0 (dev x).fields.bindingProfiles) = (dev x).fields.bindingProfiles :=
    wireProfiles_infos rfl rfl (by simpa using hfits.inputPairs) (by simpa using hfits.outputPairs)
  cases hxtrack : xtrack (.ofNat id) with
  | error xret =>
    refine always_done.2 fun _ => ⟨atBoundary_done.2 ⟨rfl, rfl⟩, ?_⟩
    intro x' id' hx' hid'
    rw [hx, Except.ok.injEq] at hx'
    subst hx'
    rw [hid, Except.ok.injEq] at hid'
    subst hid'
    rw [hxtrack]
  | ok origin =>
    refine always_done.2 fun _ => ⟨atBoundary_done.2 ⟨rfl, rfl⟩, ?_⟩
    intro x' id' hx' hid'
    rw [hx, Except.ok.injEq] at hx'
    subst hx'
    rw [hid, Except.ok.injEq] at hid'
    subst hid'
    rw [hxtrack]
    refine ⟨_, rfl, rfl, ?_⟩
    constructor
    · rfl
    · rfl
    · exact XrtDeviceStr.snprintf_eq _
    · exact XrtDeviceStr.snprintf_eq _
    · rfl
    · simp only [List.map_map]
      rfl
    · simp only [List.map_map]
      exact List.map_id _
    · exact hwire

/-- A call of `get_info` that succeeds describes the device, pairs of every profile included, and leaves the
connection at a message boundary. -/
theorem deviceInfo_described (deviceId : UInt32) (xtrack : UInt32 → Except XrtResult ℕ) (ics : IpcClientState)
    (dev : XrtDevice → XrtDeviceAnswers) (mem : ServerMemory)
    (hfits : ∀ x, getXdevAndValidate ics deviceId = .ok x → CountsFit (dev x).fields) :
    WheneverReturns (infoConversation deviceId xtrack ics dev mem) (· = .success)
      (DeviceDescribed deviceId xtrack ics dev) := by
  rw [wheneverReturns_iff serveDevice_failsWith]
  rcases hx : getXdevAndValidate ics deviceId with xret | x
  · have hfails : dispatchDevice ics dev mem (.getInfo deviceId) = .done .errorIpcFailure := by
      rw [dispatchDevice, ipcHandleDeviceGetInfo, getXdevOrReturn_of_error hx]
    exact serveDevice_of_failure hfails (by decide)
  · rcases hid : (getXtrackIdOrAdd ics (dev x).fields.trackingOrigin).1 with xret | id
    · have hfails : dispatchDevice ics dev mem (.getInfo deviceId) = .done xret := by
        rw [dispatchDevice, ipcHandleDeviceGetInfo, getXdevOrReturn_of_ok hx, hid]
      exact serveDevice_of_failure hfails fun h => by rw [getXtrackIdOrAdd_error hid] at h; cases h
    · exact info_afterReply hx hid (hfits x hx)

def twoProfiles : XrtDeviceAnswers :=
  let xdev := probe [XRT_INPUT_GENERIC_HEAD_POSE] fun _ => true
  { xdev with fields := { xdev.fields with bindingProfiles := [⟨1, [], []⟩, ⟨2, [⟨7, 5⟩, ⟨8, 5⟩], [⟨9, 3⟩]⟩] } }

theorem twoProfiles_countsFit : CountsFit twoProfiles.fields := by
  constructor
  · decide
  · decide
  · decide
  · decide
  · decide

theorem twoProfiles_described :
    WheneverReturns (infoConversation 0 (fun _ => .ok 3) oneDevice (fun _ => twoProfiles) zeroedMemory) (· = .success)
      (DeviceDescribed 0 (fun _ => .ok 3) oneDevice fun _ => twoProfiles) :=
  deviceInfo_described 0 _ oneDevice _ zeroedMemory fun _ _ => twoProfiles_countsFit

def crowded : XrtDeviceAnswers :=
  let xdev := probe [] fun _ => true
  { xdev with fields := { xdev.fields with inputs := List.replicate UInt32.size XrtInput.zero } }

theorem lostCount_not_atBoundary {x : XrtDevice} {origin : ℕ} (hx : getXdevAndValidate ics deviceId = .ok x)
    (hid : (getXtrackIdOrAdd ics (dev x).fields.trackingOrigin).1 = .ok id) (horigin : xtrack (.ofNat id) = .ok origin)
    (hcount : UInt32.ofNat (dev x).fields.inputs.length = 0) (hinputs : (dev x).fields.inputs ≠ [])
    (houtputs : (dev x).fields.outputs = []) (hprofiles : (dev x).fields.bindingProfiles = []) :
    ¬ Always (infoConversation deviceId xtrack ics dev mem) (· = .success) Link.AtBoundary := by
  unfold infoConversation serveDevice ipcClientXdevInit
  rw [always_passOneRight, dispatchDevice, ipcHandleDeviceGetInfo, getXdevOrReturn_of_ok hx, hid]
  dsimp only
  rw [always_passOneLeft, if_neg (not_not.2 rfl)]
  dsimp only [fillDeviceInfo]
  rw [hcount, houtputs, hprofiles, always_sendSomeRight]
  simp only [Proc.recvSome, Proc.sendSome, sendBindingProfiles, sendBindingPairs, totalCount, horigin]
  intro h
  have hnil := (always_done.1 h rfl).toLeft
  simp only [List.nil_append, List.map_eq_nil_iff] at hnil
  exact hinputs hnil

theorem crowded_not_described :
    ¬ WheneverReturns (infoConversation 0 (fun _ => .ok 3) oneDevice (fun _ => crowded) zeroedMemory) (· = .success)
      (DeviceDescribed 0 (fun _ => .ok 3) oneDevice fun _ => crowded) := by
  rw [wheneverReturns_iff serveDevice_failsWith]
  intro h
  have hx : getXdevAndValidate oneDevice 0 = .ok ⟨0, none⟩ := rfl
  have hid : (getXtrackIdOrAdd oneDevice crowded.fields.trackingOrigin).1 = .ok 0 := rfl
  have hreplicate : crowded.fields.inputs = List.replicate UInt32.size XrtInput.zero := rfl
  have hlength : crowded.fields.inputs.length = UInt32.size := by rw [hreplicate, List.length_replicate]
  have hcount : UInt32.ofNat crowded.fields.inputs.length = 0 := by rw [hlength]; rfl
  have hinputs : crowded.fields.inputs ≠ [] := fun hnil => by
    rw [hnil] at hlength
    cases hlength
  have hleft : ¬ Always (infoConversation 0 (fun _ => .ok 3) oneDevice (fun _ => crowded) zeroedMemory) (· = .success)
      Link.AtBoundary :=
    lostCount_not_atBoundary hx hid rfl hcount hinputs rfl rfl
  exact hleft fun d hd => ⟨(h d hd).answered, fun s hs hok => ((h d hd).returned s hs hok).atBoundary⟩

end

end AugmentedInsanity.Ipc.Device
