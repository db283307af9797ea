/-
An update of inputs, from the call of the client to the last item of the server. The server sends the inputs and
outputs whatever the device returned, and the client stops at a failure of the device;
`updateInputs_inStep_iff` says when nothing is left behind on the connection.
-/
import AugmentedInsanity.Ipc.Client.Xdev
import AugmentedInsanity.Ipc.Server.DeviceCalls
import AugmentedInsanity.Ipc.Server.IoBlocks

namespace AugmentedInsanity.Ipc.Device

open Xrt Exchange Ipc.Client

/-- The arrays of the client's device are as long as those of the server's. -/
structure Mirrors (icx : IpcClientXdev) (xdev : XrtDeviceFields) : Prop where
  inputs : xdev.inputs.length = icx.base.inputs.length
  outputs : xdev.outputs.length = icx.base.outputs.length

/-- The client calls `update_inputs`. -/
def updateConversation (icx : IpcClientXdev) (ics : IpcClientState) (dev : XrtDevice → XrtDeviceAnswers)
    (mem : ServerMemory) : Link Item (XrtResult × IpcClientXdev) XrtResult :=
  ⟨ipcClientXdevUpdateInputs icx, serveDevice ics dev mem, [], []⟩

/-! ## What the server sends -/

def RefusesInputs (iob : IpcClientIoBlocks) (xdev : XrtDeviceFields) : Prop :=
  ¬ NoFilter iob ∧ FILTERED_SIZE < xdev.inputs.length

def RefusesOutputs (iob : IpcClientIoBlocks) (xdev : XrtDeviceFields) : Prop :=
  iob.blockOutputs = true ∧ FILTERED_SIZE < xdev.outputs.length

/-- After the reply of the device, nothing more is sent, or the client reads it, or the server fails. -/
def UpdateInStep (iob : IpcClientIoBlocks) (update : XrtResult × XrtDeviceFields) : Prop :=
  update.1 = .success ∨ (update.2.inputs = [] ∧ update.2.outputs = []) ∨ RefusesInputs iob update.2 ∨
    RefusesOutputs iob update.2

theorem sendDeviceInputs_cases (iob : IpcClientIoBlocks) (stack : ℕ → XrtInputName) (xdev : XrtDeviceFields)
    (next : ServerProc) :
    (RefusesInputs iob xdev ∧ sendDeviceInputs iob stack xdev next = .done .errorIpcFailure) ∨
      (¬ RefusesInputs iob xdev ∧ ∃ xs : List XrtInput, xs.length = xdev.inputs.length ∧
        sendDeviceInputs iob stack xdev next = .sendSome .input xs .errorIpcFailure next) := by
  unfold sendDeviceInputs RefusesInputs Proc.sendSome
  by_cases hzero : xdev.inputs.length = 0
  · refine Or.inr ⟨?_, xdev.inputs, rfl, ?_⟩
    · rintro ⟨-, hmany⟩
      omega
    · rw [if_pos hzero, if_neg (by omega)]
  · rw [if_neg hzero]
    have hpos : 0 < xdev.inputs.length := Nat.pos_of_ne_zero hzero
    by_cases hfilter : NoFilter iob
    · refine Or.inr ⟨fun h => h.1 hfilter, xdev.inputs, rfl, ?_⟩
      rw [if_pos (noFilter_iff.1 hfilter), if_pos hpos]
    · rw [if_neg (mt noFilter_iff.2 hfilter)]
      by_cases hmany : FILTERED_SIZE < xdev.inputs.length
      · exact Or.inl ⟨⟨hfilter, hmany⟩, if_pos hmany⟩
      · have hlen : (filterInputs iob stack xdev.inputs).length = xdev.inputs.length := by simp [filterInputs]
        refine Or.inr ⟨fun h => hmany h.2, filterInputs iob stack xdev.inputs, hlen, ?_⟩
        rw [if_neg hmany, if_pos (by omega)]

theorem sendDeviceOutputs_cases (iob : IpcClientIoBlocks) (xdev : XrtDeviceFields) (next : ServerProc) :
    (RefusesOutputs iob xdev ∧ sendDeviceOutputs iob xdev next = .done .errorIpcFailure) ∨
      (¬ RefusesOutputs iob xdev ∧ ∃ xs : List XrtOutput, xs.length = xdev.outputs.length ∧
        sendDeviceOutputs iob xdev next = .sendSome .output xs .errorIpcFailure next) := by
  unfold sendDeviceOutputs RefusesOutputs Proc.sendSome
  by_cases hzero : xdev.outputs.length = 0
  · refine Or.inr ⟨?_, xdev.outputs, rfl, ?_⟩
    · rintro ⟨-, hmany⟩
      omega
    · rw [if_pos hzero, if_neg (by omega)]
  · rw [if_neg hzero]
    have hpos : 0 < xdev.outputs.length := Nat.pos_of_ne_zero hzero
    cases hblock : iob.blockOutputs with
    | false => exact Or.inr ⟨fun h => Bool.false_ne_true h.1, xdev.outputs, rfl, by simp [hpos]⟩
    | true =>
      by_cases hmany : FILTERED_SIZE < xdev.outputs.length
      · exact Or.inl ⟨⟨rfl, hmany⟩, by simp [hmany]⟩
      · exact Or.inr ⟨fun h => hmany h.2, xdev.outputs.map fun src => ⟨src.name⟩, by simp, by simp [hmany, hpos]⟩

/-! ## The conversation -/

section
variable {icx : IpcClientXdev} {ics : IpcClientState} {dev : XrtDevice → XrtDeviceAnswers} {mem : ServerMemory}

theorem updateConversation_of_error {xret : XrtResult} (hx : getXdevAndValidate ics icx.deviceId = .error xret) :
    Always (updateConversation icx ics dev mem) (· = .success) Link.AtBoundary := by
  have hfails : dispatchDevice ics dev mem (.updateInput icx.deviceId) = .done .errorIpcFailure := by
    rw [dispatchDevice, ipcHandleDeviceUpdateInput, getXdevOrReturn_of_error hx]
  exact serveDevice_of_failure hfails (by decide)

theorem updateConversation_of_ok {x : XrtDevice} (hx : getXdevAndValidate ics icx.deviceId = .ok x)
    (hmirrors : Mirrors icx (dev x).updateInputs.2) :
    Always (updateConversation icx ics dev mem) (· = .success) Link.AtBoundary ↔
      UpdateInStep ics.clientState.ioBlocks (dev x).updateInputs := by
  unfold updateConversation serveDevice ipcClientXdevUpdateInputs
  rw [always_passOneRight, dispatchDevice, updateInput_of_ok hx, always_passOneLeft]
  unfold UpdateInStep
  generalize (dev x).updateInputs = update at hmirrors ⊢
  obtain ⟨result, xdev⟩ := update
  dsimp only at hmirrors ⊢
  rcases sendDeviceInputs_cases ics.clientState.ioBlocks mem.filtered xdev
    (sendDeviceOutputs ics.clientState.ioBlocks xdev (.done .success)) with ⟨hrefuses, hsend⟩ | ⟨hfits, xs, hxs, hsend⟩
  · rw [hsend]
    exact iff_of_true (always_of_failure (by decide)) (Or.inr (Or.inr (Or.inl hrefuses)))
  · rw [hsend]
    by_cases hresult : result = .success
    · -- both sides go on: inputs pass, then the outputs unless the server gives up on them
      rw [if_neg (not_not.2 hresult), always_passSomeLeft (hxs.trans hmirrors.inputs)]
      refine iff_of_true ?_ (Or.inl hresult)
      rcases sendDeviceOutputs_cases ics.clientState.ioBlocks xdev (.done .success) with ⟨-, hout⟩ | ⟨-, ys, hys, hout⟩
      · rw [hout]
        exact always_of_failure (by decide)
      · rw [hout, always_passSomeLeft (hys.trans hmirrors.outputs), always_done, atBoundary_done]
        exact fun _ => ⟨rfl, rfl⟩
    · rw [if_pos hresult, always_sendSomeRight]
      rcases sendDeviceOutputs_cases ics.clientState.ioBlocks xdev (.done .success) with
        ⟨hrefuses, hout⟩ | ⟨hfits', ys, hys, hout⟩
      · rw [hout]
        exact iff_of_true (always_of_failure (by decide)) (Or.inr (Or.inr (Or.inr hrefuses)))
      · -- the client has stopped, and everything that was sent stays on the connection
        rw [hout, always_sendSomeRight, always_done, atBoundary_done]
        simp only [List.nil_append, List.append_eq_nil_iff, List.map_eq_nil_iff, true_and, forall_const]
        rw [← List.length_eq_zero_iff, ← List.length_eq_zero_iff, hxs, hys, List.length_eq_zero_iff,
          List.length_eq_zero_iff]
        constructor
        · exact fun h => Or.inr (Or.inl h)
        · rintro (h | h | h | h)
          · exact absurd h hresult
          · exact h
          · exact absurd h hfits
          · exact absurd h hfits'

/-- An update leaves the connection at a message boundary exactly when the device succeeded, or has nothing to
send, or the server gives up. -/
theorem updateInputs_inStep_iff (icx : IpcClientXdev) (ics : IpcClientState) (dev : XrtDevice → XrtDeviceAnswers)
    (mem : ServerMemory)
    (hmirrors : ∀ x, getXdevAndValidate ics icx.deviceId = .ok x → Mirrors icx (dev x).updateInputs.2) :
    WheneverReturns (updateConversation icx ics dev mem) (· = .success) Link.AtBoundary ↔
      ∀ x, getXdevAndValidate ics icx.deviceId = .ok x →
        UpdateInStep ics.clientState.ioBlocks (dev x).updateInputs := by
  rw [wheneverReturns_iff serveDevice_failsWith]
  rcases hx : getXdevAndValidate ics icx.deviceId with xret | x
  · exact iff_of_true (updateConversation_of_error hx) fun x hx' => by cases hx'
  · rw [updateConversation_of_ok hx (hmirrors x hx)]
    simp only [Except.ok.injEq, forall_eq']

def oneDevice : IpcClientState := { IpcClientState.zero with xdevs := fun _ => some ⟨0, none⟩ }

/-- A headset whose update returns `result`. -/
def headsetReturning (result : XrtResult) : XrtDeviceAnswers :=
  let xdev := probe [XRT_INPUT_GENERIC_HEAD_POSE] fun _ => true
  { xdev with updateInputs := (result, xdev.fields) }

def headsetClient : IpcClientXdev := ⟨0, (probe [XRT_INPUT_GENERIC_HEAD_POSE] fun _ => true).fields⟩

def zeroedMemory : ServerMemory := ⟨fun _ => 0, 0, true, true, true, true⟩

theorem headset_mirrors (result : XrtResult) : Mirrors headsetClient (headsetReturning result).updateInputs.2 :=
  ⟨rfl, rfl⟩

theorem updateInputs_inStep_headset :
    WheneverReturns (updateConversation headsetClient oneDevice (fun _ => headsetReturning .success) zeroedMemory)
      (· = .success) Link.AtBoundary :=
  (updateInputs_inStep_iff headsetClient oneDevice _ zeroedMemory fun _ _ => headset_mirrors .success).2
    fun _ _ => Or.inl rfl

/-- A failing update leaves the input of the headset on the connection. -/
theorem failedUpdate_not_inStep :
    ¬ WheneverReturns (updateConversation headsetClient oneDevice (fun _ => headsetReturning .timeout) zeroedMemory)
      (· = .success) Link.AtBoundary := by
  have hx : getXdevAndValidate oneDevice headsetClient.deviceId = .ok ⟨0, none⟩ := rfl
  rw [wheneverReturns_iff serveDevice_failsWith, updateConversation_of_ok hx (headset_mirrors .timeout)]
  rintro (h | ⟨h, -⟩ | ⟨h, -⟩ | ⟨h, -⟩)
  · cases h
  · cases h
  · exact h ⟨rfl, rfl, rfl⟩
  · cases h

end

end AugmentedInsanity.Ipc.Device
