/-
Setting an output, from the call of the client to the last item of the server. A PCM buffer takes four items and
a blocked output is answered with none of them; `hapticOutput_iff` says when the device gets the samples of the
client and the client gets the count of the device.
-/
import AugmentedInsanity.Ipc.Conversations.UpdateInputs

namespace AugmentedInsanity.Ipc.Device

open Xrt Exchange Ipc.Client

/-! ## The server -/

section
variable (ics : IpcClientState) (dev : XrtDevice → XrtDeviceAnswers) (mem : ServerMemory)

/-- The two cases of `ipc_dispatch` for outputs, with the PCM value that was given to the device. -/
def dispatchOutput : DeviceRequest → Proc Item (XrtResult × Option XrtOutputValue)
  | .setOutput id name value =>
    .sendOne .resultReply (ipcHandleDeviceSetOutput ics dev id name value) (.errorIpcFailure, none) <|
    .done (.success, none)
  | .setHapticOutput id name samples => ipcHandleDeviceSetHapticOutput ics dev mem id name samples
  | _ => .done (.errorIpcFailure, none)

def serveOutput : Proc Item (XrtResult × Option XrtOutputValue) :=
  .recvOne .request (.errorIpcFailure, none) (dispatchOutput ics dev mem)

theorem serveOutput_failsWith : (serveOutput ics dev mem).FailsWith fun r => NotSuccess r.1 := by
  refine .recvOne (fun h => by cases h) fun request => ?_
  unfold dispatchOutput
  split
  · exact .sendOne (fun h => by cases h) trivial
  · exact setHapticOutput_failsWith
  · trivial

end

/-! ## The conversation -/

/-- The client calls `set_output`. -/
def outputConversation (deviceId : UInt32) (cmem : ClientMemory) (name : XrtOutputName) (value : XrtOutputValue)
    (ics : IpcClientState) (dev : XrtDevice → XrtDeviceAnswers) (mem : ServerMemory) :
    Link Item (XrtResult × Option UInt32) (XrtResult × Option XrtOutputValue) :=
  ⟨ipcClientXdevSetOutput deviceId cmem name value, serveOutput ics dev mem, [], []⟩

/-- The conversation ends at a message boundary; a PCM value reaches the device as the client gave it, and the
client gets the number of samples that the device wrote. -/
structure OutputDelivered (deviceId : UInt32) (name : XrtOutputName) (value : XrtOutputValue) (ics : IpcClientState)
    (dev : XrtDevice → XrtDeviceAnswers)
    (d : Link Item (XrtResult × Option UInt32) (XrtResult × Option XrtOutputValue)) : Prop where
  atBoundary : d.AtBoundary
  pcm : ∀ append buffer sampleRate, value = .pcmVibration append buffer sampleRate →
    ∃ x consumed, getXdevAndValidate ics deviceId = .ok x ∧ d.right = .done (.success, some value) ∧
      ((dev x).setOutput name value).2 = some consumed ∧ d.left = .done (.success, some consumed)

/-- A PCM value is not blocked; where there is a device and memory for the samples, the client has some and sends as
many as it has, and the device writes how many it consumed. -/
def OutputFits (deviceId : UInt32) (cmem : ClientMemory) (name : XrtOutputName) (value : XrtOutputValue)
    (ics : IpcClientState) (dev : XrtDevice → XrtDeviceAnswers) (mem : ServerMemory) : Prop :=
  ∀ append buffer sampleRate, value = .pcmVibration append buffer sampleRate →
    ics.clientState.ioBlocks.blockOutputs = false ∧
      ∀ x, getXdevAndValidate ics deviceId = .ok x → mem.samples = true →
        buffer ≠ [] ∧ (samplesSent cmem sampleRate).toNat = buffer.length ∧ ((dev x).setOutput name value).2 ≠ none

variable {buffer : List FloatBits}

theorem samplesFrom_eq_iff {cmem : ClientMemory} {n : ℕ} : samplesFrom cmem buffer n = buffer ↔ n = buffer.length := by
  constructor
  · intro h
    have hlength := congrArg List.length h
    rwa [samplesFrom, List.length_map, List.length_range] at hlength
  · rintro rfl
    refine List.ext_getElem (by simp [samplesFrom]) fun i hi hi' => ?_
    simp [samplesFrom, hi']

theorem samplesFrom_zero {cmem : ClientMemory} : samplesFrom cmem buffer 0 = [] := rfl

section
variable {deviceId : UInt32} {cmem : ClientMemory} {name : XrtOutputName} {ics : IpcClientState}
  {dev : XrtDevice → XrtDeviceAnswers} {mem : ServerMemory} {buffer : List FloatBits}

theorem otherOutput_delivered {value : XrtOutputValue}
    (hvalue : ∀ append buffer sampleRate, value ≠ .pcmVibration append buffer sampleRate) :
    Always (outputConversation deviceId cmem name value ics dev mem) (·.1 = .success)
      (OutputDelivered deviceId name value ics dev) := by
  have hdone : ∀ result,
      OutputDelivered deviceId name value ics dev ⟨.done (result, none), .done (.success, none), [], []⟩ :=
    fun result => ⟨atBoundary_done.2 ⟨rfl, rfl⟩, fun append buffer sampleRate h => absurd h (hvalue _ _ _)⟩
  unfold outputConversation serveOutput
  cases value with
  | vibration bits =>
    rw [ipcClientXdevSetOutput, always_passOneRight, dispatchOutput, always_passOneLeft, always_done]
    · exact fun _ => hdone _
    · exact hvalue
  | forceFeedback bits =>
    rw [ipcClientXdevSetOutput, always_passOneRight, dispatchOutput, always_passOneLeft, always_done]
    · exact fun _ => hdone _
    · exact hvalue
  | pcmVibration append buffer sampleRate => exact absurd rfl (hvalue append buffer sampleRate)

theorem blockedPcm_not_delivered {append : Bool} {sampleRate : FloatBits}
    (hblock : ics.clientState.ioBlocks.blockOutputs = true) :
    ¬ Always (outputConversation deviceId cmem name (.pcmVibration append buffer sampleRate) ics dev mem)
      (·.1 = .success) (OutputDelivered deviceId name (.pcmVibration append buffer sampleRate) ics dev) := by
  unfold outputConversation serveOutput ipcClientXdevSetOutput
  rw [always_passOneRight, dispatchOutput]
  unfold ipcHandleDeviceSetHapticOutput
  rw [if_pos hblock]
  intro h
  have hwaits : ∀ {f : XrtResult × Option UInt32} {next : XrtResult → Proc Item (XrtResult × Option UInt32)},
      (Proc.recvOne (D := ItemKind.Data) .xrtResult f next).Waits [] := Nat.zero_lt_one
  have hdone : (Proc.done (XrtResult.success, none) : Proc Item (XrtResult × Option XrtOutputValue)).Waits [] := trivial
  obtain ⟨⟨r, hleft⟩, -⟩ := (((always_of_waits hwaits hdone).1 h).returned (.success, none) rfl rfl).atBoundary
  cases hleft

/-- For no samples, the server waits until the client sends something, and the client for the count. -/
theorem noSamples_not_always {f : XrtResult × Option UInt32}
    {next : UInt32 → Proc Item (XrtResult × Option UInt32)} {g : XrtResult × Option XrtOutputValue}
    {rest : List FloatBits → Proc Item (XrtResult × Option XrtOutputValue)}
    {P : Link Item (XrtResult × Option UInt32) (XrtResult × Option XrtOutputValue) → Prop} :
    ¬ Always ⟨.sendAll (D := ItemKind.Data) .sample [] f (.recvOne .samplesConsumed f next),
      .recvAll .sample 0 g rest, [], []⟩ (·.1 = .success) P := by
  have hclient : (Proc.recvOne (D := ItemKind.Data) .samplesConsumed f next).Waits [] := Nat.zero_lt_one
  have hserver : (Proc.recvAll (D := ItemKind.Data) .sample 0 g rest).Waits [] := Nat.zero_lt_one
  rw [Proc.sendAll, always_step .sendLeft, List.map_nil, List.append_nil, always_of_waits hclient hserver]
  intro h
  cases h.answered trivial

theorem pcm_delivered_iff {append : Bool} {sampleRate : FloatBits}
    (hblock : ics.clientState.ioBlocks.blockOutputs = false) :
    Always (outputConversation deviceId cmem name (.pcmVibration append buffer sampleRate) ics dev mem)
        (·.1 = .success) (OutputDelivered deviceId name (.pcmVibration append buffer sampleRate) ics dev) ↔
      ∀ x, getXdevAndValidate ics deviceId = .ok x → mem.samples = true →
        buffer ≠ [] ∧ (samplesSent cmem sampleRate).toNat = buffer.length ∧
          ((dev x).setOutput name (.pcmVibration append buffer sampleRate)).2 ≠ none := by
  unfold outputConversation serveOutput ipcClientXdevSetOutput
  rw [always_passOneRight, dispatchOutput]
  unfold ipcHandleDeviceSetHapticOutput
  rw [hblock, if_neg Bool.false_ne_true]
  rcases hx : getXdevAndValidate ics deviceId with xret | x
  · have hxret : ¬ xret = .success := fun h => by rw [getXdev_error hx] at h; cases h
    exact iff_of_true (always_of_failure hxret) fun x hx' => by cases hx'
  · simp only [Except.ok.injEq, forall_eq']
    cases hmem : mem.samples with
    | false =>
      rw [if_neg Bool.false_ne_true, always_passOneLeft, if_pos (by decide)]
      exact iff_of_true (always_of_failure fun h => by cases h) fun h => by cases h
    | true =>
      have hlength : (samplesFrom cmem buffer (samplesSent cmem sampleRate).toNat).length =
          (samplesSent cmem sampleRate).toNat := by simp [samplesFrom]
      rw [if_pos rfl, always_passOneLeft, if_neg (by decide), if_neg (by decide)]
      rcases Nat.eq_zero_or_pos (samplesSent cmem sampleRate).toNat with hnone | hsome
      · rw [hnone, samplesFrom_zero]
        refine iff_of_false noSamples_not_always ?_
        intro h
        obtain ⟨hbuffer, hsent, -⟩ := h rfl
        exact hbuffer (List.eq_nil_of_length_eq_zero hsent.symm)
      -- the server reads as many samples as the client announced, whatever the device consumes
      rw [always_passRight hlength hsome, always_passOneLeft, always_done]
      simp only [forall_const]
      constructor
      · intro h
        obtain ⟨y, consumed, hy, hright, hconsumed, -⟩ := h.pcm append buffer sampleRate rfl
        simp only [Proc.done.injEq, Prod.mk.injEq, Option.some.injEq, XrtOutputValue.pcmVibration.injEq, true_and,
          and_true] at hright
        rw [hx, Except.ok.injEq] at hy
        subst hy
        have hsent := samplesFrom_eq_iff.1 hright
        exact ⟨List.ne_nil_of_length_pos (hsent ▸ hsome), hsent, by rw [hconsumed]; exact Option.some_ne_none _⟩
      · rintro ⟨-, hsent, hwritten⟩
        obtain ⟨consumed, hconsumed⟩ := Option.ne_none_iff_exists'.1 hwritten
        refine ⟨atBoundary_done.2 ⟨rfl, rfl⟩, ?_⟩
        intro append' buffer' sampleRate' hvalue
        refine ⟨x, consumed, hx, ?_, hconsumed, ?_⟩
        · rw [samplesFrom_eq_iff.2 hsent]
        · rw [samplesFrom_eq_iff.2 hsent, hconsumed]
          rfl

/-- Setting an output delivers the value, and leaves the connection at a message boundary, exactly when it is no
PCM value, or it is not blocked and the counts of client, server and device agree. -/
theorem hapticOutput_iff (deviceId : UInt32) (cmem : ClientMemory) (name : XrtOutputName) (value : XrtOutputValue)
    (ics : IpcClientState) (dev : XrtDevice → XrtDeviceAnswers) (mem : ServerMemory) :
    WheneverReturns (outputConversation deviceId cmem name value ics dev mem) (·.1 = .success)
        (OutputDelivered deviceId name value ics dev) ↔
      OutputFits deviceId cmem name value ics dev mem := by
  rw [wheneverReturns_iff (serveOutput_failsWith ..)]
  by_cases hvalue : ∀ append buffer sampleRate, value ≠ .pcmVibration append buffer sampleRate
  · exact iff_of_true (otherOutput_delivered hvalue) fun append buffer sampleRate h => absurd h (hvalue _ _ _)
  · simp only [not_forall, not_not] at hvalue
    obtain ⟨append, buffer, sampleRate, rfl⟩ := hvalue
    cases hblock : ics.clientState.ioBlocks.blockOutputs with
    | true =>
      refine iff_of_false (blockedPcm_not_delivered hblock) fun h => ?_
      have hopen := (h append buffer sampleRate rfl).1
      rw [hblock] at hopen
      cases hopen
    | false =>
      rw [pcm_delivered_iff hblock]
      constructor
      · intro h append' buffer' sampleRate' hvalue
        cases hvalue
        exact ⟨hblock, h⟩
      · intro h
        exact (h append buffer sampleRate rfl).2

def blockedOutputs : IpcClientState :=
  { oneDevice with
    clientState := { oneDevice.clientState with
      ioBlocks := { oneDevice.clientState.ioBlocks with blockOutputs := true } } }

/-- With outputs blocked, the client waits for a result that is not sent. -/
theorem blockedHaptics_not_delivered :
    ¬ WheneverReturns (outputConversation 0 ⟨fun _ => 0, 0⟩ 0 (.pcmVibration false [0] 0) blockedOutputs
        (fun _ => headsetReturning .success) zeroedMemory) (·.1 = .success)
      (OutputDelivered 0 0 (.pcmVibration false [0] 0) blockedOutputs fun _ => headsetReturning .success) := by
  rw [wheneverReturns_iff (serveOutput_failsWith ..)]
  exact blockedPcm_not_delivered rfl

end

end AugmentedInsanity.Ipc.Device
