/-
A query for view poses, from the call of the client to the last item of the server. The server sends the arrays
whatever the device returned, and the client stops at a failure of the device; `viewPoses_inStep_iff` says when
nothing is left behind on the connection.
-/
import AugmentedInsanity.Ipc.Conversations.UpdateInputs

namespace AugmentedInsanity.Ipc.Device

open Xrt Exchange Ipc.Client

/-- The client calls `get_view_poses`. -/
def viewPosesConversation (deviceId : UInt32) (eyeRelation : XrtVec3) (atTimestampNs : Int64)
    (viewType viewCount : UInt32) (ics : IpcClientState) (dev : XrtDevice → XrtDeviceAnswers) (mem : ServerMemory) :
    Link Item (XrtResult × Option Views) XrtResult :=
  ⟨ipcClientHmdGetViewPoses deviceId eyeRelation atTimestampNs viewType viewCount, serveDevice ics dev mem, [], []⟩

section
variable {deviceId : UInt32} {eyeRelation : XrtVec3} {atTimestampNs : Int64} {viewType viewCount : UInt32}
  {ics : IpcClientState} {dev : XrtDevice → XrtDeviceAnswers} {mem : ServerMemory}

theorem twoViews_inStep :
    Always (viewPosesConversation deviceId eyeRelation atTimestampNs viewType 2 ics dev mem) (· = .success)
      Link.AtBoundary := by
  unfold viewPosesConversation serveDevice ipcClientHmdGetViewPoses
  rw [if_pos rfl, always_passOneRight, dispatchDevice, always_passOneLeft]
  split
  · rw [always_done, atBoundary_done]
    exact fun _ => ⟨rfl, rfl⟩
  · rw [always_done, atBoundary_done]
    exact fun _ => ⟨rfl, rfl⟩

theorem tooManyViews_inStep (htwo : viewCount ≠ 2) (hmany : IPC_MAX_RAW_VIEWS < viewCount.toNat) :
    Always (viewPosesConversation deviceId eyeRelation atTimestampNs viewType viewCount ics dev mem) (· = .success)
      Link.AtBoundary := by
  have hleft : (Proc.undefined : Proc Item (XrtResult × Option Views)).Waits [] := trivial
  have hright : (serveDevice ics dev mem).Waits [] := Nat.zero_lt_one
  unfold viewPosesConversation ipcClientHmdGetViewPoses
  rw [if_neg htwo, if_neg (by omega), always_of_waits hleft hright]
  constructor
  · exact fun _ => rfl
  · intro s hs
    cases hs

theorem rawViews_inStep_iff :
    Always ⟨callGetViewPosesRaw deviceId eyeRelation atTimestampNs viewType viewCount, serveDevice ics dev mem, [], []⟩
        (· = .success) Link.AtBoundary ↔
      ∀ x, getXdevAndValidate ics deviceId = .ok x →
        viewCount = 0 ∨ IPC_MAX_RAW_VIEWS < viewCount.toNat ∨
          ((dev x).getViewPoses eyeRelation atTimestampNs viewType viewCount).result = .success := by
  rcases hx : getXdevAndValidate ics deviceId with xret | x
  · have hfails : dispatchDevice ics dev mem (.getViewPoses deviceId eyeRelation atTimestampNs viewType viewCount) =
        .done .errorIpcFailure := by
      rw [dispatchDevice, ipcHandleDeviceGetViewPoses, getXdevOrReturn_of_error hx]
    exact iff_of_true (serveDevice_of_failure hfails (by decide)) fun x hx' => by cases hx'
  · simp only [Except.ok.injEq, forall_eq']
    unfold callGetViewPosesRaw serveDevice
    rw [always_passOneRight, dispatchDevice]
    unfold ipcHandleDeviceGetViewPoses
    rw [getXdevOrReturn_of_ok hx]
    by_cases hcount : viewCount = 0 ∨ IPC_MAX_RAW_VIEWS < viewCount.toNat
    · rw [if_pos hcount, always_passOneLeft, if_pos (by decide), always_done, atBoundary_done]
      exact iff_of_true (fun _ => ⟨rfl, rfl⟩) (hcount.imp_right Or.inl)
    · rw [if_neg hcount, always_passOneLeft]
      push Not at hcount
      obtain ⟨hzero, hmany⟩ := hcount
      have hnat : viewCount.toNat ≠ 0 := fun h => hzero (UInt32.toNat_inj.1 h)
      have hpos : 0 < viewCount.toNat := Nat.pos_of_ne_zero hnat
      by_cases hresult : ((dev x).getViewPoses eyeRelation atTimestampNs viewType viewCount).result = .success
      · rw [if_neg (not_not.2 hresult), if_neg (not_not.2 rfl), always_passLeft (by simp) hpos,
          always_passLeft (by simp) hpos, always_done, atBoundary_done]
        exact iff_of_true (fun _ => ⟨rfl, rfl⟩) (Or.inr (Or.inr hresult))
      · -- the client has stopped, and both arrays stay on the connection
        rw [if_pos hresult, always_sendRight, always_sendRight, always_done, atBoundary_done]
        simp only [List.nil_append, List.append_eq_nil_iff, List.map_eq_nil_iff, List.range_eq_nil, hnat, and_self,
          and_false, forall_const, false_iff]
        rintro (h | h | h)
        · exact hzero h
        · omega
        · exact hresult h

/-- A query for view poses leaves the connection at a message boundary exactly when it is answered in one reply, or
refused for its number of views, or the device succeeded. -/
theorem viewPoses_inStep_iff (deviceId : UInt32) (eyeRelation : XrtVec3) (atTimestampNs : Int64)
    (viewType viewCount : UInt32) (ics : IpcClientState) (dev : XrtDevice → XrtDeviceAnswers) (mem : ServerMemory) :
    WheneverReturns (viewPosesConversation deviceId eyeRelation atTimestampNs viewType viewCount ics dev mem)
        (· = .success) Link.AtBoundary ↔
      ∀ x, getXdevAndValidate ics deviceId = .ok x →
        viewCount = 2 ∨ viewCount = 0 ∨ IPC_MAX_RAW_VIEWS < viewCount.toNat ∨
          ((dev x).getViewPoses eyeRelation atTimestampNs viewType viewCount).result = .success := by
  rw [wheneverReturns_iff serveDevice_failsWith]
  by_cases htwo : viewCount = 2
  · subst htwo
    exact iff_of_true twoViews_inStep fun _ _ => Or.inl rfl
  · by_cases hmany : IPC_MAX_RAW_VIEWS < viewCount.toNat
    · exact iff_of_true (tooManyViews_inStep htwo hmany) fun _ _ => Or.inr (Or.inr (Or.inl hmany))
    · unfold viewPosesConversation ipcClientHmdGetViewPoses
      rw [if_neg htwo, if_pos (by omega), rawViews_inStep_iff]
      simp only [htwo, false_or]

def viewless : XrtDeviceAnswers :=
  { probe [] fun _ => false with
    getViewPoses := fun _ _ _ _ => ⟨.errorNotImplemented, .zero, fun _ => ⟨0, 0, 0, 0⟩, fun _ => .zero⟩ }

/-- A failing query for one view leaves a field of view and a pose on the connection. -/
theorem failedView_not_inStep :
    ¬ WheneverReturns (viewPosesConversation 0 .zero 0 0 1 oneDevice (fun _ => viewless) zeroedMemory) (· = .success)
      Link.AtBoundary := by
  rw [wheneverReturns_iff serveDevice_failsWith]
  unfold viewPosesConversation ipcClientHmdGetViewPoses
  rw [if_neg (by decide), if_pos (by decide), rawViews_inStep_iff]
  intro h
  rcases h ⟨0, none⟩ rfl with h | h | h
  · cases h
  · exact absurd h (by decide)
  · cases h

end

end AugmentedInsanity.Ipc.Device
