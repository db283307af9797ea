/-
Fetching plane detections, from the call of the client to the last item of the server. The client takes it that
without locations nothing else is sent, and gives up where an array cannot be made; `planeDetections_iff` says
when it ends with what the device reported and nothing left behind on the connection.
-/
import AugmentedInsanity.Ipc.Conversations.UpdateInputs

namespace AugmentedInsanity.Ipc.Device

open Xrt Exchange Ipc.Client

/-- The client calls `get_plane_detections_ext`, with the buffers of an earlier call. -/
def planeConversation (deviceId : UInt32) (reallocs : Reallocs) (planeDetectionId : UInt64) (buf : PlaneBuffers)
    (ics : IpcClientState) (dev : XrtDevice → XrtDeviceAnswers) (mem : ServerMemory) :
    Link Item (XrtResult × PlaneBuffers) XrtResult :=
  ⟨ipcClientXdevGetPlaneDetectionsExt deviceId reallocs planeDetectionId buf, serveDevice ics dev mem, [], []⟩

structure Received (buf : PlaneBuffers) (out : XrtPlaneDetections) : Prop where
  locationCount : buf.locationCount.toNat = out.locations.length
  locations : buf.locations.take out.locations.length = out.locations
  startIndex : buf.polygonInfoStartIndex.take out.polygonInfoStartIndex.length = out.polygonInfoStartIndex
  polygonInfos : buf.polygonInfos.take out.polygonInfos.length = out.polygonInfos
  vertices : buf.vertices.take out.vertices.length = out.vertices

/-- The conversation ends at a message boundary, and the client has what the device reported. -/
def PlanesReceived (deviceId : UInt32) (planeDetectionId : UInt64) (ics : IpcClientState)
    (dev : XrtDevice → XrtDeviceAnswers) (d : Link Item (XrtResult × PlaneBuffers) XrtResult) : Prop :=
  d.AtBoundary ∧ ∀ x, getXdevAndValidate ics deviceId = .ok x →
    ∃ buf, d.left = .done (.success, buf) ∧ Received buf ((dev x).getPlaneDetections planeDetectionId).2

/-- There is nothing to send, or there are locations and the client has the arrays for it all. -/
def PlanesFit (reallocs : Reallocs) (buf : PlaneBuffers) (out : XrtPlaneDetections) : Prop :=
  (out.locations = [] ∧ out.polygonInfos = [] ∧ out.vertices = []) ∨
    (out.locations ≠ [] ∧
      (buf.reserve reallocs (.ofNat out.locations.length) (.ofNat out.polygonInfos.length)
        (.ofNat out.vertices.length)).missing (.ofNat out.locations.length) (.ofNat out.polygonInfos.length)
        (.ofNat out.vertices.length) = false)

theorem overwrite_take {α : Type} (array items : List α) : (overwrite array items).take items.length = items := by
  unfold overwrite
  exact List.take_left

@[simp] theorem reserve_locationCount (buf : PlaneBuffers) (reallocs : Reallocs)
    (locationSize polygonSize vertexSize : UInt32) :
    (buf.reserve reallocs locationSize polygonSize vertexSize).locationCount = locationSize := by
  unfold PlaneBuffers.reserve
  dsimp only
  split
  · split
    · split
      · rfl
      · rfl
    · split
      · rfl
      · rfl
  · split
    · split
      · rfl
      · rfl
    · split
      · rfl
      · rfl

section
variable {deviceId : UInt32} {reallocs : Reallocs} {planeDetectionId : UInt64} {buf : PlaneBuffers}
  {ics : IpcClientState} {dev : XrtDevice → XrtDeviceAnswers} {mem : ServerMemory} {out : XrtPlaneDetections}

/-- `PlanesReceived` for what one device reported. -/
def Detected (out : XrtPlaneDetections) (d : Link Item (XrtResult × PlaneBuffers) XrtResult) : Prop :=
  d.AtBoundary ∧ ∃ buf, d.left = .done (.success, buf) ∧ Received buf out

theorem noLocations_detected (hnone : out.locations = []) :
    Always ⟨.done (.success, { buf with locationCount := 0 }), sendPolygons out, [], []⟩ (· = .success)
      (Detected out) ↔ PlanesFit reallocs buf out := by
  have hstart : out.polygonInfoStartIndex = [] :=
    List.eq_nil_of_length_eq_zero (out.startIndex_length.trans (List.length_eq_zero_iff.2 hnone))
  unfold sendPolygons Detected
  rw [always_sendSomeRight, always_sendSomeRight, always_done, atBoundary_done]
  simp only [List.nil_append, List.append_eq_nil_iff, List.map_eq_nil_iff, true_and, forall_const]
  constructor
  · rintro ⟨⟨hp, hv⟩, -⟩
    exact Or.inl ⟨hnone, hp, hv⟩
  · rintro (⟨-, hp, hv⟩ | ⟨hsome, -⟩)
    · refine ⟨⟨hp, hv⟩, _, rfl, ?_⟩
      constructor
      · rw [hnone]; rfl
      · rw [hnone]; rfl
      · rw [hstart]; rfl
      · rw [hp]; rfl
      · rw [hv]; rfl
    · exact absurd hnone hsome

theorem givenUp_not_detected (hsome : out.locations ≠ []) (left : XrtResult × PlaneBuffers) :
    ¬ Always ⟨.done left, .sendAll .location out.locations .errorIpcFailure <|
      .sendAll .startIndex out.polygonInfoStartIndex .errorIpcFailure (sendPolygons out), [], []⟩ (· = .success)
      (Detected out) := by
  unfold sendPolygons Detected
  rw [always_sendRight, always_sendRight, always_sendSomeRight, always_sendSomeRight, always_done, atBoundary_done]
  intro h
  have hnil := (h rfl).1.2
  simp only [List.nil_append, List.append_eq_nil_iff, List.map_eq_nil_iff] at hnil
  exact hsome hnil.1.1.1

theorem planes_afterReply {x : XrtDevice} (hx : getXdevAndValidate ics deviceId = .ok x)
    (hresult : ((dev x).getPlaneDetections planeDetectionId).1 = .success) :
    Always (planeConversation deviceId reallocs planeDetectionId buf ics dev mem) (· = .success)
        (PlanesReceived deviceId planeDetectionId ics dev) ↔
      PlanesFit reallocs buf ((dev x).getPlaneDetections planeDetectionId).2 := by
  have hreceived : PlanesReceived deviceId planeDetectionId ics dev =
      Detected ((dev x).getPlaneDetections planeDetectionId).2 := by
    funext d
    simp only [PlanesReceived, Detected, hx, Except.ok.injEq, forall_eq']
  unfold planeConversation serveDevice ipcClientXdevGetPlaneDetectionsExt
  rw [hreceived, always_passOneRight, dispatchDevice]
  unfold ipcHandleDeviceGetPlaneDetectionsExt
  rw [getXdevOrReturn_of_ok hx]
  dsimp only
  rw [if_neg (not_not.2 hresult), always_passOneLeft, if_neg (not_not.2 rfl)]
  generalize ((dev x).getPlaneDetections planeDetectionId).2 = out
  have hlocations : (UInt32.ofNat out.locations.length).toNat = out.locations.length :=
    UInt32.toNat_ofNat_of_lt' out.locations_lt
  have hpolygons : (UInt32.ofNat out.polygonInfos.length).toNat = out.polygonInfos.length :=
    UInt32.toNat_ofNat_of_lt' out.polygonInfos_lt
  have hvertices : (UInt32.ofNat out.vertices.length).toNat = out.vertices.length :=
    UInt32.toNat_ofNat_of_lt' out.vertices_lt
  -- no count of the reply was cut to 32 bits, so the branches on it are branches on the arrays
  by_cases hnone : out.locations = []
  · have hlength : out.locations.length = 0 := List.length_eq_zero_iff.2 hnone
    rw [hlength, if_pos (show UInt32.ofNat 0 < 1 by decide), if_neg (Nat.lt_irrefl 0)]
    exact noLocations_detected hnone
  · have hpos : 0 < out.locations.length := List.length_pos_of_ne_nil hnone
    have hsize : ¬ UInt32.ofNat out.locations.length < 1 := by
      rw [UInt32.lt_iff_toNat_lt, hlocations]
      exact Nat.not_lt.2 hpos
    rw [if_neg hsize, if_pos hpos]
    dsimp only
    cases hmissing : (buf.reserve reallocs (.ofNat out.locations.length) (.ofNat out.polygonInfos.length)
        (.ofNat out.vertices.length)).missing (.ofNat out.locations.length) (.ofNat out.polygonInfos.length)
        (.ofNat out.vertices.length) with
    | true =>
      -- the client gives up, and the server sends all the same
      rw [if_pos rfl]
      refine iff_of_false (givenUp_not_detected hnone _) ?_
      rintro (⟨hnil, -⟩ | ⟨-, hready⟩)
      · exact hnone hnil
      · rw [hmissing] at hready
        cases hready
    | false =>
      rw [if_neg Bool.false_ne_true, hlocations, hpolygons, hvertices]
      unfold sendPolygons Detected
      rw [Proc.recvSome, if_pos hpos, always_passLeft rfl hpos, Proc.recvSome, if_pos hpos,
        always_passLeft out.startIndex_length hpos, always_passSomeLeft rfl, always_passSomeLeft rfl, always_done,
        atBoundary_done]
      refine iff_of_true (fun _ => ⟨⟨rfl, rfl⟩, _, rfl, ?_⟩) (Or.inr ⟨hnone, hmissing⟩)
      constructor
      · simp only [reserve_locationCount, hlocations]
      · exact overwrite_take _ _
      · exact overwrite_take _ _
      · exact overwrite_take _ _
      · exact overwrite_take _ _

/-- The client gets the detections of the device, and the connection is at a message boundary, exactly when the
device failed, or reported nothing, or reported locations and the client could make its arrays. -/
theorem planeDetections_iff (deviceId : UInt32) (reallocs : Reallocs) (planeDetectionId : UInt64) (buf : PlaneBuffers)
    (ics : IpcClientState) (dev : XrtDevice → XrtDeviceAnswers) (mem : ServerMemory) :
    WheneverReturns (planeConversation deviceId reallocs planeDetectionId buf ics dev mem) (· = .success)
        (PlanesReceived deviceId planeDetectionId ics dev) ↔
      ∀ x, getXdevAndValidate ics deviceId = .ok x → ((dev x).getPlaneDetections planeDetectionId).1 = .success →
        PlanesFit reallocs buf ((dev x).getPlaneDetections planeDetectionId).2 := by
  rw [wheneverReturns_iff serveDevice_failsWith]
  rcases hx : getXdevAndValidate ics deviceId with xret | x
  · have hfails : dispatchDevice ics dev mem (.getPlaneDetectionsExt deviceId planeDetectionId) =
        .done .errorIpcFailure := by
      rw [dispatchDevice, ipcHandleDeviceGetPlaneDetectionsExt, getXdevOrReturn_of_error hx]
    exact iff_of_true (serveDevice_of_failure hfails (by decide)) fun x hx' => by cases hx'
  · simp only [Except.ok.injEq, forall_eq']
    by_cases hresult : ((dev x).getPlaneDetections planeDetectionId).1 = .success
    · rw [planes_afterReply hx hresult]
      simp only [hresult, forall_const]
    · have hfails : dispatchDevice ics dev mem (.getPlaneDetectionsExt deviceId planeDetectionId) =
          .done ((dev x).getPlaneDetections planeDetectionId).1 := by
        rw [dispatchDevice, ipcHandleDeviceGetPlaneDetectionsExt, getXdevOrReturn_of_ok hx]
        exact if_pos hresult
      exact iff_of_true (serveDevice_of_failure hfails hresult) fun h => absurd h hresult

theorem zero_lt_size : 0 < UInt32.size := by decide

theorem one_lt_size : 1 < UInt32.size := by decide

theorem noStartIndex : ([] : List UInt32).length = ([] : List XrtPlaneDetectorLocation).length := rfl

def strayPolygon : XrtDeviceAnswers :=
  { probe [] fun _ => false with
    getPlaneDetections := fun _ =>
      (.success, ⟨[], [], [⟨0, 0⟩], [], noStartIndex, zero_lt_size, one_lt_size, zero_lt_size⟩) }

def emptyBuffers : PlaneBuffers := ⟨0, 0, [], [], 0, [], 0, []⟩

/-- The polygon stays on the connection. -/
theorem strayPolygon_not_received :
    ¬ WheneverReturns (planeConversation 0 ⟨true, true, true, true⟩ 0 emptyBuffers oneDevice (fun _ => strayPolygon)
      zeroedMemory) (· = .success) (PlanesReceived 0 0 oneDevice fun _ => strayPolygon) := by
  have hx : getXdevAndValidate oneDevice 0 = .ok ⟨0, none⟩ := rfl
  rw [wheneverReturns_iff serveDevice_failsWith, planes_afterReply hx rfl]
  rintro (⟨-, h, -⟩ | ⟨h, -⟩)
  · cases h
  · exact h rfl

end

end AugmentedInsanity.Ipc.Device
