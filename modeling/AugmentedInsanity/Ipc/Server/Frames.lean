/-
What the operations leave alone: swapchain, semaphore and space calls do not touch the session of the
client, resource calls do not touch its spaces, and the choice of the active client changes flags of the
applications only.
-/
import AugmentedInsanity.Ipc.Server.Step

namespace AugmentedInsanity.Ipc

open Xrt Tables

/-! ## Sessions -/

structure SameSession (ics ics' : IpcClientState) : Prop where
  clientState : ics'.clientState = ics.clientState
  serverThreadIndex : ics'.serverThreadIndex = ics.serverThreadIndex
  ipcHandle : ics'.ipcHandle = ics.ipcHandle
  xs : ics'.xs = ics.xs
  xc : ics'.xc = ics.xc

theorem SameSession.refl (ics : IpcClientState) : SameSession ics ics := ⟨rfl, rfl, rfl, rfl, rfl⟩

theorem SameSession.trans {a b c : IpcClientState} (h : SameSession a b) (h' : SameSession b c) :
    SameSession a c :=
  ⟨h'.clientState.trans h.clientState, h'.serverThreadIndex.trans h.serverThreadIndex,
    h'.ipcHandle.trans h.ipcHandle, h'.xs.trans h.xs, h'.xc.trans h.xc⟩

/-! ## Spaces -/

structure SameSpaces (ics ics' : IpcClientState) : Prop where
  id : ics'.clientState.id = ics.clientState.id
  serverThreadIndex : ics'.serverThreadIndex = ics.serverThreadIndex
  xspcs : ics'.xspcs = ics.xspcs
  localSpaceIndex : ics'.localSpaceIndex = ics.localSpaceIndex
  localSpaceOverseerIndex : ics'.localSpaceOverseerIndex = ics.localSpaceOverseerIndex
  localFloorSpaceIndex : ics'.localFloorSpaceIndex = ics.localFloorSpaceIndex
  localFloorSpaceOverseerIndex : ics'.localFloorSpaceOverseerIndex = ics.localFloorSpaceOverseerIndex

theorem SameSpaces.refl (ics : IpcClientState) : SameSpaces ics ics := ⟨rfl, rfl, rfl, rfl, rfl, rfl, rfl⟩

/-! ## Resource calls -/

variable {ics ics' : IpcClientState} {r : Except XrtResult Unit}

theorem resourceCall_cases {call : ResourceCall} (h : handleResourceCall ics call = .ok (r, ics')) :
    (SameSession ics ics' ∧ SameSpaces ics ics') ∨
      (∃ isOverlay zOrder xs xcn, call = .sessionCreate isOverlay zOrder (.ok (xs, xcn)) ∧ ics.xs = none ∧
        ics' = { ics with
          clientState := { ics.clientState with sessionOverlay := isOverlay, zOrder := zOrder }
          xs := some xs
          xc := xcn }) ∨
      (call = .sessionDestroy ∧ ics.xs.isSome = true ∧ ics' = destroySessionAndCompositor ics) := by
  have same : SameSession ics ics ∧ SameSpaces ics ics := ⟨.refl ics, .refl ics⟩
  cases call with
  | sessionCreate isOverlay zOrder created =>
    simp only [handleResourceCall, ipcHandleSessionCreate] at h
    split at h
    · cases h; exact Or.inl same
    · rename_i hxs
      split at h
      · cases h; exact Or.inl same
      · cases h
        exact Or.inr (Or.inl ⟨isOverlay, zOrder, _, _, rfl, by simpa using hxs, rfl⟩)
  | sessionDestroy =>
    simp only [handleResourceCall, ipcHandleSessionDestroy] at h
    split at h
    · cases h; exact Or.inl same
    · rename_i hxs
      cases h
      exact Or.inr (Or.inr ⟨rfl, by simpa [Option.isSome_iff_ne_none] using hxs, rfl⟩)
  | swapchainCreate info created =>
    simp only [handleResourceCall, ipcHandleSwapchainCreate] at h
    split at h
    · cases h; exact Or.inl same
    · split at h
      · cases h
      · split at h
        · cases h; exact Or.inl same
        · cases h
          exact Or.inl ⟨⟨rfl, rfl, rfl, rfl, rfl⟩, ⟨rfl, rfl, rfl, rfl, rfl, rfl, rfl⟩⟩
  | swapchainImport info handleCount created =>
    simp only [handleResourceCall, ipcHandleSwapchainImport] at h
    split at h
    · cases h; exact Or.inl same
    · split at h
      · cases h
      · split at h
        · cases h
        · split at h
          · cases h; exact Or.inl same
          · cases h
            exact Or.inl ⟨⟨rfl, rfl, rfl, rfl, rfl⟩, ⟨rfl, rfl, rfl, rfl, rfl, rfl, rfl⟩⟩
  | swapchainDestroy id =>
    by_cases hxc : ics.xc.isNone = true
    · simp only [handleResourceCall, ipcHandleSwapchainDestroy, if_pos hxc] at h
      cases h; exact Or.inl same
    · by_cases hid : id.toNat < IPC_MAX_CLIENT_SWAPCHAINS
      · simp only [handleResourceCall, ipcHandleSwapchainDestroy, if_neg hxc, writeAt_of_lt hid,
          readAt_of_lt hid] at h
        cases h
        exact Or.inl ⟨⟨rfl, rfl, rfl, rfl, rfl⟩, ⟨rfl, rfl, rfl, rfl, rfl, rfl, rfl⟩⟩
      · simp only [handleResourceCall, ipcHandleSwapchainDestroy, if_neg hxc, writeAt_of_ge hid] at h
        cases h
  | semaphoreCreate created =>
    simp only [handleResourceCall, ipcHandleCompositorSemaphoreCreate] at h
    split at h
    · cases h; exact Or.inl same
    · split at h
      · cases h; exact Or.inl same
      · split at h
        · cases h; exact Or.inl same
        · cases h
          exact Or.inl ⟨⟨rfl, rfl, rfl, rfl, rfl⟩, ⟨rfl, rfl, rfl, rfl, rfl, rfl, rfl⟩⟩
  | semaphoreDestroy id =>
    by_cases hxc : ics.xc.isNone = true
    · simp only [handleResourceCall, ipcHandleCompositorSemaphoreDestroy, if_pos hxc] at h
      cases h; exact Or.inl same
    · by_cases hid : id.toNat < IPC_MAX_CLIENT_SEMAPHORES
      · rcases hsem : ics.xcsems ⟨id.toNat, hid⟩ with _ | xcsem
        · simp only [handleResourceCall, ipcHandleCompositorSemaphoreDestroy, if_neg hxc, readAt_of_lt hid,
            hsem] at h
          cases h; exact Or.inl same
        · simp only [handleResourceCall, ipcHandleCompositorSemaphoreDestroy, if_neg hxc, readAt_of_lt hid,
            hsem, writeAt_of_lt hid] at h
          cases h
          exact Or.inl ⟨⟨rfl, rfl, rfl, rfl, rfl⟩, ⟨rfl, rfl, rfl, rfl, rfl, rfl, rfl⟩⟩
      · simp only [handleResourceCall, ipcHandleCompositorSemaphoreDestroy, if_neg hxc, readAt_of_ge hid] at h
        cases h

theorem resourceCall_spaces {call : ResourceCall} (h : handleResourceCall ics call = .ok (r, ics')) :
    SameSpaces ics ics' := by
  rcases resourceCall_cases h with ⟨-, h⟩ | ⟨_, _, _, _, -, -, rfl⟩ | ⟨-, -, rfl⟩
  · exact h
  · exact ⟨rfl, rfl, rfl, rfl, rfl, rfl, rfl⟩
  · exact ⟨rfl, rfl, rfl, rfl, rfl, rfl, rfl⟩

/-! ## Space calls -/

theorem trackSpace_session (ics : IpcClientState) (xs : XrtSpace) : SameSession ics (trackSpace ics xs).2 := by
  unfold trackSpace
  split
  · exact .refl ics
  · exact ⟨rfl, rfl, rfl, rfl, rfl⟩

theorem createSemanticId_session (ics : IpcClientState) (space : Option XrtSpace) :
    SameSession ics (createSemanticId ics space).2 := by
  unfold createSemanticId
  split
  · exact .refl ics
  · rename_i xs
    have h := trackSpace_session ics xs
    split
    · rename_i heq; rw [heq] at h; exact h
    · rename_i heq; rw [heq] at h; exact h

theorem createSharedSemanticIds_session (xso : XrtSpaceOverseer) (ics : IpcClientState) :
    SameSession ics (createSharedSemanticIds xso ics).2 := by
  unfold createSharedSemanticIds
  exact ((createSemanticId_session _ _).trans (createSemanticId_session _ _)).trans
    ((createSemanticId_session _ _).trans (createSemanticId_session _ _))

theorem getNewLocalspaceId_session (xso : XrtSpaceOverseer) (ics : IpcClientState) :
    SameSession ics (getNewLocalspaceId xso ics).2 := by
  unfold getNewLocalspaceId
  split
  · exact .refl ics
  · simp only []
    split
    · exact ⟨rfl, rfl, rfl, rfl, rfl⟩
    · split
      · exact ⟨rfl, rfl, rfl, rfl, rfl⟩
      · split
        · exact ⟨rfl, rfl, rfl, rfl, rfl⟩
        · exact ⟨rfl, rfl, rfl, rfl, rfl⟩

theorem createLocalspace_session (xso : XrtSpaceOverseer) (ics : IpcClientState) :
    SameSession ics (createLocalspace xso ics).2.2 := by
  have h := getNewLocalspaceId_session xso ics
  unfold createLocalspace
  split
  · rename_i heq; rw [heq] at h; exact h
  · rename_i heq; rw [heq] at h; exact ⟨h.clientState, h.serverThreadIndex, h.ipcHandle, h.xs, h.xc⟩

theorem createSemanticIds_session (xso : XrtSpaceOverseer) (ics : IpcClientState) :
    SameSession ics (ipcHandleSpaceCreateSemanticIds xso ics).2.2 := by
  unfold ipcHandleSpaceCreateSemanticIds
  have h := (createSharedSemanticIds_session xso ics).trans
    (createLocalspace_session xso (createSharedSemanticIds xso ics).2)
  simp only []
  split
  · rename_i heq; rw [heq] at h; exact h
  · rename_i heq; rw [heq] at h; exact h

theorem spaceCall_session {xso xso' : XrtSpaceOverseer} {call : SpaceCall}
    (h : handleSpaceCall xso ics call = .ok (xso', ics')) : SameSession ics ics' := by
  cases call with
  | createSemanticIds =>
    have heq := congrArg Prod.snd (Except.ok.inj h)
    rw [← show _ = ics' from heq]
    exact createSemanticIds_session xso ics
  | createOffset parentId created =>
    cases h
    unfold ipcHandleSpaceCreateOffset
    split
    · exact .refl ics
    · split
      · exact .refl ics
      · exact trackSpace_session ics _
  | createPose xdevId created =>
    cases h
    unfold ipcHandleSpaceCreatePose
    split
    · exact .refl ics
    · split
      · exact .refl ics
      · exact trackSpace_session ics _
  | destroy spaceId =>
    obtain ⟨r, h⟩ := handleSpaceCall_destroy h
    rcases ipcHandleSpaceDestroy_cases h with ⟨-, rfl⟩ | ⟨_, _, -, -, rfl⟩
    · exact .refl _
    · exact ⟨rfl, rfl, rfl, rfl, rfl⟩

/-! ## The choice of the active client -/

/-- The servers differ in the flags of the applications and the active client at most. -/
structure SameButFlags (s s' : IpcServer) : Prop where
  threads : ∀ i, ∃ cs : IpcAppState, cs.id = (s.client i).clientState.id ∧
    s'.threads i = { s.threads i with ics := { s.client i with clientState := cs } }
  xso : s'.xso = s.xso
  isms : s'.isms = s.isms
  exitWhenIdle : s'.exitWhenIdle = s.exitWhenIdle
  lastClientDisconnectNs : s'.lastClientDisconnectNs = s.lastClientDisconnectNs
  idGenerator : s'.idGenerator = s.idGenerator
  connectedClientCount : s'.connectedClientCount = s.connectedClientCount

theorem SameButFlags.refl (s : IpcServer) : SameButFlags s s :=
  ⟨fun i => ⟨(s.client i).clientState, rfl, rfl⟩, rfl, rfl, rfl, rfl, rfl, rfl⟩

theorem SameButFlags.trans {a b c : IpcServer} (h : SameButFlags a b) (h' : SameButFlags b c) :
    SameButFlags a c := by
  refine ⟨fun i => ?_, h'.xso.trans h.xso, h'.isms.trans h.isms, h'.exitWhenIdle.trans h.exitWhenIdle,
    h'.lastClientDisconnectNs.trans h.lastClientDisconnectNs, h'.idGenerator.trans h.idGenerator,
    h'.connectedClientCount.trans h.connectedClientCount⟩
  obtain ⟨cs, hid, hi⟩ := h.threads i
  obtain ⟨cs', hid', hi'⟩ := h'.threads i
  have hclient : b.client i = { a.client i with clientState := cs } := by unfold IpcServer.client; rw [hi]; rfl
  refine ⟨cs', ?_, ?_⟩
  · rw [hid', hclient]; exact hid
  · rw [hi', hi, hclient]

variable {s s' : IpcServer}

theorem SameButFlags.client (h : SameButFlags s s') (i : Fin IPC_MAX_CLIENTS) :
    ∃ cs : IpcAppState, cs.id = (s.client i).clientState.id ∧ s'.client i = { s.client i with clientState := cs } := by
  obtain ⟨cs, hid, hi⟩ := h.threads i
  refine ⟨cs, hid, ?_⟩
  unfold IpcServer.client
  rw [hi]; rfl

theorem setFlags_same (s : IpcServer) (i : Fin IPC_MAX_CLIENTS) (cs : IpcAppState)
    (h : cs.id = (s.client i).clientState.id) :
    SameButFlags s (s.setClient i { s.client i with clientState := cs }) := by
  refine ⟨fun j => ?_, rfl, rfl, rfl, rfl, rfl, rfl⟩
  by_cases hj : j = i
  · subst hj
    exact ⟨cs, h, by simp [IpcServer.setClient]⟩
  · exact ⟨(s.client j).clientState, rfl, IpcServer.threads_setThread_ne s _ hj⟩

theorem flush_same (s : IpcServer) : SameButFlags s (flushStateToAllClientsLocked s) := by
  refine ⟨fun i => ?_, rfl, rfl, rfl, rfl, rfl, rfl⟩
  by_cases h : (s.client i).connected = true
  · refine ⟨(handleFocusedClientEvents (s.client i) s.activeClientIndex).clientState, rfl, ?_⟩
    have : (!(s.threads i).ics.connected) = false := by
      rw [show (s.threads i).ics.connected = true from h]; rfl
    simp only [flushStateToAllClientsLocked, flushThread, this]
    rfl
  · refine ⟨(s.client i).clientState, rfl, ?_⟩
    have : (!(s.threads i).ics.connected) = true := by
      rw [show (s.threads i).ics.connected = false from Bool.eq_false_iff.2 h]; rfl
    simp only [flushStateToAllClientsLocked, flushThread, this, if_true]
    rfl

theorem updateServerStateLocked_same (s : IpcServer) : SameButFlags s (updateServerStateLocked s) := by
  unfold updateServerStateLocked
  split
  · exact .refl s
  · have h := flush_same { s with activeClientIndex := nextActiveClient s }
    exact ⟨h.threads, h.xso, h.isms, h.exitWhenIdle, h.lastClientDisconnectNs, h.idGenerator,
      h.connectedClientCount⟩

theorem setActiveClientLocked_same (s : IpcServer) (clientId : UInt32) :
    SameButFlags s (setActiveClientLocked s clientId).2 := by
  unfold setActiveClientLocked
  split
  · exact .refl s
  · rename_i j _
    simp only []
    split
    · have h := updateServerStateLocked_same { s with activeClientIndex := (s.client j).serverThreadIndex }
      exact ⟨h.threads, h.xso, h.isms, h.exitWhenIdle, h.lastClientDisconnectNs, h.idGenerator,
        h.connectedClientCount⟩
    · exact .refl s

theorem activateSession_same (s : IpcServer) (i : Fin IPC_MAX_CLIENTS) : SameButFlags s (activateSession s i) := by
  unfold activateSession
  simp only []
  split
  · exact .refl s
  · split
    · exact setFlags_same s i (handleFocusedClientEvents
        { s.client i with clientState := { (s.client i).clientState with sessionActive := true } }
        s.activeClientIndex).clientState rfl
    · exact (setFlags_same s i { (s.client i).clientState with sessionActive := true } rfl).trans
        (setActiveClientLocked_same _ _)

theorem deactivateSession_same (s : IpcServer) (i : Fin IPC_MAX_CLIENTS) :
    SameButFlags s (deactivateSession s i) :=
  (setFlags_same s i { (s.client i).clientState with sessionActive := false } rfl).trans
    (updateServerStateLocked_same _)

/-! ## Calls -/

variable {i : Fin IPC_MAX_CLIENTS} {j : Fin IPC_MAX_CLIENTS}

theorem handleCall_cases {call : ClientCall} (h : handleCall s i call = .ok s') :
    (∃ c r ics, call = .resource c ∧ handleResourceCall (s.client i) c = .ok (r, ics) ∧ s' = s.setClient i ics) ∨
    (∃ c xso ics, call = .space c ∧ handleSpaceCall s.xso (s.client i) c = .ok (xso, ics) ∧
      s' = { s.setClient i ics with xso := xso }) ∨
    ((call = .predictFrame ∧ s' = ipcHandleCompositorPredictFrame s i ∨
      ∃ clientId, call = .setPrimary clientId ∧ s' = (setActiveClientLocked s clientId).2) ∧ SameButFlags s s') := by
  cases call with
  | resource c =>
    rcases hc : handleResourceCall (s.client i) c with f | ⟨r, ics⟩
    · simp only [handleCall, hc] at h; cases h
    · simp only [handleCall, hc] at h
      exact Or.inl ⟨c, r, ics, rfl, hc, (Except.ok.inj h).symm⟩
  | space c =>
    rcases hc : handleSpaceCall s.xso (s.client i) c with f | ⟨xso, ics⟩
    · simp only [handleCall, hc] at h; cases h
    · simp only [handleCall, hc] at h
      exact Or.inr (Or.inl ⟨c, xso, ics, rfl, hc, (Except.ok.inj h).symm⟩)
  | predictFrame =>
    cases h
    refine Or.inr (Or.inr ⟨Or.inl ⟨rfl, rfl⟩, ?_⟩)
    unfold ipcHandleCompositorPredictFrame
    split
    · exact .refl s
    · exact activateSession_same s i
  | setPrimary clientId =>
    cases h
    exact Or.inr (Or.inr ⟨Or.inr ⟨clientId, rfl, rfl⟩, setActiveClientLocked_same s clientId⟩)

structure SameSlots (s s' : IpcServer) : Prop where
  thread : ∀ i, (s'.threads i).thread = (s.threads i).thread
  state : ∀ i, (s'.threads i).state = (s.threads i).state
  index : ∀ i, (s'.client i).serverThreadIndex = (s.client i).serverThreadIndex
  id : ∀ i, (s'.client i).clientState.id = (s.client i).clientState.id
  isms : s'.isms = s.isms
  exitWhenIdle : s'.exitWhenIdle = s.exitWhenIdle
  lastClientDisconnectNs : s'.lastClientDisconnectNs = s.lastClientDisconnectNs
  connectedClientCount : s'.connectedClientCount = s.connectedClientCount

theorem SameButFlags.slots (h : SameButFlags s s') : SameSlots s s' := by
  refine ⟨fun i => ?_, fun i => ?_, fun i => ?_, fun i => ?_, h.isms, h.exitWhenIdle,
    h.lastClientDisconnectNs, h.connectedClientCount⟩
  · obtain ⟨cs, -, hi⟩ := h.threads i; rw [hi]
  · obtain ⟨cs, -, hi⟩ := h.threads i; rw [hi]
  · obtain ⟨cs, -, hi⟩ := h.client i; rw [hi]
  · obtain ⟨cs, hid, hi⟩ := h.client i; rw [hi]; exact hid

theorem setClient_slots (s : IpcServer) (i : Fin IPC_MAX_CLIENTS) (ics : IpcClientState)
    (hindex : ics.serverThreadIndex = (s.client i).serverThreadIndex)
    (hid : ics.clientState.id = (s.client i).clientState.id) : SameSlots s (s.setClient i ics) := by
  refine ⟨fun j => ?_, fun j => ?_, fun j => ?_, fun j => ?_, rfl, rfl, rfl, rfl⟩ <;> by_cases hj : j = i
  · subst hj; simp [IpcServer.setClient]
  · simp [IpcServer.setClient, IpcServer.threads_setThread_ne s _ hj]
  · subst hj; simp [IpcServer.setClient]
  · simp [IpcServer.setClient, IpcServer.threads_setThread_ne s _ hj]
  · subst hj; simpa using hindex
  · rw [IpcServer.client_setClient_ne s _ hj]
  · subst hj; simpa using hid
  · rw [IpcServer.client_setClient_ne s _ hj]

theorem handleCall_slots {call : ClientCall} (h : handleCall s i call = .ok s') : SameSlots s s' := by
  rcases handleCall_cases h with ⟨c, r, ics, -, hc, rfl⟩ | ⟨c, xso, ics, -, hc, rfl⟩ | ⟨-, hsame⟩
  · have hs := resourceCall_spaces hc
    exact setClient_slots s i ics hs.serverThreadIndex hs.id
  · have hs := spaceCall_session hc
    have := setClient_slots s i ics hs.serverThreadIndex (by rw [hs.clientState])
    exact ⟨this.thread, this.state, this.index, this.id, this.isms, this.exitWhenIdle,
      this.lastClientDisconnectNs, this.connectedClientCount⟩
  · exact hsame.slots

/-! ## Disconnects -/

/-- The client state a disconnect leaves in its slot, up to the flags of the application. -/
def goneClient (ics : IpcClientState) (cs : IpcAppState) : IpcClientState :=
  { releaseResources ics with ipcHandle := -1, serverThreadIndex := none, clientState := cs }

/-- What a disconnect does: the slot is given up, the other clients keep all but their flags. -/
structure ShutDown (s s' : IpcServer) (i : Fin IPC_MAX_CLIENTS) (now : UInt64) : Prop where
  self : ∃ cs : IpcAppState, cs.id = 0 ∧
    s'.threads i = ⟨.returned, .stopping, goneClient (s.client i) cs⟩
  other : ∀ j, j ≠ i → ∃ cs : IpcAppState, cs.id = (s.client j).clientState.id ∧
    s'.threads j = { s.threads j with ics := { s.client j with clientState := cs } }
  xso : s'.xso = releaseLocalSpaces s.xso (s.client i)
  isms : s'.isms = Function.update s.isms i none
  exitWhenIdle : s'.exitWhenIdle = s.exitWhenIdle
  connectedClientCount : s'.connectedClientCount = s.connectedClientCount - 1
  lastClientDisconnectNs : s'.lastClientDisconnectNs =
    if s.exitWhenIdle && s.connectedClientCount - 1 == 0 then now else s.lastClientDisconnectNs
  idGenerator : s'.idGenerator = s.idGenerator

theorem commonShutdown_spec (s : IpcServer) (i : Fin IPC_MAX_CLIENTS) (now : UInt64) :
    ShutDown s (commonShutdown s i now) i now := by
  have hsame := deactivateSession_same (releaseClient s i now) i
  have hthread : ∀ j, j ≠ i → (releaseClient s i now).threads j = s.threads j := fun j hj => by
    simp [releaseClient, cleanUp, releaseSlot, markIdle, IpcServer.setClient, IpcServer.setThread, hj]
  have hself : (releaseClient s i now).threads i =
      ⟨(s.threads i).thread, .stopping, goneClient (s.client i) .zero⟩ := by
    simp [releaseClient, cleanUp, releaseSlot, markIdle, IpcServer.setClient, IpcServer.setThread, IpcServer.client,
      goneClient, releaseResources, destroySessionAndCompositor]
  refine ⟨?_, fun j hj => ?_, ?_, hsame.isms, hsame.exitWhenIdle, hsame.connectedClientCount,
    hsame.lastClientDisconnectNs, hsame.idGenerator⟩
  · obtain ⟨cs, hid, hi⟩ := hsame.threads i
    refine ⟨cs, ?_, ?_⟩
    · rw [hid, releaseClient_client_self]; rfl
    · rw [commonShutdown, IpcServer.threads_setThread_self, hi, releaseClient_client_self, hself]
      rfl
  · obtain ⟨cs, hid, hi⟩ := hsame.threads j
    rw [releaseClient_client_ne s now hj] at hid hi
    refine ⟨cs, hid, ?_⟩
    rw [commonShutdown, IpcServer.threads_setThread_ne _ _ hj, hi, hthread j hj]
  · refine hsame.xso.trans ?_
    simp [releaseClient, cleanUp, releaseSlot, markIdle, IpcServer.client, IpcServer.setThread, releaseLocalSpaces]
    rfl

theorem ShutDown.client_self {now : UInt64} (h : ShutDown s s' i now) :
    ∃ cs : IpcAppState, cs.id = 0 ∧ s'.client i = goneClient (s.client i) cs := by
  obtain ⟨cs, hid, hi⟩ := h.self
  exact ⟨cs, hid, by unfold IpcServer.client; rw [hi]; rfl⟩

theorem ShutDown.client_other {now : UInt64} (h : ShutDown s s' i now) (hj : j ≠ i) :
    ∃ cs : IpcAppState, cs.id = (s.client j).clientState.id ∧ s'.client j = { s.client j with clientState := cs } := by
  obtain ⟨cs, hid, hi⟩ := h.other j hj
  exact ⟨cs, hid, by unfold IpcServer.client; rw [hi]; rfl⟩

/-! ## Slots -/

def LiveConnected (s : IpcServer) : Prop := ∀ i, (s.threads i).live = true → (s.client i).connected = true

theorem SameSlots.liveConnected (h : SameSlots s s') (hs : LiveConnected s) : LiveConnected s' := by
  intro i hi
  unfold IpcThread.live at hi
  rw [h.thread i] at hi
  unfold IpcClientState.connected
  rw [h.index i]
  exact hs i hi

theorem withClient_threads_self (s : IpcServer) (i : Fin IPC_MAX_CLIENTS) (ipcHandle : Int) (thread : OsThread)
    (ism : Option IpcSharedMemory) : (withClient s i ipcHandle thread ism).threads i =
      ⟨thread, .starting, freshClient i (allocateIdLocked s).1 ipcHandle⟩ := by simp [withClient]

theorem withClient_threads_ne (s : IpcServer) (ipcHandle : Int) (thread : OsThread) (ism : Option IpcSharedMemory)
    (h : j ≠ i) : (withClient s i ipcHandle thread ism).threads j = s.threads j := by simp [withClient, countAttempt, h]

theorem withClient_client_self (s : IpcServer) (i : Fin IPC_MAX_CLIENTS) (ipcHandle : Int) (thread : OsThread)
    (ism : Option IpcSharedMemory) : (withClient s i ipcHandle thread ism).client i =
      freshClient i (allocateIdLocked s).1 ipcHandle := by simp [IpcServer.client, withClient_threads_self]

theorem withClient_client_ne (s : IpcServer) (ipcHandle : Int) (thread : OsThread) (ism : Option IpcSharedMemory)
    (h : j ≠ i) : (withClient s i ipcHandle thread ism).client j = s.client j := by
  unfold IpcServer.client; rw [withClient_threads_ne s ipcHandle thread ism h]

theorem step_liveConnected {op : ServerOp} (hs : LiveConnected s) (h : step s op = some s') : LiveConnected s' := by
  cases op with
  | connect ipcHandle shmOk epollOk =>
    obtain rfl := Option.some.inj h
    by_cases hu : ∃ i, slotUsable s i
    · obtain ⟨i, hi⟩ := hu
      rw [connectAttempt_taken hi]
      intro j hj
      by_cases hji : j = i
      · subst hji; rw [withClient_client_self]; rfl
      · rw [withClient_client_ne _ _ _ _ hji]
        rw [withClient_threads_ne _ _ _ _ hji] at hj
        exact hs j hj
    · rw [connectAttempt_refused (not_exists.1 hu)]; exact hs
  | disconnect i now =>
    simp only [step] at h
    split at h
    · obtain rfl := Option.some.inj h
      have hspec := commonShutdown_spec s i now
      intro j hj
      by_cases hji : j = i
      · subst hji
        obtain ⟨cs, -, hi⟩ := hspec.self
        rw [hi] at hj
        exact absurd hj Bool.false_ne_true
      · obtain ⟨cs, -, hi⟩ := hspec.other j hji
        rw [hi] at hj
        obtain ⟨cs', -, hi'⟩ := hspec.client_other hji
        rw [hi']
        exact hs j hj
    · cases h
  | call i call =>
    simp only [step] at h
    split at h
    · rcases hc : handleCall s i call with f | s''
      · rw [hc] at h; cases h
      · rw [hc] at h
        obtain rfl : s'' = s' := Option.some.inj h
        exact (handleCall_slots hc).liveConnected hs
    · cases h
  | updateState =>
    obtain rfl := Option.some.inj h
    exact (updateServerStateLocked_same s).slots.liveConnected hs

end AugmentedInsanity.Ipc
