/-
The calls that the IPC server makes into the system compositor, next to the changes of its own state in `Process`:
visibility, focus and z-order of the compositor of a client, and, for an overlay, whether there is a main application
(`ipc_server_process.c`, `ipc_handle_session_create`).
-/
import AugmentedInsanity.Ipc.Server.Frames

namespace AugmentedInsanity.Ipc

open Xrt Tables

abbrev INT64_MIN : ℤ := -2 ^ 63

/-- A call on the compositor of a client, by the compositor. -/
inductive ControlCall
  | setState (xc : ℕ) (visible focused : Bool)
  | setZOrder (xc : ℕ) (zOrder : ℤ)
  | setMainAppVisibility (xc : ℕ) (visible : Bool)
  deriving DecidableEq

/-! ## The calls -/

/-- The calls of `handle_focused_client_events`. -/
def focusedCalls (ics : IpcClientState) (activeId : ClientIndex) : List ControlCall :=
  let cs := (handleFocusedClientEvents ics activeId).clientState
  match ics.xc with
  | none => []
  | some xc =>
    [.setState xc cs.sessionVisible cs.sessionFocused,
      .setZOrder xc (if cs.sessionOverlay then cs.zOrder.toNat else INT64_MIN)]

/-- The calls of `handle_overlay_client_events`. -/
def overlayCalls (ics : IpcClientState) (activeId prevActiveId : ClientIndex) : List ControlCall :=
  if !ics.clientState.sessionOverlay then []
  else
    match ics.xc with
    | none => []
    | some xc =>
      match activeId, prevActiveId with
      | some _, some _ => [.setMainAppVisibility xc false, .setMainAppVisibility xc true]
      | some _, none => [.setMainAppVisibility xc true]
      | none, some _ => [.setMainAppVisibility xc false]
      | none, none => []

/-- The calls of `flush_state_to_all_clients_locked`. -/
def flushCalls (s : IpcServer) : List ControlCall :=
  (List.finRange IPC_MAX_CLIENTS).flatMap fun i =>
    let ics := s.client i
    if !ics.connected then []
    else focusedCalls ics s.activeClientIndex ++ overlayCalls ics s.activeClientIndex s.lastActiveClientIndex

def updateCalls (s : IpcServer) : List ControlCall :=
  if activeUnchanged s then [] else flushCalls { s with activeClientIndex := nextActiveClient s }

def setActiveCalls (s : IpcServer) (clientId : UInt32) : List ControlCall :=
  match findClientLocked s clientId with
  | none => []
  | some i =>
    let index := (s.client i).serverThreadIndex
    if index ≠ s.activeClientIndex then updateCalls { s with activeClientIndex := index } else []

def activateCalls (s : IpcServer) (i : Fin IPC_MAX_CLIENTS) : List ControlCall :=
  let ics := s.client i
  if ics.clientState.sessionActive then []
  else
    let ics := { ics with clientState := { ics.clientState with sessionActive := true } }
    if ics.clientState.sessionOverlay then focusedCalls ics s.activeClientIndex
    else setActiveCalls (s.setClient i ics) ics.clientState.id

def deactivateCalls (s : IpcServer) (i : Fin IPC_MAX_CLIENTS) : List ControlCall :=
  let ics := s.client i
  updateCalls (s.setClient i { ics with clientState := { ics.clientState with sessionActive := false } })

def controlCalls (s : IpcServer) : ServerOp → List ControlCall
  | .call i (.resource (.sessionCreate _ zOrder (.ok (_, some xc)))) =>
    let cs := (s.client i).clientState
    if (s.client i).xs.isSome then []
    else [.setState xc cs.sessionVisible cs.sessionFocused, .setZOrder xc zOrder.toNat]
  | .call i .predictFrame => if (s.client i).xc.isNone then [] else activateCalls s i
  | .call _ (.setPrimary clientId) => setActiveCalls s clientId
  | .disconnect i now => deactivateCalls (releaseClient s i now) i
  | .updateState => updateCalls s
  | _ => []

/-! ## Compositors of clients -/

def IpcClientState.kind (ics : IpcClientState) : Option ℕ × Bool := (ics.xc, ics.clientState.sessionOverlay)

def ForOverlays (s : IpcServer) (calls : List ControlCall) : Prop :=
  ∀ xc visible, .setMainAppVisibility xc visible ∈ calls → ∃ i, (s.client i).kind = (some xc, true)

theorem forOverlays_nil (s : IpcServer) : ForOverlays s [] := by
  rintro xc visible ⟨⟩

theorem focusedCalls_noMainApp (ics : IpcClientState) (activeId : ClientIndex) (xc : ℕ) (visible : Bool) :
    .setMainAppVisibility xc visible ∉ focusedCalls ics activeId := by
  unfold focusedCalls
  cases ics.xc <;> simp

variable {ics : IpcClientState} {s s' : IpcServer}

theorem overlayCalls_kind {activeId prevActiveId : ClientIndex} {xc : ℕ} {visible : Bool}
    (h : .setMainAppVisibility xc visible ∈ overlayCalls ics activeId prevActiveId) : ics.kind = (some xc, true) := by
  unfold overlayCalls at h
  split at h
  · cases h
  · rename_i hoverlay
    have hkind : ics.clientState.sessionOverlay = true := by simpa using hoverlay
    split at h
    · cases h
    · rename_i xc' hxc
      have hsame : xc = xc' := by
        split at h
        · simp only [List.mem_cons, ControlCall.setMainAppVisibility.injEq, List.not_mem_nil, or_false] at h
          rcases h with ⟨h, -⟩ | ⟨h, -⟩ <;> exact h
        · simp only [List.mem_singleton, ControlCall.setMainAppVisibility.injEq] at h
          exact h.1
        · simp only [List.mem_singleton, ControlCall.setMainAppVisibility.injEq] at h
          exact h.1
        · cases h
      rw [IpcClientState.kind, hxc, hkind, hsame]

theorem flushCalls_forOverlays (s : IpcServer) : ForOverlays s (flushCalls s) := by
  intro xc visible hmem
  obtain ⟨i, -, hi⟩ := List.mem_flatMap.1 hmem
  dsimp only at hi
  split at hi
  · cases hi
  · rcases List.mem_append.1 hi with hfocused | hoverlay
    · exact absurd hfocused (focusedCalls_noMainApp _ _ _ _)
    · exact ⟨i, overlayCalls_kind hoverlay⟩

def SameKinds (s s' : IpcServer) : Prop := ∀ i, (s'.client i).kind = (s.client i).kind

theorem SameKinds.trans {a b c : IpcServer} (h : SameKinds a b) (h' : SameKinds b c) : SameKinds a c :=
  fun i => (h' i).trans (h i)

theorem ForOverlays.of_sameKinds {calls : List ControlCall} (h : ForOverlays s' calls) (hsame : SameKinds s s') :
    ForOverlays s calls := by
  intro xc visible hmem
  obtain ⟨i, hi⟩ := h xc visible hmem
  exact ⟨i, (hsame i).symm.trans hi⟩

variable {i : Fin IPC_MAX_CLIENTS} {s : IpcServer} {r : Except XrtResult Unit}

theorem setClient_sameKinds (h : ics.kind = (s.client i).kind) : SameKinds s (s.setClient i ics) := by
  intro j
  by_cases hj : j = i
  · subst hj
    rw [IpcServer.client_setClient_self, h]
  · rw [IpcServer.client_setClient_ne s _ hj]

theorem setFlags_sameKinds (s : IpcServer) (i : Fin IPC_MAX_CLIENTS) (cs : IpcAppState)
    (h : cs.sessionOverlay = (s.client i).clientState.sessionOverlay) :
    SameKinds s (s.setClient i { s.client i with clientState := cs }) :=
  setClient_sameKinds (by rw [IpcClientState.kind, IpcClientState.kind, h])

theorem updateCalls_forOverlays (s : IpcServer) : ForOverlays s (updateCalls s) := by
  unfold updateCalls
  split
  · exact forOverlays_nil s
  · exact (flushCalls_forOverlays _).of_sameKinds fun _ => rfl

theorem setActiveCalls_forOverlays (s : IpcServer) (clientId : UInt32) : ForOverlays s (setActiveCalls s clientId) := by
  unfold setActiveCalls
  split
  · exact forOverlays_nil s
  · dsimp only
    split
    · exact (updateCalls_forOverlays _).of_sameKinds fun _ => rfl
    · exact forOverlays_nil s

theorem activateCalls_forOverlays (s : IpcServer) (i : Fin IPC_MAX_CLIENTS) : ForOverlays s (activateCalls s i) := by
  unfold activateCalls
  dsimp only
  split
  · exact forOverlays_nil s
  · split
    · exact fun xc visible hmem => absurd hmem (focusedCalls_noMainApp _ _ _ _)
    · exact (setActiveCalls_forOverlays _ _).of_sameKinds
        (setFlags_sameKinds s i { (s.client i).clientState with sessionActive := true } rfl)

theorem deactivateCalls_forOverlays (s : IpcServer) (i : Fin IPC_MAX_CLIENTS) :
    ForOverlays s (deactivateCalls s i) :=
  (updateCalls_forOverlays _).of_sameKinds
    (setFlags_sameKinds s i { (s.client i).clientState with sessionActive := false } rfl)

theorem controlCalls_forOverlays (s : IpcServer) (op : ServerOp) : ForOverlays s (controlCalls s op) := by
  unfold controlCalls
  split
  · dsimp only
    split
    · exact forOverlays_nil s
    · rintro xc visible hmem
      simp at hmem
  · split
    · exact forOverlays_nil s
    · exact activateCalls_forOverlays s _
  · exact setActiveCalls_forOverlays s _
  · rename_i i now
    intro xc visible hmem
    obtain ⟨j, hj⟩ := deactivateCalls_forOverlays (releaseClient s i now) i xc visible hmem
    by_cases hji : j = i
    · subst hji
      rw [releaseClient_client_self] at hj
      cases hj
    · rw [releaseClient_client_ne s now hji] at hj
      exact ⟨j, hj⟩
  · exact updateCalls_forOverlays s
  · exact forOverlays_nil s

/-! ## What operations do to them -/

theorem flush_sameKinds (s : IpcServer) : SameKinds s (flushStateToAllClientsLocked s) := by
  intro i
  unfold IpcServer.client flushStateToAllClientsLocked flushThread
  dsimp only
  split
  · rfl
  · rfl

theorem updateServerStateLocked_sameKinds (s : IpcServer) : SameKinds s (updateServerStateLocked s) := by
  unfold updateServerStateLocked
  split
  · exact fun _ => rfl
  · exact flush_sameKinds { s with activeClientIndex := nextActiveClient s }

theorem setActiveClientLocked_sameKinds (s : IpcServer) (clientId : UInt32) :
    SameKinds s (setActiveClientLocked s clientId).2 := by
  unfold setActiveClientLocked
  split
  · exact fun _ => rfl
  · rename_i j _
    dsimp only
    split
    · exact updateServerStateLocked_sameKinds { s with activeClientIndex := (s.client j).serverThreadIndex }
    · exact fun _ => rfl

theorem activateSession_sameKinds (s : IpcServer) (i : Fin IPC_MAX_CLIENTS) : SameKinds s (activateSession s i) := by
  unfold activateSession
  dsimp only
  split
  · exact fun _ => rfl
  · split
    · exact setFlags_sameKinds s i (handleFocusedClientEvents
        { s.client i with clientState := { (s.client i).clientState with sessionActive := true } }
        s.activeClientIndex).clientState rfl
    · exact (setFlags_sameKinds s i { (s.client i).clientState with sessionActive := true } rfl).trans
        (setActiveClientLocked_sameKinds _ _)

theorem deactivateSession_sameKinds (s : IpcServer) (i : Fin IPC_MAX_CLIENTS) :
    SameKinds s (deactivateSession s i) :=
  (setFlags_sameKinds s i { (s.client i).clientState with sessionActive := false } rfl).trans
    (updateServerStateLocked_sameKinds _)

/-- The compositor that an operation creates, and whether it is for an overlay. -/
def createdCompositor (s : IpcServer) : ServerOp → Option (ℕ × Bool)
  | .call i (.resource (.sessionCreate isOverlay _ (.ok (_, some xc)))) =>
    if (s.client i).xs.isSome then none else some (xc, isOverlay)
  | _ => none

def destroyedCompositor (s : IpcServer) : ServerOp → Option ℕ
  | .call i (.resource .sessionDestroy) => if (s.client i).xs.isSome then (s.client i).xc else none
  | .disconnect i _ => (s.client i).xc
  | _ => none

structure KindChange (s s' : IpcServer) (op : ServerOp) (i : Fin IPC_MAX_CLIENTS) : Prop where
  other : ∀ j, j ≠ i → (s'.client j).kind = (s.client j).kind
  self : (s'.client i).kind = (s.client i).kind ∨ (s'.client i).xc = none ∨
    ∃ xc isOverlay, createdCompositor s op = some (xc, isOverlay) ∧ (s'.client i).kind = (some xc, isOverlay)
  destroyed : ∀ xc, destroyedCompositor s op = some xc → (s.client i).xc = some xc ∧ (s'.client i).xc = none

theorem KindChange.of_sameKinds {op : ServerOp} (h : SameKinds s s') (hdestroyed : destroyedCompositor s op = none) :
    KindChange s s' op 0 := by
  refine ⟨fun j _ => h j, Or.inl (h 0), fun xc hxc => ?_⟩
  rw [hdestroyed] at hxc
  cases hxc

theorem destroyedCompositor_of_sameSession {c : ResourceCall} (hc : handleResourceCall (s.client i) c = .ok (r, ics))
    (hsame : SameSession (s.client i) ics) (xc : ℕ) : destroyedCompositor s (.call i (.resource c)) ≠ some xc := by
  intro hxc
  cases c with
  | sessionDestroy =>
    simp only [destroyedCompositor] at hxc
    split at hxc
    · rename_i hxs
      simp only [handleResourceCall, ipcHandleSessionDestroy] at hc
      split at hc
      · rename_i hnone
        simp [Option.isNone_iff_eq_none.1 hnone] at hxs
      · cases hc
        have hgone := hsame.xs
        rw [← hgone] at hxs
        cases hxs
    · cases hxc
  | _ => cases hxc

theorem commonShutdown_kindChange (s : IpcServer) (i : Fin IPC_MAX_CLIENTS) (now : UInt64) :
    KindChange s (commonShutdown s i now) (.disconnect i now) i := by
  have hkind : ∀ j, ((commonShutdown s i now).client j).kind = ((releaseClient s i now).client j).kind := by
    intro j
    unfold commonShutdown
    dsimp only
    rw [IpcServer.client_setThread_thread]
    exact deactivateSession_sameKinds _ i j
  have hnone : ((commonShutdown s i now).client i).xc = none := by
    have hself := congrArg Prod.fst (hkind i)
    rw [releaseClient_client_self] at hself
    exact hself
  refine ⟨fun j hj => ?_, Or.inr (Or.inl hnone), fun xc hxc => ⟨hxc, hnone⟩⟩
  rw [hkind, releaseClient_client_ne s now hj]

theorem resourceCall_kindChange {c : ResourceCall} (hcall : handleResourceCall (s.client i) c = .ok (r, ics)) :
    KindChange s (s.setClient i ics) (.call i (.resource c)) i := by
  have hother : ∀ j, j ≠ i → ((s.setClient i ics).client j).kind = (s.client j).kind := by
    intro j hj
    rw [IpcServer.client_setClient_ne s _ hj]
  rcases resourceCall_cases hcall with ⟨hsame, -⟩ | ⟨isOverlay, zOrder, xs, xcn, rfl, hxs, rfl⟩ | ⟨rfl, hxs, rfl⟩
  · have hkind : ics.kind = (s.client i).kind := by
      rw [IpcClientState.kind, IpcClientState.kind, hsame.xc, hsame.clientState]
    refine ⟨hother, Or.inl (by rw [IpcServer.client_setClient_self, hkind]), fun xc hxc => ?_⟩
    exact absurd hxc (destroyedCompositor_of_sameSession hcall hsame xc)
  · refine ⟨hother, ?_, fun xc hxc => by cases hxc⟩
    rw [IpcServer.client_setClient_self]
    cases xcn with
    | none => exact Or.inr (Or.inl rfl)
    | some xc =>
      refine Or.inr (Or.inr ⟨xc, isOverlay, ?_, rfl⟩)
      simp only [createdCompositor, hxs, Option.isSome_none]
      rfl
  · refine ⟨hother, Or.inr (Or.inl ?_), fun xc hxc => ⟨?_, ?_⟩⟩
    · rw [IpcServer.client_setClient_self]
      rfl
    · simp only [destroyedCompositor, hxs, if_true] at hxc
      exact hxc
    · rw [IpcServer.client_setClient_self]
      rfl

theorem step_kindChange {op : ServerOp} (h : step s op = some s') : ∃ i, KindChange s s' op i := by
  cases op with
  | connect ipcHandle shmOk epollOk =>
    obtain rfl := Option.some.inj h
    by_cases hu : ∃ i, slotUsable s i
    · obtain ⟨i, hu⟩ := hu
      rw [connectAttempt_taken hu]
      refine ⟨i, fun j hj => ?_, Or.inr (Or.inl ?_), fun xc hxc => by cases hxc⟩
      · rw [withClient_client_ne s ipcHandle _ _ hj]
      · rw [withClient_client_self]
        rfl
    · rw [connectAttempt_refused (not_exists.1 hu)]
      exact ⟨0, KindChange.of_sameKinds (fun _ => rfl) rfl⟩
  | disconnect i now =>
    simp only [step] at h
    split at h
    · obtain rfl := Option.some.inj h
      exact ⟨i, commonShutdown_kindChange s i now⟩
    · cases h
  | call i call =>
    simp only [step] at h
    split at h
    · rcases hc : handleCall s i call with f | s''
      · rw [hc] at h
        cases h
      · rw [hc] at h
        obtain rfl : s'' = s' := Option.some.inj h
        rcases handleCall_cases hc with ⟨c, r, ics, rfl, hcall, rfl⟩ | ⟨c, xso, ics, rfl, hcall, rfl⟩ |
          ⟨⟨rfl, rfl⟩ | ⟨clientId, rfl, rfl⟩, -⟩
        · exact ⟨i, resourceCall_kindChange hcall⟩
        · have hsame := spaceCall_session hcall
          have hkind : ics.kind = (s.client i).kind := by
            rw [IpcClientState.kind, IpcClientState.kind, hsame.xc, hsame.clientState]
          exact ⟨0, KindChange.of_sameKinds (setClient_sameKinds hkind) rfl⟩
        · refine ⟨0, KindChange.of_sameKinds ?_ rfl⟩
          unfold ipcHandleCompositorPredictFrame
          split
          · exact fun _ => rfl
          · exact activateSession_sameKinds s i
        · exact ⟨0, KindChange.of_sameKinds (setActiveClientLocked_sameKinds s clientId) rfl⟩
    · cases h
  | updateState =>
    obtain rfl := Option.some.inj h
    exact ⟨0, KindChange.of_sameKinds (updateServerStateLocked_sameKinds s) rfl⟩

end AugmentedInsanity.Ipc
