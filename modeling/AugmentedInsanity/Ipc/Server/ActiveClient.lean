/-
The active client. `active_client_index` is to be -1 or the index of a connected client whose session
exists, is active and is not an overlay, and the visibility and focus of every other client is to follow
from it. Destroying a session leaves the flags of the client as they were, so this holds in every run in
which sessions are only destroyed once they are inactive, and created on clear flags
(`activeClient_of_run`).
-/
import AugmentedInsanity.Ipc.Server.Frames

namespace AugmentedInsanity.Ipc

open Xrt Tables Runs

/-! ## The invariant -/

/-- What holds of the client of the slot `i`, whichever client is active. -/
structure ClientBase (i : Fin IPC_MAX_CLIENTS) (ics : IpcClientState) : Prop where
  session : ics.displayable = true → ics.xs.isSome = true
  compositor : ics.xc.isSome = true → ics.xs.isSome = true
  slot : ics.connected = true → ics.serverThreadIndex = some i
  idle : ics.connected = false → ics.clientState = .zero

/-- A connected client that is not an overlay is visible and focused exactly if it is the active one. -/
def FlagsFollow (active : ClientIndex) (i : Fin IPC_MAX_CLIENTS) (ics : IpcClientState) : Prop :=
  ics.connected = true → ics.clientState.sessionOverlay = false →
    ics.clientState.sessionVisible = decide (active = some i) ∧
      ics.clientState.sessionFocused = decide (active = some i)

structure ActiveInv (s : IpcServer) : Prop where
  last : s.lastActiveClientIndex = s.activeClientIndex
  active : ∀ i, s.activeClientIndex = some i → (s.client i).displayable = true
  base : ∀ i, ClientBase i (s.client i)
  flags : ∀ i, FlagsFollow s.activeClientIndex i (s.client i)

variable {i : Fin IPC_MAX_CLIENTS} {s s' : IpcServer}

theorem ActiveInv.update (h : ActiveInv s) (hactive : s'.activeClientIndex = s.activeClientIndex)
    (hlast : s'.lastActiveClientIndex = s.lastActiveClientIndex) (hother : ∀ j, j ≠ i → s'.client j = s.client j)
    (hbase : ClientBase i (s'.client i)) (hflags : FlagsFollow s.activeClientIndex i (s'.client i))
    (hdisplay : s.activeClientIndex = some i → (s'.client i).displayable = true) : ActiveInv s' := by
  refine ⟨by rw [hlast, hactive]; exact h.last, ?_, ?_, ?_⟩
  · intro j hj
    rw [hactive] at hj
    by_cases hji : j = i
    · subst hji; exact hdisplay hj
    · rw [hother j hji]; exact h.active j hj
  · intro j
    by_cases hji : j = i
    · subst hji; exact hbase
    · rw [hother j hji]; exact h.base j
  · intro j
    rw [hactive]
    by_cases hji : j = i
    · subst hji; exact hflags
    · rw [hother j hji]; exact h.flags j

theorem ActiveInv.sameSession (h : ActiveInv s) (hactive : s'.activeClientIndex = s.activeClientIndex)
    (hlast : s'.lastActiveClientIndex = s.lastActiveClientIndex) (hother : ∀ j, j ≠ i → s'.client j = s.client j)
    (hsame : SameSession (s.client i) (s'.client i)) : ActiveInv s' := by
  have hconn : (s'.client i).connected = (s.client i).connected := by
    unfold IpcClientState.connected; rw [hsame.serverThreadIndex]
  have hdisp : (s'.client i).displayable = (s.client i).displayable := by
    unfold IpcClientState.displayable; rw [hconn, hsame.clientState]
  refine h.update hactive hlast hother ⟨?_, ?_, ?_, ?_⟩ ?_ ?_
  · rw [hdisp, hsame.xs]; exact (h.base i).session
  · rw [hsame.xc, hsame.xs]; exact (h.base i).compositor
  · rw [hconn, hsame.serverThreadIndex]; exact (h.base i).slot
  · rw [hconn, hsame.clientState]; exact (h.base i).idle
  · unfold FlagsFollow; rw [hconn, hsame.clientState]; exact h.flags i
  · rw [hdisp]; exact h.active i

/-! ## The state update -/

theorem displayable_iff {ics : IpcClientState} : ics.displayable = true ↔
    ics.clientState.sessionOverlay = false ∧ ics.connected = true ∧ ics.clientState.sessionActive = true := by
  simp [IpcClientState.displayable, and_assoc]

theorem nextActiveClient_displayable (hbase : ∀ i, ClientBase i (s.client i)) (h : nextActiveClient s = some i) :
    (s.client i).displayable = true := by
  unfold nextActiveClient at h
  rcases hf : lastIndex (fun i => (s.client i).displayable) with _ | fallback
  · rw [hf] at h; cases h
  rw [hf] at h
  rcases ha : s.activeClientIndex with _ | a
  · rw [ha] at h; cases h
  rw [ha] at h
  simp only [] at h
  split at h
  · cases h; exact lastIndex_spec hf
  · rename_i hcs
    obtain rfl : a = i := Option.some.inj h
    have hcs : (s.client a).clientState.sessionOverlay = false ∧ (s.client a).clientState.sessionActive = true := by
      simpa using hcs
    refine displayable_iff.2 ⟨hcs.1, ?_, hcs.2⟩
    by_contra hconn
    rw [(hbase a).idle (Bool.eq_false_iff.2 hconn)] at hcs
    exact absurd hcs.2 (by decide)

theorem flush_client (s : IpcServer) (i : Fin IPC_MAX_CLIENTS) :
    (flushStateToAllClientsLocked s).client i =
      if (s.client i).connected then handleFocusedClientEvents (s.client i) s.activeClientIndex
      else s.client i := by
  unfold flushStateToAllClientsLocked IpcServer.client flushThread
  by_cases h : (s.threads i).ics.connected = true
  · simp [h]
  · simp [h]

theorem handleFocused_displayable (ics : IpcClientState) (active : ClientIndex) :
    (handleFocusedClientEvents ics active).displayable = ics.displayable := rfl

theorem updateServerStateLocked_inv (hbase : ∀ i, ClientBase i (s.client i))
    (hearly : activeUnchanged s = true → ActiveInv s) : ActiveInv (updateServerStateLocked s) := by
  unfold updateServerStateLocked
  by_cases hu : activeUnchanged s = true
  · rw [if_pos hu]; exact hearly hu
  rw [if_neg hu]
  set s' := { s with activeClientIndex := nextActiveClient s } with hs'
  have hclient : ∀ i, (flushStateToAllClientsLocked s').client i =
      if (s.client i).connected then handleFocusedClientEvents (s.client i) (nextActiveClient s)
      else s.client i := flush_client s'
  refine ⟨rfl, ?_, ?_, ?_⟩
  · intro i hi
    have hd := nextActiveClient_displayable hbase (show nextActiveClient s = some i from hi)
    show ((flushStateToAllClientsLocked s').client i).displayable = true
    rw [hclient, if_pos (displayable_iff.1 hd).2.1, handleFocused_displayable]
    exact hd
  · intro i
    show ClientBase i ((flushStateToAllClientsLocked s').client i)
    rw [hclient]
    split
    · rename_i hconn
      exact ⟨(hbase i).session, (hbase i).compositor, (hbase i).slot, fun hc => by
        rw [show (s.client i).connected = false from hc] at hconn; cases hconn⟩
    · exact hbase i
  · intro i
    show FlagsFollow (nextActiveClient s) i ((flushStateToAllClientsLocked s').client i)
    rw [hclient]
    intro hconn hoverlay
    split at hconn
    · rename_i hc
      rw [if_pos hc] at hoverlay ⊢
      have hoverlay : (s.client i).clientState.sessionOverlay = false := hoverlay
      have hslot := (hbase i).slot hc
      simp [handleFocusedClientEvents, hoverlay, hslot, eq_comm]
    · rename_i hc
      exact absurd hconn hc

/-! ## Setting the active client -/

theorem setActiveClientLocked_inv (h : ActiveInv s) (clientId : UInt32) :
    ActiveInv (setActiveClientLocked s clientId).2 := by
  unfold setActiveClientLocked
  rcases findClientLocked s clientId with _ | j
  · exact h
  simp only []
  split
  · rename_i hne
    refine updateServerStateLocked_inv h.base fun hu => ?_
    -- the new index differs from the last one, so the update does not return early
    exfalso
    unfold activeUnchanged at hu
    split at hu
    · cases hu
    · simp only [Bool.and_eq_true, decide_eq_true_eq] at hu
      exact hne (hu.2.trans h.last)
  · exact h

theorem activateSession_inv (h : ActiveInv s) (hconn : (s.client i).connected = true)
    (hxc : (s.client i).xc.isSome = true) : ActiveInv (activateSession s i) := by
  unfold activateSession
  simp only []
  split
  · exact h
  rename_i hinactive
  have hnot : s.activeClientIndex ≠ some i := fun ha =>
    hinactive (displayable_iff.1 (h.active i ha)).2.2
  have hbase : ∀ cs : IpcAppState, ClientBase i { s.client i with clientState := cs } := fun cs =>
    ⟨fun _ => (h.base i).compositor hxc, (h.base i).compositor, (h.base i).slot,
      fun hc => by rw [show (s.client i).connected = false from hc] at hconn; cases hconn⟩
  split
  · rename_i hoverlay
    refine h.update (i := i) rfl rfl (fun j hj => IpcServer.client_setClient_ne s _ hj) ?_ ?_
      fun ha => absurd ha hnot
    · rw [IpcServer.client_setClient_self]; exact hbase _
    · rw [IpcServer.client_setClient_self]
      intro _ hno
      exact absurd (hno.symm.trans hoverlay) Bool.false_ne_true
  · set ics : IpcClientState := { s.client i with
      clientState := { (s.client i).clientState with sessionActive := true } }
    have hset : ActiveInv (s.setClient i ics) := by
      refine h.update (i := i) rfl rfl (fun j hj => IpcServer.client_setClient_ne s _ hj) ?_ ?_
        fun ha => absurd ha hnot
      · rw [IpcServer.client_setClient_self]; exact hbase _
      · rw [IpcServer.client_setClient_self]; exact h.flags i
    exact setActiveClientLocked_inv hset _

/-! ## Disconnecting -/

theorem commonShutdown_inv (h : ActiveInv s) (i : Fin IPC_MAX_CLIENTS) (now : UInt64) :
    ActiveInv (commonShutdown s i now) := by
  set r := releaseClient s i now with hr
  set ics : IpcClientState := { r.client i with
    clientState := { (r.client i).clientState with sessionActive := false } } with hics
  have hself : (r.setClient i ics).client i = ics := IpcServer.client_setClient_self r i ics
  have hother : ∀ j, j ≠ i → (r.setClient i ics).client j = s.client j := fun j hj => by
    rw [IpcServer.client_setClient_ne r ics hj, hr, releaseClient_client_ne s now hj]
  have hgone : ics.connected = false := by
    rw [hics, hr, releaseClient_client_self]; rfl
  have hbase : ClientBase i ics := by
    rw [hics, hr, releaseClient_client_self]
    exact ⟨fun hd => absurd (displayable_iff.1 hd).2.1 Bool.false_ne_true,
      fun hc => absurd hc Bool.false_ne_true, fun hc => absurd hc Bool.false_ne_true, fun _ => rfl⟩
  have hupdate : ActiveInv (deactivateSession r i) := by
    refine updateServerStateLocked_inv (s := r.setClient i ics) (fun j => ?_) fun hu => ?_
    · by_cases hj : j = i
      · subst hj; rw [hself]; exact hbase
      · rw [hother j hj]; exact h.base j
    · refine h.update (i := i) rfl rfl hother (by rw [hself]; exact hbase) ?_ fun ha => ?_
      · rw [hself]; intro hc; rw [hgone] at hc; cases hc
      · -- the active client left, so the update does not return early
        exfalso
        unfold activeUnchanged at hu
        rw [show (r.setClient i ics).activeClientIndex = some i from ha] at hu
        simp only [hself, Bool.and_eq_true] at hu
        exact absurd hu.1 Bool.false_ne_true
  exact hupdate.sameSession (i := i) rfl rfl (fun j _ => IpcServer.client_setThread_thread _ i j _)
    (by
      rw [show (commonShutdown s i now).client i = (deactivateSession r i).client i from
        IpcServer.client_setThread_thread _ i i _]
      exact .refl _)

/-! ## Connecting -/

theorem connectAttempt_inv (h : ActiveInv s) (ipcHandle : Int) (shmOk epollOk : Bool) :
    ActiveInv (connectAttempt s ipcHandle shmOk epollOk) := by
  by_cases hu : ∃ i, slotUsable s i
  · obtain ⟨i, hi⟩ := hu
    rw [connectAttempt_taken hi]
    have hfree := freeSlot_spec hi.1
    have hnot : s.activeClientIndex ≠ some i := fun ha => by
      rw [(displayable_iff.1 (h.active i ha)).2.1] at hfree; cases hfree
    refine h.update (i := i) rfl rfl (fun j hj => withClient_client_ne s _ _ _ hj) ?_ ?_
      fun ha => absurd ha hnot
    · rw [withClient_client_self]
      exact ⟨fun hd => absurd (displayable_iff.1 hd).2.2 Bool.false_ne_true,
        fun hc => absurd hc Bool.false_ne_true, fun _ => rfl, fun hc => absurd hc.symm Bool.false_ne_true⟩
    · rw [withClient_client_self]
      intro _ _
      have : decide (s.activeClientIndex = some i) = false := decide_eq_false hnot
      rw [this]
      exact ⟨rfl, rfl⟩
  · rw [connectAttempt_refused (not_exists.1 hu)]
    exact ⟨h.last, h.active, h.base, h.flags⟩

/-! ## Runs -/

/-- When an operation keeps the active client right. A session is destroyed only when it is an overlay
or not active, and one that is not an overlay is created only when the flags of its client are clear;
calls that fail do not matter. -/
def SessionFits (s : IpcServer) : ServerOp → Prop
  | .call i (.resource .sessionDestroy) =>
    (s.client i).xs = none ∨ (s.client i).clientState.sessionOverlay = true ∨
      (s.client i).clientState.sessionActive = false
  | .call i (.resource (.sessionCreate false _ (.ok _))) =>
    (s.client i).xs.isSome = true ∨
      ((s.client i).clientState.sessionActive = false ∧ (s.client i).clientState.sessionVisible = false ∧
        (s.client i).clientState.sessionFocused = false)
  | _ => True

theorem resourceCall_active {c : ResourceCall} {r : Except XrtResult Unit} {ics : IpcClientState} (h : ActiveInv s)
    (hconn : (s.client i).connected = true) (hfits : SessionFits s (.call i (.resource c)))
    (hc : handleResourceCall (s.client i) c = .ok (r, ics)) : ActiveInv (s.setClient i ics) := by
  have hother : ∀ j, j ≠ i → (s.setClient i ics).client j = s.client j :=
    fun j hj => IpcServer.client_setClient_ne s _ hj
  have hslot := (h.base i).slot hconn
  -- without a displayable session, the client of the call is not the active one
  have hnot : (s.client i).displayable = false → s.activeClientIndex ≠ some i := fun hd ha => by
    rw [h.active i ha] at hd; cases hd
  have hnoSession : (s.client i).xs = none → (s.client i).displayable = false := fun hxs => by
    refine Bool.eq_false_iff.2 fun hd => ?_
    have := (h.base i).session hd
    rw [hxs] at this; cases this
  have hidle : ∀ {b : IpcClientState}, b.serverThreadIndex = (s.client i).serverThreadIndex →
      b.connected = false → b.clientState = .zero := fun hindex hc => by
    unfold IpcClientState.connected at hc
    rw [hindex] at hc
    exact absurd (hconn.symm.trans hc) Bool.false_ne_true.symm
  rcases resourceCall_cases hc with ⟨hsame, -⟩ | ⟨isOverlay, zOrder, xs, xcn, rfl, hxs, rfl⟩ |
    ⟨rfl, hxs, rfl⟩
  · refine h.sameSession (i := i) rfl rfl hother ?_
    rw [IpcServer.client_setClient_self]; exact hsame
  · have hactive := hnot (hnoSession hxs)
    refine h.update (i := i) rfl rfl hother ?_ ?_ fun ha => absurd ha hactive
    · rw [IpcServer.client_setClient_self]
      exact ⟨fun _ => rfl, fun _ => rfl, fun _ => hslot, hidle rfl⟩
    · rw [IpcServer.client_setClient_self]
      intro _ hoverlay
      obtain rfl : isOverlay = false := hoverlay
      rw [decide_eq_false hactive]
      rcases hfits with hsome | ⟨-, hflags⟩
      · rw [hxs] at hsome; cases hsome
      · exact hflags
  · have hd : (s.client i).displayable = false := by
      refine Bool.eq_false_iff.2 fun hd => ?_
      obtain ⟨hoverlay, -, hact⟩ := displayable_iff.1 hd
      rcases hfits with hnone | hov | hina
      · rw [hnone] at hxs; cases hxs
      · rw [hoverlay] at hov; cases hov
      · rw [hact] at hina; cases hina
    have hgone : (destroySessionAndCompositor (s.client i)).displayable = false := hd
    refine h.update (i := i) rfl rfl hother ?_ ?_ fun ha => absurd ha (hnot hd)
    · rw [IpcServer.client_setClient_self]
      refine ⟨fun hd' => ?_, fun hc => absurd hc Bool.false_ne_true, fun _ => hslot, hidle rfl⟩
      rw [hgone] at hd'; cases hd'
    · rw [IpcServer.client_setClient_self]; exact h.flags i

structure SessionInv (s : IpcServer) : Prop where
  active : ActiveInv s
  live : LiveConnected s

theorem initServerState_sessionInv (xso : XrtSpaceOverseer) (exitOnDisconnect exitWhenIdle : Bool) :
    SessionInv (initServerState xso exitOnDisconnect exitWhenIdle) := by
  refine ⟨⟨rfl, fun i h => (by cases h), fun i => ?_, fun i h => ?_⟩, fun i h => ?_⟩
  · exact ⟨fun h => absurd (displayable_iff.1 h).2.1 Bool.false_ne_true, fun h => absurd h Bool.false_ne_true,
      fun h => absurd h Bool.false_ne_true, fun _ => rfl⟩
  · exact absurd h Bool.false_ne_true
  · exact absurd h Bool.false_ne_true

theorem handleCall_active {call : ClientCall} (h : ActiveInv s) (hconn : (s.client i).connected = true)
    (hfits : SessionFits s (.call i call)) (hc : handleCall s i call = .ok s') : ActiveInv s' := by
  rcases handleCall_cases hc with ⟨c, r, ics, rfl, hcall, rfl⟩ | ⟨c, xso, ics, rfl, hcall, rfl⟩ |
    ⟨⟨rfl, rfl⟩ | ⟨clientId, rfl, rfl⟩, -⟩
  · exact resourceCall_active h hconn hfits hcall
  · refine h.sameSession (i := i) rfl rfl (fun j hj => IpcServer.client_setClient_ne s ics hj) ?_
    rw [show ({ s.setClient i ics with xso := xso } : IpcServer).client i = ics from
      IpcServer.client_setClient_self s i ics]
    exact spaceCall_session hcall
  · unfold ipcHandleCompositorPredictFrame
    split
    · exact h
    · rename_i hxc
      exact activateSession_inv h hconn (by simpa [Option.isSome_iff_ne_none] using hxc)
  · exact setActiveClientLocked_inv h clientId

theorem step_sessionInv {op : ServerOp} (hinv : SessionInv s) (hfits : SessionFits s op) (h : step s op = some s') :
    SessionInv s' := by
  refine ⟨?_, step_liveConnected hinv.live h⟩
  cases op with
  | connect ipcHandle shmOk epollOk =>
    obtain rfl := Option.some.inj h
    exact connectAttempt_inv hinv.active ipcHandle shmOk epollOk
  | disconnect i now =>
    simp only [step] at h
    split at h
    · obtain rfl := Option.some.inj h
      exact commonShutdown_inv hinv.active i now
    · cases h
  | call i call =>
    simp only [step] at h
    split at h
    · rename_i hlive
      rcases hc : handleCall s i call with f | s''
      · rw [hc] at h; cases h
      · rw [hc] at h
        obtain rfl : s'' = s' := Option.some.inj h
        exact handleCall_active hinv.active (hinv.live i hlive) hfits hc
    · cases h
  | updateState =>
    obtain rfl := Option.some.inj h
    exact updateServerStateLocked_inv hinv.active.base fun _ => hinv.active

/-! ## Runs -/

/-- What is to hold of the active client: it is connected and has an active session that is not an
overlay, and the other clients see from it whether they are shown. -/
structure ActiveClientOk (s : IpcServer) : Prop where
  active : ∀ i, s.activeClientIndex = some i →
    (s.client i).connected = true ∧ (s.client i).xs.isSome = true ∧
      (s.client i).clientState.sessionActive = true ∧ (s.client i).clientState.sessionOverlay = false
  flags : ∀ i, (s.client i).connected = true → (s.client i).clientState.sessionOverlay = false →
    (s.client i).clientState.sessionVisible = decide (s.activeClientIndex = some i) ∧
      (s.client i).clientState.sessionFocused = decide (s.activeClientIndex = some i)

theorem ActiveInv.ok (h : ActiveInv s) : ActiveClientOk s := by
  refine ⟨fun i hi => ?_, h.flags⟩
  have hd := h.active i hi
  obtain ⟨hoverlay, hconn, hactive⟩ := displayable_iff.1 hd
  exact ⟨hconn, (h.base i).session hd, hactive, hoverlay⟩

/-- In every run of operations that fit, every state reached has a right active client. -/
theorem activeClient_of_run (xso : XrtSpaceOverseer) (exitOnDisconnect exitWhenIdle : Bool) (ops : List ServerOp)
    (s : IpcServer) (hfits : Along step SessionFits (initServerState xso exitOnDisconnect exitWhenIdle) ops)
    (hrun : Reaches step (initServerState xso exitOnDisconnect exitWhenIdle) ops s) : ActiveClientOk s :=
  (inv_of_along (fun _ _ _ hinv hfits h => step_sessionInv hinv hfits h)
    (initServerState_sessionInv xso exitOnDisconnect exitWhenIdle) hfits hrun).active.ok

def firstFrame : List ServerOp :=
  [.connect 5 true true, .call 0 (.resource (.sessionCreate false 0 (.ok (1, some 1)))), .call 0 .predictFrame]

theorem activeClient_of_firstFrame :
    ∃ s, Reaches step (initServerState .rootOnly false true) firstFrame s ∧ ActiveClientOk s := by
  have hfits : Along step SessionFits (initServerState .rootOnly false true) firstFrame :=
    ⟨trivial, Or.inr ⟨rfl, rfl, rfl⟩, trivial, trivial⟩
  exact ⟨_, ⟨_, rfl, _, rfl, _, rfl, rfl⟩,
    activeClient_of_run .rootOnly false true firstFrame _ hfits ⟨_, rfl, _, rfl, _, rfl, rfl⟩⟩

/-- A client that destroys its active session stays the active one, without a session. -/
theorem destroyedSession_active :
    ∃ s, Reaches step (initServerState .rootOnly false true)
      (firstFrame ++ [.call 0 (.resource .sessionDestroy)]) s ∧ ¬ ActiveClientOk s := by
  refine ⟨_, ⟨_, rfl, _, rfl, _, rfl, _, rfl, rfl⟩, fun h => ?_⟩
  have hactive := h.active 0 (by decide)
  exact absurd hactive.2.1 (by decide)

end AugmentedInsanity.Ipc
