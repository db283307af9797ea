/-
The number of connected clients. `connected_client_count` is to be the number of slots with a live client
thread, so that the exit-when-idle condition comes true once the last client left. An attempt is counted
before anything about it is checked, and no failing exit takes the count back: the count is right along
exactly the runs in which no attempt fails (`clientCount_iff`).
-/
import AugmentedInsanity.Ipc.Server.Frames

namespace AugmentedInsanity.Ipc

open Xrt Tables Runs

/-! ## The property -/

def liveCount (s : IpcServer) : ℕ := tally fun i => (s.threads i).live

/-- A connection attempt that brought no thread to life. -/
def FailedAttempt (s : IpcServer) (op : ServerOp) (s' : IpcServer) : Prop :=
  (∃ ipcHandle shmOk epollOk, op = .connect ipcHandle shmOk epollOk) ∧
    ∀ i, (s'.threads i).live = true → (s.threads i).live = true

/-- What is to hold of a step: the count is right after it, an attempt that fails leaves the slots and the
count as they were, and when the last client left the server is about to exit. -/
structure CountedStep (s : IpcServer) (op : ServerOp) (s' : IpcServer) : Prop where
  count : s'.connectedClientCount.toNat = liveCount s'
  failed : FailedAttempt s op s' → s'.threads = s.threads ∧ s'.connectedClientCount = s.connectedClientCount
  idle : ∀ i now, op = .disconnect i now → s'.exitWhenIdle = true → 0 < now → liveCount s' = 0 →
    shouldExit s' = true

def CountKept (s : IpcServer) (op : ServerOp) : Prop := ∀ s', step s op = some s' → CountedStep s op s'

/-- A connection attempt finds a slot it can use, and both of its set-ups work. -/
def AttemptSucceeds (s : IpcServer) : ServerOp → Prop
  | .connect _ shmOk epollOk => (∃ i, slotUsable s i) ∧ shmOk = true ∧ epollOk = true
  | _ => True

/-! ## The invariant -/

structure CountInv (s : IpcServer) : Prop where
  count : s.connectedClientCount.toNat = liveCount s
  live : ∀ i, (s.threads i).live = (s.client i).connected

theorem liveCount_le (s : IpcServer) : liveCount s ≤ IPC_MAX_CLIENTS := tally_le _

theorem CountInv.count_add_one {s : IpcServer} (h : CountInv s) :
    (s.connectedClientCount + 1).toNat = liveCount s + 1 := by
  have hle := liveCount_le s
  have hcount := h.count
  have hmax : IPC_MAX_CLIENTS = 32 := rfl
  rw [UInt32.toNat_add, hcount]
  have : (1 : UInt32).toNat = 1 := rfl
  omega

variable {s s' : IpcServer}

theorem SameSlots.liveCount (h : SameSlots s s') : liveCount s' = liveCount s :=
  tally_congr fun i => by unfold IpcThread.live; rw [h.thread i]

theorem SameSlots.countInv (h : SameSlots s s') (hinv : CountInv s) : CountInv s' := by
  refine ⟨by rw [h.connectedClientCount, h.liveCount]; exact hinv.count, fun i => ?_⟩
  unfold IpcThread.live IpcClientState.connected
  rw [h.thread i, h.index i]
  exact hinv.live i

/-! ## Connection attempts -/

variable {i : Fin IPC_MAX_CLIENTS}

theorem connectAttempt_counted (hinv : CountInv s) (hi : slotUsable s i) (ipcHandle : Int) :
    CountInv (connectAttempt s ipcHandle true true) ∧
      ((connectAttempt s ipcHandle true true).threads i).live = true ∧ (s.threads i).live = false := by
  rw [connectAttempt_taken hi]
  have hdead : (s.threads i).live = false := by rw [hinv.live i]; exact freeSlot_spec hi.1
  have hlive : ((withClient s i ipcHandle (attemptThread (s.threads i) true true) (some .zero)).threads i).live =
      true := by rw [withClient_threads_self]; rfl
  refine ⟨⟨?_, fun j => ?_⟩, hlive, hdead⟩
  · refine hinv.count_add_one.trans (tally_flip hdead hlive fun j hj => ?_).symm
    rw [withClient_threads_ne s _ _ _ hj]
  · by_cases hj : j = i
    · subst hj
      rw [withClient_client_self]
      exact hlive
    · rw [withClient_threads_ne s _ _ _ hj, withClient_client_ne s _ _ _ hj]
      exact hinv.live j

theorem connectAttempt_failed (hinv : CountInv s) (ipcHandle : Int) {shmOk epollOk : Bool}
    (h : ¬ AttemptSucceeds s (.connect ipcHandle shmOk epollOk)) :
    (connectAttempt s ipcHandle shmOk epollOk).connectedClientCount = s.connectedClientCount + 1 ∧
      ∀ i, ((connectAttempt s ipcHandle shmOk epollOk).threads i).live = (s.threads i).live := by
  by_cases hu : ∃ i, slotUsable s i
  · obtain ⟨i, hi⟩ := hu
    rw [connectAttempt_taken hi]
    refine ⟨rfl, fun j => ?_⟩
    by_cases hj : j = i
    · subst hj
      have hdead : (s.threads j).live = false := by rw [hinv.live j]; exact freeSlot_spec hi.1
      rw [withClient_threads_self, hdead]
      unfold attemptThread
      cases shmOk with
      | true =>
        cases epollOk with
        | true => exact absurd ⟨⟨j, hi⟩, rfl, rfl⟩ h
        | false => rfl
      | false =>
        simp only [Bool.false_eq_true, if_false]
        split
        · rfl
        · exact hdead
    · rw [withClient_threads_ne s _ _ _ hj]
  · rw [connectAttempt_refused (not_exists.1 hu)]
    exact ⟨rfl, fun _ => rfl⟩

/-! ## Disconnects -/

theorem ShutDown.countInv {now : UInt64} (h : ShutDown s s' i now) (hinv : CountInv s)
    (hi : (s.threads i).live = true) : CountInv s' := by
  obtain ⟨cs, -, hself⟩ := h.self
  have hdead : (s'.threads i).live = false := by rw [hself]; rfl
  have hother : ∀ j, j ≠ i → (s'.threads j).live = (s.threads j).live := fun j hj => by
    obtain ⟨cs', -, hj'⟩ := h.other j hj
    rw [hj']; rfl
  have hcount : liveCount s = liveCount s' + 1 := tally_flip hdead hi fun j hj => (hother j hj).symm
  refine ⟨?_, fun j => ?_⟩
  · have hle := liveCount_le s
    have hmax : IPC_MAX_CLIENTS = 32 := rfl
    have hold := hinv.count
    have hone : (1 : UInt32) ≤ s.connectedClientCount := by
      rw [UInt32.le_iff_toNat_le, hold]
      show 1 ≤ liveCount s
      omega
    rw [h.connectedClientCount, UInt32.toNat_sub_of_le _ _ hone, hold]
    show liveCount s - 1 = liveCount s'
    omega
  · by_cases hj : j = i
    · subst hj
      obtain ⟨cs', -, hc⟩ := h.client_self
      rw [hdead, hc]; rfl
    · rw [hother j hj, hinv.live j]
      obtain ⟨cs', -, hc⟩ := h.client_other hj
      rw [hc]; rfl

theorem ShutDown.shouldExit {now : UInt64} (h : ShutDown s s' i now) (hinv : CountInv s')
    (hexit : s'.exitWhenIdle = true) (hnow : 0 < now) (hnone : liveCount s' = 0) : shouldExit s' = true := by
  have hcount : s'.connectedClientCount = 0 := by
    refine UInt32.toNat_inj.1 ?_
    rw [hinv.count, hnone]; rfl
  have hlast : s'.lastClientDisconnectNs = now := by
    rw [h.lastClientDisconnectNs, ← h.exitWhenIdle, ← h.connectedClientCount, hexit, hcount]; rfl
  unfold AugmentedInsanity.Ipc.shouldExit
  rw [hexit, hcount, hlast]
  simpa using hnow

/-! ## Steps -/

theorem countInv_of_step {op : ServerOp} (hinv : CountInv s) (hfits : AttemptSucceeds s op) (h : step s op = some s') :
    CountInv s' := by
  cases op with
  | connect ipcHandle shmOk epollOk =>
    obtain rfl := Option.some.inj h
    obtain ⟨⟨i, hi⟩, rfl, rfl⟩ := hfits
    exact (connectAttempt_counted hinv hi ipcHandle).1
  | disconnect i now =>
    simp only [step] at h
    split at h
    · rename_i hlive
      obtain rfl := Option.some.inj h
      exact (commonShutdown_spec s i now).countInv hinv hlive
    · cases h
  | call i call =>
    simp only [step] at h
    split at h
    · rcases hc : handleCall s i call with f | s''
      · rw [hc] at h; cases h
      · rw [hc] at h
        obtain rfl : s'' = s' := Option.some.inj h
        exact (handleCall_slots hc).countInv hinv
    · cases h
  | updateState =>
    obtain rfl := Option.some.inj h
    exact (updateServerStateLocked_same s).slots.countInv hinv

theorem countKept_iff_succeeds (hinv : CountInv s) (op : ServerOp) : CountKept s op ↔ AttemptSucceeds s op := by
  constructor
  · intro hkept
    by_contra hfails
    cases op with
    | connect ipcHandle shmOk epollOk =>
      obtain ⟨hcount, hlive⟩ := connectAttempt_failed hinv ipcHandle hfails
      have hnew := (hkept _ rfl).count
      rw [hcount, hinv.count_add_one, show liveCount (connectAttempt s ipcHandle shmOk epollOk) = liveCount s from
        tally_congr hlive] at hnew
      omega
    | disconnect i now => exact hfails trivial
    | call i call => exact hfails trivial
    | updateState => exact hfails trivial
  · intro hfits s' h
    have hinv' := countInv_of_step hinv hfits h
    refine ⟨hinv'.count, ?_, ?_⟩
    · rintro ⟨⟨ipcHandle, shmOk, epollOk, rfl⟩, hdead⟩
      -- the attempt succeeds, so it brought a thread to life
      obtain rfl := Option.some.inj h
      obtain ⟨⟨i, hi⟩, rfl, rfl⟩ := hfits
      obtain ⟨-, hlive, hold⟩ := connectAttempt_counted hinv hi ipcHandle
      exact absurd ((hdead i hlive).symm.trans hold) Bool.false_ne_true.symm
    · rintro i now rfl hexit hnow hnone
      simp only [step] at h
      split at h
      · obtain rfl := Option.some.inj h
        exact (commonShutdown_spec s i now).shouldExit hinv' hexit hnow hnone
      · cases h

/-! ## Runs -/

theorem initServerState_countInv (xso : XrtSpaceOverseer) (exitOnDisconnect exitWhenIdle : Bool) :
    CountInv (initServerState xso exitOnDisconnect exitWhenIdle) :=
  ⟨(tally_eq_zero.2 fun _ => rfl).symm, fun _ => rfl⟩

/-- Along a run of the server, every step keeps the count right exactly if no connection attempt fails. -/
theorem clientCount_iff (xso : XrtSpaceOverseer) (exitOnDisconnect exitWhenIdle : Bool) (ops : List ServerOp) :
    Along step CountKept (initServerState xso exitOnDisconnect exitWhenIdle) ops ↔
      Along step AttemptSucceeds (initServerState xso exitOnDisconnect exitWhenIdle) ops :=
  along_iff (fun _ op hinv => countKept_iff_succeeds hinv op)
    (fun _ _ _ hinv hfits h => countInv_of_step hinv hfits h)
    (initServerState_countInv xso exitOnDisconnect exitWhenIdle) ops

/-- An attempt whose shared memory cannot be created stays counted. -/
theorem failedSharedMemory_not_kept :
    ¬ Along step CountKept (initServerState .rootOnly false true) [.connect 5 false true] := fun h => by
  have hinv := initServerState_countInv .rootOnly false true
  exact absurd ((countKept_iff_succeeds hinv _).1 (along_cons.1 h).1).2.1 Bool.false_ne_true

end AugmentedInsanity.Ipc
