/-
The IPC server as a state machine: connection attempts, disconnects, the calls of the connected clients
and the state updates of the main loop, one at a time and in any order. Each step lemma of the later
modules is about `step`, each run lemma about `Runs.Reaches` and `Runs.Along` of it.
-/
import AugmentedInsanity.Ipc.Server.PerClientThread
import AugmentedInsanity.Lib.Runs

namespace AugmentedInsanity.Ipc

open Xrt Tables

/-! ## Operations -/

inductive ClientCall
  | resource (call : ResourceCall)
  | space (call : SpaceCall)
  | predictFrame
  | setPrimary (clientId : UInt32)

/-- One step of the server. `connect` is a whole attempt, with the outcomes of the two set-ups that can
fail; `disconnect` is the shutdown of the client of a slot. -/
inductive ServerOp
  | connect (ipcHandle : Int) (shmOk epollOk : Bool)
  | disconnect (i : Fin IPC_MAX_CLIENTS) (now : UInt64)
  | call (i : Fin IPC_MAX_CLIENTS) (call : ClientCall)
  | updateState

def IpcThread.live (t : IpcThread) : Bool := decide (t.thread = .running)

def connectAttempt (s : IpcServer) (ipcHandle : Int) (shmOk epollOk : Bool) : IpcServer :=
  match handleClientConnected s ipcHandle shmOk with
  | (s, none) => s
  | (s, some i) => clientLoopSetup s i epollOk

/-- `ipc_handle_compositor_predict_frame`, up to the compositor's own prediction. -/
def ipcHandleCompositorPredictFrame (s : IpcServer) (i : Fin IPC_MAX_CLIENTS) : IpcServer :=
  if (s.client i).xc.isNone then s else activateSession s i

def handleCall (s : IpcServer) (i : Fin IPC_MAX_CLIENTS) : ClientCall → Except Fault IpcServer
  | .resource call => do
    let (_, ics) ← handleResourceCall (s.client i) call
    return s.setClient i ics
  | .space call => do
    let (xso, ics) ← handleSpaceCall s.xso (s.client i) call
    return { s.setClient i ics with xso := xso }
  | .predictFrame => .ok (ipcHandleCompositorPredictFrame s i)
  | .setPrimary clientId => .ok (setActiveClientLocked s clientId).2

/-- A step; calls and disconnects need a live thread, and a call that faults does not return. -/
def step (s : IpcServer) : ServerOp → Option IpcServer
  | .connect ipcHandle shmOk epollOk => some (connectAttempt s ipcHandle shmOk epollOk)
  | .disconnect i now => if (s.threads i).live then some (commonShutdown s i now) else none
  | .call i call => if (s.threads i).live then (handleCall s i call).toOption else none
  | .updateState => some (updateServerStateLocked s)

/-! ## What a step can do -/

/-- The server after an attempt that takes the slot `i`: a new client, and the thread and shared memory
it got. -/
def withClient (s : IpcServer) (i : Fin IPC_MAX_CLIENTS) (ipcHandle : Int) (thread : OsThread)
    (ism : Option IpcSharedMemory) : IpcServer :=
  { countAttempt s with
    threads := Function.update s.threads i ⟨thread, .starting, freshClient i (allocateIdLocked s).1 ipcHandle⟩
    isms := Function.update s.isms i ism
    idGenerator := (allocateIdLocked s).2 }

def slotUsable (s : IpcServer) (i : Fin IPC_MAX_CLIENTS) : Prop :=
  freeSlot s = some i ∧ ((s.threads i).state = .ready ∨ (s.threads i).state = .stopping)

theorem connectAttempt_refused {s : IpcServer} (h : ∀ i, ¬ slotUsable s i) (ipcHandle : Int) (shmOk epollOk : Bool) :
    connectAttempt s ipcHandle shmOk epollOk = countAttempt s := by
  unfold connectAttempt handleClientConnected
  simp only [freeSlot_countAttempt]
  rcases hfree : freeSlot s with _ | i
  · rfl
  · have hstate : (s.threads i).state ≠ .ready ∧ (s.threads i).state ≠ .stopping := by
      rw [← not_or]; exact fun hu => h i ⟨hfree, hu⟩
    simp only [show (countAttempt s).threads = s.threads from rfl, if_pos hstate]

def attemptThread (t : IpcThread) (shmOk epollOk : Bool) : OsThread :=
  if shmOk then if epollOk then .running else .returned
  else if t.state ≠ .ready then .none else t.thread

theorem connectAttempt_taken {s : IpcServer} {i : Fin IPC_MAX_CLIENTS} (h : slotUsable s i) (ipcHandle : Int)
    (shmOk epollOk : Bool) :
    connectAttempt s ipcHandle shmOk epollOk =
      withClient s i ipcHandle (attemptThread (s.threads i) shmOk epollOk)
        (if shmOk then some .zero else s.isms i) := by
  obtain ⟨hfree, hstate⟩ := h
  have hnot : ¬ ((s.threads i).state ≠ .ready ∧ (s.threads i).state ≠ .stopping) := by
    rw [← not_or]; exact not_not.2 hstate
  unfold connectAttempt handleClientConnected
  simp only [freeSlot_countAttempt, hfree, show (countAttempt s).threads = s.threads from rfl, if_neg hnot]
  unfold startClient withClient attemptThread
  rw [show allocateIdLocked (countAttempt s) = allocateIdLocked s from rfl]
  cases shmOk with
  | false =>
    by_cases hready : (s.threads i).state = .ready
    · simp [IpcServer.setThread, countAttempt, hready]
    · simp [IpcServer.setThread, countAttempt, hready]
  | true =>
    cases epollOk with
    | false => simp [IpcServer.setThread, countAttempt, clientLoopSetup]
    | true => simp [IpcServer.setThread, countAttempt, clientLoopSetup]

end AugmentedInsanity.Ipc
