/-
The critical sections of the IPC server. The main thread accepts connections and the client threads shut
down at the same time; what each does under the global state lock, and between two holds of it, is one
step here. Run without interruption, the accepting steps are those of the sequential server
(`accept_uninterrupted`).
-/
import AugmentedInsanity.Ipc.Server.Frames

namespace AugmentedInsanity.Ipc

open Xrt Tables Runs

/-! ## Threads and the lock -/

inductive ThreadAt
  | none
  | setUp
  | serving
  /-- In the first critical section of `common_shutdown`. -/
  | inPublish
  | published
  /-- In the critical section of `ipc_server_client_destroy_session_and_compositor`. -/
  | inDestroy
  | destroyed
  | cleaned
  /-- In the critical section of `ipc_server_deactivate_session`. -/
  | inDeactivate
  | deactivated
  | returned
  deriving DecidableEq

/-- Where the main thread is in `ipc_server_handle_client_connected`. -/
inductive MainAt
  | idle
  | accepting
  /-- In `os_thread_join`. -/
  | joining (i : Fin IPC_MAX_CLIENTS)
  | starting (i : Fin IPC_MAX_CLIENTS)
  deriving DecidableEq

inductive Owner
  | main
  | client (i : Fin IPC_MAX_CLIENTS)
  | delayedExit
  deriving DecidableEq

structure Concurrent where
  server : IpcServer
  lock : Option Owner
  main : MainAt
  pc : Fin IPC_MAX_CLIENTS → ThreadAt

namespace Concurrent

def move (c : Concurrent) (i : Fin IPC_MAX_CLIENTS) (dst : ThreadAt) : Concurrent :=
  { c with pc := Function.update c.pc i dst }

def lockStep (c : Concurrent) (i : Fin IPC_MAX_CLIENTS) (src dst : ThreadAt) : Option Concurrent :=
  if c.pc i = src ∧ c.lock = .none then some { c.move i dst with lock := some (.client i) } else none

/-- The thread of the slot ends its critical section, which left `server`. -/
def unlockStep (c : Concurrent) (i : Fin IPC_MAX_CLIENTS) (src dst : ThreadAt) (server : IpcServer) :
    Option Concurrent :=
  if c.pc i = src then some { c.move i dst with lock := .none, server := server } else none

/-- The thread of the slot does something without the lock. -/
def localStep (c : Concurrent) (i : Fin IPC_MAX_CLIENTS) (src dst : ThreadAt) (server : IpcServer) :
    Option Concurrent :=
  if c.pc i = src then some { c.move i dst with server := server } else none

end Concurrent

/-! ## Steps -/

inductive LockOp
  | acceptLock
  | acceptSlot
  | acceptJoin
  | acceptStart (ipcHandle : Int) (shmOk : Bool)
  | setUp (i : Fin IPC_MAX_CLIENTS) (epollOk : Bool)
  | call (i : Fin IPC_MAX_CLIENTS) (call : ClientCall)
  | shutdownLock (i : Fin IPC_MAX_CLIENTS)
  | shutdownUnlock (i : Fin IPC_MAX_CLIENTS)
  | destroyLock (i : Fin IPC_MAX_CLIENTS)
  | destroyUnlock (i : Fin IPC_MAX_CLIENTS)
  | cleanUp (i : Fin IPC_MAX_CLIENTS) (now : UInt64)
  | deactivateLock (i : Fin IPC_MAX_CLIENTS)
  | deactivateUnlock (i : Fin IPC_MAX_CLIENTS)
  | finish (i : Fin IPC_MAX_CLIENTS)
  | updateState
  | delayedExitLock
  | delayedExitUnlock

/-- The calls whose handlers take the lock, and release it before they return. -/
def takesLock : ClientCall → Bool
  | .resource .sessionDestroy | .predictFrame | .setPrimary _ => true
  | _ => false

/-- The choice of a slot by `ipc_server_handle_client_connected`, under the lock. -/
def acceptSlot (c : Concurrent) : Concurrent :=
  match freeSlot c.server with
  | none => { c with lock := none, main := .idle }
  | some i =>
    match (c.server.threads i).state with
    | .ready => { c with main := .starting i }
    | .stopping => { c with main := .joining i }
    | _ => { c with lock := none, main := .idle }

/-- A joined thread is destroyed, and its slot ready. -/
def joinThread (s : IpcServer) (i : Fin IPC_MAX_CLIENTS) : IpcServer :=
  s.setThread i { s.threads i with thread := .none, state := .ready }

def lockedStep (c : Concurrent) : LockOp → Option Concurrent
  | .acceptLock =>
    if c.main = .idle ∧ c.lock = none then
      some { c with server := countAttempt c.server, lock := some .main, main := .accepting }
    else none
  | .acceptSlot => if c.main = .accepting then some (acceptSlot c) else none
  | .acceptJoin =>
    match c.main with
    | .joining i =>
      if c.pc i = .returned then
        some { c.move i .none with server := joinThread c.server i, main := .starting i }
      else none
    | _ => none
  | .acceptStart ipcHandle shmOk =>
    match c.main with
    | .starting i =>
      some { c.move i (if shmOk then .setUp else .none) with
        server := (startClient c.server i ipcHandle shmOk).1, lock := none, main := .idle }
    | _ => none
  | .setUp i epollOk =>
    c.localStep i .setUp (if epollOk then .serving else .returned) (clientLoopSetup c.server i epollOk)
  | .call i call =>
    if c.pc i = .serving ∧ (takesLock call = true → c.lock = none) then
      (handleCall c.server i call).toOption.map fun server => { c with server := server }
    else none
  | .shutdownLock i => c.lockStep i .serving .inPublish
  | .shutdownUnlock i => c.unlockStep i .inPublish .published (releaseSlot c.server i)
  | .destroyLock i => c.lockStep i .published .inDestroy
  | .destroyUnlock i =>
    c.unlockStep i .inDestroy .destroyed
      (c.server.setClient i (destroySessionAndCompositor (c.server.client i)))
  | .cleanUp i now => c.localStep i .destroyed .cleaned (cleanUp c.server i now)
  | .deactivateLock i => c.lockStep i .cleaned .inDeactivate
  | .deactivateUnlock i => c.unlockStep i .inDeactivate .deactivated (deactivateSession c.server i)
  | .finish i =>
    c.localStep i .deactivated .returned (c.server.setThread i { c.server.threads i with thread := .returned })
  | .updateState =>
    if c.main = .idle ∧ c.lock = none then some { c with server := updateServerStateLocked c.server } else none
  | .delayedExitLock => if c.lock = none then some { c with lock := some .delayedExit } else none
  | .delayedExitUnlock =>
    if c.lock = some .delayedExit then
      some { c with lock := none, server := { c.server with running := c.server.running && !shouldExit c.server } }
    else none

def Concurrent.init (s : IpcServer) : Concurrent := ⟨s, none, .idle, fun _ => .none⟩

/-! ## Steps of one thread -/

variable {c : Concurrent}

theorem acceptSlot_eq (h : c.main = .accepting) : lockedStep c .acceptSlot = some (acceptSlot c) := if_pos h

variable {i : Fin IPC_MAX_CLIENTS}

theorem acceptJoin_eq (h : c.main = .joining i) (hpc : c.pc i = .returned) : lockedStep c .acceptJoin =
      some { c.move i .none with server := joinThread c.server i, main := .starting i } := by
  simp only [lockedStep, h, if_pos hpc]

theorem acceptStart_eq (h : c.main = .starting i) (ipcHandle : Int) (shmOk : Bool) :
    lockedStep c (.acceptStart ipcHandle shmOk) =
      some { c.move i (if shmOk then .setUp else .none) with
        server := (startClient c.server i ipcHandle shmOk).1, lock := none, main := .idle } := by
  simp only [lockedStep, h]

variable {c' : Concurrent} {src dst : ThreadAt}

theorem guarded_iff {p : Prop} [Decidable p] : (if p then some c else none) = some c' ↔ p ∧ c' = c := by
  rw [Option.ite_none_right_eq_some, Option.some.injEq, eq_comm (a := c)]

theorem lockStep_iff :
    c.lockStep i src dst = some c' ↔
      (c.pc i = src ∧ c.lock = none) ∧ c' = { c.move i dst with lock := some (.client i) } := guarded_iff

theorem unlockStep_iff {server : IpcServer} :
    c.unlockStep i src dst server = some c' ↔
      c.pc i = src ∧ c' = { c.move i dst with lock := none, server := server } := guarded_iff

theorem localStep_iff {server : IpcServer} :
    c.localStep i src dst server = some c' ↔ c.pc i = src ∧ c' = { c.move i dst with server := server } := guarded_iff

theorem acceptJoin_cases (h : lockedStep c .acceptJoin = some c') :
    ∃ i, c.main = .joining i ∧ c.pc i = .returned ∧
      c' = { c.move i .none with server := joinThread c.server i, main := .starting i } := by
  simp only [lockedStep] at h
  split at h
  · rename_i i hmain
    obtain ⟨hpc, rfl⟩ := guarded_iff.1 h
    exact ⟨i, hmain, hpc, rfl⟩
  · cases h

theorem acceptStart_cases {ipcHandle : Int} {shmOk : Bool} (h : lockedStep c (.acceptStart ipcHandle shmOk) = some c') :
    ∃ i, c.main = .starting i ∧ c' = { c.move i (if shmOk then .setUp else .none) with
      server := (startClient c.server i ipcHandle shmOk).1, lock := none, main := .idle } := by
  simp only [lockedStep] at h
  split at h
  · rename_i i hmain
    exact ⟨i, hmain, (Option.some.inj h).symm⟩
  · cases h

theorem call_cases {call : ClientCall} (h : lockedStep c (.call i call) = some c') :
    ∃ server, handleCall c.server i call = .ok server ∧ c' = { c with server := server } := by
  obtain ⟨-, h⟩ := Option.ite_none_right_eq_some.1 h
  obtain ⟨server, hserver, rfl⟩ := Option.map_eq_some_iff.1 h
  cases hc : handleCall c.server i call with
  | error f => rw [hc] at hserver; cases hserver
  | ok s => rw [hc] at hserver; cases hserver; exact ⟨_, rfl, rfl⟩

@[simp] theorem move_pc_self (c : Concurrent) (i : Fin IPC_MAX_CLIENTS) (dst : ThreadAt) :
    (c.move i dst).pc i = dst := by simp [Concurrent.move]

theorem move_pc_ne (c : Concurrent) {j : Fin IPC_MAX_CLIENTS} (dst : ThreadAt) (h : j ≠ i) :
    (c.move i dst).pc j = c.pc j := by simp [Concurrent.move, h]

/-! ## Uninterrupted runs -/

/-- The accepting steps for a slot, with a join if its last thread is still to be joined. -/
def acceptOps (s : IpcServer) (i : Fin IPC_MAX_CLIENTS) (ipcHandle : Int) (shmOk : Bool) : List LockOp :=
  if (s.threads i).state = .stopping then [.acceptLock, .acceptSlot, .acceptJoin, .acceptStart ipcHandle shmOk]
  else [.acceptLock, .acceptSlot, .acceptStart ipcHandle shmOk]

theorem startClient_joinThread {s : IpcServer} (h : (s.threads i).state = .stopping) (ipcHandle : Int) (shmOk : Bool) :
    (startClient (joinThread s i) i ipcHandle shmOk).1 = (startClient s i ipcHandle shmOk).1 := by
  have hids : ∀ j, ((joinThread s i).client j).clientState.id = (s.client j).clientState.id := fun j => by
    by_cases hj : j = i
    · subst hj; simp [joinThread, IpcServer.client]
    · simp [joinThread, IpcServer.client_setThread_ne s _ hj]
  have hloop : ∀ tries gen, allocateIdLoop (joinThread s i) tries gen = allocateIdLoop s tries gen := by
    intro tries
    induction tries with
    | zero => exact fun _ => rfl
    | succ tries ih =>
      intro gen
      simp only [allocateIdLoop, idTaken, hids, ih]
      rfl
  have hid : allocateIdLocked (joinThread s i) = allocateIdLocked s := hloop _ _
  unfold startClient
  rw [hid]
  cases shmOk with
  | false => simp [joinThread, IpcServer.setThread, h]
  | true => simp [joinThread, IpcServer.setThread]

theorem accept_uninterrupted {c : Concurrent} {i : Fin IPC_MAX_CLIENTS} (hmain : c.main = .idle)
    (hlock : c.lock = none) (hi : slotUsable c.server i)
    (hjoin : (c.server.threads i).state = .stopping → c.pc i = .returned) (ipcHandle : Int) (shmOk : Bool) :
    Reaches lockedStep c (acceptOps c.server i ipcHandle shmOk)
      { c with
        server := (handleClientConnected c.server ipcHandle shmOk).1
        pc := Function.update c.pc i (if shmOk then .setUp else .none) } := by
  have hfree : freeSlot (countAttempt c.server) = some i := hi.1
  have hserver : (handleClientConnected c.server ipcHandle shmOk).1 =
      (startClient (countAttempt c.server) i ipcHandle shmOk).1 := by
    have hnot : ¬ ((c.server.threads i).state ≠ .ready ∧ (c.server.threads i).state ≠ .stopping) := by
      rw [← not_or]; exact not_not.2 hi.2
    unfold handleClientConnected
    simp only [hfree, show (countAttempt c.server).threads = c.server.threads from rfl, if_neg hnot]
  rw [hserver]
  have hlocked : lockedStep c .acceptLock =
      some { c with server := countAttempt c.server, lock := some .main, main := .accepting } :=
    if_pos ⟨hmain, hlock⟩
  unfold acceptOps
  by_cases hstop : (c.server.threads i).state = .stopping
  · rw [if_pos hstop]
    have hslot : acceptSlot { c with server := countAttempt c.server, lock := some .main, main := .accepting } =
        { c with server := countAttempt c.server, lock := some .main, main := .joining i } := by
      simp only [acceptSlot, hfree, show (countAttempt c.server).threads = c.server.threads from rfl, hstop]
    refine ⟨_, hlocked, _, (acceptSlot_eq rfl).trans (congrArg some hslot), _, acceptJoin_eq rfl (hjoin hstop), _,
      acceptStart_eq rfl ipcHandle shmOk, ?_⟩
    rw [reaches_nil]
    simp only [Concurrent.move, Function.update_idem, hmain, hlock,
      startClient_joinThread (s := countAttempt c.server) hstop]
  · rw [if_neg hstop]
    have hready : (c.server.threads i).state = .ready := hi.2.resolve_right hstop
    have hslot : acceptSlot { c with server := countAttempt c.server, lock := some .main, main := .accepting } =
        { c with server := countAttempt c.server, lock := some .main, main := .starting i } := by
      simp only [acceptSlot, hfree, show (countAttempt c.server).threads = c.server.threads from rfl, hready]
    refine ⟨_, hlocked, _, (acceptSlot_eq rfl).trans (congrArg some hslot), _,
      acceptStart_eq rfl ipcHandle shmOk, ?_⟩
    rw [reaches_nil]
    simp only [Concurrent.move, hmain, hlock]

/-- The first client of a server, and one in a slot whose last thread has returned. -/
theorem accept_uninterrupted_first :
    let c := Concurrent.init (initServerState .rootOnly false false)
    let stopped := { c with
      server := c.server.setThread 0 { c.server.threads 0 with thread := .returned, state := .stopping }
      pc := Function.update c.pc 0 .returned }
    Reaches lockedStep c [.acceptLock, .acceptSlot, .acceptStart 7 true]
        { c with
          server := (handleClientConnected c.server 7 true).1
          pc := Function.update c.pc 0 .setUp } ∧
      Reaches lockedStep stopped [.acceptLock, .acceptSlot, .acceptJoin, .acceptStart 7 true]
        { stopped with
          server := (handleClientConnected stopped.server 7 true).1
          pc := Function.update stopped.pc 0 .setUp } := by
  intro c stopped
  exact ⟨accept_uninterrupted (c := c) (i := 0) rfl rfl ⟨by decide, .inl rfl⟩ nofun 7 true,
    accept_uninterrupted (c := stopped) (i := 0) rfl rfl ⟨by decide, .inr rfl⟩ (fun _ => rfl) 7 true⟩

end AugmentedInsanity.Ipc
