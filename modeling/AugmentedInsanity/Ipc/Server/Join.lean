/-
The join of a reused slot. `common_shutdown` gives its slot up in its first critical section and takes the
lock twice more before the thread returns; a connection accepted in between joins the thread while it
holds the lock. No run deadlocks exactly if every reuse of a slot comes after its last thread released the
lock for the last time (`noDeadlock_iff`).
-/
import AugmentedInsanity.Ipc.Server.Locking

namespace AugmentedInsanity.Ipc

open Xrt Tables Runs

/-! ## Where a thread is -/

def ThreadAt.holdsLock : ThreadAt → Bool
  | .inPublish | .inDestroy | .inDeactivate => true
  | _ => false

def ThreadAt.shutting : ThreadAt → Bool
  | .published | .inDestroy | .destroyed | .cleaned | .inDeactivate | .deactivated | .returned => true
  | _ => false

/-- The thread has to take the lock before it can return. -/
def ThreadAt.takesLockAgain : ThreadAt → Bool
  | .serving | .inPublish | .published | .inDestroy | .destroyed | .cleaned => true
  | _ => false

/-- The thread has released the lock for the last time. -/
def ThreadAt.past : ThreadAt → Bool
  | .deactivated | .returned => true
  | _ => false

theorem ThreadAt.past_iff (a : ThreadAt) (h : a.shutting = true) :
    a.past = true ↔ a.holdsLock = false ∧ a.takesLockAgain = false := by
  cases a <;> simp_all [past, shutting, holdsLock, takesLockAgain]

theorem ThreadAt.past_not_takesLockAgain {a : ThreadAt} (h : a.past = true) : a.takesLockAgain = false := by
  cases a <;> simp_all [past, takesLockAgain]

/-- The main thread holds the lock and waits for a thread that has to take it first. -/
def Deadlocked (c : Concurrent) : Prop :=
  ∃ i, c.main = .joining i ∧ c.lock = some .main ∧ (c.pc i).takesLockAgain = true

/-! ## The invariant -/

structure LockInv (c : Concurrent) : Prop where
  holder : ∀ i, (c.pc i).holdsLock = true → c.lock = some (.client i)
  accepting : c.main ≠ .idle → c.lock = some .main
  stopping : ∀ i, (c.server.threads i).state = .stopping → (c.pc i).shutting = true

def JoinsPast (c : Concurrent) : Prop := ∀ i, c.main = .joining i → (c.pc i).past = true

variable {c : Concurrent}

theorem JoinsPast.not_deadlocked (h : JoinsPast c) : ¬ Deadlocked c := by
  rintro ⟨i, hi, -, htakes⟩
  rw [ThreadAt.past_not_takesLockAgain (h i hi)] at htakes
  cases htakes

/-- Only the slot `i` may have another thread state. -/
def SameStates (s s' : IpcServer) (i : Fin IPC_MAX_CLIENTS) : Prop :=
  ∀ j, j ≠ i → (s'.threads j).state = (s.threads j).state

section
variable {c' : Concurrent} {i : Fin IPC_MAX_CLIENTS} {src dst : ThreadAt} {server : IpcServer}

theorem stopping_of_move (h : LockInv c) (hpc : c'.pc = Function.update c.pc i dst)
    (hsame : SameStates c.server c'.server i)
    (hself : (c'.server.threads i).state = .stopping → dst.shutting = true) :
    ∀ j, (c'.server.threads j).state = .stopping → (c'.pc j).shutting = true := by
  intro j hj
  by_cases hji : j = i
  · subst hji; rw [hpc, Function.update_self]; exact hself hj
  · rw [hpc, Function.update_of_ne hji]
    exact h.stopping j ((hsame j hji).symm.trans hj)

theorem LockInv.lockStep (h : LockInv c) (hsh : src.shutting = true → dst.shutting = true)
    (hs : c.lockStep i src dst = some c') : LockInv c' := by
  obtain ⟨⟨hpc, hlock⟩, rfl⟩ := lockStep_iff.1 hs
  have hidle : c.main = .idle := by
    by_contra hne
    rw [h.accepting hne] at hlock; cases hlock
  refine ⟨fun j hj => ?_, fun hne => absurd hidle hne, ?_⟩
  · by_cases hji : j = i
    · subst hji; rfl
    · rw [show ({ c.move i dst with lock := some (.client i) } : Concurrent).pc j = c.pc j from
        move_pc_ne c dst hji] at hj
      rw [h.holder j hj] at hlock; cases hlock
  · exact stopping_of_move h rfl (fun _ _ => rfl) fun hst => hsh (hpc ▸ h.stopping i hst)

theorem LockInv.unlockStep (h : LockInv c) (hheld : src.holdsLock = true) (hfree : dst.holdsLock = false)
    (hsame : SameStates c.server server i) (hself : (server.threads i).state = .stopping → dst.shutting = true)
    (hs : c.unlockStep i src dst server = some c') : LockInv c' := by
  obtain ⟨hpc, rfl⟩ := unlockStep_iff.1 hs
  have hlock : c.lock = some (.client i) := h.holder i (hpc ▸ hheld)
  refine ⟨fun j hj => ?_, fun hne => ?_, stopping_of_move h rfl hsame hself⟩
  · by_cases hji : j = i
    · subst hji
      rw [show ({ c.move j dst with lock := none, server := server } : Concurrent).pc j = dst from
        move_pc_self c j dst, hfree] at hj
      cases hj
    · rw [show ({ c.move i dst with lock := none, server := server } : Concurrent).pc j = c.pc j from
        move_pc_ne c dst hji] at hj
      rw [h.holder j hj] at hlock
      exact absurd (Owner.client.inj (Option.some.inj hlock)) hji
  · rw [h.accepting hne] at hlock; cases hlock

theorem LockInv.localStep (h : LockInv c) (hfree : dst.holdsLock = false) (hsame : SameStates c.server server i)
    (hself : c.pc i = src → (server.threads i).state = .stopping → dst.shutting = true)
    (hs : c.localStep i src dst server = some c') : LockInv c' := by
  obtain ⟨hpc, rfl⟩ := localStep_iff.1 hs
  refine ⟨fun j hj => ?_, h.accepting, stopping_of_move h rfl hsame (hself hpc)⟩
  by_cases hji : j = i
  · subst hji
    rw [show ({ c.move j dst with server := server } : Concurrent).pc j = dst from move_pc_self c j dst,
      hfree] at hj
    cases hj
  · rw [show ({ c.move i dst with server := server } : Concurrent).pc j = c.pc j from
      move_pc_ne c dst hji] at hj
    exact h.holder j hj

end

/-! ## Steps -/

theorem setThread_sameStates (s : IpcServer) (i : Fin IPC_MAX_CLIENTS) (t : IpcThread) :
    SameStates s (s.setThread i t) i := fun j hj => by rw [IpcServer.threads_setThread_ne s t hj]

theorem SameSlots.sameStates {s s' : IpcServer} (h : SameSlots s s') (i : Fin IPC_MAX_CLIENTS) :
    SameStates s s' i := fun j _ => h.state j

theorem acceptSlot_lockInv (h : LockInv c) (hmain : c.main = .accepting) : LockInv (acceptSlot c) := by
  have hlock : c.lock = some .main := h.accepting (by rw [hmain]; exact MainAt.noConfusion)
  have hno : ∀ i, (c.pc i).holdsLock = true → False := fun i hi => by
    rw [h.holder i hi] at hlock; cases hlock
  unfold acceptSlot
  split
  · exact ⟨fun i hi => (hno i hi).elim, fun hne => absurd rfl hne, h.stopping⟩
  · split
    · exact ⟨h.holder, fun _ => hlock, h.stopping⟩
    · exact ⟨h.holder, fun _ => hlock, h.stopping⟩
    · exact ⟨fun i hi => (hno i hi).elim, fun hne => absurd rfl hne, h.stopping⟩

theorem startClient_state (s : IpcServer) (i : Fin IPC_MAX_CLIENTS) (ipcHandle : Int) (shmOk : Bool) :
    SameStates s (startClient s i ipcHandle shmOk).1 i ∧
      ((startClient s i ipcHandle shmOk).1.threads i).state = .starting := by
  unfold startClient
  cases shmOk with
  | false => exact ⟨fun j hj => by simp [IpcServer.setThread, hj], by simp [IpcServer.setThread]⟩
  | true => exact ⟨fun j hj => by simp [IpcServer.setThread, hj], by simp [IpcServer.setThread]⟩

variable {c' : Concurrent} {op : LockOp} {i : Fin IPC_MAX_CLIENTS}

theorem accept_lockInv (h : LockInv c) {dst : ThreadAt} (hlock : c.lock = some .main) (hfree : dst.holdsLock = false)
    (hpc : c'.pc = Function.update c.pc i dst) (hkeep : c'.main ≠ .idle → c'.lock = some .main)
    (hsame : SameStates c.server c'.server i) (hstate : (c'.server.threads i).state ≠ .stopping) : LockInv c' := by
  refine ⟨fun j hj => ?_, hkeep, stopping_of_move h hpc hsame fun hst => absurd hst hstate⟩
  rw [hpc] at hj
  by_cases hji : j = i
  · subst hji
    rw [Function.update_self, hfree] at hj; cases hj
  · rw [Function.update_of_ne hji] at hj
    rw [h.holder j hj] at hlock; cases hlock

theorem lockedStep_lockInv (h : LockInv c) (hs : lockedStep c op = some c') : LockInv c' := by
  cases op with
  | acceptLock =>
    obtain ⟨hg, rfl⟩ := guarded_iff.1 hs
    refine ⟨fun i hi => ?_, fun _ => rfl, h.stopping⟩
    have := h.holder i hi
    rw [hg.2] at this; cases this
  | acceptSlot =>
    obtain ⟨hmain, rfl⟩ := guarded_iff.1 hs
    exact acceptSlot_lockInv h hmain
  | acceptJoin =>
    -- the slot that is joined leaves the stopping state, and the lock stays with the main thread
    obtain ⟨i, hmain, -, rfl⟩ := acceptJoin_cases hs
    have hlock := h.accepting (by rw [hmain]; exact MainAt.noConfusion)
    refine accept_lockInv (i := i) h hlock rfl rfl (fun _ => hlock) (setThread_sameStates _ _ _) ?_
    show ((joinThread c.server i).threads i).state ≠ .stopping
    simp [joinThread]
  | acceptStart ipcHandle shmOk =>
    obtain ⟨i, hmain, rfl⟩ := acceptStart_cases hs
    have hlock := h.accepting (by rw [hmain]; exact MainAt.noConfusion)
    obtain ⟨hsame, hstate⟩ := startClient_state c.server i ipcHandle shmOk
    have hfree : (if shmOk then ThreadAt.setUp else .none).holdsLock = false := by cases shmOk <;> rfl
    refine accept_lockInv (i := i) h hlock hfree rfl (fun hne => absurd rfl hne) hsame ?_
    show ((startClient c.server i ipcHandle shmOk).1.threads i).state ≠ .stopping
    rw [hstate]; decide
  | setUp i epollOk =>
    -- a thread in its set-up has not published a shutdown yet
    cases epollOk with
    | false => exact h.localStep rfl (setThread_sameStates _ _ _) (fun _ _ => rfl) hs
    | true =>
      refine h.localStep rfl (fun _ _ => rfl) (fun hpc hst => ?_) hs
      have hsh := h.stopping i hst
      rw [hpc] at hsh; cases hsh
  | call i call =>
    obtain ⟨server, hc, rfl⟩ := call_cases hs
    exact ⟨h.holder, h.accepting, fun j hj => h.stopping j (((handleCall_slots hc).state j).symm.trans hj)⟩
  | shutdownLock i => exact h.lockStep (by decide) hs
  | shutdownUnlock i =>
    exact h.unlockStep rfl rfl (fun j hj => by simp [releaseSlot, IpcServer.setThread, hj]) (fun _ => rfl) hs
  | destroyLock i => exact h.lockStep (by decide) hs
  | destroyUnlock i => exact h.unlockStep rfl rfl (setThread_sameStates _ _ _) (fun _ => rfl) hs
  | cleanUp i now =>
    exact h.localStep rfl (fun j hj => by simp [cleanUp, markIdle, IpcServer.setClient, IpcServer.setThread, hj])
      (fun _ _ => rfl) hs
  | deactivateLock i => exact h.lockStep (by decide) hs
  | deactivateUnlock i =>
    exact h.unlockStep rfl rfl ((deactivateSession_same c.server i).slots.sameStates i) (fun _ => rfl) hs
  | finish i => exact h.localStep rfl (setThread_sameStates _ _ _) (fun _ _ => rfl) hs
  | updateState =>
    obtain ⟨-, rfl⟩ := guarded_iff.1 hs
    exact ⟨h.holder, h.accepting, fun j hj =>
      h.stopping j (((updateServerStateLocked_same c.server).slots.state j).symm.trans hj)⟩
  | delayedExitLock =>
    -- the lock was free, so no thread held it and nothing was being accepted
    obtain ⟨hlock, rfl⟩ := guarded_iff.1 hs
    refine ⟨fun i hi => ?_, fun hne => ?_, h.stopping⟩
    · rw [h.holder i hi] at hlock; cases hlock
    · rw [h.accepting hne] at hlock; cases hlock
  | delayedExitUnlock =>
    obtain ⟨hlock, rfl⟩ := guarded_iff.1 hs
    refine ⟨fun i hi => ?_, fun hne => ?_, h.stopping⟩
    · rw [h.holder i hi] at hlock; cases hlock
    · rw [h.accepting hne] at hlock; cases hlock

/-! ## What a step can do -/

inductive ThreadAt.Next : ThreadAt → ThreadAt → Prop
  | serve : Next .setUp .serving
  | giveUp : Next .setUp .returned
  | publish : Next .serving .inPublish
  | published : Next .inPublish .published
  | destroy : Next .published .inDestroy
  | destroyed : Next .inDestroy .destroyed
  | clean : Next .destroyed .cleaned
  | deactivate : Next .cleaned .inDeactivate
  | deactivated : Next .inDeactivate .deactivated
  | finish : Next .deactivated .returned

theorem ThreadAt.Next.past {src dst : ThreadAt} (h : src.Next dst) (hp : src.past = true) : dst.past = true := by
  cases h <;> simp_all [ThreadAt.past]

structure ThreadMoves (c c' : Concurrent) (i : Fin IPC_MAX_CLIENTS) (src dst : ThreadAt) : Prop where
  next : src.Next dst
  pc : c.pc i = src
  pc' : c'.pc = Function.update c.pc i dst
  main : c'.main = c.main
  lock : c.lock = none ∨ (src.holdsLock = true ∨ dst.holdsLock = false ∧ c'.lock = c.lock)

theorem lockedStep_cases (hs : lockedStep c op = some c') :
    (∃ i src dst, ThreadMoves c c' i src dst) ∨
    (c'.pc = c.pc ∧ c'.main = c.main ∧ (c'.lock = c.lock ∨ c.lock = none ∨ c.lock = some .delayedExit)) ∨
    (op = .acceptSlot ∧ c.main = .accepting ∧ c' = acceptSlot c) ∨
    ((∀ i, c'.main ≠ .joining i) ∧ ∀ i, c.main = .joining i → c.pc i = .returned) := by
  have hlock : ∀ {i : Fin IPC_MAX_CLIENTS} {src dst : ThreadAt}, src.Next dst → c.lockStep i src dst = some c' →
      ThreadMoves c c' i src dst := fun hn h => by
    obtain ⟨⟨hpc, hl⟩, rfl⟩ := lockStep_iff.1 h
    exact ⟨hn, hpc, rfl, rfl, Or.inl hl⟩
  have hunlock : ∀ {i : Fin IPC_MAX_CLIENTS} {src dst : ThreadAt} {server : IpcServer}, src.Next dst →
      src.holdsLock = true → c.unlockStep i src dst server = some c' → ThreadMoves c c' i src dst :=
    fun hn hh h => by
      obtain ⟨hpc, rfl⟩ := unlockStep_iff.1 h
      exact ⟨hn, hpc, rfl, rfl, Or.inr (Or.inl hh)⟩
  have hlocal : ∀ {i : Fin IPC_MAX_CLIENTS} {src dst : ThreadAt} {server : IpcServer}, src.Next dst →
      dst.holdsLock = false → c.localStep i src dst server = some c' → ThreadMoves c c' i src dst :=
    fun hn hh h => by
      obtain ⟨hpc, rfl⟩ := localStep_iff.1 h
      exact ⟨hn, hpc, rfl, rfl, Or.inr (Or.inr ⟨hh, rfl⟩)⟩
  -- the steps of the main thread first, then those of the client threads, by the shape of their lock use
  cases op with
  | acceptLock =>
    obtain ⟨hg, rfl⟩ := guarded_iff.1 hs
    refine Or.inr (Or.inr (Or.inr ⟨fun _ => MainAt.noConfusion, fun i hi => ?_⟩))
    rw [hg.1] at hi; cases hi
  | acceptSlot =>
    obtain ⟨hacc, rfl⟩ := guarded_iff.1 hs
    exact Or.inr (Or.inr (Or.inl ⟨rfl, hacc, rfl⟩))
  | acceptJoin =>
    obtain ⟨i, hmain, hpc, rfl⟩ := acceptJoin_cases hs
    refine Or.inr (Or.inr (Or.inr ⟨fun _ => MainAt.noConfusion, fun j hj => ?_⟩))
    obtain rfl := MainAt.joining.inj (hmain.symm.trans hj)
    exact hpc
  | acceptStart ipcHandle shmOk =>
    obtain ⟨i, hmain, rfl⟩ := acceptStart_cases hs
    refine Or.inr (Or.inr (Or.inr ⟨fun _ => MainAt.noConfusion, fun j hj => ?_⟩))
    rw [hmain] at hj; cases hj
  | setUp i epollOk =>
    cases epollOk with
    | false => exact Or.inl ⟨_, _, _, hlocal .giveUp rfl hs⟩
    | true => exact Or.inl ⟨_, _, _, hlocal .serve rfl hs⟩
  | call i call =>
    obtain ⟨server, -, rfl⟩ := call_cases hs
    exact Or.inr (Or.inl ⟨rfl, rfl, Or.inl rfl⟩)
  | shutdownLock i => exact Or.inl ⟨_, _, _, hlock .publish hs⟩
  | shutdownUnlock i => exact Or.inl ⟨_, _, _, hunlock .published rfl hs⟩
  | destroyLock i => exact Or.inl ⟨_, _, _, hlock .destroy hs⟩
  | destroyUnlock i => exact Or.inl ⟨_, _, _, hunlock .destroyed rfl hs⟩
  | cleanUp i now => exact Or.inl ⟨_, _, _, hlocal .clean rfl hs⟩
  | deactivateLock i => exact Or.inl ⟨_, _, _, hlock .deactivate hs⟩
  | deactivateUnlock i => exact Or.inl ⟨_, _, _, hunlock .deactivated rfl hs⟩
  | finish i => exact Or.inl ⟨_, _, _, hlocal .finish rfl hs⟩
  | updateState =>
    obtain ⟨-, rfl⟩ := guarded_iff.1 hs
    exact Or.inr (Or.inl ⟨rfl, rfl, Or.inl rfl⟩)
  | delayedExitLock =>
    obtain ⟨hl, rfl⟩ := guarded_iff.1 hs
    exact Or.inr (Or.inl ⟨rfl, rfl, Or.inr (Or.inl hl)⟩)
  | delayedExitUnlock =>
    obtain ⟨hl, rfl⟩ := guarded_iff.1 hs
    exact Or.inr (Or.inl ⟨rfl, rfl, Or.inr (Or.inr hl)⟩)

/-! ## Joins -/

/-- A slot is reused only once its last thread has released the lock for the last time. -/
def ReusesFinished (c : Concurrent) : LockOp → Prop
  | .acceptSlot => c.main = .accepting → ∀ i, freeSlot c.server = some i →
    (c.server.threads i).state = .stopping → (c.pc i).past = true
  | _ => True

theorem acceptSlot_joining (h : (acceptSlot c).main = .joining i) :
    freeSlot c.server = some i ∧ (c.server.threads i).state = .stopping := by
  unfold acceptSlot at h
  rcases hfree : freeSlot c.server with _ | j
  · rw [hfree] at h; cases h
  · simp only [hfree] at h
    split at h
    · cases h
    · rename_i hstate
      obtain rfl := MainAt.joining.inj h
      exact ⟨rfl, hstate⟩
    · cases h

theorem acceptSlot_pc (c : Concurrent) : (acceptSlot c).pc = c.pc := by
  unfold acceptSlot
  split
  · rfl
  · split <;> rfl

theorem lockedStep_joinsPast (hp : JoinsPast c) (hfits : ReusesFinished c op) (hs : lockedStep c op = some c') :
    JoinsPast c' := by
  intro i hi
  rcases lockedStep_cases hs with ⟨j, src, dst, hmove⟩ | ⟨hpc, hmain, -⟩ | ⟨rfl, hacc, rfl⟩ | ⟨hnot, -⟩
  · rw [hmove.main] at hi
    rw [hmove.pc']
    by_cases hij : i = j
    · subst hij
      rw [Function.update_self]
      exact hmove.next.past (hmove.pc ▸ hp i hi)
    · rw [Function.update_of_ne hij]; exact hp i hi
  · rw [hpc]; exact hp i (hmain ▸ hi)
  · obtain ⟨hfree, hstate⟩ := acceptSlot_joining hi
    rw [acceptSlot_pc]
    exact hfits hacc i hfree hstate
  · exact absurd hi (hnot i)

/-! ## Runs -/

def DeadlockFree (c : Concurrent) (op : LockOp) : Prop := ∀ c', lockedStep c op = some c' → ¬ Deadlocked c'

theorem deadlockFree_iff_reusesFinished (h : LockInv c) (hp : JoinsPast c) (op : LockOp) :
    DeadlockFree c op ↔ ReusesFinished c op := by
  constructor
  · intro hfree
    cases op with
    | acceptSlot =>
      intro hacc i hslot hstate
      have hjoin : acceptSlot c = { c with main := .joining i } := by
        simp only [acceptSlot, hslot, hstate]
      have hlock : c.lock = some .main := h.accepting (by rw [hacc]; exact MainAt.noConfusion)
      refine (ThreadAt.past_iff _ (h.stopping i hstate)).2 ⟨?_, ?_⟩
      · refine Bool.eq_false_iff.2 fun hh => ?_
        rw [h.holder i hh] at hlock; cases hlock
      · refine Bool.eq_false_iff.2 fun ht => ?_
        refine hfree _ (acceptSlot_eq hacc) ?_
        rw [hjoin]
        exact ⟨i, rfl, hlock, ht⟩
    | _ => trivial
  · intro hfits c' hs
    exact (lockedStep_joinsPast hp hfits hs).not_deadlocked

theorem init_lockInv (xso : XrtSpaceOverseer) (exitOnDisconnect exitWhenIdle : Bool) :
    LockInv (Concurrent.init (initServerState xso exitOnDisconnect exitWhenIdle)) :=
  ⟨fun _ h => (by cases h), fun h => absurd rfl h, fun _ h => (by cases h)⟩

/-- A run never deadlocks exactly if every reuse of a slot waits for its last thread. -/
theorem noDeadlock_iff (xso : XrtSpaceOverseer) (exitOnDisconnect exitWhenIdle : Bool) (ops : List LockOp) :
    Along lockedStep DeadlockFree (Concurrent.init (initServerState xso exitOnDisconnect exitWhenIdle)) ops ↔
      Along lockedStep ReusesFinished (Concurrent.init (initServerState xso exitOnDisconnect exitWhenIdle)) ops :=
  along_iff (I := fun c => LockInv c ∧ JoinsPast c) (fun _ op hi => deadlockFree_iff_reusesFinished hi.1 hi.2 op)
    (fun _ _ _ hi hfits hs => ⟨lockedStep_lockInv hi.1 hs, lockedStep_joinsPast hi.2 hfits hs⟩)
    ⟨init_lockInv xso exitOnDisconnect exitWhenIdle, fun _ h => (by cases h)⟩ ops

/-- A client connects and leaves, and the next one is accepted right after the slot was given up. -/
theorem earlyReuse_deadlocks : ¬ Along lockedStep DeadlockFree (Concurrent.init (initServerState .rootOnly false true))
    [.acceptLock, .acceptSlot, .acceptStart 5 true, .setUp 0 true, .shutdownLock 0, .shutdownUnlock 0, .acceptLock,
      .acceptSlot] := by
  rintro ⟨-, -, -, -, -, -, -, hfree, -⟩
  exact hfree _ rfl ⟨0, rfl, rfl, rfl⟩

end AugmentedInsanity.Ipc
