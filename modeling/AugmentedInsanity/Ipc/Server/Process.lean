/-
Client management of the IPC server (`ipc_server_process.c`): which client is active, the visibility
and focus that follow from it, the ids of clients, and the acceptance of a connection. Every function
here runs under the global state lock. Calls into the system compositor are left out: nothing of the
server's state depends on them.
-/
import AugmentedInsanity.Ipc.Server.State
import Mathlib.Data.Fintype.Pigeonhole
import Mathlib.Data.Fintype.Option

namespace AugmentedInsanity.Ipc

open Xrt Tables

/-! ## Active client -/

/-- `INT64_MIN`, the start of the z-order, as the `uint32_t` it is stored in. -/
abbrev zOrderBottom : UInt32 := 0

def handleFocusedClientEvents (ics : IpcClientState) (activeId : ClientIndex) : IpcClientState :=
  let primary := decide (ics.serverThreadIndex = activeId)
  let overlay := ics.clientState.sessionOverlay
  { ics with
    clientState := { ics.clientState with
      sessionVisible := if overlay then true else primary
      sessionFocused := if overlay then true else primary
      zOrder := if overlay then ics.clientState.zOrder else zOrderBottom } }

def flushThread (activeId : ClientIndex) (t : IpcThread) : IpcThread :=
  if !t.ics.connected then t else { t with ics := handleFocusedClientEvents t.ics activeId }

def flushStateToAllClientsLocked (s : IpcServer) : IpcServer :=
  { s with threads := fun i => flushThread s.activeClientIndex (s.threads i) }

/-- A client the active application may fall back to. -/
def IpcClientState.displayable (ics : IpcClientState) : Bool :=
  !ics.clientState.sessionOverlay && ics.connected && ics.clientState.sessionActive

/-- The test of the early return: the active client is active and was it before. -/
def activeUnchanged (s : IpcServer) : Bool :=
  match s.activeClientIndex with
  | none => false
  | some i => (s.client i).clientState.sessionActive && decide (s.activeClientIndex = s.lastActiveClientIndex)

def nextActiveClient (s : IpcServer) : ClientIndex :=
  match lastIndex fun i => (s.client i).displayable with
  | none => none
  | some fallback =>
    match s.activeClientIndex with
    | none => none
    | some i =>
      let cs := (s.client i).clientState
      if !(!cs.sessionOverlay && cs.sessionActive) then some fallback else some i

def updateServerStateLocked (s : IpcServer) : IpcServer :=
  if activeUnchanged s then s
  else
    let s := flushStateToAllClientsLocked { s with activeClientIndex := nextActiveClient s }
    { s with lastActiveClientIndex := s.activeClientIndex }

/-! ## Finding clients -/

def findClientLocked (s : IpcServer) (clientId : UInt32) : ClientIndex :=
  if clientId = 0 || decide (INT_MAX < clientId.toNat) then none
  else
    match firstIndex fun i => (s.client i).clientState.id == clientId with
    | none => none
    | some i => if (s.client i).ipcHandle < 0 then none else some i

def setActiveClientLocked (s : IpcServer) (clientId : UInt32) : XrtResult × IpcServer :=
  match findClientLocked s clientId with
  | none => (.errorIpcFailure, s)
  | some i =>
    let index := (s.client i).serverThreadIndex
    if index ≠ s.activeClientIndex then
      (.success, updateServerStateLocked { s with activeClientIndex := index })
    else (.success, s)

def activateSession (s : IpcServer) (i : Fin IPC_MAX_CLIENTS) : IpcServer :=
  let ics := s.client i
  if ics.clientState.sessionActive then s
  else
    let ics := { ics with clientState := { ics.clientState with sessionActive := true } }
    if ics.clientState.sessionOverlay then s.setClient i (handleFocusedClientEvents ics s.activeClientIndex)
    else (setActiveClientLocked (s.setClient i ics) ics.clientState.id).2

def deactivateSession (s : IpcServer) (i : Fin IPC_MAX_CLIENTS) : IpcServer :=
  let ics := s.client i
  updateServerStateLocked
    (s.setClient i { ics with clientState := { ics.clientState with sessionActive := false } })

/-! ## Ids -/

def idTaken (s : IpcServer) (id : UInt32) : Bool :=
  (firstIndex fun i => (s.client i).clientState.id == id).isSome

/-- The loop of `allocate_id_locked`: the id found, 0 when the tries run out, and the generator. -/
def allocateIdLoop (s : IpcServer) : ℕ → UInt32 → UInt32 × UInt32
  | 0, gen => (0, gen)
  | tries + 1, gen =>
    if gen + 1 = 0 || idTaken s (gen + 1) then allocateIdLoop s tries (gen + 1) else (gen + 1, gen + 1)

/-- `allocate_id_locked`. Two tries more than there are slots are enough (`allocateIdLocked_fresh`). -/
def allocateIdLocked (s : IpcServer) : UInt32 × UInt32 := allocateIdLoop s (IPC_MAX_CLIENTS + 2) s.idGenerator

theorem idTaken_iff {s : IpcServer} {id : UInt32} : idTaken s id = true ↔ ∃ i, (s.client i).clientState.id = id := by
  unfold idTaken
  constructor
  · intro h
    obtain ⟨i, hi⟩ := Option.isSome_iff_exists.1 h
    exact ⟨i, by simpa using firstIndex_spec hi⟩
  · rintro ⟨i, hi⟩
    obtain ⟨j, hj⟩ := exists_firstIndex (p := fun i => (s.client i).clientState.id == id) (i := i) (by simp [hi])
    rw [hj]; rfl

theorem allocateIdLoop_spec (s : IpcServer) (tries : ℕ) (gen : UInt32) :
    ((allocateIdLoop s tries gen).1 ≠ 0 ∧ idTaken s (allocateIdLoop s tries gen).1 = false) ∨
      ∀ k, k < tries → gen + UInt32.ofNat (k + 1) = 0 ∨ idTaken s (gen + UInt32.ofNat (k + 1)) = true := by
  induction tries generalizing gen with
  | zero => exact Or.inr fun k hk => absurd hk (Nat.not_lt_zero k)
  | succ tries ih =>
    unfold allocateIdLoop
    by_cases hbad : (gen + 1 = 0 || idTaken s (gen + 1)) = true
    · rw [if_pos hbad]
      refine (ih (gen + 1)).imp_right fun htried k hk => ?_
      rcases k with _ | k
      · simpa using hbad
      · have := htried k (by omega)
        rwa [show gen + 1 + UInt32.ofNat (k + 1) = gen + UInt32.ofNat (k + 1 + 1) by
          rw [UInt32.add_assoc, UInt32.ofNat_add (k + 1) 1, UInt32.add_comm 1]; rfl] at this
    · rw [if_neg hbad]
      left
      simpa using hbad

theorem allocateIdLocked_fresh (s : IpcServer) :
    (allocateIdLocked s).1 ≠ 0 ∧ ∀ i, (s.client i).clientState.id ≠ (allocateIdLocked s).1 := by
  rcases allocateIdLoop_spec s (IPC_MAX_CLIENTS + 2) s.idGenerator with ⟨hne, hfree⟩ | htried
  · refine ⟨hne, fun i hi => ?_⟩
    exact absurd (hfree.symm.trans (idTaken_iff.2 ⟨i, hi⟩)) Bool.false_ne_true
  · let tried : Fin (IPC_MAX_CLIENTS + 2) → UInt32 := fun k => s.idGenerator + UInt32.ofNat (k + 1)
    have hinj : ∀ j k, tried j = tried k → j = k := fun j k h => by
      have h := congrArg UInt32.toNat ((UInt32.add_right_inj s.idGenerator).1 h)
      have hmax : IPC_MAX_CLIENTS = 32 := rfl
      rw [UInt32.toNat_ofNat', UInt32.toNat_ofNat', Nat.mod_eq_of_lt (by omega), Nat.mod_eq_of_lt (by omega)] at h
      exact Fin.ext (by omega)
    -- the slot that has a tried id; only the id 0 is in none
    let holder : Fin (IPC_MAX_CLIENTS + 2) → Option (Fin IPC_MAX_CLIENTS) := fun k =>
      firstIndex fun i => (s.client i).clientState.id == tried k
    obtain ⟨j, k, hjk, heq⟩ := Fintype.exists_ne_map_eq_of_card_lt holder (by simp)
    refine absurd (hinj j k ?_) hjk
    rcases hk : holder k with _ | i
    · have hzero : ∀ l, holder l = none → tried l = 0 := fun l hl => by
        refine (htried l l.isLt).resolve_right fun htaken => ?_
        rw [show idTaken s (tried l) = (holder l).isSome from rfl, hl] at htaken
        cases htaken
      rw [hzero j (heq.trans hk), hzero k hk]
    · have hid : ∀ l, holder l = some i → (s.client i).clientState.id = tried l := fun l hl => by
        simpa using firstIndex_spec hl
      rw [← hid j (heq.trans hk), ← hid k hk]

/-! ## Connecting -/

def freshClient (i : Fin IPC_MAX_CLIENTS) (id : UInt32) (ipcHandle : Int) : IpcClientState :=
  { IpcClientState.zero with
    localSpaceOverseerIndex := UINT32_MAX
    clientState := { IpcAppState.zero with id := id }
    ipcHandle := ipcHandle
    serverThreadIndex := some i }

/-- Handing a connection to the slot `i`. `shmOk` tells whether the shared memory could be created. -/
def startClient (vs : IpcServer) (i : Fin IPC_MAX_CLIENTS) (ipcHandle : Int) (shmOk : Bool) :
    IpcServer × ClientIndex :=
  let it := vs.threads i
  -- a thread that is not ready is joined first
  let thread := if it.state ≠ .ready then OsThread.none else it.thread
  let (id, idGenerator) := allocateIdLocked vs
  let vs := { vs with idGenerator := idGenerator }
  let ics := freshClient i id ipcHandle
  if !shmOk then (vs.setThread i ⟨thread, .starting, ics⟩, none)
  else
    ({ vs.setThread i ⟨.running, .starting, ics⟩ with isms := Function.update vs.isms i (some .zero) }, some i)

def freeSlot (vs : IpcServer) : ClientIndex := firstIndex fun i => !(vs.client i).connected

def countAttempt (vs : IpcServer) : IpcServer :=
  { vs with
    connectedClientCount := vs.connectedClientCount + 1
    lastClientDisconnectNs := 0 }

/-- `ipc_server_handle_client_connected`; also the slot whose thread it started. -/
def handleClientConnected (vs : IpcServer) (ipcHandle : Int) (shmOk : Bool) : IpcServer × ClientIndex :=
  let vs := countAttempt vs
  match freeSlot vs with
  | none => (vs, none)
  | some i =>
    if (vs.threads i).state ≠ .ready ∧ (vs.threads i).state ≠ .stopping then (vs, none)
    else startClient vs i ipcHandle shmOk

@[simp] theorem freeSlot_countAttempt (vs : IpcServer) : freeSlot (countAttempt vs) = freeSlot vs := rfl

theorem freeSlot_spec {vs : IpcServer} {i : Fin IPC_MAX_CLIENTS} (h : freeSlot vs = some i) :
    (vs.client i).connected = false := by simpa using firstIndex_spec h

end AugmentedInsanity.Ipc
