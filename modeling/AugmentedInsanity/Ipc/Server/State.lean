/-
The state of the IPC server (`ipc_server.h`, `xrt_space.h`): one record per client slot, the tables of
the space overseer that clients share, and the global state. An index that is -1 while unused
(`server_thread_index`, `active_client_index`) is an optional slot.
-/
import AugmentedInsanity.Ipc.Protocol

namespace AugmentedInsanity.Ipc

open Xrt

/-- A slot index, or `none` for -1. -/
abbrev ClientIndex := Option (Fin IPC_MAX_CLIENTS)

structure IpcSwapchainData where
  width : UInt32
  height : UInt32
  format : UInt64
  imageCount : UInt32
  active : Bool
  deriving DecidableEq

def IpcSwapchainData.zero : IpcSwapchainData := ⟨0, 0, 0, 0, false⟩

/-! ## Clients -/

structure IpcClientState where
  xtracks : Fin XRT_SYSTEM_MAX_DEVICES → Option ℕ
  xdevs : Fin XRT_SYSTEM_MAX_DEVICES → Option XrtDevice
  xs : Option ℕ
  xc : Option ℕ
  swapchainCount : UInt32
  xscs : Fin IPC_MAX_CLIENT_SWAPCHAINS → Option XrtSwapchain
  swapchainData : Fin IPC_MAX_CLIENT_SWAPCHAINS → IpcSwapchainData
  compositorSemaphoreCount : UInt32
  xcsems : Fin IPC_MAX_CLIENT_SEMAPHORES → Option ℕ
  xfts : Fin IPC_MAX_CLIENT_FUTURES → Option ℕ
  localSpaceIndex : UInt32
  localSpaceOverseerIndex : UInt32
  localFloorSpaceIndex : UInt32
  localFloorSpaceOverseerIndex : UInt32
  xspcs : Fin IPC_MAX_CLIENT_SPACES → Option XrtSpace
  refSpaceUsed : Fin XRT_SPACE_REFERENCE_TYPE_COUNT → Bool
  deviceFeatureUsed : Fin XRT_DEVICE_FEATURE_MAX_ENUM → Bool
  ipcHandle : Int
  hasInitShmSystem : Bool
  clientState : IpcAppState
  serverThreadIndex : ClientIndex

/-- `U_ZERO` of a client state, with the index still to be set. -/
def IpcClientState.zero : IpcClientState where
  xtracks := fun _ => none
  xdevs := fun _ => none
  xs := none
  xc := none
  swapchainCount := 0
  xscs := fun _ => none
  swapchainData := fun _ => .zero
  compositorSemaphoreCount := 0
  xcsems := fun _ => none
  xfts := fun _ => none
  localSpaceIndex := 0
  localSpaceOverseerIndex := 0
  localFloorSpaceIndex := 0
  localFloorSpaceOverseerIndex := 0
  xspcs := fun _ => none
  refSpaceUsed := fun _ => false
  deviceFeatureUsed := fun _ => false
  ipcHandle := 0
  hasInitShmSystem := false
  clientState := .zero
  serverThreadIndex := none

def IpcClientState.connected (ics : IpcClientState) : Bool := ics.serverThreadIndex.isSome

inductive IpcThreadState
  | ready
  | starting
  | running
  | stopping
  deriving DecidableEq

/-- `struct os_thread`: not created, running its function, or returned from it and not joined yet. -/
inductive OsThread
  | none
  | running
  | returned
  deriving DecidableEq

structure IpcThread where
  thread : OsThread
  state : IpcThreadState
  ics : IpcClientState

/-! ## The space overseer -/

/-- An entry of `localspace` or `localfloorspace`. `createdFor` is the id of the client it was created
for; the program does not store it. -/
structure OverseerSpace where
  space : XrtSpace
  createdFor : UInt32
  deriving DecidableEq

structure SemanticSpaces where
  root : XrtSpace
  view : Option XrtSpace
  localSpace : Option XrtSpace
  localFloor : Option XrtSpace
  stage : Option XrtSpace
  unbounded : Option XrtSpace
  deriving DecidableEq

/-- `struct xrt_space_overseer`, with the flag of `b_space_overseer`. Spaces created later are numbered
from `nextSpace`. -/
structure XrtSpaceOverseer where
  semantic : SemanticSpaces
  localspace : Fin XRT_MAX_CLIENT_SPACES → Option OverseerSpace
  localfloorspace : Fin XRT_MAX_CLIENT_SPACES → Option OverseerSpace
  perAppLocalSpaces : Bool
  nextSpace : XrtSpace

/-! ## The server -/

structure IpcServer where
  xso : XrtSpaceOverseer
  isms : Fin IPC_MAX_CLIENTS → Option IpcSharedMemory
  running : Bool
  exitOnDisconnect : Bool
  exitWhenIdle : Bool
  lastClientDisconnectNs : UInt64
  threads : Fin IPC_MAX_CLIENTS → IpcThread
  currentSlotIndex : UInt32
  idGenerator : UInt32
  activeClientIndex : ClientIndex
  lastActiveClientIndex : ClientIndex
  connectedClientCount : UInt32

namespace IpcServer

def client (s : IpcServer) (i : Fin IPC_MAX_CLIENTS) : IpcClientState := (s.threads i).ics

def setThread (s : IpcServer) (i : Fin IPC_MAX_CLIENTS) (t : IpcThread) : IpcServer :=
  { s with threads := Function.update s.threads i t }

def setClient (s : IpcServer) (i : Fin IPC_MAX_CLIENTS) (ics : IpcClientState) : IpcServer :=
  s.setThread i { s.threads i with ics := ics }

@[simp] theorem threads_setThread_self (s : IpcServer) (i : Fin IPC_MAX_CLIENTS) (t : IpcThread) :
    (s.setThread i t).threads i = t := by simp [setThread]

variable {i j : Fin IPC_MAX_CLIENTS}

theorem threads_setThread_ne (s : IpcServer) (t : IpcThread) (h : j ≠ i) :
    (s.setThread i t).threads j = s.threads j := by simp [setThread, h]

@[simp] theorem client_setThread_self (s : IpcServer) (i : Fin IPC_MAX_CLIENTS) (t : IpcThread) :
    (s.setThread i t).client i = t.ics := by simp [client]

theorem client_setThread_ne (s : IpcServer) (t : IpcThread) (h : j ≠ i) :
    (s.setThread i t).client j = s.client j := by unfold client; rw [threads_setThread_ne s t h]

@[simp] theorem client_setClient_self (s : IpcServer) (i : Fin IPC_MAX_CLIENTS) (ics : IpcClientState) :
    (s.setClient i ics).client i = ics := by simp [setClient]

theorem client_setClient_ne (s : IpcServer) (ics : IpcClientState) (h : j ≠ i) :
    (s.setClient i ics).client j = s.client j := client_setThread_ne s _ h

theorem client_setThread_thread (s : IpcServer) (i j : Fin IPC_MAX_CLIENTS) (thread : OsThread) :
    (s.setThread i { s.threads i with thread := thread }).client j = s.client j := by
  by_cases h : j = i
  · subst h; simp [client]
  · exact client_setThread_ne s _ h

end IpcServer

/-- `init_server_state`, on a server whose memory is zeroed and whose flags are set: all slots are
free. -/
def initServerState (xso : XrtSpaceOverseer) (exitOnDisconnect exitWhenIdle : Bool) : IpcServer where
  xso := xso
  isms := fun _ => none
  running := true
  exitOnDisconnect := exitOnDisconnect
  exitWhenIdle := exitWhenIdle
  lastClientDisconnectNs := 0
  threads := fun _ => ⟨.none, .ready, .zero⟩
  currentSlotIndex := 0
  idGenerator := 0
  activeClientIndex := none
  lastActiveClientIndex := none
  connectedClientCount := 0

def XrtSpaceOverseer.fresh (semantic : SemanticSpaces) (perAppLocalSpaces : Bool) (nextSpace : XrtSpace) :
    XrtSpaceOverseer :=
  ⟨semantic, fun _ => none, fun _ => none, perAppLocalSpaces, nextSpace⟩

/-- The overseer of a system that has no space but the root. -/
def XrtSpaceOverseer.rootOnly : XrtSpaceOverseer := .fresh ⟨0, none, none, none, none, none⟩ true 1

end AugmentedInsanity.Ipc
