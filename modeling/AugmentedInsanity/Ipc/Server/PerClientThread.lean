/-
A client's thread (`ipc_server_per_client_thread.c`): the set-up it does before it serves, and the
shutdown when it leaves.
-/
import AugmentedInsanity.Ipc.Server.Process
import AugmentedInsanity.Ipc.Server.Resources
import AugmentedInsanity.Ipc.Server.Space

namespace AugmentedInsanity.Ipc

open Xrt

/-! ## Shutdown -/

/-- The first critical section of `common_shutdown`: the slot is given up. -/
def releaseSlot (s : IpcServer) (i : Fin IPC_MAX_CLIENTS) : IpcServer :=
  let t := s.threads i
  { s.setThread i { t with
      state := .stopping
      ics := { t.ics with ipcHandle := -1, serverThreadIndex := none, clientState := .zero } } with
    isms := Function.update s.isms i none
    connectedClientCount := s.connectedClientCount - 1 }

/-- The local spaces that `common_shutdown` releases. The local floor index 0 is taken for unset. -/
def releaseLocalSpaces (xso : XrtSpaceOverseer) (ics : IpcClientState) : XrtSpaceOverseer :=
  { xso with
    localspace := releaseEntry xso.localspace ics.localSpaceOverseerIndex
    localfloorspace :=
      if 0 < ics.localFloorSpaceOverseerIndex then
        releaseEntry xso.localfloorspace ics.localFloorSpaceOverseerIndex
      else xso.localfloorspace }

/-- The resources of the client that `common_shutdown` drops. -/
def releaseResources (ics : IpcClientState) : IpcClientState :=
  { destroySessionAndCompositor ics with
    xspcs := fun _ => none
    refSpaceUsed := fun _ => false
    deviceFeatureUsed := fun _ => false
    xtracks := fun _ => none }

def markIdle (s : IpcServer) (now : UInt64) : IpcServer :=
  { s with
    running := s.running && !s.exitOnDisconnect
    lastClientDisconnectNs :=
      if s.exitWhenIdle && s.connectedClientCount == 0 then now else s.lastClientDisconnectNs }

/-- The clean-up of `common_shutdown` after its first critical section; `now` is the clock when it is
read. -/
def cleanUp (s : IpcServer) (i : Fin IPC_MAX_CLIENTS) (now : UInt64) : IpcServer :=
  markIdle { s.setClient i (releaseResources (s.client i)) with xso := releaseLocalSpaces s.xso (s.client i) } now

/-- `common_shutdown` up to the deactivation of the session. -/
def releaseClient (s : IpcServer) (i : Fin IPC_MAX_CLIENTS) (now : UInt64) : IpcServer :=
  cleanUp (releaseSlot s i) i now

/-- `common_shutdown`, the end of a client's thread. -/
def commonShutdown (s : IpcServer) (i : Fin IPC_MAX_CLIENTS) (now : UInt64) : IpcServer :=
  let s := deactivateSession (releaseClient s i now) i
  s.setThread i { s.threads i with thread := .returned }

/-- What `delayed_exit_thread` looks at after its delay. -/
def shouldExit (s : IpcServer) : Bool :=
  s.exitWhenIdle && s.connectedClientCount == 0 && decide (0 < s.lastClientDisconnectNs)

theorem releaseClient_client_self (s : IpcServer) (i : Fin IPC_MAX_CLIENTS) (now : UInt64) :
    (releaseClient s i now).client i = { releaseResources (s.client i) with
      ipcHandle := -1, serverThreadIndex := none, clientState := .zero } := by
  simp [releaseClient, cleanUp, releaseSlot, markIdle, IpcServer.client, IpcServer.setClient, IpcServer.setThread,
    releaseResources, destroySessionAndCompositor]

theorem releaseClient_client_ne (s : IpcServer) {i j : Fin IPC_MAX_CLIENTS} (now : UInt64) (h : j ≠ i) :
    (releaseClient s i now).client j = s.client j := by
  simp [releaseClient, cleanUp, releaseSlot, markIdle, IpcServer.client, IpcServer.setClient, IpcServer.setThread, h]

/-! ## Set-up -/

/-- `client_loop` up to its first wait: when the epoll set-up fails, the thread returns there. -/
def clientLoopSetup (s : IpcServer) (i : Fin IPC_MAX_CLIENTS) (epollOk : Bool) : IpcServer :=
  if epollOk then s else s.setThread i { s.threads i with thread := .returned }

end AugmentedInsanity.Ipc
