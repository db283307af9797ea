/-
The ids of devices and tracking origins (`ipc_server_objects.c`): a client names them by their place in
its tables, and every lookup checks the id first.
-/
import AugmentedInsanity.Ipc.Server.State

namespace AugmentedInsanity.Ipc

open Xrt Tables

/-- The common lookup: the id is in the table and the place is taken. -/
def objectAt {α : Type} (objects : Fin XRT_SYSTEM_MAX_DEVICES → Option α) (id : UInt32) : Except XrtResult α :=
  if h : id.toNat < XRT_SYSTEM_MAX_DEVICES then
    match objects ⟨id.toNat, h⟩ with
    | none => .error .errorIpcFailure
    | some object => .ok object
  else .error .errorIpcFailure

def getXdevAndValidate (ics : IpcClientState) (id : UInt32) : Except XrtResult XrtDevice := objectAt ics.xdevs id

def getXtrackAndValidate (ics : IpcClientState) (id : UInt32) : Except XrtResult ℕ := objectAt ics.xtracks id

/-- `ipc_server_objects_get_xtrack_id_or_add`; a missing origin is found at the first free place. -/
def getXtrackIdOrAdd (ics : IpcClientState) (xtrack : Option ℕ) :
    Except XrtResult (Fin XRT_SYSTEM_MAX_DEVICES) × IpcClientState :=
  match firstIndex fun i => ics.xtracks i == xtrack with
  | some id => (.ok id, ics)
  | none =>
    match firstIndex fun i => (ics.xtracks i).isNone with
    | none => (.error .errorIpcFailure, ics)
    | some id => (.ok id, { ics with xtracks := Function.update ics.xtracks id xtrack })

/-- `ipc_server_objects_get_xdev_id_or_add`; `xtrack` is the tracking origin of the device. -/
def getXdevIdOrAdd (ics : IpcClientState) (xdev : XrtDevice) (xtrack : Option ℕ) :
    Except XrtResult (Fin XRT_SYSTEM_MAX_DEVICES) × IpcClientState :=
  match firstIndex fun i => (ics.xdevs i).map XrtDevice.ptr == some xdev.ptr with
  | some id => (.ok id, ics)
  | none =>
    match firstIndex fun i => (ics.xdevs i).isNone with
    | none => (.error .errorIpcFailure, ics)
    | some id =>
      match getXtrackIdOrAdd ics xtrack with
      | (.error xret, ics) => (.error xret, ics)
      | (.ok _, ics) => (.ok id, { ics with xdevs := Function.update ics.xdevs id (some xdev) })

theorem objectAt_cases {α : Type} (objects : Fin XRT_SYSTEM_MAX_DEVICES → Option α) (id : UInt32) :
    objectAt objects id = .error .errorIpcFailure ∨
      ∃ (h : id.toNat < XRT_SYSTEM_MAX_DEVICES) (object : α),
        objects ⟨id.toNat, h⟩ = some object ∧ objectAt objects id = .ok object := by
  unfold objectAt
  split
  · rename_i h
    rcases hobj : objects ⟨id.toNat, h⟩ with _ | object
    · exact Or.inl rfl
    · exact Or.inr ⟨h, object, hobj, rfl⟩
  · exact Or.inl rfl

end AugmentedInsanity.Ipc
