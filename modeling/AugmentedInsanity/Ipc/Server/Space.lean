/-
The space handlers of the IPC server (`ipc_server_handler.c`) and the local spaces of the overseer
(`b_space_overseer.c`). A client's spaces are in its own table; its local space and local floor space
are besides that entries of two tables of the overseer that all clients share, found through indices
the client state keeps.
-/
import AugmentedInsanity.Ipc.Server.Objects

namespace AugmentedInsanity.Ipc

open Xrt Tables

/-! ## Tracking spaces -/

def validateSpaceId (ics : IpcClientState) (spaceId : UInt32) :
    Except XrtResult (Fin IPC_MAX_CLIENT_SPACES × XrtSpace) :=
  if h : spaceId.toNat < IPC_MAX_CLIENT_SPACES then
    match ics.xspcs ⟨spaceId.toNat, h⟩ with
    | none => .error .errorIpcFailure
    | some xs => .ok (⟨spaceId.toNat, h⟩, xs)
  else .error .errorIpcFailure

def getNewSpaceId (ics : IpcClientState) : Except XrtResult (Fin IPC_MAX_CLIENT_SPACES) :=
  match firstIndex fun i => (ics.xspcs i).isNone with
  | none => .error .errorIpcFailure
  | some index => .ok index

def trackSpace (ics : IpcClientState) (xs : XrtSpace) :
    Except XrtResult (Fin IPC_MAX_CLIENT_SPACES) × IpcClientState :=
  match getNewSpaceId ics with
  | .error xret => (.error xret, ics)
  | .ok id => (.ok id, { ics with xspcs := Function.update ics.xspcs id (some xs) })

/-! ## Local spaces -/

/-- The places a new local space takes: in the overseer's tables and in the client's. -/
structure LocalspaceIds where
  overseer : Fin XRT_MAX_CLIENT_SPACES
  floorOverseer : Fin XRT_MAX_CLIENT_SPACES
  id : Fin IPC_MAX_CLIENT_SPACES
  floorId : Fin IPC_MAX_CLIENT_SPACES

/-- The index as the `uint32_t` a client state keeps. -/
def indexBits {n : ℕ} (i : Fin n) : UInt32 := UInt32.ofNat i.val

/-- `get_new_localspace_id`. Each index is stored in the client state once it is found, so a failure
leaves the ones found before it. -/
def getNewLocalspaceId (xso : XrtSpaceOverseer) (ics : IpcClientState) :
    Except XrtResult LocalspaceIds × IpcClientState :=
  match firstIndex fun i => (xso.localspace i).isNone with
  | none => (.error .errorIpcFailure, ics)
  | some overseer =>
    let ics := { ics with localSpaceOverseerIndex := indexBits overseer }
    match firstIndex fun i => (ics.xspcs i).isNone with
    | none => (.error .errorIpcFailure, ics)
    | some id =>
      let ics := { ics with localSpaceIndex := indexBits id }
      match firstIndex fun i => (xso.localfloorspace i).isNone with
      | none => (.error .errorIpcFailure, ics)
      | some floorOverseer =>
        let ics := { ics with localFloorSpaceOverseerIndex := indexBits floorOverseer }
        match firstIndex fun i => (ics.xspcs i).isNone && i != id with
        | none => (.error .errorIpcFailure, ics)
        | some floorId =>
          (.ok ⟨overseer, floorOverseer, id, floorId⟩, { ics with localFloorSpaceIndex := indexBits floorId })

/-- The `create_local_space` of the overseer, into two of its entries: new spaces where every
application has its own, else references to the semantic ones, which may be missing. -/
def createLocalSpace (xso : XrtSpaceOverseer) (overseer floorOverseer : Fin XRT_MAX_CLIENT_SPACES)
    (createdFor : UInt32) : XrtSpaceOverseer :=
  if !xso.perAppLocalSpaces then
    { xso with
      localspace := Function.update xso.localspace overseer (xso.semantic.localSpace.map (⟨·, createdFor⟩))
      localfloorspace := Function.update xso.localfloorspace floorOverseer
        (xso.semantic.localFloor.map (⟨·, createdFor⟩)) }
  else
    { xso with
      localspace := Function.update xso.localspace overseer (some ⟨xso.nextSpace, createdFor⟩)
      localfloorspace := Function.update xso.localfloorspace floorOverseer (some ⟨xso.nextSpace + 1, createdFor⟩)
      nextSpace := xso.nextSpace + 2 }

def createLocalspace (xso : XrtSpaceOverseer) (ics : IpcClientState) :
    Except XrtResult LocalspaceIds × XrtSpaceOverseer × IpcClientState :=
  match getNewLocalspaceId xso ics with
  | (.error xret, ics) => (.error xret, xso, ics)
  | (.ok ids, ics) =>
    let xso := createLocalSpace xso ids.overseer ids.floorOverseer ics.clientState.id
    let xspcs := Function.update ics.xspcs ids.id ((xso.localspace ids.overseer).map OverseerSpace.space)
    let xspcs := Function.update xspcs ids.floorId
      ((xso.localfloorspace ids.floorOverseer).map OverseerSpace.space)
    (.ok ids, xso, { ics with xspcs := xspcs })

/-- The overseer's table after one of its entries is released, if the index is one of the table. -/
def releaseEntry (table : Fin XRT_MAX_CLIENT_SPACES → Option OverseerSpace) (index : UInt32) :
    Fin XRT_MAX_CLIENT_SPACES → Option OverseerSpace :=
  if h : index.toNat < XRT_MAX_CLIENT_SPACES then Function.update table ⟨index.toNat, h⟩ none else table

/-! ## Handlers -/

/-- One step of `create_semantic_ids`: a space that is missing or finds no room gets no id. -/
def createSemanticId (ics : IpcClientState) (space : Option XrtSpace) : UInt32 × IpcClientState :=
  match space with
  | none => (UINT32_MAX, ics)
  | some xs =>
    match trackSpace ics xs with
    | (.error _, ics) => (UINT32_MAX, ics)
    | (.ok id, ics) => (indexBits id, ics)

/-- What `space_create_semantic_ids` replies. -/
structure SemanticIds where
  root : UInt32
  view : UInt32
  localSpace : UInt32
  localFloor : UInt32
  stage : UInt32
  unbounded : UInt32
  deriving DecidableEq

/-- The four semantic spaces that every client shares get their ids. -/
def createSharedSemanticIds (xso : XrtSpaceOverseer) (ics : IpcClientState) : SemanticIds × IpcClientState :=
  let (root, ics) := createSemanticId ics (some xso.semantic.root)
  let (view, ics) := createSemanticId ics xso.semantic.view
  let (stage, ics) := createSemanticId ics xso.semantic.stage
  let (unbounded, ics) := createSemanticId ics xso.semantic.unbounded
  (⟨root, view, UINT32_MAX, UINT32_MAX, stage, unbounded⟩, ics)

def ipcHandleSpaceCreateSemanticIds (xso : XrtSpaceOverseer) (ics : IpcClientState) :
    Except XrtResult SemanticIds × XrtSpaceOverseer × IpcClientState :=
  let (ids, ics) := createSharedSemanticIds xso ics
  match createLocalspace xso ics with
  | (.error xret, xso, ics) => (.error xret, xso, ics)
  | (.ok new, xso, ics) =>
    (.ok { ids with localSpace := indexBits new.id, localFloor := indexBits new.floorId }, xso, ics)

/-- `ipc_handle_space_create_offset`; `created` is the answer of the overseer. -/
def ipcHandleSpaceCreateOffset (ics : IpcClientState) (parentId : UInt32)
    (created : XrtSpace → Except XrtResult XrtSpace) :
    Except XrtResult (Fin IPC_MAX_CLIENT_SPACES) × IpcClientState :=
  match validateSpaceId ics parentId with
  | .error xret => (.error xret, ics)
  | .ok (_, parent) =>
    match created parent with
    | .error xret => (.error xret, ics)
    | .ok xs => trackSpace ics xs

/-- `ipc_handle_space_create_pose`; `created` is the answer of the overseer. -/
def ipcHandleSpaceCreatePose (ics : IpcClientState) (xdevId : UInt32)
    (created : XrtDevice → Except XrtResult XrtSpace) :
    Except XrtResult (Fin IPC_MAX_CLIENT_SPACES) × IpcClientState :=
  match getXdevAndValidate ics xdevId with
  | .error xret => (.error xret, ics)
  | .ok xdev =>
    match created xdev with
    | .error xret => (.error xret, ics)
    | .ok xs => trackSpace ics xs

/-- Releasing the overseer's entry at `index`, unchecked, where the destroyed space `isLocal`. -/
def releaseIfLocal (table : Table) (tbl : Fin XRT_MAX_CLIENT_SPACES → Option OverseerSpace) (isLocal : Bool)
    (index : UInt32) : Except Fault (Fin XRT_MAX_CLIENT_SPACES → Option OverseerSpace) :=
  if isLocal then writeAt table tbl index.toNat none else .ok tbl

def ipcHandleSpaceDestroy (xso : XrtSpaceOverseer) (ics : IpcClientState) (spaceId : UInt32) :
    Except Fault (Except XrtResult Unit × XrtSpaceOverseer × IpcClientState) :=
  match validateSpaceId ics spaceId with
  | .error xret => .ok (.error xret, xso, ics)
  | .ok (id, _) => do
    let ics := { ics with xspcs := Function.update ics.xspcs id none }
    let localspace ← releaseIfLocal .localspace xso.localspace (spaceId == ics.localSpaceIndex)
      ics.localSpaceOverseerIndex
    let localfloorspace ← releaseIfLocal .localfloorspace xso.localfloorspace
      (spaceId == ics.localFloorSpaceIndex) ics.localFloorSpaceOverseerIndex
    return (.ok (), { xso with localspace := localspace, localfloorspace := localfloorspace }, ics)

theorem releaseIfLocal_ok {table : Table} {tbl tbl' : Fin XRT_MAX_CLIENT_SPACES → Option OverseerSpace}
    {isLocal : Bool} {index : UInt32} (h : releaseIfLocal table tbl isLocal index = .ok tbl') :
    tbl' = if isLocal then releaseEntry tbl index else tbl := by
  unfold releaseIfLocal at h
  cases isLocal with
  | false => exact (Except.ok.inj h).symm
  | true =>
    unfold releaseEntry
    simp only [if_true] at h ⊢
    by_cases hi : index.toNat < XRT_MAX_CLIENT_SPACES
    · rw [writeAt_of_lt hi] at h; rw [dif_pos hi]; exact (Except.ok.inj h).symm
    · rw [writeAt_of_ge hi] at h; cases h

theorem releaseIfLocal_inBounds {table : Table} {tbl : Fin XRT_MAX_CLIENT_SPACES → Option OverseerSpace}
    {isLocal : Bool} {index : UInt32} (h : isLocal = true → index.toNat < XRT_MAX_CLIENT_SPACES) :
    ∃ tbl', releaseIfLocal table tbl isLocal index = .ok tbl' := by
  unfold releaseIfLocal
  cases isLocal with
  | false => exact ⟨_, rfl⟩
  | true => exact ⟨_, writeAt_of_lt (h rfl)⟩

variable {xso xso' : XrtSpaceOverseer} {ics ics' : IpcClientState}

theorem ipcHandleSpaceDestroy_cases {spaceId : UInt32} {r : Except XrtResult Unit}
    (h : ipcHandleSpaceDestroy xso ics spaceId = .ok (r, xso', ics')) :
    (xso' = xso ∧ ics' = ics) ∨
      ∃ id xs, validateSpaceId ics spaceId = .ok (id, xs) ∧
        xso' = { xso with
          localspace :=
            if spaceId == ics.localSpaceIndex then releaseEntry xso.localspace ics.localSpaceOverseerIndex
            else xso.localspace
          localfloorspace :=
            if spaceId == ics.localFloorSpaceIndex then
              releaseEntry xso.localfloorspace ics.localFloorSpaceOverseerIndex
            else xso.localfloorspace } ∧
        ics' = { ics with xspcs := Function.update ics.xspcs id none } := by
  unfold ipcHandleSpaceDestroy at h
  rcases hval : validateSpaceId ics spaceId with xret | ⟨id, xs⟩
  · rw [hval] at h; cases h; exact Or.inl ⟨rfl, rfl⟩
  refine Or.inr ⟨id, xs, rfl, ?_⟩
  rw [hval] at h
  simp only [] at h
  rcases hl : releaseIfLocal .localspace xso.localspace (spaceId == ics.localSpaceIndex)
      ics.localSpaceOverseerIndex with f | l
  · rw [hl] at h; cases h
  rcases hf : releaseIfLocal .localfloorspace xso.localfloorspace (spaceId == ics.localFloorSpaceIndex)
      ics.localFloorSpaceOverseerIndex with f | l'
  · rw [hl, hf] at h; cases h
  rw [hl, hf] at h
  cases h
  exact ⟨by rw [releaseIfLocal_ok hl, releaseIfLocal_ok hf], rfl⟩

/-! ## Calls -/

inductive SpaceCall
  | createSemanticIds
  | createOffset (parentId : UInt32) (created : XrtSpace → Except XrtResult XrtSpace)
  | createPose (xdevId : UInt32) (created : XrtDevice → Except XrtResult XrtSpace)
  | destroy (spaceId : UInt32)

def handleSpaceCall (xso : XrtSpaceOverseer) (ics : IpcClientState) :
    SpaceCall → Except Fault (XrtSpaceOverseer × IpcClientState)
  | .createSemanticIds => .ok (ipcHandleSpaceCreateSemanticIds xso ics).2
  | .createOffset parentId created => .ok (xso, (ipcHandleSpaceCreateOffset ics parentId created).2)
  | .createPose xdevId created => .ok (xso, (ipcHandleSpaceCreatePose ics xdevId created).2)
  | .destroy spaceId => (ipcHandleSpaceDestroy xso ics spaceId).map Prod.snd

theorem handleSpaceCall_destroy {spaceId : UInt32} (h : handleSpaceCall xso ics (.destroy spaceId) = .ok (xso', ics')) :
    ∃ r, ipcHandleSpaceDestroy xso ics spaceId = .ok (r, xso', ics') := by
  rcases hd : ipcHandleSpaceDestroy xso ics spaceId with f | ⟨r, p⟩
  · simp only [handleSpaceCall, hd] at h; cases h
  · simp only [handleSpaceCall, hd] at h
    exact ⟨r, by rw [← show p = (xso', ics') from Except.ok.inj h]⟩

end AugmentedInsanity.Ipc
