/-
The local spaces of the clients. Each client's entries of the two overseer tables are to be left alone by
the others, and to be empty again once nobody is connected. The indices a client state keeps outlive the
entries they were taken for, a second request overwrites them, and the local floor index 0 counts as unset
on disconnect; away from these cases both hold (`localSpaces_of_run`).
-/
import AugmentedInsanity.Ipc.Server.Frames

namespace AugmentedInsanity.Ipc

open Xrt Tables Runs

abbrev SpaceTable := Fin XRT_MAX_CLIENT_SPACES → Option OverseerSpace

/-! ## The property -/

def ServerOp.actor : ServerOp → ClientIndex
  | .disconnect i _ | .call i _ => some i
  | .connect .. | .updateState => none

/-- The entry was created for the client of the slot, which is still connected. -/
def CreatedFor (s : IpcServer) (e : OverseerSpace) (j : Fin IPC_MAX_CLIENTS) : Prop :=
  (s.threads j).live = true ∧ (s.client j).clientState.id = e.createdFor

/-- What is to hold of a step: the entries of the other clients stay, and nobody leaves an entry behind. -/
structure EntriesIsolated (s : IpcServer) (op : ServerOp) (s' : IpcServer) : Prop where
  localspace : ∀ j k e, op.actor ≠ some j → s.xso.localspace k = some e → CreatedFor s e j →
    s'.xso.localspace k = some e
  localfloorspace : ∀ j k e, op.actor ≠ some j → s.xso.localfloorspace k = some e → CreatedFor s e j →
    s'.xso.localfloorspace k = some e
  empty : (∀ j, (s'.threads j).live = false) →
    ∀ k, s'.xso.localspace k = none ∧ s'.xso.localfloorspace k = none

/-- Space calls stay within the tables, and every step isolates the entries. -/
structure SpacesKept (s : IpcServer) (op : ServerOp) : Prop where
  inBounds : ∀ i c, op = .call i (.space c) → (s.threads i).live = true →
    ∃ r, handleSpaceCall s.xso (s.client i) c = .ok r
  isolated : ∀ s', step s op = some s' → EntriesIsolated s op s'

/-! ## When an operation fits -/

/-- The entry at the index is free, or was created for the client with this id. -/
def FreeOrOwn (tbl : SpaceTable) (id index : UInt32) : Prop :=
  ∀ (h : index.toNat < XRT_MAX_CLIENT_SPACES) (e : OverseerSpace), tbl ⟨index.toNat, h⟩ = some e → e.createdFor = id

def Owns (tbl : SpaceTable) (id : UInt32) : Prop := ∃ k e, tbl k = some e ∧ e.createdFor = id

def Full {n : ℕ} {α : Type} (tbl : Fin n → Option α) : Prop := ∀ k, (tbl k).isSome = true

/-- A request for semantic ids overwrites no index of an entry the client still owns. The local index is
written unless the table is full, the local floor index only if a space id is left as well. -/
def SemanticIdsFit (xso : XrtSpaceOverseer) (ics : IpcClientState) : Prop :=
  Full xso.localspace ∨
    (¬ Owns xso.localspace ics.clientState.id ∧
      (¬ Owns xso.localfloorspace ics.clientState.id ∨ Full (createSharedSemanticIds xso ics).2.xspcs ∨
        Full xso.localfloorspace))

/-- A valid space id that is also the recorded local or local floor id stands for an entry that is the
client's own, or free. -/
def DestroyFits (xso : XrtSpaceOverseer) (ics : IpcClientState) (spaceId : UInt32) : Prop :=
  ∀ id xs, validateSpaceId ics spaceId = .ok (id, xs) →
    (spaceId = ics.localSpaceIndex → ics.localSpaceOverseerIndex.toNat < XRT_MAX_CLIENT_SPACES ∧
      FreeOrOwn xso.localspace ics.clientState.id ics.localSpaceOverseerIndex) ∧
    (spaceId = ics.localFloorSpaceIndex →
      FreeOrOwn xso.localfloorspace ics.clientState.id ics.localFloorSpaceOverseerIndex)

/-- The entries a disconnect releases are the client's own or free, and it owns no local floor space at
the index 0. -/
def DisconnectFits (xso : XrtSpaceOverseer) (ics : IpcClientState) : Prop :=
  FreeOrOwn xso.localspace ics.clientState.id ics.localSpaceOverseerIndex ∧
    (0 < ics.localFloorSpaceOverseerIndex →
      FreeOrOwn xso.localfloorspace ics.clientState.id ics.localFloorSpaceOverseerIndex) ∧
    ∀ e, xso.localfloorspace 0 = some e → e.createdFor ≠ ics.clientState.id

def SpaceFits (s : IpcServer) : ServerOp → Prop
  | .call i (.space .createSemanticIds) => (s.threads i).live = true → SemanticIdsFit s.xso (s.client i)
  | .call i (.space (.destroy spaceId)) => (s.threads i).live = true → DestroyFits s.xso (s.client i) spaceId
  | .disconnect i _ => (s.threads i).live = true → DisconnectFits s.xso (s.client i)
  | _ => True

/-! ## Releasing entries -/

def KeepsOthers (tbl tbl' : SpaceTable) (id : UInt32) : Prop :=
  ∀ k e, tbl k = some e → e.createdFor ≠ id → tbl' k = some e

def Shrinks (tbl tbl' : SpaceTable) : Prop := ∀ k e, tbl' k = some e → tbl k = some e

variable {tbl : SpaceTable}

theorem releaseEntry_keepsOthers {id index : UInt32} (h : FreeOrOwn tbl id index) :
    KeepsOthers tbl (releaseEntry tbl index) id := by
  intro k e hk hne
  unfold releaseEntry
  split
  · rename_i hlt
    by_cases hki : k = ⟨index.toNat, hlt⟩
    · subst hki; exact absurd (h hlt e hk) hne
    · rw [Function.update_of_ne hki]; exact hk
  · exact hk

variable {e : OverseerSpace} {k : Fin XRT_MAX_CLIENT_SPACES}

theorem releaseEntry_spec {index : UInt32} (h : releaseEntry tbl index k = some e) :
    tbl k = some e ∧ index.toNat ≠ k.val := by
  unfold releaseEntry at h
  split at h
  · rename_i hlt
    by_cases hki : k = ⟨index.toNat, hlt⟩
    · subst hki; rw [Function.update_self] at h; cases h
    · rw [Function.update_of_ne hki] at h
      exact ⟨h, fun heq => hki (Fin.ext heq.symm)⟩
  · rename_i hge
    exact ⟨h, fun heq => hge (heq ▸ k.isLt)⟩

theorem releaseEntry_shrinks (tbl : SpaceTable) (index : UInt32) : Shrinks tbl (releaseEntry tbl index) :=
  fun _ _ h => (releaseEntry_spec h).1

/-! ## The invariant -/

def OwnedAt (s : IpcServer) (tbl : SpaceTable) (index : IpcClientState → UInt32) : Prop :=
  ∀ k e, tbl k = some e → ∃ j, CreatedFor s e j ∧ (index (s.client j)).toNat = k.val

structure SpaceInv (s : IpcServer) : Prop where
  live : LiveConnected s
  ids : ∀ i j, (s.client i).connected = true → (s.client j).connected = true →
    (s.client i).clientState.id = (s.client j).clientState.id → i = j
  floorIndex : ∀ i, (s.client i).localFloorSpaceOverseerIndex.toNat < XRT_MAX_CLIENT_SPACES
  localspace : OwnedAt s s.xso.localspace IpcClientState.localSpaceOverseerIndex
  localfloorspace : OwnedAt s s.xso.localfloorspace IpcClientState.localFloorSpaceOverseerIndex

structure SameOwner (s s' : IpcServer) (j : Fin IPC_MAX_CLIENTS) : Prop where
  live : (s'.threads j).live = (s.threads j).live
  connected : (s'.client j).connected = (s.client j).connected
  id : (s'.client j).clientState.id = (s.client j).clientState.id
  localIndex : (s'.client j).localSpaceOverseerIndex = (s.client j).localSpaceOverseerIndex
  floorIndex : (s'.client j).localFloorSpaceOverseerIndex = (s.client j).localFloorSpaceOverseerIndex

variable {s s' : IpcServer}

theorem SameOwner.createdFor {j : Fin IPC_MAX_CLIENTS} (h : SameOwner s s' j) (hc : CreatedFor s e j) :
    CreatedFor s' e j := ⟨h.live.trans hc.1, h.id.trans hc.2⟩

theorem SpaceInv.not_own (h : SpaceInv s) {i j : Fin IPC_MAX_CLIENTS} (hi : (s.threads i).live = true) (hij : i ≠ j)
    (hc : CreatedFor s e j) : e.createdFor ≠ (s.client i).clientState.id :=
  fun heq => hij (h.ids i j (h.live i hi) (h.live j hc.1) (heq.symm.trans hc.2.symm))

theorem SpaceInv.empty (h : SpaceInv s) (hdead : ∀ j, (s.threads j).live = false) (k : Fin XRT_MAX_CLIENT_SPACES) :
    s.xso.localspace k = none ∧ s.xso.localfloorspace k = none := by
  constructor
  · rcases hk : s.xso.localspace k with _ | e
    · rfl
    · obtain ⟨j, hc, -⟩ := h.localspace k e hk
      exact absurd (hc.1.symm.trans (hdead j)) Bool.false_ne_true.symm
  · rcases hk : s.xso.localfloorspace k with _ | e
    · rfl
    · obtain ⟨j, hc, -⟩ := h.localfloorspace k e hk
      exact absurd (hc.1.symm.trans (hdead j)) Bool.false_ne_true.symm

variable {i : Fin IPC_MAX_CLIENTS} {ics : IpcClientState} {op : ServerOp}

theorem SpaceInv.isolated (h : SpaceInv s) (h' : SpaceInv s') (hactor : op.actor = some i)
    (hi : (s.threads i).live = true)
    (hlocal : KeepsOthers s.xso.localspace s'.xso.localspace (s.client i).clientState.id)
    (hfloor : KeepsOthers s.xso.localfloorspace s'.xso.localfloorspace (s.client i).clientState.id) :
    EntriesIsolated s op s' := by
  have hne : ∀ j, op.actor ≠ some j → i ≠ j := fun j hj hij => hj (hij ▸ hactor)
  exact ⟨fun j k e hj hk hc => hlocal k e hk (h.not_own hi (hne j hj) hc),
    fun j k e hj hk hc => hfloor k e hk (h.not_own hi (hne j hj) hc), h'.empty⟩

theorem OwnedAt.shrink {s s' : IpcServer} {tbl tbl' : SpaceTable} {index : IpcClientState → UInt32}
    (h : OwnedAt s tbl index) (hshrinks : Shrinks tbl tbl')
    (hsame : ∀ k e j, tbl' k = some e → CreatedFor s e j → (index (s.client j)).toNat = k.val →
      CreatedFor s' e j ∧ index (s'.client j) = index (s.client j)) : OwnedAt s' tbl' index := by
  intro k e hk
  obtain ⟨j, hc, hindex⟩ := h k e (hshrinks k e hk)
  obtain ⟨hc', hindex'⟩ := hsame k e j hk hc hindex
  exact ⟨j, hc', by rw [hindex']; exact hindex⟩

theorem SpaceInv.sameOwners (h : SpaceInv s) (hsame : ∀ j, SameOwner s s' j)
    (hlocal : Shrinks s.xso.localspace s'.xso.localspace)
    (hfloor : Shrinks s.xso.localfloorspace s'.xso.localfloorspace) : SpaceInv s' := by
  refine ⟨fun i hi => ?_, fun i j hi hj hij => ?_, fun i => ?_, ?_, ?_⟩
  · rw [(hsame i).connected]; exact h.live i ((hsame i).live ▸ hi)
  · rw [(hsame i).connected] at hi
    rw [(hsame j).connected] at hj
    rw [(hsame i).id, (hsame j).id] at hij
    exact h.ids i j hi hj hij
  · rw [(hsame i).floorIndex]; exact h.floorIndex i
  · exact h.localspace.shrink hlocal fun _ _ j _ hc _ => ⟨(hsame j).createdFor hc, (hsame j).localIndex⟩
  · exact h.localfloorspace.shrink hfloor fun _ _ j _ hc _ => ⟨(hsame j).createdFor hc, (hsame j).floorIndex⟩

/-! ## Requests for semantic ids -/

theorem indexBits_toNat (k : Fin XRT_MAX_CLIENT_SPACES) : (indexBits k).toNat = k.val := by
  have hmax : XRT_MAX_CLIENT_SPACES = 128 := rfl
  have hlt := k.isLt
  unfold indexBits
  rw [UInt32.toNat_ofNat', Nat.mod_eq_of_lt (by omega)]

/-- The request found a free entry `k` for the local space and took its index. -/
structure TakesIndices (xso : XrtSpaceOverseer) (ics ics' : IpcClientState) (k : Fin XRT_MAX_CLIENT_SPACES) :
    Prop where
  free : xso.localspace k = none
  localIndex : ics'.localSpaceOverseerIndex = indexBits k
  floorIndex : ics'.localFloorSpaceOverseerIndex = ics.localFloorSpaceOverseerIndex ∨
    ∃ k', xso.localfloorspace k' = none ∧ (∃ id, ics.xspcs id = none) ∧
      ics'.localFloorSpaceOverseerIndex = indexBits k'

theorem isNone_of_firstIndex {n : ℕ} {α : Type} {tbl : Fin n → Option α} {k : Fin n}
    (h : firstIndex (fun i => (tbl i).isNone) = some k) : tbl k = none := by simpa using firstIndex_spec h

theorem getNewLocalspaceId_spec (xso : XrtSpaceOverseer) (ics : IpcClientState) :
    (Full xso.localspace ∧ getNewLocalspaceId xso ics = (.error .errorIpcFailure, ics)) ∨
      ∃ k, TakesIndices xso ics (getNewLocalspaceId xso ics).2 k ∧
        ∀ ids, (getNewLocalspaceId xso ics).1 = .ok ids → ids.overseer = k ∧
          (getNewLocalspaceId xso ics).2.localFloorSpaceOverseerIndex = indexBits ids.floorOverseer ∧
          xso.localfloorspace ids.floorOverseer = none ∧ (∃ id, ics.xspcs id = none) := by
  unfold getNewLocalspaceId
  rcases h1 : firstIndex (fun i => (xso.localspace i).isNone) with _ | k
  · left
    refine ⟨fun i => ?_, rfl⟩
    simpa [Option.isSome_iff_ne_none] using firstIndex_eq_none.1 h1 i
  right
  have hk := isNone_of_firstIndex h1
  refine ⟨k, ?_⟩
  simp only []
  rcases h2 : firstIndex (fun i => (ics.xspcs i).isNone) with _ | id
  · exact ⟨⟨hk, rfl, Or.inl rfl⟩, fun ids h => by cases h⟩
  have hid := isNone_of_firstIndex h2
  simp only []
  rcases h3 : firstIndex (fun i => (xso.localfloorspace i).isNone) with _ | k'
  · exact ⟨⟨hk, rfl, Or.inl rfl⟩, fun ids h => by cases h⟩
  have hk' := isNone_of_firstIndex h3
  simp only []
  rcases h4 : firstIndex (fun i => (ics.xspcs i).isNone && i != id) with _ | floorId
  · exact ⟨⟨hk, rfl, Or.inr ⟨k', hk', ⟨id, hid⟩, rfl⟩⟩, fun ids h => by cases h⟩
  · refine ⟨⟨hk, rfl, Or.inr ⟨k', hk', ⟨id, hid⟩, rfl⟩⟩, fun ids h => ?_⟩
    obtain rfl := Except.ok.inj h
    exact ⟨rfl, rfl, hk', id, hid⟩

/-- The table keeps its entries, and a new one is at a free place and created for the client. -/
structure Grows (tbl tbl' : SpaceTable) (id index : UInt32) : Prop where
  kept : ∀ k e, tbl k = some e → tbl' k = some e
  new : ∀ k e, tbl' k = some e → tbl k = some e ∨ (e.createdFor = id ∧ index.toNat = k.val)

theorem Grows.refl (tbl : SpaceTable) (id index : UInt32) : Grows tbl tbl id index :=
  ⟨fun _ _ h => h, fun _ _ h => Or.inl h⟩

theorem grows_update {id : UInt32} {space : Option OverseerSpace} (hfree : tbl k = none)
    (hspace : ∀ e, space = some e → e.createdFor = id) : Grows tbl (Function.update tbl k space) id (indexBits k) := by
  refine ⟨fun j e hj => ?_, fun j e hj => ?_⟩
  · have hjk : j ≠ k := fun h => by rw [h, hfree] at hj; cases hj
    rw [Function.update_of_ne hjk]; exact hj
  · by_cases hjk : j = k
    · subst hjk
      rw [Function.update_self] at hj
      exact Or.inr ⟨hspace e hj, indexBits_toNat j⟩
    · rw [Function.update_of_ne hjk] at hj; exact Or.inl hj

theorem createLocalSpace_grows {xso : XrtSpaceOverseer} {k k' : Fin XRT_MAX_CLIENT_SPACES} (id : UInt32)
    (hk : xso.localspace k = none) (hk' : xso.localfloorspace k' = none) :
    Grows xso.localspace (createLocalSpace xso k k' id).localspace id (indexBits k) ∧
      Grows xso.localfloorspace (createLocalSpace xso k k' id).localfloorspace id (indexBits k') := by
  unfold createLocalSpace
  split
  · refine ⟨grows_update hk fun e he => ?_, grows_update hk' fun e he => ?_⟩
    · obtain ⟨_, -, rfl⟩ := Option.map_eq_some_iff.1 he; rfl
    · obtain ⟨_, -, rfl⟩ := Option.map_eq_some_iff.1 he; rfl
  · refine ⟨grows_update hk fun e he => ?_, grows_update hk' fun e he => ?_⟩
    · obtain rfl := Option.some.inj he; rfl
    · obtain rfl := Option.some.inj he; rfl

theorem createLocalspace_spec (xso : XrtSpaceOverseer) (ics : IpcClientState) :
    (Full xso.localspace ∧ createLocalspace xso ics = (.error .errorIpcFailure, xso, ics)) ∨
      ∃ k, TakesIndices xso ics (createLocalspace xso ics).2.2 k ∧
        Grows xso.localspace (createLocalspace xso ics).2.1.localspace ics.clientState.id (indexBits k) ∧
        Grows xso.localfloorspace (createLocalspace xso ics).2.1.localfloorspace ics.clientState.id
          (createLocalspace xso ics).2.2.localFloorSpaceOverseerIndex := by
  have hsession := getNewLocalspaceId_session xso ics
  unfold createLocalspace
  rcases getNewLocalspaceId_spec xso ics with ⟨hfull, heq⟩ | ⟨k, htakes, hok⟩
  · rw [heq]; exact Or.inl ⟨hfull, rfl⟩
  right
  rcases hget : getNewLocalspaceId xso ics with ⟨xret | ids, ics'⟩
  · rw [hget] at htakes
    exact ⟨k, htakes, .refl _ _ _, .refl _ _ _⟩
  · rw [hget] at htakes hok hsession
    obtain ⟨rfl, hfloor, hfree, -⟩ := hok ids rfl
    obtain ⟨hlocal, hlocalfloor⟩ := createLocalSpace_grows ics'.clientState.id htakes.free hfree
    rw [← hfloor] at hlocalfloor
    rw [← hsession.clientState]
    exact ⟨ids.overseer, ⟨htakes.free, htakes.localIndex, htakes.floorIndex⟩, hlocal, hlocalfloor⟩

/-! ## Steps -/

section
def withSpaces (s : IpcServer) (i : Fin IPC_MAX_CLIENTS) (xso : XrtSpaceOverseer) (ics : IpcClientState) :
    IpcServer :=
  { s.setClient i ics with xso := xso }

variable {xso : XrtSpaceOverseer}

theorem withSpaces_sameOwner (hsame : SameSession (s.client i) ics)
    (hlocal : ics.localSpaceOverseerIndex = (s.client i).localSpaceOverseerIndex)
    (hfloor : ics.localFloorSpaceOverseerIndex = (s.client i).localFloorSpaceOverseerIndex) (j : Fin IPC_MAX_CLIENTS) :
    SameOwner s (withSpaces s i xso ics) j := by
  have hslots := setClient_slots s i ics hsame.serverThreadIndex (by rw [hsame.clientState])
  have hclient : (withSpaces s i xso ics).client j = (s.setClient i ics).client j := rfl
  refine ⟨?_, ?_, hslots.id j, ?_, ?_⟩
  · unfold IpcThread.live; rw [show ((withSpaces s i xso ics).threads j).thread = _ from hslots.thread j]
  · unfold IpcClientState.connected; rw [hclient, hslots.index j]
  · rw [hclient]
    by_cases hj : j = i
    · subst hj; rw [IpcServer.client_setClient_self]; exact hlocal
    · rw [IpcServer.client_setClient_ne s ics hj]
  · rw [hclient]
    by_cases hj : j = i
    · subst hj; rw [IpcServer.client_setClient_self]; exact hfloor
    · rw [IpcServer.client_setClient_ne s ics hj]

theorem trackSpace_indices (ics : IpcClientState) (xs : XrtSpace) :
    (trackSpace ics xs).2.localSpaceOverseerIndex = ics.localSpaceOverseerIndex ∧
      (trackSpace ics xs).2.localFloorSpaceOverseerIndex = ics.localFloorSpaceOverseerIndex := by
  unfold trackSpace
  split
  · exact ⟨rfl, rfl⟩
  · exact ⟨rfl, rfl⟩

theorem createSemanticId_indices (ics : IpcClientState) (space : Option XrtSpace) :
    (createSemanticId ics space).2.localSpaceOverseerIndex = ics.localSpaceOverseerIndex ∧
      (createSemanticId ics space).2.localFloorSpaceOverseerIndex = ics.localFloorSpaceOverseerIndex := by
  unfold createSemanticId
  split
  · exact ⟨rfl, rfl⟩
  · rename_i xs
    have h := trackSpace_indices ics xs
    split
    · rename_i heq; rw [heq] at h; exact h
    · rename_i heq; rw [heq] at h; exact h

theorem createSharedSemanticIds_indices (xso : XrtSpaceOverseer) (ics : IpcClientState) :
    (createSharedSemanticIds xso ics).2.localSpaceOverseerIndex = ics.localSpaceOverseerIndex ∧
      (createSharedSemanticIds xso ics).2.localFloorSpaceOverseerIndex = ics.localFloorSpaceOverseerIndex := by
  unfold createSharedSemanticIds
  constructor
  · simp only [(createSemanticId_indices _ _).1]
  · simp only [(createSemanticId_indices _ _).2]

theorem createSemanticIds_snd (xso : XrtSpaceOverseer) (ics : IpcClientState) :
    (ipcHandleSpaceCreateSemanticIds xso ics).2 = (createLocalspace xso (createSharedSemanticIds xso ics).2).2 := by
  unfold ipcHandleSpaceCreateSemanticIds
  simp only []
  split
  · rename_i heq; rw [heq]
  · rename_i heq; rw [heq]

theorem SpaceInv.takes {k : Fin XRT_MAX_CLIENT_SPACES} {xso : XrtSpaceOverseer} {shared ics : IpcClientState}
    (h : SpaceInv s) (hi : (s.threads i).live = true) (hsame : SameSession (s.client i) ics)
    (hshared : shared.localFloorSpaceOverseerIndex = (s.client i).localFloorSpaceOverseerIndex)
    (htakes : TakesIndices s.xso shared ics k) (hlocal : ¬ Owns s.xso.localspace (s.client i).clientState.id)
    (hfloor : ¬ Owns s.xso.localfloorspace (s.client i).clientState.id ∨ Full shared.xspcs ∨
      Full s.xso.localfloorspace)
    (hgrows : Grows s.xso.localspace xso.localspace (s.client i).clientState.id (indexBits k))
    (hgrows' : Grows s.xso.localfloorspace xso.localfloorspace (s.client i).clientState.id
      ics.localFloorSpaceOverseerIndex) : SpaceInv (withSpaces s i xso ics) := by
  have hslots := setClient_slots s i ics hsame.serverThreadIndex (by rw [hsame.clientState])
  have hself : (withSpaces s i xso ics).client i = ics := IpcServer.client_setClient_self s i ics
  have hother : ∀ j, j ≠ i → (withSpaces s i xso ics).client j = s.client j :=
    fun j hj => IpcServer.client_setClient_ne s ics hj
  have hid : ∀ j, ((withSpaces s i xso ics).client j).clientState.id = (s.client j).clientState.id := hslots.id
  have hconn : ∀ j, ((withSpaces s i xso ics).client j).connected = (s.client j).connected := fun j => by
    unfold IpcClientState.connected
    rw [show ((withSpaces s i xso ics).client j).serverThreadIndex = _ from hslots.index j]
  have hlive : ∀ j, ((withSpaces s i xso ics).threads j).live = (s.threads j).live := fun j => by
    unfold IpcThread.live
    rw [show ((withSpaces s i xso ics).threads j).thread = _ from hslots.thread j]
  have hcreated : ∀ {e j}, CreatedFor s e j → CreatedFor (withSpaces s i xso ics) e j :=
    fun hc => ⟨(hlive _).trans hc.1, (hid _).trans hc.2⟩
  have hnew : ∀ {e : OverseerSpace}, e.createdFor = (s.client i).clientState.id →
      CreatedFor (withSpaces s i xso ics) e i := fun he => hcreated ⟨hi, he.symm⟩
  refine ⟨fun j hj => ?_, fun a b ha hb hab => ?_, fun j => ?_, fun m e hm => ?_, fun m e hm => ?_⟩
  · rw [hconn]; exact h.live j (hlive j ▸ hj)
  · rw [hconn] at ha hb
    rw [hid, hid] at hab
    exact h.ids a b ha hb hab
  · by_cases hj : j = i
    · subst hj
      rw [hself]
      rcases htakes.floorIndex with heq | ⟨k', -, -, heq⟩
      · rw [heq, hshared]; exact h.floorIndex j
      · rw [heq, indexBits_toNat]; exact k'.isLt
    · rw [hother j hj]; exact h.floorIndex j
  · rcases hgrows.new m e hm with hold | ⟨hfor, hindex⟩
    · obtain ⟨j, hc, hindex⟩ := h.localspace m e hold
      have hj : j ≠ i := fun hji => hlocal ⟨m, e, hold, by rw [← hji]; exact hc.2.symm⟩
      exact ⟨j, hcreated hc, by rw [hother j hj]; exact hindex⟩
    · exact ⟨i, hnew hfor, by rw [hself, htakes.localIndex]; exact hindex⟩
  · rcases hgrows'.new m e hm with hold | ⟨hfor, hindex⟩
    · obtain ⟨j, hc, hindex⟩ := h.localfloorspace m e hold
      by_cases hj : j = i
      · subst hj
        -- the client still owns this entry, so its index was not overwritten
        refine ⟨j, hcreated hc, ?_⟩
        rw [hself]
        rcases htakes.floorIndex with heq | ⟨k', hk', ⟨id, hidfree⟩, -⟩
        · rw [heq, hshared]; exact hindex
        · rcases hfloor with hnot | hfull | hfull
          · exact absurd ⟨m, e, hold, hc.2.symm⟩ hnot
          · have := hfull id; rw [hidfree] at this; cases this
          · have := hfull k'; rw [hk'] at this; cases this
      · exact ⟨j, hcreated hc, by rw [hother j hj]; exact hindex⟩
    · exact ⟨i, hnew hfor, by rw [hself]; exact hindex⟩

theorem createSemanticIds_inv (h : SpaceInv s) (hi : (s.threads i).live = true)
    (hfits : SemanticIdsFit s.xso (s.client i))
    (hr : (ipcHandleSpaceCreateSemanticIds s.xso (s.client i)).2 = (xso, ics)) :
    SpaceInv (withSpaces s i xso ics) ∧
      (∀ id, KeepsOthers s.xso.localspace xso.localspace id) ∧
      ∀ id, KeepsOthers s.xso.localfloorspace xso.localfloorspace id := by
  have hsession := createSharedSemanticIds_session s.xso (s.client i)
  obtain ⟨hlocal, hfloor⟩ := createSharedSemanticIds_indices s.xso (s.client i)
  have hsame := createSemanticIds_session s.xso (s.client i)
  rw [hr] at hsame
  rw [createSemanticIds_snd] at hr
  rcases createLocalspace_spec s.xso (createSharedSemanticIds s.xso (s.client i)).2 with
    ⟨-, heq⟩ | ⟨k, htakes, hgrows, hgrows'⟩
  · rw [heq] at hr
    obtain ⟨rfl, rfl⟩ := Prod.mk.inj hr
    refine ⟨h.sameOwners (fun j => withSpaces_sameOwner hsame hlocal hfloor j) (fun _ _ hk => hk)
      (fun _ _ hk => hk), fun _ _ _ hk _ => hk, fun _ _ _ hk _ => hk⟩
  · rw [hr] at htakes hgrows hgrows'
    rw [hsession.clientState] at hgrows hgrows'
    rcases hfits with hfull | ⟨hnot, hfloorFits⟩
    · have := hfull k; rw [htakes.free] at this; cases this
    · exact ⟨h.takes hi hsame hfloor htakes hnot hfloorFits hgrows hgrows',
        fun _ m e hm _ => hgrows.kept m e hm, fun _ m e hm _ => hgrows'.kept m e hm⟩

theorem spaceDestroy_inBounds (h : SpaceInv s) {spaceId : UInt32} (hfits : DestroyFits s.xso (s.client i) spaceId) :
    ∃ r, handleSpaceCall s.xso (s.client i) (.destroy spaceId) = .ok r := by
  simp only [handleSpaceCall, ipcHandleSpaceDestroy]
  rcases hval : validateSpaceId (s.client i) spaceId with xret | ⟨id, xs⟩
  · exact ⟨_, rfl⟩
  obtain ⟨hlocal, -⟩ := hfits id xs hval
  obtain ⟨l, hl⟩ : ∃ l, releaseIfLocal .localspace s.xso.localspace (spaceId == (s.client i).localSpaceIndex)
      (s.client i).localSpaceOverseerIndex = .ok l :=
    releaseIfLocal_inBounds fun heq => (hlocal (beq_iff_eq.1 heq)).1
  obtain ⟨l', hl'⟩ : ∃ l, releaseIfLocal .localfloorspace s.xso.localfloorspace
      (spaceId == (s.client i).localFloorSpaceIndex) (s.client i).localFloorSpaceOverseerIndex = .ok l :=
    releaseIfLocal_inBounds fun _ => h.floorIndex i
  simp only [hl, hl']
  exact ⟨_, rfl⟩

theorem spaceDestroy_inv (h : SpaceInv s) {spaceId : UInt32} (hfits : DestroyFits s.xso (s.client i) spaceId)
    (hr : handleSpaceCall s.xso (s.client i) (.destroy spaceId) = .ok (xso, ics)) :
    SpaceInv (withSpaces s i xso ics) ∧
      KeepsOthers s.xso.localspace xso.localspace (s.client i).clientState.id ∧
      KeepsOthers s.xso.localfloorspace xso.localfloorspace (s.client i).clientState.id := by
  obtain ⟨r, hr⟩ := handleSpaceCall_destroy hr
  have hkeeps : ∀ {tbl : SpaceTable}, KeepsOthers tbl tbl (s.client i).clientState.id := fun _ _ hk _ => hk
  rcases ipcHandleSpaceDestroy_cases hr with ⟨rfl, rfl⟩ | ⟨id, xs, hval, rfl, rfl⟩
  · exact ⟨h.sameOwners (fun j => withSpaces_sameOwner (.refl _) rfl rfl j) (fun _ _ hk => hk) (fun _ _ hk => hk),
      hkeeps, hkeeps⟩
  obtain ⟨hlocal, hfloor⟩ := hfits id xs hval
  have hsame : ∀ xspcs, SameSession (s.client i) { s.client i with xspcs := xspcs } := fun _ => ⟨rfl, rfl, rfl, rfl, rfl⟩
  refine ⟨h.sameOwners (fun j => withSpaces_sameOwner (hsame (Function.update _ id none)) rfl rfl j) ?_ ?_, ?_, ?_⟩
  · show Shrinks _ (if _ then _ else _)
    split
    · exact releaseEntry_shrinks _ _
    · exact fun _ _ hk => hk
  · show Shrinks _ (if _ then _ else _)
    split
    · exact releaseEntry_shrinks _ _
    · exact fun _ _ hk => hk
  · show KeepsOthers _ (if _ then _ else _) _
    split
    · rename_i heq; exact releaseEntry_keepsOthers (hlocal (beq_iff_eq.1 heq)).2
    · exact hkeeps
  · show KeepsOthers _ (if _ then _ else _) _
    split
    · rename_i heq; exact releaseEntry_keepsOthers (hfloor (beq_iff_eq.1 heq))
    · exact hkeeps

theorem shutDown_inv (h : SpaceInv s) (hfits : DisconnectFits s.xso (s.client i)) {now : UInt64}
    (hspec : ShutDown s s' i now) :
    SpaceInv s' ∧ KeepsOthers s.xso.localspace s'.xso.localspace (s.client i).clientState.id ∧
      KeepsOthers s.xso.localfloorspace s'.xso.localfloorspace (s.client i).clientState.id := by
  obtain ⟨hlocal, hfloor, hzero⟩ := hfits
  obtain ⟨cs, -, hself⟩ := hspec.self
  obtain ⟨cs', -, hclient⟩ := hspec.client_self
  have hdead : (s'.threads i).live = false := by rw [hself]; rfl
  have hgone : (s'.client i).connected = false := by rw [hclient]; rfl
  have hsame : ∀ j, j ≠ i → SameOwner s s' j := fun j hj => by
    obtain ⟨cs, -, hthread⟩ := hspec.other j hj
    obtain ⟨cs', hid, hother⟩ := hspec.client_other hj
    refine ⟨by rw [hthread]; rfl, by rw [hother]; rfl, by rw [hother]; exact hid, by rw [hother], by rw [hother]⟩
  have hlocalTable : s'.xso.localspace = releaseEntry s.xso.localspace (s.client i).localSpaceOverseerIndex := by
    rw [hspec.xso]; rfl
  have hfloorTable : s'.xso.localfloorspace =
      if 0 < (s.client i).localFloorSpaceOverseerIndex then
        releaseEntry s.xso.localfloorspace (s.client i).localFloorSpaceOverseerIndex
      else s.xso.localfloorspace := by rw [hspec.xso]; rfl
  refine ⟨⟨fun j hj => ?_, fun a b ha hb hab => ?_, fun j => ?_, ?_, ?_⟩, ?_, ?_⟩
  · by_cases hji : j = i
    · subst hji; rw [hdead] at hj; cases hj
    · rw [(hsame j hji).connected]; exact h.live j ((hsame j hji).live ▸ hj)
  · have hai : a ≠ i := fun hai => by rw [hai, hgone] at ha; cases ha
    have hbi : b ≠ i := fun hbi => by rw [hbi, hgone] at hb; cases hb
    rw [(hsame a hai).connected] at ha
    rw [(hsame b hbi).connected] at hb
    rw [(hsame a hai).id, (hsame b hbi).id] at hab
    exact h.ids a b ha hb hab
  · by_cases hji : j = i
    · subst hji; rw [hclient]; exact h.floorIndex j
    · rw [(hsame j hji).floorIndex]; exact h.floorIndex j
  · rw [hlocalTable]
    refine h.localspace.shrink (releaseEntry_shrinks _ _) fun k e j hk hc hindex => ?_
    have hji : j ≠ i := fun hji => (releaseEntry_spec hk).2 (hji ▸ hindex)
    exact ⟨(hsame j hji).createdFor hc, (hsame j hji).localIndex⟩
  · rw [hfloorTable]
    split
    · refine h.localfloorspace.shrink (releaseEntry_shrinks _ _) fun k e j hk hc hindex => ?_
      have hji : j ≠ i := fun hji => (releaseEntry_spec hk).2 (hji ▸ hindex)
      exact ⟨(hsame j hji).createdFor hc, (hsame j hji).floorIndex⟩
    · rename_i hnot
      refine h.localfloorspace.shrink (fun _ _ hk => hk) fun k e j hk hc hindex => ?_
      have hji : j ≠ i := fun hji => by
        -- the index is 0, where the client owns nothing
        have hnat : (s.client j).localFloorSpaceOverseerIndex.toNat = 0 := by
          rw [hji]
          exact Nat.eq_zero_of_not_pos fun hpos => hnot (UInt32.lt_iff_toNat_lt.2 hpos)
        have hk0 : k = 0 := Fin.ext (by rw [← hindex, hnat]; rfl)
        exact hzero e (hk0 ▸ hk) (by rw [← hji]; exact hc.2.symm)
      exact ⟨(hsame j hji).createdFor hc, (hsame j hji).floorIndex⟩
  · rw [hlocalTable]; exact releaseEntry_keepsOthers hlocal
  · rw [hfloorTable]
    split
    · rename_i hpos; exact releaseEntry_keepsOthers (hfloor hpos)
    · exact fun _ _ hk _ => hk

end

theorem connectAttempt_spaceInv (h : SpaceInv s) (ipcHandle : Int) (shmOk epollOk : Bool) :
    SpaceInv (connectAttempt s ipcHandle shmOk epollOk) := by
  by_cases hu : ∃ i, slotUsable s i
  · obtain ⟨i, hi⟩ := hu
    have hlive := step_liveConnected h.live (show step s (.connect ipcHandle shmOk epollOk) = some _ from rfl)
    rw [connectAttempt_taken hi] at hlive ⊢
    set s' := withClient s i ipcHandle (attemptThread (s.threads i) shmOk epollOk)
      (if shmOk then some .zero else s.isms i)
    have hdead : (s.threads i).live ≠ true := fun hl => by
      have := h.live i hl
      rw [freeSlot_spec hi.1] at this; cases this
    have hself : s'.client i = freshClient i (allocateIdLocked s).1 ipcHandle := withClient_client_self s i _ _ _
    have hother : ∀ j, j ≠ i → s'.client j = s.client j := fun j hj => withClient_client_ne s _ _ _ hj
    have hthread : ∀ j, j ≠ i → s'.threads j = s.threads j := fun j hj => withClient_threads_ne s _ _ _ hj
    have hfresh := (allocateIdLocked_fresh s).2
    have howned : ∀ {tbl index}, OwnedAt s tbl index → OwnedAt s' tbl index := fun ht =>
      ht.shrink (fun _ _ hk => hk) fun k e j _ hc _ => by
        have hji : j ≠ i := fun hji => hdead (hji ▸ hc.1)
        refine ⟨⟨?_, ?_⟩, by rw [hother j hji]⟩
        · rw [hthread j hji]; exact hc.1
        · rw [hother j hji]; exact hc.2
    refine ⟨hlive, fun a b ha hb hab => ?_, fun j => ?_, howned h.localspace, howned h.localfloorspace⟩
    · by_cases hai : a = i
      · by_cases hbi : b = i
        · rw [hai, hbi]
        · rw [hai, hself, hother b hbi] at hab
          exact absurd hab.symm (hfresh b)
      · by_cases hbi : b = i
        · rw [hbi, hself, hother a hai] at hab
          exact absurd hab (hfresh a)
        · rw [hother a hai] at ha hab
          rw [hother b hbi] at hb hab
          exact h.ids a b ha hb hab
    · by_cases hji : j = i
      · rw [hji, hself]
        show (0 : UInt32).toNat < XRT_MAX_CLIENT_SPACES
        decide
      · rw [hother j hji]; exact h.floorIndex j
  · rw [connectAttempt_refused (not_exists.1 hu)]
    exact h.sameOwners (fun _ => ⟨rfl, rfl, rfl, rfl, rfl⟩) (fun _ _ hk => hk) (fun _ _ hk => hk)

/-! ## Operations -/

theorem SameButFlags.sameOwner (h : SameButFlags s s') (j : Fin IPC_MAX_CLIENTS) : SameOwner s s' j := by
  obtain ⟨cs, hid, hthread⟩ := h.threads j
  obtain ⟨cs', hid', hclient⟩ := h.client j
  exact ⟨by rw [hthread]; rfl, by rw [hclient]; rfl, by rw [hclient]; exact hid', by rw [hclient], by rw [hclient]⟩

theorem resourceCall_sameOwner (h : SameSpaces (s.client i) ics) (j : Fin IPC_MAX_CLIENTS) :
    SameOwner s (s.setClient i ics) j := by
  have hslots := setClient_slots s i ics h.serverThreadIndex h.id
  refine ⟨by unfold IpcThread.live; rw [hslots.thread j],
    by unfold IpcClientState.connected; rw [hslots.index j], hslots.id j, ?_, ?_⟩
  · by_cases hj : j = i
    · subst hj; rw [IpcServer.client_setClient_self]; exact h.localSpaceOverseerIndex
    · rw [IpcServer.client_setClient_ne s ics hj]
  · by_cases hj : j = i
    · subst hj; rw [IpcServer.client_setClient_self]; exact h.localFloorSpaceOverseerIndex
    · rw [IpcServer.client_setClient_ne s ics hj]

theorem createOffset_same (ics : IpcClientState) (parentId : UInt32) (created : XrtSpace → Except XrtResult XrtSpace) :
    (ipcHandleSpaceCreateOffset ics parentId created).2 = ics ∨
      ∃ xs, (ipcHandleSpaceCreateOffset ics parentId created).2 = (trackSpace ics xs).2 := by
  unfold ipcHandleSpaceCreateOffset
  split
  · exact Or.inl rfl
  · split
    · exact Or.inl rfl
    · exact Or.inr ⟨_, rfl⟩

theorem createPose_same (ics : IpcClientState) (xdevId : UInt32) (created : XrtDevice → Except XrtResult XrtSpace) :
    (ipcHandleSpaceCreatePose ics xdevId created).2 = ics ∨
      ∃ xs, (ipcHandleSpaceCreatePose ics xdevId created).2 = (trackSpace ics xs).2 := by
  unfold ipcHandleSpaceCreatePose
  split
  · exact Or.inl rfl
  · split
    · exact Or.inl rfl
    · exact Or.inr ⟨_, rfl⟩

theorem tracked_sameOwner (h : ics = s.client i ∨ ∃ xs, ics = (trackSpace (s.client i) xs).2)
    (j : Fin IPC_MAX_CLIENTS) : SameOwner s (withSpaces s i s.xso ics) j := by
  rcases h with rfl | ⟨xs, rfl⟩
  · exact withSpaces_sameOwner (.refl _) rfl rfl j
  · obtain ⟨hlocal, hfloor⟩ := trackSpace_indices (s.client i) xs
    exact withSpaces_sameOwner (trackSpace_session _ _) hlocal hfloor j

theorem spaceCall_inv (h : SpaceInv s) (hi : (s.threads i).live = true) {c : SpaceCall}
    (hfits : SpaceFits s (.call i (.space c))) {xso : XrtSpaceOverseer}
    (hr : handleSpaceCall s.xso (s.client i) c = .ok (xso, ics)) :
    SpaceInv (withSpaces s i xso ics) ∧
      KeepsOthers s.xso.localspace xso.localspace (s.client i).clientState.id ∧
      KeepsOthers s.xso.localfloorspace xso.localfloorspace (s.client i).clientState.id := by
  have tracked : ∀ {ics}, (ics = s.client i ∨ ∃ xs, ics = (trackSpace (s.client i) xs).2) →
      SpaceInv (withSpaces s i s.xso ics) := fun ht =>
    h.sameOwners (fun j => tracked_sameOwner ht j) (fun _ _ hk => hk) (fun _ _ hk => hk)
  cases c with
  | createSemanticIds =>
    obtain ⟨hinv, hlocal, hfloor⟩ := createSemanticIds_inv h hi (hfits hi) (Except.ok.inj hr)
    exact ⟨hinv, hlocal _, hfloor _⟩
  | createOffset parentId created =>
    obtain ⟨rfl, rfl⟩ := Prod.mk.inj (Except.ok.inj hr)
    exact ⟨tracked (createOffset_same _ _ _), fun _ _ hk _ => hk, fun _ _ hk _ => hk⟩
  | createPose xdevId created =>
    obtain ⟨rfl, rfl⟩ := Prod.mk.inj (Except.ok.inj hr)
    exact ⟨tracked (createPose_same _ _ _), fun _ _ hk _ => hk, fun _ _ hk _ => hk⟩
  | destroy spaceId => exact spaceDestroy_inv h (hfits hi) hr

theorem step_spaceInv (h : SpaceInv s) (hfits : SpaceFits s op) (hs : step s op = some s') :
    SpaceInv s' ∧ ((s'.xso.localspace = s.xso.localspace ∧ s'.xso.localfloorspace = s.xso.localfloorspace) ∨
      ∃ i, op.actor = some i ∧ (s.threads i).live = true ∧
        KeepsOthers s.xso.localspace s'.xso.localspace (s.client i).clientState.id ∧
        KeepsOthers s.xso.localfloorspace s'.xso.localfloorspace (s.client i).clientState.id) := by
  have flags : ∀ {t}, SameButFlags s t → SpaceInv t ∧ ((t.xso.localspace = s.xso.localspace ∧
      t.xso.localfloorspace = s.xso.localfloorspace)) := fun ht =>
    ⟨h.sameOwners (fun j => ht.sameOwner j) (fun _ _ hk => by rwa [ht.xso] at hk)
      (fun _ _ hk => by rwa [ht.xso] at hk), by rw [ht.xso], by rw [ht.xso]⟩
  cases op with
  | connect ipcHandle shmOk epollOk =>
    obtain rfl := Option.some.inj hs
    refine ⟨connectAttempt_spaceInv h ipcHandle shmOk epollOk, Or.inl ?_⟩
    by_cases hu : ∃ i, slotUsable s i
    · obtain ⟨i, hi⟩ := hu
      rw [connectAttempt_taken hi]; exact ⟨rfl, rfl⟩
    · rw [connectAttempt_refused (not_exists.1 hu)]; exact ⟨rfl, rfl⟩
  | disconnect i now =>
    simp only [step] at hs
    split at hs
    · rename_i hlive
      obtain rfl := Option.some.inj hs
      obtain ⟨hinv, hlocal, hfloor⟩ := shutDown_inv h (hfits hlive) (commonShutdown_spec s i now)
      exact ⟨hinv, Or.inr ⟨i, rfl, hlive, hlocal, hfloor⟩⟩
    · cases hs
  | call i call =>
    simp only [step] at hs
    split at hs
    · rename_i hlive
      rcases hc : handleCall s i call with f | s''
      · rw [hc] at hs; cases hs
      rw [hc] at hs
      obtain rfl : s'' = s' := Option.some.inj hs
      rcases handleCall_cases hc with ⟨c, r, ics, rfl, hcall, rfl⟩ | ⟨c, xso, ics, rfl, hcall, rfl⟩ | ⟨-, hsame⟩
      · exact ⟨h.sameOwners (fun j => resourceCall_sameOwner (resourceCall_spaces hcall) j) (fun _ _ hk => hk)
          (fun _ _ hk => hk), Or.inl ⟨rfl, rfl⟩⟩
      · obtain ⟨hinv, hlocal, hfloor⟩ := spaceCall_inv h hlive hfits hcall
        exact ⟨hinv, Or.inr ⟨i, rfl, hlive, hlocal, hfloor⟩⟩
      · exact ⟨(flags hsame).1, Or.inl (flags hsame).2⟩
    · cases hs
  | updateState =>
    obtain rfl := Option.some.inj hs
    have hsame := flags (updateServerStateLocked_same s)
    exact ⟨hsame.1, Or.inl hsame.2⟩

theorem spacesKept_of_fits (h : SpaceInv s) (hfits : SpaceFits s op) : SpacesKept s op := by
  refine ⟨?_, fun s' hs => ?_⟩
  · rintro i c rfl hlive
    cases c with
    | createSemanticIds => exact ⟨_, rfl⟩
    | createOffset parentId created => exact ⟨_, rfl⟩
    | createPose xdevId created => exact ⟨_, rfl⟩
    | destroy spaceId => exact spaceDestroy_inBounds h (hfits hlive)
  · obtain ⟨h', ⟨hlocal, hfloor⟩ | ⟨i, hactor, hlive, hlocal, hfloor⟩⟩ := step_spaceInv h hfits hs
    · refine ⟨fun j k e _ hk _ => by rw [hlocal]; exact hk, fun j k e _ hk _ => by rw [hfloor]; exact hk, ?_⟩
      exact h'.empty
    · exact h.isolated h' hactor hlive hlocal hfloor

/-! ## Runs -/

theorem initServerState_spaceInv (semantic : SemanticSpaces) (perAppLocalSpaces : Bool) (nextSpace : XrtSpace)
    (exitOnDisconnect exitWhenIdle : Bool) :
    SpaceInv (initServerState (.fresh semantic perAppLocalSpaces nextSpace) exitOnDisconnect exitWhenIdle) :=
  ⟨fun _ h => (by cases h), fun _ _ h => (by cases h), fun _ => (show (0 : UInt32).toNat < 128 by decide),
    fun _ _ h => (by cases h), fun _ _ h => (by cases h)⟩

/-- In every run of operations that fit, each isolates the entries of the clients. -/
theorem localSpaces_of_run (semantic : SemanticSpaces) (perAppLocalSpaces : Bool) (nextSpace : XrtSpace)
    (exitOnDisconnect exitWhenIdle : Bool) (ops : List ServerOp)
    (hfits : Along step SpaceFits
      (initServerState (.fresh semantic perAppLocalSpaces nextSpace) exitOnDisconnect exitWhenIdle) ops) :
    Along step SpacesKept
      (initServerState (.fresh semantic perAppLocalSpaces nextSpace) exitOnDisconnect exitWhenIdle) ops :=
  along_of_inv (I := SpaceInv) (fun _ _ hinv hop => spacesKept_of_fits hinv hop)
    (fun _ _ _ hinv hop hs => (step_spaceInv hinv hop hs).1)
    (initServerState_spaceInv semantic perAppLocalSpaces nextSpace exitOnDisconnect exitWhenIdle) hfits

def tidyClient : List ServerOp :=
  [.connect 5 true true, .call 0 (.space .createSemanticIds), .call 0 (.space (.destroy 2)), .disconnect 0 7]

theorem localSpaces_of_tidyClient : Along step SpacesKept (initServerState .rootOnly false true) tidyClient := by
  refine localSpaces_of_run ⟨0, none, none, none, none, none⟩ true 1 false true tidyClient ?_
  refine ⟨trivial, fun _ => Or.inr ⟨?_, Or.inl ?_⟩, fun _ id xs _ => ⟨fun h => ?_, fun _ _ e he => ?_⟩,
    fun _ => ⟨fun _ e he => ?_, fun h => ?_, fun e he => ?_⟩, trivial⟩
  · rintro ⟨k, e, he, -⟩; cases he
  · rintro ⟨k, e, he, -⟩; cases he
  · exact absurd h (by decide)
  · cases he; rfl
  · cases he; rfl
  · exact absurd h (by decide)
  · cases he

/-- The local floor space of the first client has the index 0, and a disconnect leaves it behind. -/
theorem firstFloorSpace_not_kept :
    ¬ Along step SpacesKept (initServerState .rootOnly false true)
      [.connect 5 true true, .call 0 (.space .createSemanticIds), .disconnect 0 7] := by
  rintro ⟨-, -, hkept, -⟩
  have hempty := (hkept.isolated _ rfl).empty (by decide +kernel) 0
  cases hempty.2

end AugmentedInsanity.Ipc
