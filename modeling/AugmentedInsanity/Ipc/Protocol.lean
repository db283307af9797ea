/-
What client and server share (`ipc_protocol.h`): limits, the layer slots of the shared memory, the
state of an application. Tables that are indexed by numbers from the other side are read and written
through `readAt` and `writeAt`, where an index outside the table is a fault.
-/
import Mathlib.Algebra.GroupWithZero.Nat
import AugmentedInsanity.Lib.Tables
import AugmentedInsanity.Xrt.Defines

namespace AugmentedInsanity.Ipc

open Xrt

/-! ## Limits -/

abbrev IPC_MAX_SLOTS : ℕ := 128
abbrev IPC_MAX_CLIENTS : ℕ := 32
abbrev IPC_MAX_LAYERS : ℕ := XRT_MAX_LAYERS
abbrev IPC_MAX_CLIENT_SEMAPHORES : ℕ := 8
abbrev IPC_MAX_CLIENT_SWAPCHAINS : ℕ := XRT_MAX_LAYERS * 2
abbrev IPC_MAX_CLIENT_SPACES : ℕ := 128
abbrev IPC_MAX_CLIENT_FUTURES : ℕ := 128
abbrev IPC_MAX_RAW_VIEWS : ℕ := 32

instance : NeZero IPC_MAX_CLIENTS := ⟨Nat.succ_ne_zero 31⟩
instance : NeZero IPC_MAX_CLIENT_SWAPCHAINS := ⟨Nat.succ_ne_zero 63⟩
instance : NeZero (XRT_MAX_VIEWS * 2) := ⟨Nat.succ_ne_zero 3⟩

abbrev UINT32_MAX : UInt32 := 0xFFFFFFFF
abbrev INT_MAX : ℕ := 2147483647

/-! ## Faults -/

inductive Table
  | slots
  | layers
  | swapchainIds
  | layerSwapchains
  | xdevs
  | xtracks
  | xscs
  | swapchainData
  | xcsems
  | xfts
  | xspcs
  | localspace
  | localfloorspace
  | refSpaceUsed
  | deviceFeatureUsed
  | importImages
  | hmdFovs
  | replyViews
  deriving DecidableEq

/-- What C leaves undefined, and a failed `assert`. -/
inductive Fault
  | outOfBounds (table : Table) (index : ℕ)
  | nullDeref
  | uninitialised
  | assertFailed
  deriving DecidableEq

section
variable {n : ℕ} {α : Type*}

def readAt (table : Table) (tbl : Fin n → α) (index : ℕ) : Except Fault α :=
  if h : index < n then .ok (tbl ⟨index, h⟩) else .error (.outOfBounds table index)

def writeAt (table : Table) (tbl : Fin n → α) (index : ℕ) (a : α) : Except Fault (Fin n → α) :=
  if h : index < n then .ok (Function.update tbl ⟨index, h⟩ a) else .error (.outOfBounds table index)

variable {tbl : Fin n → α} {table : Table} {index : ℕ}

theorem readAt_of_lt (h : index < n) : readAt table tbl index = .ok (tbl ⟨index, h⟩) := dif_pos h

theorem readAt_of_ge (h : ¬ index < n) : readAt table tbl index = .error (.outOfBounds table index) := dif_neg h

theorem writeAt_of_lt {a : α} (h : index < n) :
    writeAt table tbl index a = .ok (Function.update tbl ⟨index, h⟩ a) := dif_pos h

theorem writeAt_of_ge {a : α} (h : ¬ index < n) :
    writeAt table tbl index a = .error (.outOfBounds table index) := dif_neg h

end

/-! ## Staying in the tables -/

section
variable {n : ℕ} {α β : Type} {r : Except Fault α} {tbl : Fin n → α} {table : Table} {index : ℕ}

def InTables (r : Except Fault α) : Prop := ∀ table index, r ≠ .error (.outOfBounds table index)

@[simp] theorem inTables_ok (a : α) : InTables (.ok a : Except Fault α) := fun _ _ h => by cases h

@[simp] theorem inTables_error {f : Fault} :
    InTables (.error f : Except Fault α) ↔ ∀ table index, f ≠ .outOfBounds table index := by
  simp [InTables]

@[simp] theorem inTables_map {f : α → β} : InTables (r.map f) ↔ InTables r := by
  rcases r with _ | _
  · simp [Except.map]
  · simp [Except.map]

@[simp] theorem inTables_ite {c : Prop} [Decidable c] {a : α} :
    InTables (if c then .ok a else r) ↔ (¬ c → InTables r) := by
  by_cases h : c
  · simp [h]
  · simp [h]

theorem inTables_bind {f : α → Except Fault β} : InTables (r >>= f) ↔ InTables r ∧ ∀ a, r = .ok a → InTables (f a) := by
  rcases r with e | a
  · simp [bind, Except.bind]
  · simp [bind, Except.bind]

@[simp] theorem inTables_readAt : InTables (readAt table tbl index) ↔ index < n := by
  by_cases h : index < n
  · rw [readAt_of_lt h]; simp [h]
  · rw [readAt_of_ge h]; simp [h]

@[simp] theorem inTables_writeAt {a : α} : InTables (writeAt table tbl index a) ↔ index < n := by
  by_cases h : index < n
  · rw [writeAt_of_lt h]; simp [h]
  · rw [writeAt_of_ge h]; simp [h]

theorem readAt_error {f : Fault} (h : readAt table tbl index = .error f) : f = .outOfBounds table index := by
  by_cases hlt : index < n
  · rw [readAt_of_lt hlt] at h; cases h
  · rw [readAt_of_ge hlt] at h; exact (Except.error.inj h).symm

end

/-! ## Shared memory -/

structure IpcLayerEntry where
  xdevId : UInt32
  swapchainIds : Fin (XRT_MAX_VIEWS * 2) → UInt32
  data : XrtLayerData
  deriving DecidableEq

structure IpcLayerSlot where
  data : XrtLayerFrameData
  layerCount : UInt32
  layers : Fin IPC_MAX_LAYERS → IpcLayerEntry
  deriving DecidableEq

/-- `struct ipc_shared_memory`: the layer slots, which the client writes. -/
structure IpcSharedMemory where
  slots : Fin IPC_MAX_SLOTS → IpcLayerSlot

def IpcLayerEntry.zero : IpcLayerEntry := ⟨0, fun _ => 0, ⟨.projection, 0, []⟩⟩
def IpcLayerSlot.zero : IpcLayerSlot := ⟨⟨0, 0, 0⟩, 0, fun _ => .zero⟩
def IpcSharedMemory.zero : IpcSharedMemory := ⟨fun _ => .zero⟩

/-! ## Application state -/

structure IpcClientIoBlocks where
  blockPoses : Bool
  blockHandTracking : Bool
  blockInputs : Bool
  blockOutputs : Bool
  deriving DecidableEq

structure IpcAppState where
  id : UInt32
  primaryApplication : Bool
  sessionActive : Bool
  sessionVisible : Bool
  sessionFocused : Bool
  sessionOverlay : Bool
  ioBlocks : IpcClientIoBlocks
  zOrder : UInt32
  deriving DecidableEq

def IpcAppState.zero : IpcAppState := ⟨0, false, false, false, false, false, ⟨false, false, false, false⟩, 0⟩

end AugmentedInsanity.Ipc
