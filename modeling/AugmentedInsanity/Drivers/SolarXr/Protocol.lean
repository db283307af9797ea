/-
The parser of the SolarXR protocol (`protocol.c`): tables, which give the places of their fields, and vectors, each
found through an offset from a reference to it. A reference that lies in the packet leads to tables and vectors that
do; of one reference, that of a display name, the parser does not check that it does (`readPacket_ok_iff`).
-/
import AugmentedInsanity.Lib.BoundedReads
import AugmentedInsanity.Lib.LittleEndian

namespace AugmentedInsanity.Drivers.SolarXr

open LittleEndian BoundedReads

/-! ## Flatbuffers

Pointers into the packet are positions in it. -/

def readU8 (buffer : List UInt8) (pos : ℕ) : ReadM UInt8 := do
  let bytes ← bytesAt buffer pos 1
  return bytes.headD 0

def readU16 (buffer : List UInt8) (pos : ℕ) : ReadM ℕ := do
  let bytes ← bytesAt buffer pos 2
  return ofBytes bytes

def readU32 (buffer : List UInt8) (pos : ℕ) : ReadM ℕ := do
  let bytes ← bytesAt buffer pos 4
  return ofBytes bytes

/-- `read_flatbuffers_uoffset`. In a buffer of less than four bytes the bound of the assertion lies in front of the
buffer, so it fails. -/
def readFlatbuffersUoffset (buffer : List UInt8) (ref size : ℕ) : ReadM (Option ℕ) := do
  assert (ref + 4 ≤ buffer.length)
  let offset ← readU32 buffer ref
  let capacity := buffer.length - ref
  if capacity < size ∨ offset = 0 ∨ offset > capacity - size ∨ offset % 4 ≠ 0 then return none
  else return some (ref + offset)

/-- `struct table_data` with the places of the fields, 0 for a field that is absent. -/
structure TableData where
  length : ℕ
  data : ℕ
  vtable : List ℕ
  deriving DecidableEq

def TableData.empty (vtableCap : ℕ) : TableData := ⟨0, 0, List.replicate vtableCap 0⟩

def TableData.field (table : TableData) (i : ℕ) : ℕ := table.vtable.getD i 0

/-- `-(int32_t)le32toh(…)`, which wraps. -/
def negSoffset (soffset : ℕ) : Int :=
  if soffset < 2147483648 then -soffset
  else if soffset = 2147483648 then -2147483648
  else 4294967296 - soffset

/-- The loop of `read_flatbuffers_table` over the first entries. -/
def readVtable (buffer : List UInt8) (tableSize : ℕ) : ℕ → ℕ → ReadM (List ℕ)
  | 0, _ => return []
  | n + 1, pos => do
    let offset ← readU16 buffer pos
    let offsets ← readVtable buffer tableSize n (pos + 2)
    return (if offset < tableSize then offset else 0) :: offsets

def readFlatbuffersTable (buffer : List UInt8) (ref vtableCap : ℕ) : ReadM TableData := do
  match ← readFlatbuffersUoffset buffer ref 4 with
  | none => return .empty vtableCap
  | some table =>
    let soffset ← readU32 buffer table
    let vtableOffset := negSoffset soffset
    if vtableOffset < -table ∨ vtableOffset > buffer.length - 4 - table then return .empty vtableCap
    else
      let vtable := (table + vtableOffset).toNat
      let vtableSize ← readU16 buffer vtable
      let tableSize ← readU16 buffer (vtable + 2)
      if vtableSize < 4 ∨ vtableSize > buffer.length - vtable ∨ vtableSize % 2 ≠ 0 ∨ tableSize < 4 ∨
          tableSize > buffer.length - table then return .empty vtableCap
      else
        let offsets ← readVtable buffer tableSize (min ((vtableSize - 4) / 2) vtableCap) (vtable + 4)
        return ⟨tableSize, table, offsets ++ List.replicate (vtableCap - offsets.length) 0⟩

structure FlatbuffersVector where
  length : ℕ
  data : ℕ
  deriving DecidableEq

def readFlatbuffersVector (buffer : List UInt8) (ref elementSize : ℕ) : ReadM FlatbuffersVector := do
  match ← readFlatbuffersUoffset buffer ref 4 with
  | none => return ⟨0, 0⟩
  | some vector =>
    let length ← readU32 buffer vector
    if length > (buffer.length - (vector + 4)) / elementSize then return ⟨0, 0⟩
    else return ⟨length, vector + 4⟩

/-! ## Fields -/

def TableData.HasRef (table : TableData) (i : ℕ) : Prop := table.field i ≠ 0 ∧ table.field i + 4 ≤ table.length

instance (table : TableData) (i : ℕ) : Decidable (table.HasRef i) := inferInstanceAs (Decidable (_ ∧ _))

def readByteField (buffer : List UInt8) (table : TableData) (i : ℕ) : ReadM UInt8 :=
  if table.field i ≠ 0 then readU8 buffer (table.data + table.field i) else return 0

/-- A vector of references, empty when the field is absent. -/
def readVectorField (buffer : List UInt8) (table : TableData) (i : ℕ) : ReadM FlatbuffersVector :=
  if table.HasRef i then readFlatbuffersVector buffer (table.data + table.field i) 4 else return ⟨0, 0⟩

/-- A field of `size` bytes that are copied, nothing when it is absent or not in the table. -/
def readBytesField (buffer : List UInt8) (table : TableData) (i size : ℕ) : ReadM (Option (List UInt8)) :=
  if table.field i = 0 ∨ table.field i + size > table.length then return none
  else do
    let bytes ← bytesAt buffer (table.data + table.field i) size
    return some bytes

def readSolarxrQuat (buffer : List UInt8) (table : TableData) (i : ℕ) : ReadM (Option (List UInt8)) :=
  readBytesField buffer table i 16

def readSolarxrVec3f (buffer : List UInt8) (table : TableData) (i : ℕ) : ReadM (Option (List UInt8)) :=
  readBytesField buffer table i 12

/-! ## Messages

A function gives `none` where the one of the source returns false. -/

structure MessageBundle where
  dataFeedMsgs : FlatbuffersVector
  rpcMsgs : FlatbuffersVector

def readSolarxrMessageBundle (buffer : List UInt8) (ref : ℕ) : ReadM (Option MessageBundle) := do
  let bundle ← readFlatbuffersTable buffer ref 2
  if bundle.length = 0 then return none
  else
    let dataFeedMsgs ← readVectorField buffer bundle 0
    let rpcMsgs ← readVectorField buffer bundle 1
    return some ⟨dataFeedMsgs, rpcMsgs⟩

structure DataFeedUpdate where
  devices : FlatbuffersVector
  syntheticTrackers : FlatbuffersVector
  bones : FlatbuffersVector

def DataFeedUpdate.empty : DataFeedUpdate := ⟨⟨0, 0⟩, ⟨0, 0⟩, ⟨0, 0⟩⟩

structure DataFeedMessageHeader where
  messageType : UInt8
  dataFeedUpdate : DataFeedUpdate

abbrev SOLARXR_DATA_FEED_MESSAGE_DATA_FEED_UPDATE : UInt8 := 3

/-- The case of an update in `read_solarxr_data_feed_message_header`. -/
def readDataFeedUpdate (buffer : List UInt8) (ref : ℕ) : ReadM DataFeedUpdate := do
  let update ← readFlatbuffersTable buffer ref 3
  if update.length = 0 then return .empty
  else
    let devices ← readVectorField buffer update 0
    let syntheticTrackers ← readVectorField buffer update 1
    let bones ← readVectorField buffer update 2
    return ⟨devices, syntheticTrackers, bones⟩

def readSolarxrDataFeedMessageHeader (buffer : List UInt8) (ref : ℕ) : ReadM (Option DataFeedMessageHeader) := do
  let header ← readFlatbuffersTable buffer ref 2
  if header.length = 0 then return none
  else if header.field 0 = 0 ∨ ¬ header.HasRef 1 then return some ⟨0, .empty⟩
  else
    let messageType ← readU8 buffer (header.data + header.field 0)
    if messageType = SOLARXR_DATA_FEED_MESSAGE_DATA_FEED_UPDATE then
      let update ← readDataFeedUpdate buffer (header.data + header.field 1)
      return some ⟨messageType, update⟩
    else return some ⟨messageType, .empty⟩

structure SteamvrTrackersSetting where
  waist : Bool
  chest : Bool
  leftFoot : Bool
  rightFoot : Bool
  leftKnee : Bool
  rightKnee : Bool
  leftElbow : Bool
  rightElbow : Bool
  leftHand : Bool
  rightHand : Bool

def SteamvrTrackersSetting.empty : SteamvrTrackersSetting :=
  ⟨false, false, false, false, false, false, false, false, false, false⟩

structure RpcMessageHeader where
  messageType : UInt8
  steamVrTrackers : SteamvrTrackersSetting

abbrev SOLARXR_RPC_MESSAGE_TYPE_SETTINGS_RESPONSE : UInt8 := 7

def readBoolField (buffer : List UInt8) (table : TableData) (i : ℕ) : ReadM Bool := do
  let byte ← readByteField buffer table i
  return byte ≠ 0

def readSteamvrTrackers (buffer : List UInt8) (ref : ℕ) : ReadM SteamvrTrackersSetting := do
  let trackers ← readFlatbuffersTable buffer ref 15
  if trackers.length = 0 then return .empty
  else
    let waist ← readBoolField buffer trackers 0
    let chest ← readBoolField buffer trackers 1
    let leftFoot ← readBoolField buffer trackers 7
    let rightFoot ← readBoolField buffer trackers 8
    let leftKnee ← readBoolField buffer trackers 9
    let rightKnee ← readBoolField buffer trackers 10
    let leftElbow ← readBoolField buffer trackers 11
    let rightElbow ← readBoolField buffer trackers 12
    let leftHand ← readBoolField buffer trackers 13
    let rightHand ← readBoolField buffer trackers 14
    return ⟨waist, chest, leftFoot, rightFoot, leftKnee, rightKnee, leftElbow, rightElbow, leftHand, rightHand⟩

/-- The case of a settings response in `read_solarxr_rpc_message_header`. -/
def readSettingsResponse (buffer : List UInt8) (ref : ℕ) : ReadM SteamvrTrackersSetting := do
  let message ← readFlatbuffersTable buffer ref 1
  if message.length = 0 ∨ ¬ message.HasRef 0 then return .empty
  else readSteamvrTrackers buffer (message.data + message.field 0)

def readSolarxrRpcMessageHeader (buffer : List UInt8) (ref : ℕ) : ReadM (Option RpcMessageHeader) := do
  let header ← readFlatbuffersTable buffer ref 3
  if header.length = 0 then return none
  else if header.field 1 = 0 ∨ ¬ header.HasRef 2 then return some ⟨0, .empty⟩
  else
    let messageType ← readU8 buffer (header.data + header.field 1)
    if messageType = SOLARXR_RPC_MESSAGE_TYPE_SETTINGS_RESPONSE then
      let trackers ← readSettingsResponse buffer (header.data + header.field 2)
      return some ⟨messageType, trackers⟩
    else return some ⟨messageType, .empty⟩

structure DeviceData where
  id : UInt8
  trackers : FlatbuffersVector

def readSolarxrDeviceData (buffer : List UInt8) (ref : ℕ) : ReadM (Option DeviceData) := do
  let data ← readFlatbuffersTable buffer ref 5
  if data.length = 0 then return none
  else
    let id ← readByteField buffer data 0
    let trackers ← readVectorField buffer data 4
    return some ⟨id, trackers⟩

structure TrackerId where
  hasDeviceId : Bool
  deviceId : UInt8
  trackerNum : UInt8

structure TrackerInfo where
  bodyPart : UInt8
  displayName : FlatbuffersVector

structure TrackerData where
  trackerId : TrackerId
  info : Option TrackerInfo
  rotation : Option (List UInt8)
  position : Option (List UInt8)
  rawAngularVelocity : Option (List UInt8)
  linearAcceleration : Option (List UInt8)

def readTrackerId (buffer : List UInt8) (data : TableData) : ReadM TrackerId :=
  if data.HasRef 0 then do
    let id ← readFlatbuffersTable buffer (data.data + data.field 0) 2
    let deviceId ← readByteField buffer id 0
    let trackerNum ← readByteField buffer id 1
    return ⟨id.field 0 ≠ 0, deviceId, trackerNum⟩
  else return ⟨false, 0, 0⟩

/-- The display name of a tracker; that its reference fits into the table is not checked. -/
def readDisplayName (buffer : List UInt8) (info : TableData) : ReadM FlatbuffersVector :=
  if info.field 7 ≠ 0 then readFlatbuffersVector buffer (info.data + info.field 7) 1 else return ⟨0, 0⟩

def readTrackerInfo (buffer : List UInt8) (data : TableData) : ReadM (Option TrackerInfo) :=
  if data.HasRef 1 then do
    let info ← readFlatbuffersTable buffer (data.data + data.field 1) 8
    let bodyPart ← readByteField buffer info 1
    let displayName ← readDisplayName buffer info
    return some ⟨bodyPart, displayName⟩
  else return none

def readSolarxrTrackerData (buffer : List UInt8) (ref : ℕ) : ReadM (Option TrackerData) := do
  let data ← readFlatbuffersTable buffer ref 9
  if data.length = 0 then return none
  else
    let trackerId ← readTrackerId buffer data
    let info ← readTrackerInfo buffer data
    let rotation ← readSolarxrQuat buffer data 3
    let position ← readSolarxrVec3f buffer data 4
    let rawAngularVelocity ← readSolarxrVec3f buffer data 5
    let linearAcceleration ← readSolarxrVec3f buffer data 8
    return some ⟨trackerId, info, rotation, position, rawAngularVelocity, linearAcceleration⟩

structure SolarxrBone where
  bodyPart : UInt8
  rotationG : Option (List UInt8)
  boneLength : Option (List UInt8)
  headPositionG : Option (List UInt8)

def readSolarxrBone (buffer : List UInt8) (ref : ℕ) : ReadM (Option SolarxrBone) := do
  let bone ← readFlatbuffersTable buffer ref 4
  if bone.length = 0 then return none
  else
    let bodyPart ← readByteField buffer bone 0
    let rotationG ← readSolarxrQuat buffer bone 1
    let boneLength ← readBytesField buffer bone 2 4
    let headPositionG ← readSolarxrVec3f buffer bone 3
    return some ⟨bodyPart, rotationG, boneLength, headPositionG⟩

/-! ## Packets -/

/-- Reading a tracker, and the characters of its name. -/
def readTracker (buffer : List UInt8) (ref : ℕ) : ReadM Unit := do
  match ← readSolarxrTrackerData buffer ref with
  | none => return ()
  | some data =>
    match data.info with
    | none => return ()
    | some info =>
      let _ ← bytesAt buffer info.displayName.data info.displayName.length
      return ()

/-- `solarxr_device_handle_trackers`. -/
def readTrackers (buffer : List UInt8) (trackers : FlatbuffersVector) : ReadM Unit :=
  forEach trackers.length fun i => readTracker buffer (trackers.data + 4 * i)

def readDevice (buffer : List UInt8) (ref : ℕ) : ReadM Unit := do
  match ← readSolarxrDeviceData buffer ref with
  | none => return ()
  | some data => readTrackers buffer data.trackers

def readBone (buffer : List UInt8) (ref : ℕ) : ReadM Unit := do
  let _ ← readSolarxrBone buffer ref
  return ()

section
variable (buffer : List UInt8) (rawTrackers : Bool)

/-- The trackers of the devices or the synthetic ones, as the option for raw trackers has it. -/
def readUpdate (update : DataFeedUpdate) : ReadM Unit :=
  if rawTrackers then forEach update.devices.length fun j => readDevice buffer (update.devices.data + 4 * j)
  else readTrackers buffer update.syntheticTrackers

/-- One round over the data feed messages, with the bones of the last update that had any. -/
def readDataFeedMsg (ref : ℕ) (bones : FlatbuffersVector) : ReadM FlatbuffersVector := do
  match ← readSolarxrDataFeedMessageHeader buffer ref with
  | none => return bones
  | some header =>
    if header.messageType ≠ SOLARXR_DATA_FEED_MESSAGE_DATA_FEED_UPDATE then return bones
    else
      readUpdate buffer rawTrackers header.dataFeedUpdate
      return if header.dataFeedUpdate.bones.length ≠ 0 then header.dataFeedUpdate.bones else bones

def readRpcMsg (buffer : List UInt8) (ref : ℕ) : ReadM Unit := do
  let _ ← readSolarxrRpcMessageHeader buffer ref
  return ()

def readBundle (bundle : MessageBundle) : ReadM Unit := do
  forEach bundle.rpcMsgs.length fun i => readRpcMsg buffer (bundle.rpcMsgs.data + 4 * i)
  -- every round reads the first of the data feed messages
  let bones ← rounds bundle.dataFeedMsgs.length (readDataFeedMsg buffer rawTrackers bundle.dataFeedMsgs.data) ⟨0, 0⟩
  forEach bones.length fun i => readBone buffer (bones.data + 4 * i)

/-- What `solarxr_network_thread` reads of a packet. -/
def readPacket : ReadM Unit := do
  match ← readSolarxrMessageBundle buffer 0 with
  | none => return ()
  | some bundle => readBundle buffer rawTrackers bundle

end

/-! ## What is asked -/

/-- The display name of a tracker info table: absent, or its reference is in the packet. -/
def NameInPacket (buffer : List UInt8) (info : TableData) : Prop :=
  info.field 7 ≠ 0 → info.data + info.field 7 + 4 ≤ buffer.length

/-- The display name of the tracker that is referred to from `ref`, if there is one with an info table. -/
def TrackerNameInPacket (buffer : List UInt8) (ref : ℕ) : Prop :=
  ∀ data info, readFlatbuffersTable buffer ref 9 = .ok data → data.length ≠ 0 → data.HasRef 1 →
    readFlatbuffersTable buffer (data.data + data.field 1) 8 = .ok info → NameInPacket buffer info

def TrackersNamed (buffer : List UInt8) (trackers : FlatbuffersVector) : Prop :=
  ∀ i < trackers.length, TrackerNameInPacket buffer (trackers.data + 4 * i)

/-- The trackers of an update have names in the packet: with raw trackers those of its devices, else the synthetic
ones. -/
def UpdateNamed (buffer : List UInt8) (rawTrackers : Bool) (update : DataFeedUpdate) : Prop :=
  if rawTrackers then
    ∀ i < update.devices.length, ∀ data,
      readSolarxrDeviceData buffer (update.devices.data + 4 * i) = .ok (some data) → TrackersNamed buffer data.trackers
  else TrackersNamed buffer update.syntheticTrackers

/-- If the message that is referred to from `ref` is an update, its trackers have names in the packet. -/
def MsgNamed (buffer : List UInt8) (rawTrackers : Bool) (ref : ℕ) : Prop :=
  ∀ header, readSolarxrDataFeedMessageHeader buffer ref = .ok (some header) →
    header.messageType = SOLARXR_DATA_FEED_MESSAGE_DATA_FEED_UPDATE → UpdateNamed buffer rawTrackers header.dataFeedUpdate

/-- The trackers of the first data feed message have names in the packet. -/
def NamesInPacket (buffer : List UInt8) (rawTrackers : Bool) : Prop :=
  ∀ bundle, readSolarxrMessageBundle buffer 0 = .ok (some bundle) → bundle.dataFeedMsgs.length ≠ 0 →
    MsgNamed buffer rawTrackers bundle.dataFeedMsgs.data

/-! ## Tables and vectors are in the packet -/

variable {buffer : List UInt8}

theorem readU8_ok {pos : ℕ} (h : pos + 1 ≤ buffer.length) : Ok (readU8 buffer pos) (fun _ => True) :=
  .bind (.bytesAt h) fun _ _ _ => .pure trivial

theorem readU16_ok {pos : ℕ} (h : pos + 2 ≤ buffer.length) : Ok (readU16 buffer pos) (fun _ => True) :=
  .bind (.bytesAt h) fun _ _ _ => .pure trivial

theorem readU32_ok {pos : ℕ} (h : pos + 4 ≤ buffer.length) : Ok (readU32 buffer pos) (fun _ => True) :=
  .bind (.bytesAt h) fun _ _ _ => .pure trivial

theorem readFlatbuffersUoffset_ok {ref : ℕ} (h : ref + 4 ≤ buffer.length) (size : ℕ) :
    Ok (readFlatbuffersUoffset buffer ref size) (fun target => ∀ pos, target = some pos → pos + size ≤ buffer.length) := by
  unfold readFlatbuffersUoffset
  refine .bind (.assert h) fun _ _ _ => .bind (readU32_ok h) fun offset _ _ => ?_
  dsimp only
  split
  · exact .pure (by rintro pos ⟨⟩)
  · next hoffset =>
    refine .pure ?_
    rintro pos ⟨⟩
    omega

structure TableInside (buffer : List UInt8) (table : TableData) : Prop where
  inside : table.data + table.length ≤ buffer.length
  field : ∀ i, table.field i ≠ 0 → table.field i < table.length

theorem tableInside_empty (vtableCap : ℕ) : TableInside buffer (.empty vtableCap) where
  inside := Nat.zero_le _
  field := fun i hi => by
    refine absurd ?_ hi
    unfold TableData.field TableData.empty
    rw [List.getD_eq_getElem?_getD, List.getElem?_replicate]
    split <;> rfl

theorem readVtable_ok (tableSize : ℕ) {n pos : ℕ} (h : pos + 2 * n ≤ buffer.length) :
    Ok (readVtable buffer tableSize n pos) (fun offsets => ∀ offset ∈ offsets, offset ≠ 0 → offset < tableSize) := by
  induction n generalizing pos with
  | zero => exact .pure (by rintro offset ⟨⟩)
  | succ n ih =>
    unfold readVtable
    refine .bind (readU16_ok (by omega)) fun offset _ _ => .bind (ih (by omega)) fun offsets _ hoffsets => .pure ?_
    intro offset' hmem
    rcases List.mem_cons.1 hmem with rfl | hmem
    · split
      · next hlt => exact fun _ => hlt
      · intro hne
        exact absurd rfl hne
    · exact hoffsets offset' hmem

theorem readFlatbuffersTable_ok {ref : ℕ} (h : ref + 4 ≤ buffer.length) (vtableCap : ℕ) :
    Ok (readFlatbuffersTable buffer ref vtableCap) (TableInside buffer) := by
  have hempty : Ok (return .empty vtableCap) (TableInside buffer) := .pure (tableInside_empty vtableCap)
  unfold readFlatbuffersTable
  refine .bind (readFlatbuffersUoffset_ok h 4) fun target _ htarget => ?_
  cases target with
  | none => exact hempty
  | some table =>
    have htable := htarget table rfl
    refine .bind (readU32_ok htable) fun soffset _ _ => ?_
    dsimp only
    split
    · exact hempty
    · next hoffset =>
      -- the vtable starts in the packet, with room for its two sizes
      have hvtable : (table + negSoffset soffset).toNat + 4 ≤ buffer.length := by omega
      refine .bind (readU16_ok (by omega)) fun vtableSize _ _ => .bind (readU16_ok (by omega)) fun tableSize _ _ => ?_
      split
      · exact hempty
      · next hsizes =>
        have hentries : (table + negSoffset soffset).toNat + 4 + 2 * min ((vtableSize - 4) / 2) vtableCap ≤
            buffer.length := by
          omega
        refine .bind (readVtable_ok tableSize hentries) fun offsets _ hoffsets => .pure ⟨?_, fun i hi => ?_⟩
        · show table + tableSize ≤ buffer.length
          omega
        · unfold TableData.field at hi ⊢
          rw [List.getD_eq_getElem?_getD] at hi ⊢
          cases hfield : (offsets ++ List.replicate (vtableCap - offsets.length) 0)[i]? with
          | none =>
            rw [hfield] at hi
            exact absurd rfl hi
          | some offset =>
            rw [hfield] at hi
            rcases List.mem_append.1 (List.mem_of_getElem? hfield) with hmem | hmem
            · exact hoffsets offset hmem hi
            · exact absurd (List.eq_of_mem_replicate hmem) hi

def VectorInside (buffer : List UInt8) (elementSize : ℕ) (vector : FlatbuffersVector) : Prop :=
  vector.data + elementSize * vector.length ≤ buffer.length

theorem readFlatbuffersVector_ok {ref : ℕ} (h : ref + 4 ≤ buffer.length) {elementSize : ℕ} (hsize : 0 < elementSize) :
    Ok (readFlatbuffersVector buffer ref elementSize) (VectorInside buffer elementSize) := by
  have hempty : Ok (return ⟨0, 0⟩) (VectorInside buffer elementSize) := .pure (Nat.zero_le _)
  unfold readFlatbuffersVector
  refine .bind (readFlatbuffersUoffset_ok h 4) fun target _ htarget => ?_
  cases target with
  | none => exact hempty
  | some vector =>
    have hvector := htarget vector rfl
    refine .bind (readU32_ok hvector) fun length _ _ => ?_
    split
    · exact hempty
    · next hlength =>
      have hroom : elementSize * length ≤ buffer.length - (vector + 4) := by
        rw [Nat.mul_comm]
        exact (Nat.le_div_iff_mul_le hsize).mp (Nat.not_lt.mp hlength)
      refine .pure ?_
      show vector + 4 + elementSize * length ≤ buffer.length
      omega

theorem VectorInside.element {vector : FlatbuffersVector} (h : VectorInside buffer 4 vector) {i : ℕ}
    (hi : i < vector.length) : vector.data + 4 * i + 4 ≤ buffer.length := by
  unfold VectorInside at h
  omega

/-! ## Fields are in the packet -/

variable {table : TableData}

theorem TableInside.ref (h : TableInside buffer table) {i : ℕ} (hi : table.HasRef i) :
    table.data + table.field i + 4 ≤ buffer.length := by
  have hinside := h.inside
  have hfits := hi.2
  omega

theorem TableInside.byte (h : TableInside buffer table) {i : ℕ} (hi : table.field i ≠ 0) :
    table.data + table.field i + 1 ≤ buffer.length := by
  have hinside := h.inside
  have hlt := h.field i hi
  omega

theorem readByteField_ok (h : TableInside buffer table) (i : ℕ) : Ok (readByteField buffer table i) (fun _ => True) := by
  unfold readByteField
  split
  · next hi => exact readU8_ok (h.byte hi)
  · exact .pure trivial

theorem readBoolField_ok (h : TableInside buffer table) (i : ℕ) : Ok (readBoolField buffer table i) (fun _ => True) :=
  .bind (readByteField_ok h i) fun _ _ _ => .pure trivial

theorem readVectorField_ok (h : TableInside buffer table) (i : ℕ) :
    Ok (readVectorField buffer table i) (VectorInside buffer 4) := by
  unfold readVectorField
  split
  · next hi => exact readFlatbuffersVector_ok (h.ref hi) (by decide)
  · exact .pure (Nat.zero_le _)

theorem readBytesField_ok (h : TableInside buffer table) (i size : ℕ) :
    Ok (readBytesField buffer table i size) (fun _ => True) := by
  unfold readBytesField
  split
  · exact .pure trivial
  · next hi =>
    have hinside := h.inside
    exact .bind (.bytesAt (by omega)) fun _ _ _ => .pure trivial

/-! ## Messages are in the packet -/

section
variable {ref : ℕ} (h : ref + 4 ≤ buffer.length)
include h

structure BundleInside (buffer : List UInt8) (bundle : MessageBundle) : Prop where
  dataFeedMsgs : VectorInside buffer 4 bundle.dataFeedMsgs
  rpcMsgs : VectorInside buffer 4 bundle.rpcMsgs

theorem readSolarxrMessageBundle_ok :
    Ok (readSolarxrMessageBundle buffer ref) (fun out => ∀ bundle, out = some bundle → BundleInside buffer bundle) := by
  unfold readSolarxrMessageBundle
  refine .bind (readFlatbuffersTable_ok h 2) fun bundle _ hbundle => ?_
  split
  · exact .pure (by rintro bundle ⟨⟩)
  · refine .bind (readVectorField_ok hbundle 0) fun dataFeedMsgs _ hdataFeed => ?_
    refine .bind (readVectorField_ok hbundle 1) fun rpcMsgs _ hrpc => .pure ?_
    rintro bundle' ⟨⟩
    exact ⟨hdataFeed, hrpc⟩

structure UpdateInside (buffer : List UInt8) (update : DataFeedUpdate) : Prop where
  devices : VectorInside buffer 4 update.devices
  syntheticTrackers : VectorInside buffer 4 update.syntheticTrackers
  bones : VectorInside buffer 4 update.bones

omit h in
theorem updateInside_empty : UpdateInside buffer .empty := ⟨Nat.zero_le _, Nat.zero_le _, Nat.zero_le _⟩

theorem readDataFeedUpdate_ok : Ok (readDataFeedUpdate buffer ref) (UpdateInside buffer) := by
  unfold readDataFeedUpdate
  refine .bind (readFlatbuffersTable_ok h 3) fun update _ hupdate => ?_
  split
  · exact .pure updateInside_empty
  · refine .bind (readVectorField_ok hupdate 0) fun devices _ hdevices => ?_
    refine .bind (readVectorField_ok hupdate 1) fun syntheticTrackers _ htrackers => ?_
    exact .bind (readVectorField_ok hupdate 2) fun bones _ hbones => .pure ⟨hdevices, htrackers, hbones⟩

theorem readSolarxrDataFeedMessageHeader_ok :
    Ok (readSolarxrDataFeedMessageHeader buffer ref)
      (fun out => ∀ header, out = some header → UpdateInside buffer header.dataFeedUpdate) := by
  unfold readSolarxrDataFeedMessageHeader
  refine .bind (readFlatbuffersTable_ok h 2) fun table _ htable => ?_
  split
  · exact .pure (by rintro header ⟨⟩)
  · split
    · exact .pure (by rintro header ⟨⟩; exact updateInside_empty)
    · next hfields =>
      rw [not_or, not_not] at hfields
      refine .bind (readU8_ok (htable.byte hfields.1)) fun messageType _ _ => ?_
      split
      · refine .bind (readDataFeedUpdate_ok (htable.ref hfields.2)) fun update _ hupdate => .pure ?_
        rintro header ⟨⟩
        exact hupdate
      · exact .pure (by rintro header ⟨⟩; exact updateInside_empty)

theorem readSteamvrTrackers_ok : Ok (readSteamvrTrackers buffer ref) (fun _ => True) := by
  unfold readSteamvrTrackers
  refine .bind (readFlatbuffersTable_ok h 15) fun trackers _ htrackers => ?_
  have hbool := readBoolField_ok htrackers
  split
  · exact .pure trivial
  · exact .bind (hbool 0) fun _ _ _ => .bind (hbool 1) fun _ _ _ => .bind (hbool 7) fun _ _ _ =>
      .bind (hbool 8) fun _ _ _ => .bind (hbool 9) fun _ _ _ => .bind (hbool 10) fun _ _ _ =>
      .bind (hbool 11) fun _ _ _ => .bind (hbool 12) fun _ _ _ => .bind (hbool 13) fun _ _ _ =>
      .bind (hbool 14) fun _ _ _ => .pure trivial

theorem readSettingsResponse_ok : Ok (readSettingsResponse buffer ref) (fun _ => True) := by
  unfold readSettingsResponse
  refine .bind (readFlatbuffersTable_ok h 1) fun message _ hmessage => ?_
  split
  · exact .pure trivial
  · next hfield =>
    rw [not_or, not_not] at hfield
    exact readSteamvrTrackers_ok (hmessage.ref hfield.2)

theorem readSolarxrRpcMessageHeader_ok : Ok (readSolarxrRpcMessageHeader buffer ref) (fun _ => True) := by
  unfold readSolarxrRpcMessageHeader
  refine .bind (readFlatbuffersTable_ok h 3) fun table _ htable => ?_
  split
  · exact .pure trivial
  · split
    · exact .pure trivial
    · next hfields =>
      rw [not_or, not_not] at hfields
      refine .bind (readU8_ok (htable.byte hfields.1)) fun messageType _ _ => ?_
      split
      · exact .bind (readSettingsResponse_ok (htable.ref hfields.2)) fun _ _ _ => .pure trivial
      · exact .pure trivial

theorem readSolarxrDeviceData_ok :
    Ok (readSolarxrDeviceData buffer ref)
      (fun out => ∀ data, out = some data → VectorInside buffer 4 data.trackers) := by
  unfold readSolarxrDeviceData
  refine .bind (readFlatbuffersTable_ok h 5) fun data _ hdata => ?_
  split
  · exact .pure (by rintro data ⟨⟩)
  · refine .bind (readByteField_ok hdata 0) fun id _ _ => ?_
    refine .bind (readVectorField_ok hdata 4) fun trackers _ htrackers => .pure ?_
    rintro data' ⟨⟩
    exact htrackers

theorem readSolarxrBone_ok : Ok (readSolarxrBone buffer ref) (fun _ => True) := by
  unfold readSolarxrBone
  refine .bind (readFlatbuffersTable_ok h 4) fun bone _ hbone => ?_
  split
  · exact .pure trivial
  · refine .bind (readByteField_ok hbone 0) fun _ _ _ => .bind (readBytesField_ok hbone 1 16) fun _ _ _ => ?_
    exact .bind (readBytesField_ok hbone 2 4) fun _ _ _ => .bind (readBytesField_ok hbone 3 12) fun _ _ _ => .pure trivial

end

/-! ## Trackers -/

theorem readTrackerId_ok (h : TableInside buffer table) : Ok (readTrackerId buffer table) (fun _ => True) := by
  unfold readTrackerId
  split
  · next hid =>
    refine .bind (readFlatbuffersTable_ok (h.ref hid) 2) fun id _ htable => ?_
    exact .bind (readByteField_ok htable 0) fun _ _ _ => .bind (readByteField_ok htable 1) fun _ _ _ => .pure trivial
  · exact .pure trivial

theorem readDisplayName_ok {info : TableData} (hname : NameInPacket buffer info) :
    Ok (readDisplayName buffer info) (VectorInside buffer 1) := by
  unfold readDisplayName
  split
  · next hfield => exact readFlatbuffersVector_ok (hname hfield) (by decide)
  · exact .pure (Nat.zero_le _)

theorem readDisplayName_error {info : TableData} (hname : ¬ NameInPacket buffer info) :
    readDisplayName buffer info = .error .assertion := by
  obtain ⟨hfield, hout⟩ := Classical.not_imp.mp hname
  unfold readDisplayName readFlatbuffersVector readFlatbuffersUoffset BoundedReads.assert
  rw [if_pos hfield, if_neg hout]
  rfl

theorem readTrackerInfo_ok (h : TableInside buffer table)
    (hname : ∀ info, table.HasRef 1 → readFlatbuffersTable buffer (table.data + table.field 1) 8 = .ok info →
      NameInPacket buffer info) :
    Ok (readTrackerInfo buffer table)
      (fun out => ∀ info, out = some info → VectorInside buffer 1 info.displayName) := by
  unfold readTrackerInfo
  split
  · next hinfo =>
    refine .bind (readFlatbuffersTable_ok (h.ref hinfo) 8) fun info hread htable => ?_
    refine .bind (readByteField_ok htable 1) fun bodyPart _ _ => ?_
    refine .bind (readDisplayName_ok (hname info hinfo hread)) fun displayName _ hdisplayName => .pure ?_
    rintro info' ⟨⟩
    exact hdisplayName
  · exact .pure (by rintro info ⟨⟩)

theorem readSolarxrTrackerData_ok {ref : ℕ} (h : ref + 4 ≤ buffer.length) (hname : TrackerNameInPacket buffer ref) :
    Ok (readSolarxrTrackerData buffer ref) (fun out => ∀ data, out = some data → ∀ info, data.info = some info →
      VectorInside buffer 1 info.displayName) := by
  unfold readSolarxrTrackerData
  refine .bind (readFlatbuffersTable_ok h 9) fun data hread hdata => ?_
  split
  · exact .pure (by rintro data ⟨⟩)
  · next hlength =>
    refine .bind (readTrackerId_ok hdata) fun trackerId _ _ => ?_
    refine .bind (readTrackerInfo_ok hdata fun info hinfo => hname data info hread hlength hinfo) fun info _ hinfo => ?_
    refine .bind (readBytesField_ok hdata 3 16) fun _ _ _ => .bind (readBytesField_ok hdata 4 12) fun _ _ _ => ?_
    refine .bind (readBytesField_ok hdata 5 12) fun _ _ _ => .bind (readBytesField_ok hdata 8 12) fun _ _ _ => ?_
    refine .pure ?_
    rintro data' ⟨⟩
    exact hinfo

theorem readTracker_ok {ref : ℕ} (h : ref + 4 ≤ buffer.length) (hname : TrackerNameInPacket buffer ref) :
    readTracker buffer ref = .ok () := by
  have hok : Ok (readTracker buffer ref) (fun _ => True) := by
    unfold readTracker
    refine .bind (readSolarxrTrackerData_ok h hname) fun out _ hout => ?_
    cases out with
    | none => exact .pure trivial
    | some data =>
      cases hinfo : data.info with
      | none =>
        dsimp only
        rw [hinfo]
        exact .pure trivial
      | some info =>
        have hinside := hout data rfl info hinfo
        unfold VectorInside at hinside
        dsimp only
        rw [hinfo]
        exact .bind (.bytesAt (by omega)) fun _ _ _ => .pure trivial
  obtain ⟨⟨⟩, hread, -⟩ := hok
  exact hread

theorem named_of_readTracker {ref : ℕ} (h : readTracker buffer ref = .ok ()) : TrackerNameInPacket buffer ref := by
  intro data info hdata hlength hinfo hread
  by_contra hname
  obtain ⟨out, hout, -⟩ := bind_ok_iff.mp h
  obtain ⟨data', hdata', hout⟩ := bind_ok_iff.mp hout
  rw [hdata] at hdata'
  cases hdata'
  rw [if_neg hlength] at hout
  obtain ⟨_, _, hout⟩ := bind_ok_iff.mp hout
  obtain ⟨_, hinfo', -⟩ := bind_ok_iff.mp hout
  unfold readTrackerInfo at hinfo'
  rw [if_pos hinfo] at hinfo'
  obtain ⟨info', hread', hinfo'⟩ := bind_ok_iff.mp hinfo'
  rw [hread] at hread'
  cases hread'
  obtain ⟨_, _, hinfo'⟩ := bind_ok_iff.mp hinfo'
  obtain ⟨displayName, hdisplayName, -⟩ := bind_ok_iff.mp hinfo'
  rw [readDisplayName_error hname] at hdisplayName
  cases hdisplayName

/-! ## Packets -/

theorem readTrackers_ok_iff {trackers : FlatbuffersVector} (h : VectorInside buffer 4 trackers) :
    readTrackers buffer trackers = .ok () ↔ TrackersNamed buffer trackers := by
  unfold readTrackers
  rw [forEach_ok_iff]
  constructor
  · intro hread i hi
    exact named_of_readTracker (hread i hi)
  · intro hnamed i hi
    exact readTracker_ok (h.element hi) (hnamed i hi)

section
variable {ref : ℕ} (h : ref + 4 ≤ buffer.length)
include h

theorem readDevice_ok_iff :
    readDevice buffer ref = .ok () ↔
      ∀ data, readSolarxrDeviceData buffer ref = .ok (some data) → TrackersNamed buffer data.trackers := by
  obtain ⟨out, hread, hout⟩ := readSolarxrDeviceData_ok h
  unfold readDevice
  rw [hread]
  cases out with
  | none => exact iff_of_true rfl (by rintro data ⟨⟩)
  | some data =>
    have htrackers := readTrackers_ok_iff (hout data rfl)
    constructor
    · rintro hok data' ⟨⟩
      exact htrackers.mp hok
    · intro hnamed
      exact htrackers.mpr (hnamed data rfl)

theorem readBone_ok : readBone buffer ref = .ok () := by
  obtain ⟨out, hread, -⟩ := readSolarxrBone_ok h
  unfold readBone
  rw [hread]
  rfl

theorem readRpcMsg_ok : readRpcMsg buffer ref = .ok () := by
  obtain ⟨out, hread, -⟩ := readSolarxrRpcMessageHeader_ok h
  unfold readRpcMsg
  rw [hread]
  rfl

variable {rawTrackers : Bool}

omit h in
theorem readUpdate_ok_iff {update : DataFeedUpdate} (h : UpdateInside buffer update) :
    readUpdate buffer rawTrackers update = .ok () ↔ UpdateNamed buffer rawTrackers update := by
  unfold readUpdate UpdateNamed
  cases rawTrackers with
  | false => exact readTrackers_ok_iff h.syntheticTrackers
  | true => exact forEach_ok_iff.trans (forall₂_congr fun i hi => readDevice_ok_iff (h.devices.element hi))

theorem readDataFeedMsg_ok (hnamed : MsgNamed buffer rawTrackers ref) {bones : FlatbuffersVector}
    (hbones : VectorInside buffer 4 bones) :
    Ok (readDataFeedMsg buffer rawTrackers ref bones) (VectorInside buffer 4) := by
  unfold readDataFeedMsg
  refine .bind (readSolarxrDataFeedMessageHeader_ok h) fun out hread hout => ?_
  cases out with
  | none => exact .pure hbones
  | some header =>
    dsimp only
    split
    · exact .pure hbones
    · next htype =>
      have hinside := hout header rfl
      have hupdate : Ok (readUpdate buffer rawTrackers header.dataFeedUpdate) (fun _ => True) :=
        ⟨(), (readUpdate_ok_iff hinside).mpr (hnamed header hread (not_not.mp htype)), trivial⟩
      refine .bind hupdate fun _ _ _ => .pure ?_
      split
      · exact hinside.bones
      · exact hbones

theorem named_of_readDataFeedMsg {bones bones' : FlatbuffersVector}
    (hread : readDataFeedMsg buffer rawTrackers ref bones = .ok bones') : MsgNamed buffer rawTrackers ref := by
  intro header hheader htype
  obtain ⟨out, hout, hinside⟩ := readSolarxrDataFeedMessageHeader_ok h
  rw [hout, Except.ok.injEq] at hheader
  obtain ⟨out', hout', hread⟩ := bind_ok_iff.mp hread
  rw [hout, hheader] at hout'
  cases hout'
  dsimp only at hread
  rw [if_neg (not_not.mpr htype)] at hread
  obtain ⟨⟨⟩, hupdate, -⟩ := bind_ok_iff.mp hread
  exact (readUpdate_ok_iff (hinside header hheader)).mp hupdate

end

theorem readBundle_ok_iff {rawTrackers : Bool} {bundle : MessageBundle} (h : BundleInside buffer bundle) :
    readBundle buffer rawTrackers bundle = .ok () ↔
      (bundle.dataFeedMsgs.length ≠ 0 → MsgNamed buffer rawTrackers bundle.dataFeedMsgs.data) := by
  have hfirst : bundle.dataFeedMsgs.length ≠ 0 → bundle.dataFeedMsgs.data + 4 ≤ buffer.length := fun hne =>
    h.dataFeedMsgs.element (Nat.pos_of_ne_zero hne)
  unfold readBundle
  constructor
  · intro hok hne
    obtain ⟨⟨⟩, -, hok⟩ := bind_ok_iff.mp hok
    obtain ⟨bones, hrounds, -⟩ := bind_ok_iff.mp hok
    obtain ⟨n, hn⟩ := Nat.exists_eq_succ_of_ne_zero hne
    rw [hn] at hrounds
    obtain ⟨bones', hround, -⟩ := bind_ok_iff.mp hrounds
    exact named_of_readDataFeedMsg (hfirst hne) hround
  · intro hnamed
    have hrounds : Ok (rounds bundle.dataFeedMsgs.length
        (readDataFeedMsg buffer rawTrackers bundle.dataFeedMsgs.data) ⟨0, 0⟩) (VectorInside buffer 4) := by
      by_cases hne : bundle.dataFeedMsgs.length = 0
      · rw [hne]
        exact .pure (Nat.zero_le _)
      · exact .rounds (Nat.zero_le _) fun bones hbones => readDataFeedMsg_ok (hfirst hne) (hnamed hne) hbones
    obtain ⟨bones, hrounds, hbones⟩ := hrounds
    refine bind_ok_iff.mpr ⟨(), ?_, bind_ok_iff.mpr ⟨bones, hrounds, ?_⟩⟩
    · exact forEach_ok_iff.mpr fun i hi => readRpcMsg_ok (h.rpcMsgs.element hi)
    · exact forEach_ok_iff.mpr fun i hi => readBone_ok (hbones.element hi)

/-- A packet is read without an error exactly when it has at least four bytes and the names of the trackers that are
read are in it. -/
theorem readPacket_ok_iff (buffer : List UInt8) (rawTrackers : Bool) :
    readPacket buffer rawTrackers = .ok () ↔ 4 ≤ buffer.length ∧ NamesInPacket buffer rawTrackers := by
  by_cases hlength : 0 + 4 ≤ buffer.length
  · obtain ⟨out, hread, hout⟩ := readSolarxrMessageBundle_ok hlength
    unfold readPacket NamesInPacket
    rw [hread, and_iff_right (by omega)]
    cases out with
    | none => exact iff_of_true rfl (by rintro bundle ⟨⟩)
    | some bundle =>
      have hbundle : readBundle buffer rawTrackers bundle = .ok () ↔ _ := readBundle_ok_iff (hout bundle rfl)
      constructor
      · rintro hok bundle' ⟨⟩
        exact hbundle.mp hok
      · intro hnamed
        exact hbundle.mpr (hnamed bundle rfl)
  · -- the first assertion fails
    have herror : readPacket buffer rawTrackers = .error .assertion := by
      unfold readPacket readSolarxrMessageBundle readFlatbuffersTable readFlatbuffersUoffset BoundedReads.assert
      rw [if_neg hlength]
      rfl
    rw [herror]
    refine iff_of_false ?_ fun hok => ?_
    · rintro ⟨⟩
    · omega

/-- An update with one synthetic tracker. The table of its info is at the end of the packet, and has one byte behind
its first four, at which the vtable says that the reference to the display name is. -/
def nameAtEnd : List UInt8 :=
  [12, 0, 0, 0,
    -- the bundle
    6, 0, 8, 0, 4, 0, 0, 0, 8, 0, 0, 0, 4, 0, 0, 0, 1, 0, 0, 0, 12, 0, 0, 0,
    -- the message, with an update
    8, 0, 12, 0, 4, 0, 8, 0, 8, 0, 0, 0, 3, 0, 0, 0, 12, 0, 0, 0, 8, 0, 8, 0, 0, 0, 4, 0, 8, 0, 0, 0, 4, 0, 0, 0,
    -- the tracker
    1, 0, 0, 0, 4, 0, 0, 0, 24, 0, 0, 0, 24, 0, 0, 0,
    -- its info
    20, 0, 5, 0, 0, 0, 0, 0, 0, 0, 0, 0, 0, 0, 0, 0, 0, 0, 4, 0, 20, 0, 0, 0, 0]

theorem nameAtEnd_not_ok : readPacket nameAtEnd false ≠ .ok () := by
  decide +kernel

end AugmentedInsanity.Drivers.SolarXr
