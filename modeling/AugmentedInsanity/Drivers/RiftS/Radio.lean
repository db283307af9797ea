/-
The radio of the Rift S (`rift_s_radio.c`): commands are queued, sent one at a time, and completed by the replies that
are polled; reading a JSON block queues further commands from its own completion. Every command completes once, in
order and with its own reply, and a block that is read is whole, in every run whose replies are sound
(`radio_correct`).
-/
import AugmentedInsanity.Lib.LittleEndian
import AugmentedInsanity.Lib.Runs
import AugmentedInsanity.Lib.Tickets

namespace AugmentedInsanity.Drivers.RiftS

open LittleEndian Runs

/-! ## Commands -/

abbrev MAX_JSON_LEN : ℕ := 4096

/-- The room for the bytes of a command in `rift_s_hmd_radio_command_t`. -/
abbrev CMD_BYTES : ℕ := 52

/-- The size of `rift_s_hmd_radio_response_t`. -/
abbrev RADIO_RESPONSE_SIZE : ℕ := 200

/-- `rift_s_radio_json_read_state`; of the buffer, the bytes that are filled. -/
structure JsonReadState where
  deviceId : UInt64
  cb : Option ℕ
  curOffset : ℕ
  blockLen : ℕ
  data : List UInt8
  deriving DecidableEq

/-- The completion callback of a command with its data. The state of a read belongs to the one command that it waits
for. -/
inductive CompletionFn
  | null
  | other (cb : ℕ)
  | readJson (read : JsonReadState)
  deriving DecidableEq

structure RadioCommand where
  deviceId : UInt64
  cmdBytes : List UInt8
  cb : CompletionFn
  deriving DecidableEq

/-- What the completion callback of a command is told: the reply, which came while the command `sent` was the last one
to be sent, or that the radio has been cleared. -/
inductive Outcome
  | reply (responseBytes : List UInt8) (sent : Option ℕ)
  | cleared
  deriving DecidableEq

structure JsonCall where
  cb : ℕ
  deviceId : UInt64
  success : Bool
  data : List UInt8
  deriving DecidableEq

/-- `rift_s_radio_state`, with what has become of the commands that have left the queue, the command that was sent
last, and the calls that the readers of JSON blocks have got. -/
structure RadioState where
  commandResultPending : Bool
  lastRadioSeqnum : Int
  commands : Tickets RadioCommand Outcome
  /-- Whether `pending_commands_tail` is set. -/
  tail : Bool
  sent : Option ℕ
  jsonCalls : List JsonCall

def radioStateInit : RadioState := ⟨false, -1, .start, false, none, []⟩

/-! ## Queueing

A function gives `none` where an assertion fails. -/

def queueCommand (st : RadioState) (deviceId : UInt64) (cmdBytes : List UInt8) (cb : CompletionFn) : Option RadioState :=
  if cmdBytes.length ≤ CMD_BYTES ∧ (st.tail = true ∨ st.commands.waiting = []) then
    some { st with
      commands := st.commands.issue
        ⟨deviceId, cmdBytes ++ List.replicate (CMD_BYTES - cmdBytes.length) 0, cb⟩
      tail := true }
  else none

/-! ## JSON blocks -/

/-- The command to read `len` bytes from `offset` on. -/
def readCmd (offset len : ℕ) : List UInt8 :=
  [0x2b, 0x20, 0xe8, 0x03] ++ toBytes 4 offset ++ [UInt8.ofNat len, 0x00]

def getJsonBlock (st : RadioState) (deviceId : UInt64) (cb : Option ℕ) : Option RadioState :=
  queueCommand st deviceId (readCmd 0 0x20) (.readJson ⟨deviceId, cb, 0, 0, []⟩)

def endRead (st : RadioState) (read : JsonReadState) (success : Bool) : RadioState :=
  match read.cb with
  | none => st
  | some cb => { st with jsonCalls := st.jsonCalls ++ [⟨cb, read.deviceId, success, read.data⟩] }

/-- The end of `read_json_cb`: there is no more to read, or more is requested. -/
def requestMore (st : RadioState) (read : JsonReadState) : Option RadioState :=
  if read.data.length ≥ read.blockLen then some (endRead st read true)
  else
    let readLen := min 0x20 (read.blockLen - read.data.length)
    queueCommand st read.deviceId (readCmd read.curOffset readLen)
      (.readJson { read with curOffset := (read.curOffset + readLen) % 2 ^ 32 })

/-- `read_json_cb`, told success; what fails from here on is passed on as `success` too. -/
def readJsonCb (st : RadioState) (read : JsonReadState) (responseBytes : List UInt8) : Option RadioState :=
  if responseBytes.length < 5 then some (endRead st read true)
  else
    let replyLen := (responseBytes.getD 4 0).toNat
    let responseBytes := responseBytes.drop 5
    if read.curOffset = 0 then
      if replyLen < 4 then some (endRead st read true)
      else if ofBytes (responseBytes.take 2) ≠ 1 then some (endRead st read true)
      else
        let blockLen := ofBytes ((responseBytes.drop 2).take 2)
        if blockLen ≤ MAX_JSON_LEN then requestMore st { read with blockLen := blockLen, curOffset := 4 } else none
    else
      let replyLen := min replyLen (read.blockLen - read.data.length)
      requestMore st { read with data := read.data ++ responseBytes.take replyLen }

def complete (st : RadioState) (cb : CompletionFn) (responseBytes : List UInt8) : Option RadioState :=
  match cb with
  | .null => some st
  | .other _ => some st
  | .readJson read => readJsonCb st read responseBytes

def fail (st : RadioState) (cb : CompletionFn) : RadioState :=
  match cb with
  | .null => st
  | .other _ => st
  | .readJson read => endRead st read false

/-! ## Updating -/

/-- What one read of the response report gives: the bytes that are delivered, none when the read fails, and what the
busy flag is in memory that a reply of two bytes does not reach. -/
structure HidReply where
  bytes : List UInt8
  busyInMemory : UInt8
  bytes_le : bytes.length ≤ RADIO_RESPONSE_SIZE

def HidReply.seqnum (reply : HidReply) : Int := (reply.bytes.getD 1 0).toNat

def HidReply.busyFlag (reply : HidReply) : UInt8 := reply.bytes.getD 2 reply.busyInMemory

def HidReply.responseBytes (reply : HidReply) : List UInt8 := reply.bytes.drop 3

/-- The first part of the loop of `rift_s_radio_update`. -/
def sendIfIdle (st : RadioState) : RadioState :=
  if st.commandResultPending then st
  else
    match st.commands.waiting with
    | [] => st
    | (ticket, _) :: _ => { st with commandResultPending := true, sent := some ticket }

def takeReply (st : RadioState) (reply : HidReply) : Option RadioState :=
  if 3 < reply.bytes.length then
    match st.commands.waiting with
    | [] => none
    | (ticket, cmd) :: rest =>
      complete
        { st with
          lastRadioSeqnum := reply.seqnum
          commandResultPending := false
          commands := st.commands.serve ticket rest (.reply reply.responseBytes st.sent)
          tail := !rest.isEmpty }
        cmd.cb reply.responseBytes
  else none

/-- `rift_s_radio_update`, with the replies that its reads give; after these, a read fails. -/
def radioUpdate : List HidReply → RadioState → Option RadioState
  | [], st => some (sendIfIdle st)
  | reply :: replies, st =>
    let st := sendIfIdle st
    if !st.commandResultPending then some st
    else if reply.bytes.length < 2 then some st
    else if reply.busyFlag ≠ 0 then some { st with lastRadioSeqnum := reply.seqnum }
    else if reply.seqnum = st.lastRadioSeqnum then some st
    else
      match takeReply st reply with
      | none => none
      | some st => radioUpdate replies st

/-- `rift_s_radio_state_clear`; whether a result is pending stays. -/
def radioStateClear (st : RadioState) : RadioState :=
  { st.commands.waiting.foldl (fun st cmd => fail st cmd.2.cb) st with
    commands := st.commands.serveAll .cleared
    tail := false }

/-! ## Runs -/

inductive RadioOp
  | queueCommand (deviceId : UInt64) (cmdBytes : List UInt8) (cb : Option ℕ)
  | getJsonBlock (deviceId : UInt64) (cb : Option ℕ)
  | update (replies : List HidReply)
  | clear

def radioStep (st : RadioState) : RadioOp → Option RadioState
  | .queueCommand deviceId cmdBytes none => queueCommand st deviceId cmdBytes .null
  | .queueCommand deviceId cmdBytes (some cb) => queueCommand st deviceId cmdBytes (.other cb)
  | .getJsonBlock deviceId cb => getJsonBlock st deviceId cb
  | .update replies => radioUpdate replies st
  | .clear => some (radioStateClear st)

/-! ## What is asked -/

/-- What the memory of a device holds at `n` offsets from `offset` on. -/
def slice (file : ℕ → UInt8) (offset n : ℕ) : List UInt8 := (List.range n).map fun i => file (offset + i)

/-- The length of a block, from the header in front of it. -/
def blockLenOf (file : ℕ → UInt8) : ℕ := ofBytes (slice file 2 2)

def blockOf (file : ℕ → UInt8) : List UInt8 := slice file 4 (blockLenOf file)

/-- Of the devices with the blocks in `file`: each command completes once and in order, with the reply that came while
it was the command sent last, or when the radio is cleared; and who reads a block is told success with the block. -/
structure RadioCorrect (file : UInt64 → ℕ → UInt8) (st : RadioState) : Prop where
  inOrder : st.commands.InOrder
  own : ∀ ticket responseBytes sent, (ticket, Outcome.reply responseBytes sent) ∈ st.commands.served →
    sent = some ticket
  json : ∀ call ∈ st.jsonCalls, call.success = true → call.data = blockOf (file call.deviceId)

/-- The offset and the length that a command asks for. -/
def RadioCommand.offset (cmd : RadioCommand) : ℕ := ofBytes ((cmd.cmdBytes.drop 4).take 4)

def RadioCommand.len (cmd : RadioCommand) : ℕ := (cmd.cmdBytes.getD 8 0).toNat

/-- The reply to the command of a read is not too short, and its payload is there in the length that it claims and is
what the device holds where the command asks. The payload of the first reply is a header of the right type, of a block
that is not too long; a later one delivers what was asked for, and more only where there is no more to read. -/
structure JsonReplySound (file : ℕ → UInt8) (cmd : RadioCommand) (read : JsonReadState) (responseBytes : List UInt8) :
    Prop where
  length : 5 ≤ responseBytes.length
  truthful : (responseBytes.drop 5).take (responseBytes.getD 4 0).toNat =
    slice file cmd.offset (responseBytes.getD 4 0).toNat
  header : read.curOffset = 0 →
    4 ≤ (responseBytes.getD 4 0).toNat ∧ ofBytes (slice file 0 2) = 1 ∧ blockLenOf file ≤ MAX_JSON_LEN
  delivers : read.curOffset ≠ 0 →
    min (responseBytes.getD 4 0).toNat (read.blockLen - read.data.length) = cmd.len

/-- A reply that completes a command has more than three bytes, and the command that was sent is still in the queue:
the radio has not been cleared since. -/
structure ReplySound (file : UInt64 → ℕ → UInt8) (st : RadioState) (reply : HidReply) : Prop where
  length : 3 < reply.bytes.length
  waits : ∃ ticket, st.sent = some ticket ∧ ticket ∈ st.commands.waiting.map Prod.fst
  json : ∀ ticket cmd rest read, st.commands.waiting = (ticket, cmd) :: rest → cmd.cb = .readJson read →
    JsonReplySound (file cmd.deviceId) cmd read reply.responseBytes

/-- The replies of an update that complete commands are sound. -/
def UpdateSound (file : UInt64 → ℕ → UInt8) : List HidReply → RadioState → Prop
  | [], _ => True
  | reply :: replies, st =>
    let st := sendIfIdle st
    st.commandResultPending = true → 2 ≤ reply.bytes.length → reply.busyFlag = 0 → reply.seqnum ≠ st.lastRadioSeqnum →
      ReplySound file st reply ∧ ∀ st', takeReply st reply = some st' → UpdateSound file replies st'

def OpSound (file : UInt64 → ℕ → UInt8) (st : RadioState) : RadioOp → Prop
  | .queueCommand _ cmdBytes _ => cmdBytes.length ≤ CMD_BYTES
  | .getJsonBlock _ _ => True
  | .update replies => UpdateSound file replies st
  | .clear => True

/-! ## Slices of a memory -/

section
variable (file : ℕ → UInt8) (offset n m : ℕ)

@[simp] theorem length_slice : (slice file offset n).length = n := by
  rw [slice, List.length_map, List.length_range]

theorem slice_append : slice file offset n ++ slice file (offset + n) m = slice file offset (n + m) := by
  unfold slice
  rw [List.range_add, List.map_append, List.map_map]
  simp [Function.comp_def, Nat.add_assoc]

theorem take_slice (h : m ≤ n) : (slice file offset n).take m = slice file offset m := by
  obtain ⟨k, rfl⟩ := Nat.exists_eq_add_of_le h
  rw [← slice_append, List.take_left' (length_slice file offset m)]

theorem drop_slice (h : m ≤ n) : (slice file offset n).drop m = slice file (offset + m) (n - m) := by
  obtain ⟨k, rfl⟩ := Nat.exists_eq_add_of_le h
  rw [← slice_append, List.drop_left' (length_slice file offset m), Nat.add_sub_cancel_left]

end

/-! ## Commands that read -/

theorem length_readCmd (offset len : ℕ) : (readCmd offset len).length = 10 := by
  simp [readCmd]

theorem offset_readCmd {offset : ℕ} (h : offset < 256 ^ 4) (len : ℕ) (deviceId : UInt64) (pad : List UInt8)
    (cb : CompletionFn) : (RadioCommand.mk deviceId (readCmd offset len ++ pad) cb).offset = offset := by
  have hbytes : (((readCmd offset len) ++ pad).drop 4).take 4 = toBytes 4 offset := by
    have hdrop : (readCmd offset len ++ pad).drop 4 = toBytes 4 offset ++ ([UInt8.ofNat len, 0] ++ pad) := by
      simp [readCmd]
    rw [hdrop, List.take_left' (length_toBytes 4 offset)]
  unfold RadioCommand.offset
  rw [hbytes, ofBytes_toBytes h]

theorem len_readCmd {len : ℕ} (h : len < 256) (offset : ℕ) (deviceId : UInt64) (pad : List UInt8) (cb : CompletionFn) :
    (RadioCommand.mk deviceId (readCmd offset len ++ pad) cb).len = len := by
  have hbyte : ((readCmd offset len) ++ pad).getD 8 0 = UInt8.ofNat len := by
    simp [readCmd, toBytes]
  unfold RadioCommand.len
  rw [hbyte, UInt8.toNat_ofNat', Nat.mod_eq_of_lt h]

inductive ReadSound (file : ℕ → UInt8) (cmd : RadioCommand) (read : JsonReadState) : Prop
  | header : read.deviceId = cmd.deviceId → cmd.offset = 0 → read.curOffset = 0 → read.data = [] →
      ReadSound file cmd read
  | block : read.deviceId = cmd.deviceId → cmd.offset = 4 + read.data.length →
      cmd.len = min 0x20 (read.blockLen - read.data.length) → read.curOffset = 4 + read.data.length + cmd.len →
      read.data = slice file 4 read.data.length → read.data.length < read.blockLen →
      read.blockLen = blockLenOf file → read.blockLen ≤ MAX_JSON_LEN → ReadSound file cmd read

/-! ## The invariant -/

structure RadioInv (file : UInt64 → ℕ → UInt8) (st : RadioState) : Prop extends RadioCorrect file st where
  tail : st.tail = !st.commands.waiting.isEmpty
  sentIssued : ∀ ticket, st.sent = some ticket → ticket < st.commands.issued
  front : ∀ ticket, st.commandResultPending = true → st.sent = some ticket →
    ticket ∈ st.commands.waiting.map Prod.fst → (st.commands.waiting.map Prod.fst).head? = some ticket
  reads : ∀ w ∈ st.commands.waiting, ∀ read, w.2.cb = .readJson read → ReadSound (file w.2.deviceId) w.2 read

variable {file : UInt64 → ℕ → UInt8} {st : RadioState}

theorem radioInv_init : RadioInv file radioStateInit where
  inOrder := Tickets.inOrder_start
  own := by rintro ticket responseBytes sent ⟨⟩
  json := by rintro call ⟨⟩
  tail := rfl
  sentIssued := by rintro ticket ⟨⟩
  front := by rintro ticket ⟨⟩
  reads := by rintro w ⟨⟩

theorem queueCommand_spec (h : RadioInv file st) {deviceId : UInt64} {cmdBytes : List UInt8} {cb : CompletionFn}
    (hlen : cmdBytes.length ≤ CMD_BYTES)
    (hread : ∀ read, cb = .readJson read →
      ReadSound (file deviceId) ⟨deviceId, cmdBytes ++ List.replicate (CMD_BYTES - cmdBytes.length) 0, cb⟩ read) :
    ∃ st', queueCommand st deviceId cmdBytes cb = some st' ∧ RadioInv file st' := by
  have htail : st.tail = true ∨ st.commands.waiting = [] := by
    rw [h.tail]
    cases st.commands.waiting with
    | nil => exact .inr rfl
    | cons w ws => exact .inl rfl
  refine ⟨_, if_pos ⟨hlen, htail⟩, ?_⟩
  exact {
    inOrder := h.inOrder.issue _
    own := h.own
    json := h.json
    tail := by simp [Tickets.issue]
    sentIssued := fun ticket hsent => Nat.lt_succ_of_lt (h.sentIssued ticket hsent)
    front := fun ticket hpending hsent hmem => by
      -- the new command has not been sent
      have hlt := h.sentIssued ticket hsent
      simp only [Tickets.issue, List.map_append, List.map_cons, List.map_nil, List.mem_append,
        List.mem_singleton] at hmem ⊢
      rcases hmem with hold | hnew
      · rw [List.head?_append, h.front ticket hpending hsent hold]
        rfl
      · omega
    reads := fun w hw read hcb => by
      rcases List.mem_append.1 hw with hold | hnew
      · exact h.reads w hold read hcb
      · cases List.mem_singleton.1 hnew
        exact hread read hcb }

variable {read : JsonReadState}

theorem RadioInv.endRead (h : RadioInv file st) {success : Bool}
    (hsuccess : success = true → read.data = blockOf (file read.deviceId)) :
    RadioInv file (endRead st read success) := by
  unfold RiftS.endRead
  cases read.cb with
  | none => exact h
  | some cb =>
    refine { h with json := fun call hcall hok => ?_ }
    rcases List.mem_append.1 hcall with hold | hnew
    · exact h.json call hold hok
    · cases List.mem_singleton.1 hnew
      exact hsuccess hok

theorem requestMore_spec (h : RadioInv file st) {f : ℕ → UInt8} (hf : file read.deviceId = f)
    (hoffset : read.curOffset = 4 + read.data.length) (hdata : read.data = slice f 4 read.data.length)
    (hle : read.data.length ≤ read.blockLen) (hlen : read.blockLen = blockLenOf f)
    (hmax : read.blockLen ≤ MAX_JSON_LEN) : ∃ st', requestMore st read = some st' ∧ RadioInv file st' := by
  have hshort : read.blockLen ≤ 4096 := hmax
  unfold requestMore
  split
  · next hall =>
    refine ⟨_, rfl, h.endRead fun _ => ?_⟩
    have hwhole : read.data.length = blockLenOf f := by omega
    rw [hf, hdata, hwhole]
    rfl
  · next hmore =>
    have hsmall : read.curOffset < 256 ^ 4 := by omega
    have hread : min 0x20 (read.blockLen - read.data.length) < 256 := by omega
    refine queueCommand_spec h (by rw [length_readCmd]; decide) fun read' hread' => ?_
    cases hread'
    subst hf
    have hlt : read.data.length < read.blockLen := by omega
    refine .block rfl ?_ ?_ ?_ hdata hlt hlen hmax
    · rw [offset_readCmd hsmall, hoffset]
    · rw [len_readCmd hread]
    · rw [len_readCmd hread]
      dsimp only
      omega

theorem JsonReplySound.payload {f : ℕ → UInt8} {cmd : RadioCommand} {bytes : List UInt8}
    (h : JsonReplySound f cmd read bytes) {n : ℕ} (hn : n ≤ (bytes.getD 4 0).toNat) :
    (bytes.drop 5).take n = slice f cmd.offset n := by
  have hsame := congrArg (List.take n) h.truthful
  rwa [List.take_take, Nat.min_eq_left hn, take_slice f _ _ _ hn] at hsame

theorem readJsonCb_spec (h : RadioInv file st) {cmd : RadioCommand} {bytes : List UInt8}
    (hread : ReadSound (file cmd.deviceId) cmd read) (hreply : JsonReplySound (file cmd.deviceId) cmd read bytes) :
    ∃ st', readJsonCb st read bytes = some st' ∧ RadioInv file st' := by
  unfold readJsonCb
  rw [if_neg (Nat.not_lt.mpr hreply.length)]
  cases hread with
  | header hdevice hoffset hcur hdata =>
    obtain ⟨hfour, htype, hmax⟩ := hreply.header hcur
    have hpayload := hreply.payload hfour
    rw [hoffset] at hpayload
    -- the type and the length are the first four bytes of the payload
    have htypeBytes : (bytes.drop 5).take 2 = slice (file cmd.deviceId) 0 2 := by
      have htake := congrArg (List.take 2) hpayload
      rwa [List.take_take, take_slice _ _ _ _ (by decide)] at htake
    have hlenBytes : ((bytes.drop 5).drop 2).take 2 = slice (file cmd.deviceId) 2 2 := by
      have hdrop := congrArg (List.drop 2) hpayload
      rwa [List.drop_take, drop_slice _ _ _ _ (by decide)] at hdrop
    dsimp only
    rw [if_pos hcur, if_neg (Nat.not_lt.mpr hfour), htypeBytes, hlenBytes, if_neg (not_not.mpr htype)]
    rw [if_pos (show ofBytes (slice (file cmd.deviceId) 2 2) ≤ MAX_JSON_LEN from hmax)]
    refine requestMore_spec h (congrArg file hdevice) ?_ ?_ ?_ rfl hmax
    · rw [hdata]
      rfl
    · rw [hdata]
      rfl
    · rw [hdata]
      exact Nat.zero_le _
  | block hdevice hoffset hlen hcur hdata hlt hblock hmax =>
    have hne : read.curOffset ≠ 0 := by omega
    have hdelivers := hreply.delivers hne
    have hle : cmd.len ≤ (bytes.getD 4 0).toNat := hdelivers ▸ Nat.min_le_left _ _
    have hpayload := hreply.payload hle
    have hdata' : read.data ++ (bytes.drop 5).take cmd.len =
        slice (file cmd.deviceId) 4 (read.data.length + cmd.len) := by
      rw [hpayload, hoffset, ← slice_append, ← hdata]
    have hlength : (read.data ++ (bytes.drop 5).take cmd.len).length = read.data.length + cmd.len := by
      rw [hdata', length_slice]
    dsimp only
    rw [if_neg hne, hdelivers]
    refine requestMore_spec h (congrArg file hdevice) ?_ ?_ ?_ hblock hmax
    · dsimp only
      omega
    · dsimp only
      rw [hlength]
      exact hdata'
    · dsimp only
      omega

theorem complete_spec (h : RadioInv file st) {cmd : RadioCommand} {bytes : List UInt8}
    (hsound : ∀ read, cmd.cb = .readJson read →
      ReadSound (file cmd.deviceId) cmd read ∧ JsonReplySound (file cmd.deviceId) cmd read bytes) :
    ∃ st', complete st cmd.cb bytes = some st' ∧ RadioInv file st' := by
  unfold complete
  cases hcb : cmd.cb with
  | null => exact ⟨st, rfl, h⟩
  | other _ => exact ⟨st, rfl, h⟩
  | readJson read =>
    obtain ⟨hread, hreply⟩ := hsound read hcb
    exact readJsonCb_spec h hread hreply

/-! ## Updates -/

theorem RadioInv.sendIfIdle (h : RadioInv file st) : RadioInv file (sendIfIdle st) := by
  unfold RiftS.sendIfIdle
  split
  · exact h
  · split
    · exact h
    · next ticket cmd rest hwaiting =>
      have hticket : ticket < st.commands.issued := by
        have hmem : ticket ∈ List.range st.commands.issued := by
          rw [← h.inOrder, hwaiting]
          simp
        exact List.mem_range.1 hmem
      exact { h with
        sentIssued := fun ticket' hsent => by
          cases hsent
          exact hticket
        front := fun ticket' _ hsent _ => by
          cases hsent
          rw [hwaiting]
          rfl }

theorem takeReply_spec (h : RadioInv file st) (hpending : st.commandResultPending = true) {reply : HidReply}
    (hreply : ReplySound file st reply) : ∃ st', takeReply st reply = some st' ∧ RadioInv file st' := by
  obtain ⟨sent, hsent, hmem⟩ := hreply.waits
  have hfront := h.front sent hpending hsent hmem
  unfold takeReply
  rw [if_pos hreply.length]
  cases hwaiting : st.commands.waiting with
  | nil =>
    rw [hwaiting] at hmem
    cases hmem
  | cons w rest =>
    obtain ⟨ticket, cmd⟩ := w
    rw [hwaiting, List.map_cons, List.head?_cons] at hfront
    cases hfront
    have hhead : (ticket, cmd) ∈ st.commands.waiting := by
      rw [hwaiting]
      exact List.mem_cons_self
    have hserved : RadioInv file { st with
        lastRadioSeqnum := reply.seqnum
        commandResultPending := false
        commands := st.commands.serve ticket rest (.reply reply.responseBytes st.sent)
        tail := !rest.isEmpty } := {
      inOrder := h.inOrder.serve hwaiting _
      own := fun ticket' responseBytes sent' hmem' => by
        rcases List.mem_append.1 hmem' with hold | hnew
        · exact h.own ticket' responseBytes sent' hold
        · cases List.mem_singleton.1 hnew
          exact hsent
      json := h.json
      tail := rfl
      sentIssued := h.sentIssued
      front := by rintro ticket' ⟨⟩
      reads := fun w hw => h.reads w (by rw [hwaiting]; exact List.mem_cons_of_mem _ hw) }
    exact complete_spec hserved fun read hcb =>
      ⟨h.reads _ hhead read hcb, hreply.json ticket cmd rest read hwaiting hcb⟩

theorem radioUpdate_spec (h : RadioInv file st) {replies : List HidReply} (hsound : UpdateSound file replies st) :
    ∃ st', radioUpdate replies st = some st' ∧ RadioInv file st' := by
  induction replies generalizing st with
  | nil => exact ⟨_, rfl, h.sendIfIdle⟩
  | cons reply replies ih =>
    have hsent := h.sendIfIdle
    rw [radioUpdate]
    cases hpending : (sendIfIdle st).commandResultPending with
    | false => exact ⟨_, rfl, hsent⟩
    | true =>
      simp only [Bool.not_true, Bool.false_eq_true, if_false]
      split
      · exact ⟨_, rfl, hsent⟩
      · next hlen =>
        split
        · exact ⟨_, rfl, { hsent with front := fun ticket _ => hsent.front ticket hpending }⟩
        · next hbusy =>
          split
          · exact ⟨_, rfl, hsent⟩
          · next hnew =>
            -- the reply is there
            obtain ⟨hreply, hrest⟩ := hsound hpending (Nat.not_lt.mp hlen) (not_not.mp hbusy) hnew
            obtain ⟨st', htake, hst'⟩ := takeReply_spec hsent hpending hreply
            rw [htake]
            exact ih hst' (hrest st' htake)

/-! ## Clearing -/

theorem foldl_fail (cmds : List (ℕ × RadioCommand)) (st : RadioState) :
    ∃ calls, cmds.foldl (fun st cmd => fail st cmd.2.cb) st = { st with jsonCalls := st.jsonCalls ++ calls } ∧
      ∀ call ∈ calls, call.success = false := by
  induction cmds generalizing st with
  | nil =>
    refine ⟨[], ?_, by rintro call ⟨⟩⟩
    rw [List.append_nil]
    rfl
  | cons cmd cmds ih =>
    have hfirst : ∃ calls, fail st cmd.2.cb = { st with jsonCalls := st.jsonCalls ++ calls } ∧
        ∀ call ∈ calls, call.success = false := by
      have hnone : ∃ calls, st = { st with jsonCalls := st.jsonCalls ++ calls } ∧
          ∀ call ∈ calls, call.success = false :=
        ⟨[], by rw [List.append_nil], by rintro call ⟨⟩⟩
      unfold fail
      split
      · exact hnone
      · exact hnone
      · next read _ =>
        unfold endRead
        split
        · exact hnone
        · exact ⟨[_], rfl, fun call hcall => by cases List.mem_singleton.1 hcall; rfl⟩
    obtain ⟨calls, hfail, hcalls⟩ := hfirst
    obtain ⟨calls', hrest, hcalls'⟩ := ih (fail st cmd.2.cb)
    refine ⟨calls ++ calls', ?_, fun call hcall => (List.mem_append.1 hcall).elim (hcalls call) (hcalls' call)⟩
    rw [List.foldl_cons, hrest, hfail, List.append_assoc]

theorem RadioInv.radioStateClear (h : RadioInv file st) : RadioInv file (radioStateClear st) := by
  obtain ⟨calls, hfold, hcalls⟩ := foldl_fail st.commands.waiting st
  unfold RiftS.radioStateClear
  rw [hfold]
  exact {
    inOrder := h.inOrder.serveAll _
    own := fun ticket responseBytes sent hmem => by
      rcases List.mem_append.1 hmem with hold | hnew
      · exact h.own ticket responseBytes sent hold
      · obtain ⟨w, -, hw⟩ := List.mem_map.1 hnew
        cases hw
    json := fun call hcall hok => by
      rcases List.mem_append.1 hcall with hold | hnew
      · exact h.json call hold hok
      · rw [hcalls call hnew] at hok
        cases hok
    tail := rfl
    sentIssued := h.sentIssued
    front := by rintro ticket - - ⟨⟩
    reads := by rintro w ⟨⟩ }

/-! ## Runs -/

theorem radioStep_spec (h : RadioInv file st) {op : RadioOp} (hop : OpSound file st op) :
    ∃ st', radioStep st op = some st' ∧ RadioInv file st' := by
  cases op with
  | queueCommand deviceId cmdBytes cb =>
    cases cb with
    | none => exact queueCommand_spec h hop (by rintro read ⟨⟩)
    | some cb => exact queueCommand_spec h hop (by rintro read ⟨⟩)
  | getJsonBlock deviceId cb =>
    refine queueCommand_spec h (by rw [length_readCmd]; decide) fun read hread => ?_
    cases hread
    refine .header rfl ?_ rfl rfl
    rw [offset_readCmd (by decide)]
  | update replies => exact radioUpdate_spec h hop
  | clear => exact ⟨_, rfl, h.radioStateClear⟩

/-- In a run whose replies are sound no assertion fails, every command completes once, in order and with its own
reply, and whoever reads a block is told success only with the block. -/
theorem radio_correct (file : UInt64 → ℕ → UInt8) (ops : List RadioOp)
    (h : Along radioStep (OpSound file) radioStateInit ops) :
    Along radioStep (fun st op => ∃ st', radioStep st op = some st' ∧ RadioCorrect file st') radioStateInit ops := by
  have hinit : RadioInv file radioStateInit := radioInv_init
  refine along_of_inv (fun st op hst hop => ?_) (fun st op st' hst hop hstep => ?_) hinit h
  · obtain ⟨st', hstep, hst'⟩ := radioStep_spec hst hop
    exact ⟨st', hstep, hst'.toRadioCorrect⟩
  · obtain ⟨st'', hstep', hst''⟩ := radioStep_spec hst hop
    rw [hstep] at hstep'
    cases hstep'
    exact hst''

/-! ## Running it -/

def oneByte : UInt64 → ℕ → UInt8 := fun _ offset => [1, 0, 1, 0, 5].getD offset 0

def headerReply : HidReply where
  bytes := [0x0b, 1, 0, 0, 0, 0, 0, 4, 1, 0, 1, 0]
  busyInMemory := 0
  bytes_le := by decide

def byteReply : HidReply where
  bytes := [0x0b, 2, 0, 0, 0, 0, 0, 1, 5]
  busyInMemory := 0
  bytes_le := by decide

def shortReply : HidReply where
  bytes := [0x0b, 1, 0, 0, 0, 0]
  busyInMemory := 0
  bytes_le := by decide

/-- The block is read in one update. -/
theorem oneByte_correct :
    Along radioStep (fun st op => ∃ st', radioStep st op = some st' ∧ RadioCorrect oneByte st') radioStateInit
      [.getJsonBlock 7 (some 0), .update [headerReply, byteReply]] := by
  refine radio_correct oneByte _ (along_cons.mpr ⟨trivial, fun st hst => along_cons.mpr ⟨?_, fun _ _ => trivial⟩⟩)
  cases hst
  intro _ _ _ _
  refine ⟨⟨by decide, ⟨0, rfl, by decide⟩, ?_⟩, ?_⟩
  · intro ticket cmd rest read hwaiting hcb
    cases hwaiting
    cases hcb
    exact ⟨by decide, by decide, fun _ => by decide, fun h => (h rfl).elim⟩
  · intro st' hst'
    cases hst'
    intro _ _ _ _
    refine ⟨⟨by decide, ⟨1, rfl, by decide⟩, ?_⟩, fun _ _ => trivial⟩
    intro ticket cmd rest read hwaiting hcb
    cases hwaiting
    cases hcb
    exact ⟨by decide, by decide, fun h => absurd h (by decide), fun _ => by decide⟩

/-- A short reply to the first command, and the reader is told success with nothing. -/
theorem shortReply_not_correct :
    ¬ Along radioStep (fun st op => ∃ st', radioStep st op = some st' ∧ RadioCorrect oneByte st') radioStateInit
      [.getJsonBlock 7 (some 0), .update [shortReply]] := by
  intro h
  obtain ⟨st', hst', hcorrect⟩ := (along_cons.mp ((along_cons.mp h).2 _ rfl)).1
  cases hst'
  have hdata := hcorrect.json ⟨0, 7, true, []⟩ List.mem_cons_self rfl
  revert hdata
  decide

end AugmentedInsanity.Drivers.RiftS
