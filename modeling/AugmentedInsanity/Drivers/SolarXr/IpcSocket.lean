/-
The messages of the SolarXR socket (`solarxr_ipc_message.h`) and the function that receives them
(`solarxr_ipc_socket_receive`). One buffer and one head serve the header and the body of a message; a length of the
buffer that is not zero says that the body is being read. Whatever the pieces in which the bytes come, the payloads are
received one after the other.
-/
import AugmentedInsanity.Lib.LittleEndian

namespace AugmentedInsanity.Drivers.SolarXr

open LittleEndian

/-- The size of the header: the length of a message, with the header, in 32 bits. -/
def HEADER_SIZE : ℕ := 4

def UINT32_MAX : ℕ := 0xFFFFFFFF

/-! ## Writing a message -/

/-- `struct solarxr_ipc_message` in a buffer with `room` bytes behind the header; of the body what has been written. -/
structure Message where
  length : ℕ
  body : List UInt8
  room : ℕ

/-- `solarxr_ipc_message_start`, with the bytes from `head` to `end`. -/
def messageStart (space : ℕ) : Option Message :=
  if space < HEADER_SIZE then none else some ⟨0, [], space - HEADER_SIZE⟩

/-- `solarxr_ipc_message_write`: what it returns and the message. -/
def messageWrite (message : Option Message) (data : List UInt8) : Bool × Option Message :=
  match message with
  | none => (false, none)
  | some message =>
    if message.room < message.length ∨ message.room - message.length < data.length then
      (false, some { message with length := UINT32_MAX })
    else
      (true, some { message with
        body := message.body.take message.length ++ data
        length := (message.length + data.length) % 2 ^ 32 })

/-- `solarxr_ipc_message_end`: what it returns and the bytes of the message. -/
def messageEnd (message : Option Message) : ℕ × List UInt8 :=
  match message with
  | none => (0, [])
  | some message =>
    if message.length ≥ UINT32_MAX - HEADER_SIZE then (0, [])
    else
      (HEADER_SIZE + message.length,
        toBytes HEADER_SIZE (HEADER_SIZE + message.length) ++ message.body.take message.length)

/-! ## The socket -/

/-- What a `recv` does: a number of bytes, if as many are asked for and there, of which none stands for would-block, or
an error. -/
inductive Recv
  | upTo (n : ℕ)
  | failed
  deriving DecidableEq

/-- What the calls of a `solarxr_ipc_socket_receive` meet: the header's `recv`, the body's, and `realloc`. -/
structure Call where
  header : Recv
  body : Recv
  realloc : Bool
  deriving DecidableEq

/-- Each `recv` that is asked for bytes gives some if there are any, and there is memory. -/
def Call.Delivers (call : Call) : Prop :=
  (∃ n, call.header = .upTo (n + 1)) ∧ (∃ n, call.body = .upTo (n + 1)) ∧ call.realloc = true

/-- `struct solarxr_ipc_socket`, with `connected` for a handle that is valid. -/
structure Socket where
  connected : Bool
  head : ℕ
  bufferLen : ℕ
  bufferCap : ℕ
  buffer : List UInt8

inductive SocketFault
  | outOfBounds
  deriving DecidableEq

def sub32 (a b : ℕ) : ℕ := (a + 2 ^ 32 - b) % 2 ^ 32

namespace Socket

def ensureCapacity (state : Socket) (capacity : ℕ) (realloc : Bool) : Option Socket :=
  if state.bufferCap ≥ capacity then some state
  else if capacity > 0x100000 then none
  else if !realloc then none
  else some { state with
    buffer := state.buffer ++ List.replicate (capacity - state.buffer.length) 0
    bufferCap := capacity }

/-- `solarxr_ipc_socket_init` and a connect that has succeeded, where the first allocation may fail. -/
def connect (realloc : Bool) : Socket :=
  let state : Socket := { connected := true, head := 0, bufferLen := 0, bufferCap := 0, buffer := [] }
  (state.ensureCapacity 0x1000 realloc).getD state

/-- `solarxr_ipc_socket_destroy` -/
def destroy (state : Socket) : Socket :=
  if state.connected then { state with connected := false, buffer := [], bufferCap := 0 } else state

end Socket

def copyTo (buffer : List UInt8) (at_ : ℕ) (bytes : List UInt8) : List UInt8 :=
  buffer.take at_ ++ bytes ++ buffer.drop (at_ + bytes.length)

/-- `recv_nonblock`: `none` is a failure; otherwise the buffer, the head and what is left to come. -/
def recvNonblock (recv : Recv) (wire buffer : List UInt8) (head bufferCap : ℕ) :
    Except SocketFault (Option (List UInt8 × ℕ × List UInt8)) :=
  match recv with
  | .failed => .ok none
  | .upTo n =>
    let length := min n (min (sub32 bufferCap head) wire.length)
    if buffer.length < head + length then .error .outOfBounds
    else if length > sub32 bufferCap head then .ok none
    else .ok (some (copyTo buffer head (wire.take length), (head + length) % 2 ^ 32, wire.drop length))

/-- The end of `solarxr_ipc_socket_receive`: the body's `recv`, and what is returned. -/
def receiveBody (state : Socket) (call : Call) (wire : List UInt8) : Except SocketFault (ℕ × Socket × List UInt8) :=
  match recvNonblock call.body wire state.buffer state.head state.bufferLen with
  | .error e => .error e
  | .ok none => .ok (0, state.destroy, wire)
  | .ok (some (buffer, head, wire)) =>
    .ok (if head < state.bufferLen then 0 else state.bufferLen, { state with buffer, head }, wire)

def Socket.ready (state : Socket) : Socket :=
  if state.head = state.bufferLen then { state with bufferLen := 0, head := 0 } else state

/-- The part of `solarxr_ipc_socket_receive` that reads the header, and goes on to the body once that is whole. -/
def receiveHeader (state : Socket) (call : Call) (wire : List UInt8) : Except SocketFault (ℕ × Socket × List UInt8) :=
  match state.ensureCapacity HEADER_SIZE call.realloc with
  | none => .ok (0, state.destroy, wire)
  | some state =>
    match recvNonblock call.header wire state.buffer state.head HEADER_SIZE with
    | .error e => .error e
    | .ok none => .ok (0, state.destroy, wire)
    | .ok (some (buffer, head, wire)) =>
      if head < HEADER_SIZE then
        .ok (if head < state.bufferLen then 0 else state.bufferLen, { state with buffer, head }, wire)
      else
        match { state with buffer, head }.ensureCapacity (sub32 (ofBytes (buffer.take HEADER_SIZE)) HEADER_SIZE)
            call.realloc with
        | none => .ok (0, { state with buffer, head }.destroy, wire)
        | some state =>
          receiveBody
            { state with bufferLen := sub32 (ofBytes (buffer.take HEADER_SIZE)) HEADER_SIZE, head := 0 } call wire

/-- `solarxr_ipc_socket_receive`: what it returns, the socket, and what is left to come. -/
def receive (state : Socket) (call : Call) (wire : List UInt8) : Except SocketFault (ℕ × Socket × List UInt8) :=
  if !state.connected then .ok (0, state, wire)
  else if state.ready.bufferLen = 0 then receiveHeader state.ready call wire
  else receiveBody state.ready call wire

/-- Successive calls: the contents of the buffer at each result that is not zero, the socket, and what is left. -/
def receiveAll (state : Socket) (wire : List UInt8) :
    List Call → Except SocketFault (List (List UInt8) × Socket × List UInt8)
  | [] => .ok ([], state, wire)
  | call :: calls =>
    match receive state call wire with
    | .error e => .error e
    | .ok (result, state, wire) =>
      (receiveAll state wire calls).map fun later =>
        (if result = 0 then later.1 else state.buffer.take result :: later.1, later.2)

/-! ## Messages on the wire -/

def MAX_PAYLOAD : ℕ := 0x100000

def frame (payload : List UInt8) : List UInt8 := toBytes HEADER_SIZE (HEADER_SIZE + payload.length) ++ payload

def frames (payloads : List (List UInt8)) : List UInt8 := payloads.flatMap frame

/-- A header with a length below its own size or above the limit. -/
def BadHeader (header : List UInt8) : Prop :=
  header.length = HEADER_SIZE ∧ (ofBytes header < HEADER_SIZE ∨ MAX_PAYLOAD + HEADER_SIZE < ofBytes header)

@[simp] theorem frames_nil : frames [] = [] := rfl

@[simp] theorem frames_cons (p : List UInt8) (ps : List (List UInt8)) : frames (p :: ps) = frame p ++ frames ps :=
  List.flatMap_cons

@[simp] theorem length_frame (p : List UInt8) : (frame p).length = HEADER_SIZE + p.length := by
  rw [frame, List.length_append, length_toBytes]

theorem header_inj {n m : ℕ} (hn : n ≤ MAX_PAYLOAD) (hm : m ≤ MAX_PAYLOAD)
    (h : toBytes HEADER_SIZE (HEADER_SIZE + n) = toBytes HEADER_SIZE (HEADER_SIZE + m)) : n = m := by
  have hlt : ∀ k ≤ MAX_PAYLOAD, HEADER_SIZE + k < 256 ^ HEADER_SIZE := by
    intro k hk
    simp only [HEADER_SIZE, MAX_PAYLOAD] at *
    omega
  have := congrArg ofBytes h
  rw [ofBytes_toBytes (hlt n hn), ofBytes_toBytes (hlt m hm)] at this
  omega

theorem not_badHeader {n : ℕ} (hn : n ≤ MAX_PAYLOAD) : ¬ BadHeader (toBytes HEADER_SIZE (HEADER_SIZE + n)) := by
  rintro ⟨-, hbad⟩
  have hlt : HEADER_SIZE + n < 256 ^ HEADER_SIZE := by
    simp only [HEADER_SIZE, MAX_PAYLOAD] at *
    omega
  rw [ofBytes_toBytes hlt] at hbad
  omega

theorem frames_cancel {ps qs : List (List UInt8)} {x y : List UInt8} (hp : ∀ p ∈ ps, p.length ≤ MAX_PAYLOAD)
    (hq : ∀ q ∈ qs, q.length ≤ MAX_PAYLOAD) (h : frames ps ++ x = frames qs ++ y) :
    (∃ more, ps = qs ++ more ∧ frames more ++ x = y) ∨ ∃ more, qs = ps ++ more ∧ x = frames more ++ y := by
  induction ps generalizing qs with
  | nil => exact Or.inr ⟨qs, rfl, h⟩
  | cons p ps ih =>
    rcases qs with _ | ⟨q, qs⟩
    · exact Or.inl ⟨p :: ps, rfl, h⟩
    · simp only [frames_cons, frame, List.append_assoc] at h
      obtain ⟨hheader, hbody⟩ := List.append_inj h (by rw [length_toBytes, length_toBytes])
      have hlen := header_inj (hp p List.mem_cons_self) (hq q List.mem_cons_self) hheader
      obtain ⟨rfl, hrest⟩ := List.append_inj hbody hlen
      rcases ih (fun p' h' => hp p' (List.mem_cons_of_mem _ h')) (fun q' h' => hq q' (List.mem_cons_of_mem _ h')) hrest with
        ⟨more, rfl, hmore⟩ | ⟨more, rfl, hmore⟩
      · exact Or.inl ⟨more, rfl, hmore⟩
      · exact Or.inr ⟨more, rfl, hmore⟩

/-! ## Receiving once -/

structure Socket.Valid (s : Socket) : Prop where
  buffer_length : s.buffer.length = s.bufferCap
  cap_le : s.bufferCap ≤ MAX_PAYLOAD
  len_le : s.bufferLen ≤ s.bufferCap
  head_le : s.head ≤ s.bufferLen ∨ s.bufferLen = 0 ∧ s.head < HEADER_SIZE ∧ s.head ≤ s.bufferCap

def Socket.pending (s : Socket) (wire : List UInt8) : List UInt8 :=
  if s.ready.bufferLen = 0 then s.ready.buffer.take s.ready.head ++ wire
  else toBytes HEADER_SIZE (HEADER_SIZE + s.bufferLen) ++ s.buffer.take s.head ++ wire

theorem recvNonblock_upTo (n : ℕ) (wire : List UInt8) {buffer : List UInt8} {head cap : ℕ} (hhead : head ≤ cap)
    (hcap : cap ≤ buffer.length) (hbound : buffer.length ≤ MAX_PAYLOAD) :
    ∃ buffer' k, k = min n (min (cap - head) wire.length) ∧
      recvNonblock (.upTo n) wire buffer head cap = .ok (some (buffer', head + k, wire.drop k)) ∧
      buffer'.length = buffer.length ∧ buffer'.take (head + k) ++ wire.drop k = buffer.take head ++ wire := by
  have hsub : sub32 cap head = cap - head := by
    simp only [sub32, MAX_PAYLOAD] at *
    omega
  refine ⟨copyTo buffer head (wire.take (min n (min (cap - head) wire.length))), _, rfl, ?_, ?_, ?_⟩
  · have hmod : (head + min n (min (cap - head) wire.length)) % 2 ^ 32 = head + min n (min (cap - head) wire.length) := by
      simp only [MAX_PAYLOAD] at hbound
      omega
    simp only [recvNonblock, hsub, hmod]
    rw [if_neg (by omega), if_neg (by omega)]
  · simp only [copyTo, List.length_append, List.length_take, List.length_drop]
    omega
  · generalize hk : min n (min (cap - head) wire.length) = k
    have hklen : (wire.take k).length = k := by
      rw [List.length_take]
      omega
    have hhlen : (buffer.take head).length = head := by
      rw [List.length_take]
      omega
    rw [copyTo, List.take_append_of_le_length (by rw [List.length_append]; omega),
      List.take_of_length_le (by rw [List.length_append]; omega), List.append_assoc, List.take_append_drop]

/-- What a call has done: it has gone on with the current message, ended it, or closed the socket. -/
inductive Outcome (s : Socket) (wire : List UInt8) (call : Call) : ℕ → Socket → List UInt8 → Prop
  | goesOn (s' : Socket) (wire' : List UInt8) (connected : s'.connected = true) (valid : s'.Valid)
      (same : s'.pending wire' = s.pending wire) : Outcome s wire call 0 s' wire'
  | ends (p : List UInt8) (s' : Socket) (wire' : List UInt8) (connected : s'.connected = true) (valid : s'.Valid)
      (le : p.length ≤ MAX_PAYLOAD) (received : s'.buffer.take p.length = p)
      (split : s.pending wire = frame p ++ s'.pending wire') : Outcome s wire call p.length s' wire'
  | rejects (header : List UInt8) (s' : Socket) (wire' : List UInt8) (closed : s'.connected = false)
      (bad : BadHeader header) (split : s.pending wire = header ++ wire') : Outcome s wire call 0 s' wire'
  | fails (s' : Socket) (wire' : List UInt8) (closed : s'.connected = false)
      (failed : call.header = .failed ∨ call.body = .failed ∨ call.realloc = false) : Outcome s wire call 0 s' wire'

theorem receiveBody_spec {s₀ s : Socket} {wire₀ wire : List UInt8} (call : Call) (hconnected : s.connected = true)
    (hlength : s.buffer.length = s.bufferCap) (hcap : s.bufferCap ≤ MAX_PAYLOAD) (hlen : s.bufferLen ≤ s.bufferCap)
    (hhead : s.head ≤ s.bufferLen)
    (hstream : s₀.pending wire₀ =
      toBytes HEADER_SIZE (HEADER_SIZE + s.bufferLen) ++ s.buffer.take s.head ++ wire) :
    ∃ r s' k, receiveBody s call wire = .ok (r, s', wire.drop k) ∧ Outcome s₀ wire₀ call r s' (wire.drop k) ∧
      (s.head < s.bufferLen → wire ≠ [] → call.Delivers → 0 < k) := by
  rcases hbody : call.body with n | _
  · obtain ⟨buffer, k, hk, hrecv, hblen, hbytes⟩ :=
      recvNonblock_upTo n wire hhead (hlength ▸ hlen) (hlength ▸ hcap)
    have hle : s.head + k ≤ s.bufferLen := by omega
    have hresult : receiveBody s call wire = .ok (if s.head + k < s.bufferLen then 0 else s.bufferLen,
        { s with buffer, head := s.head + k }, wire.drop k) := by
      rw [receiveBody, hbody, hrecv]
    have hpositive : s.head < s.bufferLen → wire ≠ [] → call.Delivers → 0 < k := by
      intro hopen hne hdelivers
      have hwire := List.length_pos_iff.2 hne
      obtain ⟨m, hm⟩ := hdelivers.2.1
      rw [hbody, Recv.upTo.injEq] at hm
      omega
    have hvalid : Socket.Valid { s with buffer, head := s.head + k } :=
      ⟨hblen.trans hlength, hcap, hlen, Or.inl hle⟩
    rw [List.append_assoc, ← hbytes, ← List.append_assoc] at hstream
    by_cases hmore : s.head + k < s.bufferLen
    · rw [if_pos hmore] at hresult
      refine ⟨_, _, k, hresult, .goesOn _ _ hconnected hvalid ?_, hpositive⟩
      have hready : Socket.ready { s with buffer, head := s.head + k } = { s with buffer, head := s.head + k } := by
        rw [Socket.ready, if_neg (show s.head + k ≠ s.bufferLen by omega)]
      rw [hstream, Socket.pending, hready, if_neg (show s.bufferLen ≠ 0 by omega), List.append_assoc]
    · have hdone : s.head + k = s.bufferLen := by omega
      rw [if_neg hmore] at hresult
      have hplen : (buffer.take s.bufferLen).length = s.bufferLen := by
        rw [List.length_take]
        omega
      have hready : Socket.ready { s with buffer, head := s.head + k } =
          { s with buffer, head := 0, bufferLen := 0 } := by
        rw [Socket.ready, if_pos (show s.head + k = s.bufferLen from hdone)]
      refine ⟨_, _, k, hresult, ?_, hpositive⟩
      have hsplit : s₀.pending wire₀ = frame (buffer.take s.bufferLen) ++
          Socket.pending { s with buffer, head := s.head + k } (wire.drop k) := by
        rw [hstream, Socket.pending, hready, if_pos rfl, frame, hplen, hdone]
        simp
      have hends : Outcome s₀ wire₀ call (buffer.take s.bufferLen).length { s with buffer, head := s.head + k }
          (wire.drop k) :=
        .ends _ _ _ hconnected hvalid (by rw [hplen]; omega) (by rw [hplen]) hsplit
      rw [hplen] at hends
      exact hends
  · have hresult : receiveBody s call wire = .ok (0, s.destroy, wire) := by rw [receiveBody, hbody, recvNonblock]
    refine ⟨_, _, 0, hresult, .fails _ _ ?_ (Or.inr (Or.inl hbody)), fun _ _ hdelivers => ?_⟩
    · rw [Socket.destroy, if_pos hconnected]
    · obtain ⟨m, hm⟩ := hdelivers.2.1
      rw [hbody] at hm
      cases hm

theorem ensureCapacity_some {s s' : Socket} {capacity : ℕ} {realloc : Bool} (hlength : s.buffer.length = s.bufferCap)
    (hcap : s.bufferCap ≤ MAX_PAYLOAD) (h : s.ensureCapacity capacity realloc = some s') :
    ∃ more, s' = { s with buffer := s.buffer ++ more, bufferCap := s'.bufferCap } ∧
      s'.buffer.length = s'.bufferCap ∧ capacity ≤ s'.bufferCap ∧ s'.bufferCap ≤ MAX_PAYLOAD := by
  unfold Socket.ensureCapacity at h
  split at h
  · rename_i henough
    cases h
    exact ⟨[], by rw [List.append_nil], hlength, henough, hcap⟩
  · split at h
    · cases h
    · rename_i hless hbound
      split at h
      · cases h
      · cases h
        refine ⟨_, rfl, ?_, Nat.le_refl capacity, Nat.not_lt.1 hbound⟩
        have hsum : s.bufferCap + (capacity - s.bufferCap) = capacity := by omega
        rw [List.length_append, List.length_replicate, hlength]
        exact hsum

variable {s : Socket}

theorem ensureCapacity_none {capacity : ℕ} {realloc : Bool} (h : s.ensureCapacity capacity realloc = none) :
    MAX_PAYLOAD < capacity ∨ realloc = false := by
  unfold Socket.ensureCapacity at h
  split at h
  · cases h
  · split at h
    · rename_i hbound
      exact Or.inl hbound
    · split at h
      · rename_i hrealloc
        exact Or.inr (by simpa using hrealloc)
      · cases h

theorem pending_header (h : s.bufferLen = 0) (wire : List UInt8) : s.pending wire = s.buffer.take s.head ++ wire := by
  unfold Socket.pending Socket.ready
  split
  · rename_i hnone
    rw [if_pos rfl, hnone, h]
  · rfl

theorem ready_cases (h : s.Valid) :
    s.ready.buffer = s.buffer ∧ s.ready.bufferCap = s.bufferCap ∧ s.ready.connected = s.connected ∧
      ((s.ready.bufferLen = 0 ∧ s.ready.head < HEADER_SIZE ∧ s.ready.head ≤ s.bufferCap) ∨
        (s.ready = s ∧ s.head < s.bufferLen)) := by
  unfold Socket.ready
  have hhead := h.head_le
  split
  · exact ⟨rfl, rfl, rfl, Or.inl ⟨rfl, Nat.zero_lt_succ _, Nat.zero_le _⟩⟩
  · refine ⟨rfl, rfl, rfl, ?_⟩
    rcases hhead with hle | ⟨hlen, hlt, hle⟩
    · exact Or.inr ⟨rfl, by omega⟩
    · exact Or.inl ⟨hlen, hlt, hle⟩

theorem header_cases {header : List UInt8} (h : header.length = HEADER_SIZE) :
    (MAX_PAYLOAD < sub32 (ofBytes header) HEADER_SIZE → BadHeader header) ∧
      (sub32 (ofBytes header) HEADER_SIZE ≤ MAX_PAYLOAD →
        header = toBytes HEADER_SIZE (HEADER_SIZE + sub32 (ofBytes header) HEADER_SIZE)) := by
  have hlt := ofBytes_lt header
  rw [h] at hlt
  have hback := toBytes_ofBytes header
  rw [h] at hback
  constructor
  · intro hlarge
    refine ⟨h, ?_⟩
    simp only [sub32, HEADER_SIZE, MAX_PAYLOAD] at *
    omega
  · intro hsmall
    have hsum : HEADER_SIZE + sub32 (ofBytes header) HEADER_SIZE = ofBytes header := by
      simp only [sub32, HEADER_SIZE, MAX_PAYLOAD] at *
      omega
    rw [hsum, hback]

theorem receiveHeader_spec {s₀ : Socket} {wire₀ wire : List UInt8} (call : Call) (hconnected : s.connected = true)
    (hlength : s.buffer.length = s.bufferCap) (hcap : s.bufferCap ≤ MAX_PAYLOAD) (hlen : s.bufferLen = 0)
    (hhead : s.head < HEADER_SIZE) (hle : s.head ≤ s.bufferCap)
    (hstream : s₀.pending wire₀ = s.buffer.take s.head ++ wire) :
    ∃ r s' k, receiveHeader s call wire = .ok (r, s', wire.drop k) ∧ Outcome s₀ wire₀ call r s' (wire.drop k) ∧
      (wire ≠ [] → call.Delivers → 0 < k) := by
  rcases hgrow : s.ensureCapacity HEADER_SIZE call.realloc with _ | s₁
  · have hmemory : call.realloc = false := by
      refine (ensureCapacity_none hgrow).resolve_left ?_
      simp only [HEADER_SIZE, MAX_PAYLOAD]
      omega
    refine ⟨0, s.destroy, 0, by rw [receiveHeader, hgrow, List.drop_zero], .fails _ _ ?_ (Or.inr (Or.inr hmemory)), ?_⟩
    · rw [Socket.destroy, if_pos hconnected]
    · intro _ hdelivers
      rw [hdelivers.2.2] at hmemory
      cases hmemory
  obtain ⟨more, hs₁, hlength₁, hroom, hcap₁⟩ := ensureCapacity_some hlength hcap hgrow
  have hconnected₁ : s₁.connected = true := by rw [hs₁]; exact hconnected
  have hlen₁ : s₁.bufferLen = 0 := by rw [hs₁]; exact hlen
  have hhead₁ : s₁.head = s.head := by rw [hs₁]
  have htake : s₁.buffer.take s.head = s.buffer.take s.head := by
    rw [hs₁]
    exact List.take_append_of_le_length (by omega)
  rcases hheader : call.header with n | _
  swap
  · refine ⟨0, s₁.destroy, 0, ?_, .fails _ _ ?_ (Or.inl hheader), ?_⟩
    · simp only [receiveHeader, hgrow, hheader, recvNonblock, List.drop_zero]
    · rw [Socket.destroy, if_pos hconnected₁]
    · intro _ hdelivers
      obtain ⟨m, hm⟩ := hdelivers.1
      rw [hheader] at hm
      cases hm
  obtain ⟨buffer, k, hk, hrecv, hblen, hbytes⟩ :=
    recvNonblock_upTo n wire (Nat.le_of_lt hhead) (hlength₁ ▸ hroom) (hlength₁ ▸ hcap₁)
  have hpositive : wire ≠ [] → call.Delivers → 0 < k := by
    intro hne hdelivers
    have hwire := List.length_pos_iff.2 hne
    obtain ⟨m, hm⟩ := hdelivers.1
    rw [hheader, Recv.upTo.injEq] at hm
    omega
  rw [htake, ← hstream] at hbytes
  by_cases hpart : s.head + k < HEADER_SIZE
  · -- a part of the header
    refine ⟨0, { s₁ with buffer, head := s.head + k }, k, ?_, .goesOn _ _ hconnected₁ ?_ ?_, hpositive⟩
    · simp only [receiveHeader, hgrow, hheader, hhead₁, hrecv, hpart, if_true, hlen₁, ite_self]
    · exact ⟨hblen.trans hlength₁, hcap₁, by rw [hlen₁]; exact Nat.zero_le _,
        Or.inr ⟨hlen₁, hpart, Nat.le_trans (Nat.le_of_lt hpart) hroom⟩⟩
    · rw [← hbytes]
      exact pending_header (s := { s₁ with buffer, head := s.head + k }) hlen₁ _
  · have hwhole : s.head + k = HEADER_SIZE := by omega
    rw [hwhole] at hbytes hrecv
    have hhlen : (buffer.take HEADER_SIZE).length = HEADER_SIZE := by
      rw [List.length_take]
      omega
    obtain ⟨hbad, hgood⟩ := header_cases hhlen
    have hresult : receiveHeader s call wire =
        match { s₁ with buffer, head := HEADER_SIZE }.ensureCapacity
            (sub32 (ofBytes (buffer.take HEADER_SIZE)) HEADER_SIZE) call.realloc with
        | none => .ok (0, { s₁ with buffer, head := HEADER_SIZE }.destroy, wire.drop k)
        | some state =>
          receiveBody { state with bufferLen := sub32 (ofBytes (buffer.take HEADER_SIZE)) HEADER_SIZE, head := 0 } call
            (wire.drop k) := by
      simp only [receiveHeader, hgrow, hheader, hhead₁, hrecv, Nat.lt_irrefl, if_false]
    have hconnected₂ : Socket.connected { s₁ with buffer, head := HEADER_SIZE } = true := hconnected₁
    rcases hgrow₂ : { s₁ with buffer, head := HEADER_SIZE }.ensureCapacity
        (sub32 (ofBytes (buffer.take HEADER_SIZE)) HEADER_SIZE) call.realloc with _ | s₂
    · refine ⟨0, { s₁ with buffer, head := HEADER_SIZE }.destroy, k, by rw [hresult, hgrow₂], ?_, hpositive⟩
      have hclosed : (Socket.destroy { s₁ with buffer, head := HEADER_SIZE }).connected = false := by
        rw [Socket.destroy, if_pos hconnected₂]
      rcases ensureCapacity_none hgrow₂ with hlarge | hmemory
      · exact .rejects _ _ _ hclosed (hbad hlarge) hbytes.symm
      · exact .fails _ _ hclosed (Or.inr (Or.inr hmemory))
    · obtain ⟨more₂, hs₂, hlength₂, hroom₂, hcap₂⟩ := ensureCapacity_some
        (s := { s₁ with buffer, head := HEADER_SIZE }) (hblen.trans hlength₁) hcap₁ hgrow₂
      have hstream₂ : s₀.pending wire₀ =
          toBytes HEADER_SIZE (HEADER_SIZE + sub32 (ofBytes (buffer.take HEADER_SIZE)) HEADER_SIZE) ++
            s₂.buffer.take 0 ++ wire.drop k := by
        rw [← hgood (Nat.le_trans hroom₂ hcap₂), List.take_zero, List.append_nil, hbytes]
      obtain ⟨r, s', k₂, hbody, houtcome, -⟩ := receiveBody_spec
        (s := { s₂ with bufferLen := sub32 (ofBytes (buffer.take HEADER_SIZE)) HEADER_SIZE, head := 0 }) call
        (by rw [hs₂]; exact hconnected₁) hlength₂ hcap₂ hroom₂ (Nat.zero_le _) hstream₂
      rw [List.drop_drop] at hbody houtcome
      exact ⟨r, s', k + k₂, by rw [hresult, hgrow₂]; exact hbody, houtcome,
        fun hne hdelivers => Nat.lt_of_lt_of_le (hpositive hne hdelivers) (Nat.le_add_right _ _)⟩

theorem receive_spec (wire : List UInt8) (call : Call) (hconnected : s.connected = true) (h : s.Valid) :
    ∃ r s' k, receive s call wire = .ok (r, s', wire.drop k) ∧ Outcome s wire call r s' (wire.drop k) ∧
      (wire ≠ [] → call.Delivers → 0 < k) := by
  obtain ⟨hbuffer, hbcap, hconn, hphase⟩ := ready_cases h
  rw [receive, hconnected, Bool.not_true, if_neg Bool.false_ne_true]
  rcases hphase with ⟨hzero, hlt, hle⟩ | ⟨hsame, hlt⟩
  · rw [if_pos hzero]
    have hstream : s.pending wire = s.ready.buffer.take s.ready.head ++ wire := by rw [Socket.pending, if_pos hzero]
    exact receiveHeader_spec call (hconn.trans hconnected) (by rw [hbuffer, hbcap]; exact h.buffer_length)
      (by rw [hbcap]; exact h.cap_le) hzero hlt (by rw [hbcap]; exact hle) hstream
  · have hne : s.bufferLen ≠ 0 := by omega
    have hstream : s.pending wire = toBytes HEADER_SIZE (HEADER_SIZE + s.bufferLen) ++ s.buffer.take s.head ++ wire := by
      rw [Socket.pending, hsame, if_neg hne]
    obtain ⟨r, s', k, hresult, houtcome, hpositive⟩ :=
      receiveBody_spec call hconnected h.buffer_length h.cap_le h.len_le (Nat.le_of_lt hlt) hstream
    rw [hsame, if_neg hne]
    exact ⟨r, s', k, hresult, houtcome, hpositive hlt⟩

/-! ## Receiving all -/

theorem receiveAll_closed (h : s.connected = false) (wire : List UInt8) (calls : List Call) :
    receiveAll s wire calls = .ok ([], s, wire) := by
  induction calls with
  | nil => rfl
  | cons call calls ih =>
    have honce : receive s call wire = .ok (0, s, wire) := by rw [receive, h, Bool.not_false, if_pos rfl]
    simp only [receiveAll, honce, ih, Except.map, if_true]

/-- How the messages received, the bytes before them and the socket afterwards are connected. -/
inductive Received (s : Socket) (wire : List UInt8) (calls : List Call) (ps : List (List UInt8)) (s' : Socket)
    (wire' : List UInt8) : Prop
  | still (connected : s'.connected = true) (valid : s'.Valid)
      (split : s.pending wire = frames ps ++ s'.pending wire') : Received s wire calls ps s' wire'
  | rejected (header : List UInt8) (closed : s'.connected = false) (bad : BadHeader header)
      (split : s.pending wire = frames ps ++ (header ++ wire')) : Received s wire calls ps s' wire'
  | failed (call : Call) (mem : call ∈ calls)
      (failed : call.header = .failed ∨ call.body = .failed ∨ call.realloc = false) : Received s wire calls ps s' wire'

theorem receiveAll_spec (wire : List UInt8) (calls : List Call) (hconnected : s.connected = true) (h : s.Valid) :
    ∃ ps s' k, receiveAll s wire calls = .ok (ps.filter (· ≠ []), s', wire.drop k) ∧
      (∀ p ∈ ps, p.length ≤ MAX_PAYLOAD) ∧ Received s wire calls ps s' (wire.drop k) ∧
      ((∀ call ∈ calls, call.Delivers) → s'.connected = true → wire.drop k = [] ∨ calls.length ≤ k) := by
  induction calls generalizing s wire with
  | nil => exact ⟨[], s, 0, rfl, by simp, .still hconnected h rfl, fun _ _ => Or.inr (Nat.zero_le 0)⟩
  | cons call calls ih =>
    obtain ⟨r, s₁, k, hreceive, houtcome, hpositive⟩ := receive_spec wire call hconnected h
    have hprogress : ∀ k₂, (wire.drop k).drop k₂ = [] ∨ calls.length ≤ k₂ → call.Delivers →
        (wire.drop k).drop k₂ = [] ∨ calls.length + 1 ≤ k + k₂ := by
      intro k₂ hrest hdelivers
      rcases hrest with hnil | hle
      · exact Or.inl hnil
      · by_cases hwire : wire = []
        · exact Or.inl (by simp [hwire])
        · have := hpositive hwire hdelivers
          exact Or.inr (by omega)
    have hstop : s₁.connected = false → r = 0 →
        receiveAll s wire (call :: calls) = .ok (([] : List (List UInt8)).filter (· ≠ []), s₁, wire.drop k) := by
      intro hclosed hzero
      simp only [receiveAll, hreceive, receiveAll_closed hclosed, Except.map, hzero, if_true, List.filter_nil]
    cases houtcome with
    | goesOn s' wire' hconn hvalid hsame =>
      obtain ⟨ps, s₂, k₂, hall, hle, hreceived, hdone⟩ := ih (wire.drop k) hconn hvalid
      refine ⟨ps, s₂, k + k₂, ?_, hle, ?_, ?_⟩
      · simp only [receiveAll, hreceive, hall, Except.map, if_true, List.drop_drop]
      · rw [← List.drop_drop]
        cases hreceived with
        | still hc hv hsplit => exact .still hc hv (hsame.symm.trans hsplit)
        | rejected header hc hbad hsplit => exact .rejected header hc hbad (hsame.symm.trans hsplit)
        | failed c hmem hfail => exact .failed c (List.mem_cons_of_mem _ hmem) hfail
      · intro hdelivers hc
        rw [← List.drop_drop, List.length_cons]
        exact hprogress k₂ (hdone (fun c hc => hdelivers c (List.mem_cons_of_mem _ hc)) hc)
          (hdelivers call List.mem_cons_self)
    | ends p s' wire' hconn hvalid hp hreceived₁ hsplit₁ =>
      obtain ⟨ps, s₂, k₂, hall, hle, hreceived, hdone⟩ := ih (wire.drop k) hconn hvalid
      refine ⟨p :: ps, s₂, k + k₂, ?_, ?_, ?_, ?_⟩
      · by_cases hnil : p = []
        · subst hnil
          simp only [receiveAll, hreceive, hall, Except.map, List.length_nil, if_true, List.drop_drop]
          rfl
        · have hne : p.length ≠ 0 := fun hz => hnil (List.eq_nil_of_length_eq_zero hz)
          rw [List.filter_cons_of_pos (by simpa using hnil)]
          simp only [receiveAll, hreceive, hall, Except.map, hne, if_false, hreceived₁, List.drop_drop]
      · intro q hq
        rcases List.mem_cons.1 hq with rfl | hq
        · exact hp
        · exact hle q hq
      · rw [← List.drop_drop]
        cases hreceived with
        | still hc hv hsplit => exact .still hc hv (by rw [hsplit₁, hsplit, frames_cons, List.append_assoc])
        | rejected header hc hbad hsplit =>
          exact .rejected header hc hbad (by rw [hsplit₁, hsplit, frames_cons, List.append_assoc])
        | failed c hmem hfail => exact .failed c (List.mem_cons_of_mem _ hmem) hfail
      · intro hdelivers hc
        rw [← List.drop_drop, List.length_cons]
        exact hprogress k₂ (hdone (fun c hc => hdelivers c (List.mem_cons_of_mem _ hc)) hc)
          (hdelivers call List.mem_cons_self)
    | rejects header s' wire' hclosed hbad hsplit =>
      refine ⟨[], s₁, k, hstop hclosed rfl, by simp, .rejected header hclosed hbad hsplit, fun _ hc => ?_⟩
      rw [hclosed] at hc
      cases hc
    | fails s' wire' hclosed hfail =>
      refine ⟨[], s₁, k, hstop hclosed rfl, by simp, .failed call List.mem_cons_self hfail, fun _ hc => ?_⟩
      rw [hclosed] at hc
      cases hc

/-! ## What is sent is what is received -/

/-- A message that is written in one or more parts, with room for them and a payload that is received. -/
structure Sent where
  space : ℕ
  parts : List (List UInt8)
  nonempty : parts.flatten ≠ []
  le : parts.flatten.length ≤ MAX_PAYLOAD
  fits : HEADER_SIZE + parts.flatten.length ≤ space

namespace Sent

def payload (sent : Sent) : List UInt8 := sent.parts.flatten

/-- `solarxr_ipc_message_start`, a `solarxr_ipc_message_write` for each part, and `solarxr_ipc_message_end`. -/
def bytes (sent : Sent) : List UInt8 :=
  (messageEnd (sent.parts.foldl (fun message data => (messageWrite message data).2) (messageStart sent.space))).2

theorem foldl_messageWrite (parts : List (List UInt8)) {body : List UInt8} {room : ℕ}
    (hroom : body.length + parts.flatten.length ≤ room) (hle : body.length + parts.flatten.length ≤ MAX_PAYLOAD) :
    parts.foldl (fun message data => (messageWrite message data).2) (some ⟨body.length, body, room⟩) =
      some ⟨(body ++ parts.flatten).length, body ++ parts.flatten, room⟩ := by
  induction parts generalizing body with
  | nil => simp
  | cons data parts ih =>
    rw [List.flatten_cons, List.length_append] at hroom hle
    have hmod : (body.length + data.length) % 2 ^ 32 = (body ++ data).length := by
      rw [List.length_append]
      simp only [MAX_PAYLOAD] at hle
      omega
    have hwrite : (messageWrite (some ⟨body.length, body, room⟩) data).2 =
        some ⟨(body ++ data).length, body ++ data, room⟩ := by
      simp only [messageWrite]
      rw [if_neg (by omega)]
      simp only [List.take_length, hmod]
    rw [List.foldl_cons, hwrite, ih (by rw [List.length_append]; omega) (by rw [List.length_append]; omega),
      List.flatten_cons, List.append_assoc]

theorem bytes_eq (sent : Sent) : sent.bytes = frame sent.payload := by
  have hle := sent.le
  have hfits := sent.fits
  have hstart : messageStart sent.space =
      some ⟨([] : List UInt8).length, [], sent.space - HEADER_SIZE⟩ := by
    rw [messageStart, if_neg (by omega)]
    rfl
  have hsmall : ¬ sent.parts.flatten.length ≥ UINT32_MAX - HEADER_SIZE := by
    simp only [MAX_PAYLOAD, UINT32_MAX, HEADER_SIZE] at *
    omega
  rw [bytes, hstart, foldl_messageWrite sent.parts (by rw [List.length_nil]; omega) (by rw [List.length_nil]; omega)]
  simp only [List.nil_append, messageEnd]
  rw [if_neg hsmall, List.take_length]
  rfl

end Sent

/-- A call that meets no error: the most bytes that come at once for the header and for the body. -/
def Call.ofPieces (pieces : ℕ × ℕ) : Call := ⟨.upTo pieces.1, .upTo pieces.2, true⟩

theorem connect_fresh (first : Bool) : (Socket.connect first).Valid ∧ (Socket.connect first).connected = true ∧
    (Socket.connect first).bufferLen = 0 ∧ (Socket.connect first).head = 0 := by
  rw [Socket.connect]
  rcases h : Socket.ensureCapacity { connected := true, head := 0, bufferLen := 0, bufferCap := 0, buffer := [] } 0x1000
    first with _ | s
  · exact ⟨⟨rfl, Nat.zero_le _, Nat.le_refl _, Or.inl (Nat.le_refl _)⟩, rfl, rfl, rfl⟩
  · obtain ⟨more, hs, hlength, -, hcap⟩ := ensureCapacity_some rfl (Nat.zero_le _) h
    have hconnected : s.connected = true := by rw [hs]
    have hlen : s.bufferLen = 0 := by rw [hs]
    have hhead : s.head = 0 := by rw [hs]
    exact ⟨⟨hlength, hcap, by rw [Option.getD_some, hlen]; exact Nat.zero_le _,
      Or.inl (by rw [Option.getD_some, hhead]; exact Nat.zero_le _)⟩, hconnected, hlen, hhead⟩

theorem pending_connect (first : Bool) (wire : List UInt8) : (Socket.connect first).pending wire = wire := by
  obtain ⟨-, -, hlen, hhead⟩ := connect_fresh first
  rw [pending_header hlen, hhead, List.take_zero, List.nil_append]

theorem pending_length (h : s.Valid) (wire : List UInt8) {p rest : List UInt8} (hle : p.length ≤ MAX_PAYLOAD)
    (heq : s.pending wire = frame p ++ rest) (hne : p ≠ []) : rest.length < wire.length := by
  have hp := List.length_pos_iff.2 hne
  have hlength := congrArg List.length heq
  rw [List.length_append, length_frame] at hlength
  obtain ⟨hbuffer, hbcap, -, ⟨hzero, hlt, -⟩ | ⟨hsame, hlt⟩⟩ := ready_cases h
  · rw [Socket.pending, if_pos hzero, List.length_append, List.length_take] at hlength
    omega
  · rw [Socket.pending, hsame, if_neg (by omega), frame, List.append_assoc, List.append_assoc] at heq
    have hheader := (List.append_inj heq (by rw [length_toBytes, length_toBytes])).1
    have hcap := h.cap_le
    have hlen := h.len_le
    have hpl := header_inj (by omega) hle hheader
    rw [Socket.pending, hsame, if_neg (by omega), List.length_append, List.length_append, length_toBytes,
      List.length_take] at hlength
    omega

theorem pending_bad (h : s.Valid) (wire : List UInt8) {header rest : List UInt8} (hbad : BadHeader header)
    (heq : s.pending wire = header ++ rest) : rest.length < wire.length := by
  obtain ⟨hbuffer, hbcap, -, ⟨hzero, hlt, -⟩ | ⟨hsame, hlt⟩⟩ := ready_cases h
  · have hlength := congrArg List.length heq
    rw [Socket.pending, if_pos hzero, List.length_append, List.length_append, List.length_take, hbad.1] at hlength
    omega
  · rw [Socket.pending, hsame, if_neg (by omega), List.append_assoc] at heq
    have hheader := (List.append_inj heq (by rw [length_toBytes, hbad.1])).1
    have hcap := h.cap_le
    have hlen := h.len_le
    exact absurd (hheader ▸ hbad) (not_badHeader (by omega))

theorem frames_ne_bad {ps : List (List UInt8)} {header x y : List UInt8} (hp : ∀ p ∈ ps, p.length ≤ MAX_PAYLOAD)
    (hbad : BadHeader header) (h : header ++ x = frames ps ++ y) : ps = [] := by
  rcases ps with _ | ⟨p, ps⟩
  · rfl
  · rw [frames_cons, frame, List.append_assoc, List.append_assoc] at h
    have hheader := (List.append_inj h (by rw [length_toBytes, hbad.1])).1
    exact absurd (hheader ▸ hbad) (not_badHeader (hp p List.mem_cons_self))

def payloads (sent : List Sent) : List (List UInt8) := sent.map Sent.payload

def stream (sent : List Sent) : List UInt8 := sent.flatMap Sent.bytes

theorem stream_eq (sent : List Sent) : stream sent = frames (payloads sent) := by
  induction sent with
  | nil => rfl
  | cons first sent ih =>
    rw [stream, List.flatMap_cons, Sent.bytes_eq, payloads, List.map_cons, frames_cons]
    exact congrArg _ ih

theorem mem_payloads {sent : List Sent} {p : List UInt8} (h : p ∈ payloads sent) : p ≠ [] ∧ p.length ≤ MAX_PAYLOAD := by
  obtain ⟨message, -, rfl⟩ := List.mem_map.1 h
  exact ⟨message.nonempty, message.le⟩

theorem filter_payloads {ps : List (List UInt8)} (h : ∀ p ∈ ps, p ≠ []) : ps.filter (· ≠ []) = ps :=
  List.filter_eq_self.2 fun p hp => by simpa using h p hp

theorem not_failed {pieces : List (ℕ × ℕ)} {call : Call} (hmem : call ∈ pieces.map Call.ofPieces) :
    ¬ (call.header = .failed ∨ call.body = .failed ∨ call.realloc = false) := by
  obtain ⟨piece, -, rfl⟩ := List.mem_map.1 hmem
  simp [Call.ofPieces]

theorem receive_sent (first : Bool) (sent : List Sent) (pieces : List (ℕ × ℕ)) :
    ∃ outs s wire, receiveAll (Socket.connect first) (stream sent) (pieces.map Call.ofPieces) = .ok (outs, s, wire) ∧
      outs <+: payloads sent ∧ (wire = [] → outs = payloads sent) ∧
      ((∀ piece ∈ pieces, 0 < piece.1 ∧ 0 < piece.2) → (stream sent).length ≤ pieces.length → wire = []) := by
  obtain ⟨hvalid, hconnected, -, -⟩ := connect_fresh first
  obtain ⟨ps, s, k, hall, hle, hreceived, hdone⟩ :=
    receiveAll_spec (stream sent) (pieces.map Call.ofPieces) hconnected hvalid
  refine ⟨_, s, _, hall, ?_⟩
  have hsent : ∀ q ∈ payloads sent, q.length ≤ MAX_PAYLOAD := fun q hq => (mem_payloads hq).2
  have hstream := pending_connect first (stream sent)
  rw [stream_eq] at hstream
  cases hreceived with
  | still hc hv hsplit =>
    rw [stream_eq, hstream] at hsplit
    have hcancel := frames_cancel hle hsent (hsplit.symm.trans (List.append_nil _).symm)
    obtain ⟨more, hmore, hpending⟩ : ∃ more, payloads sent = ps ++ more ∧ s.pending ((stream sent).drop k) = frames more := by
      rcases hcancel with ⟨more, hps, hnil⟩ | ⟨more, hqs, hx⟩
      · have hempty := List.append_eq_nil_iff.1 hnil
        rcases more with _ | ⟨p, more⟩
        · exact ⟨[], by rw [hps]; simp, by rw [stream_eq]; exact hempty.2⟩
        · have := congrArg List.length hempty.1
          rw [frames_cons, List.length_append, length_frame] at this
          simp [HEADER_SIZE] at this
      · exact ⟨more, hqs, by rw [stream_eq, hx, List.append_nil]⟩
    have hps : ∀ p ∈ ps, p ≠ [] := fun p hp => (mem_payloads (hmore ▸ List.mem_append_left _ hp)).1
    rw [filter_payloads hps]
    refine ⟨⟨more, hmore.symm⟩, fun hnil => ?_, fun hpieces hlength => ?_⟩
    · rcases more with _ | ⟨p, more⟩
      · rw [hmore, List.append_nil]
      · have hmem : p ∈ payloads sent := by rw [hmore]; simp
        have hp := mem_payloads hmem
        rw [frames_cons] at hpending
        have := pending_length hv _ hp.2 hpending hp.1
        rw [hnil] at this
        exact absurd this (Nat.not_lt_zero _)
    · have hdelivers : ∀ call ∈ pieces.map Call.ofPieces, call.Delivers := by
        intro call hcall
        obtain ⟨piece, hpiece, rfl⟩ := List.mem_map.1 hcall
        obtain ⟨h1, h2⟩ := hpieces piece hpiece
        refine ⟨⟨piece.1 - 1, ?_⟩, ⟨piece.2 - 1, ?_⟩, rfl⟩
        · rw [Nat.sub_add_cancel h1]
          rfl
        · rw [Nat.sub_add_cancel h2]
          rfl
      rcases hdone hdelivers hc with hnil | hk
      · exact hnil
      · rw [List.length_map] at hk
        exact List.drop_eq_nil_of_le (Nat.le_trans hlength hk)
  | rejected header hc hbad hsplit =>
    rw [stream_eq, hstream] at hsplit
    have hnone : ∀ more, header ++ (frames (payloads sent)).drop k = frames more → (∀ p ∈ more, p.length ≤ MAX_PAYLOAD) → False := by
      intro more heq hm
      have hnil := frames_ne_bad (y := []) hm hbad (by rw [heq, List.append_nil])
      rw [hnil, frames_nil] at heq
      have hempty := (List.append_eq_nil_iff.1 heq).1
      have hlen := hbad.1
      rw [hempty] at hlen
      cases hlen
    rcases frames_cancel hle hsent (hsplit.symm.trans (List.append_nil _).symm) with
      ⟨more, -, hnil⟩ | ⟨more, hqs, hx⟩
    · exact (hnone [] (List.append_eq_nil_iff.1 hnil).2 (by simp)).elim
    · rw [List.append_nil] at hx
      exact (hnone more hx fun p hp => hsent p (hqs ▸ List.mem_append_right _ hp)).elim
  | failed call hmem hfail => exact absurd hfail (not_failed hmem)

theorem receive_bad (first : Bool) (sent : List Sent) (bad : {header : List UInt8 // BadHeader header})
    (rest : List UInt8) (pieces : List (ℕ × ℕ)) :
    ∃ outs s wire, receiveAll (Socket.connect first) (stream sent ++ (bad.val ++ rest)) (pieces.map Call.ofPieces) =
        .ok (outs, s, wire) ∧
      outs <+: payloads sent ∧ (wire.length ≤ rest.length → outs = payloads sent ∧ s.connected = false) := by
  obtain ⟨hvalid, hconnected, -, -⟩ := connect_fresh first
  obtain ⟨ps, s, k, hall, hle, hreceived, -⟩ :=
    receiveAll_spec (stream sent ++ (bad.val ++ rest)) (pieces.map Call.ofPieces) hconnected hvalid
  refine ⟨_, s, _, hall, ?_⟩
  generalize (stream sent ++ (bad.val ++ rest)).drop k = wire at hreceived
  have hsent : ∀ q ∈ payloads sent, q.length ≤ MAX_PAYLOAD := fun q hq => (mem_payloads hq).2
  have hstream := pending_connect first (stream sent ++ (bad.val ++ rest))
  -- the messages received are the first ones that were sent
  have hfilter : ∀ more, payloads sent = ps ++ more → ps.filter (· ≠ []) = ps := by
    intro more hmore
    exact filter_payloads fun p hp => (mem_payloads (hmore ▸ List.mem_append_left _ hp)).1
  have hall_of : ∀ more x, ps = payloads sent ++ more → frames more ++ x = bad.val ++ rest →
      ps = payloads sent ∧ x = bad.val ++ rest := by
    intro more x hps hx
    have hnil := frames_ne_bad (fun p hp => hle p (hps ▸ List.mem_append_right _ hp)) bad.2 hx.symm
    rw [hnil, List.append_nil] at hps
    rw [hnil, frames_nil, List.nil_append] at hx
    exact ⟨hps, hx⟩
  cases hreceived with
  | still hc hv hsplit =>
    rw [hstream, stream_eq] at hsplit
    rcases frames_cancel hle hsent hsplit.symm with ⟨more, hps, hx⟩ | ⟨more, hqs, hx⟩
    · obtain ⟨heq, hpending⟩ := hall_of more _ hps hx
      rw [hfilter [] (by rw [heq, List.append_nil]), heq]
      refine ⟨List.prefix_refl _, fun hlength => ?_⟩
      have := pending_bad hv wire bad.2 hpending
      omega
    · rw [hfilter more hqs]
      refine ⟨⟨more, hqs.symm⟩, fun hlength => ?_⟩
      rcases more with _ | ⟨p, more⟩
      · have := pending_bad hv wire bad.2 hx
        omega
      · have hmem : p ∈ payloads sent := by rw [hqs]; simp
        have hp := mem_payloads hmem
        rw [frames_cons, List.append_assoc] at hx
        have := pending_length hv wire hp.2 hx hp.1
        rw [List.length_append, List.length_append] at this
        omega
  | rejected header hc hbad hsplit =>
    rw [hstream, stream_eq] at hsplit
    rcases frames_cancel hle hsent hsplit.symm with ⟨more, hps, hx⟩ | ⟨more, hqs, hx⟩
    · obtain ⟨heq, -⟩ := hall_of more _ hps hx
      rw [hfilter [] (by rw [heq, List.append_nil]), heq]
      exact ⟨List.prefix_refl _, fun _ => ⟨rfl, hc⟩⟩
    · have hnil := frames_ne_bad (fun p hp => hsent p (hqs ▸ List.mem_append_right _ hp)) hbad hx
      rw [hnil, List.append_nil] at hqs
      rw [hfilter [] (by rw [hqs, List.append_nil]), hqs]
      exact ⟨List.prefix_refl _, fun _ => ⟨rfl, hc⟩⟩
  | failed call hmem hfail => exact absurd hfail (not_failed hmem)

/-- The messages of a stream are received as they were sent, however the bytes are cut; a length that is not allowed
closes the socket; and no bytes and no failure make a call write outside of its buffer. -/
theorem solarxr_ipc_socket_receive_spec :
    (∀ (first : Bool) (sent : List Sent) (pieces : List (ℕ × ℕ)), ∃ outs s wire,
      receiveAll (Socket.connect first) (stream sent) (pieces.map Call.ofPieces) = .ok (outs, s, wire) ∧
        outs <+: payloads sent ∧ (wire = [] → outs = payloads sent) ∧
        ((∀ piece ∈ pieces, 0 < piece.1 ∧ 0 < piece.2) → (stream sent).length ≤ pieces.length → wire = [])) ∧
    (∀ (first : Bool) (sent : List Sent) (bad : {header : List UInt8 // BadHeader header}) (rest : List UInt8)
      (pieces : List (ℕ × ℕ)), ∃ outs s wire,
      receiveAll (Socket.connect first) (stream sent ++ (bad.val ++ rest)) (pieces.map Call.ofPieces) =
          .ok (outs, s, wire) ∧
        outs <+: payloads sent ∧ (wire.length ≤ rest.length → outs = payloads sent ∧ s.connected = false)) ∧
    ∀ (first : Bool) (bytes : List UInt8) (calls : List Call), ∃ result,
      receiveAll (Socket.connect first) bytes calls = .ok result := by
  refine ⟨receive_sent, receive_bad, fun first bytes calls => ?_⟩
  obtain ⟨hvalid, hconnected, -, -⟩ := connect_fresh first
  obtain ⟨ps, s, k, hall, -⟩ := receiveAll_spec bytes calls hconnected hvalid
  exact ⟨_, hall⟩

end AugmentedInsanity.Drivers.SolarXr
