/-
The message channel on a unix socket (`ipc_message_channel_unix.c`): one `sendmsg` or `recvmsg` for each call,
of which the kernel may do only a part. `Call.exact_iff` says for which answers of the kernel a call that returns
`XRT_SUCCESS` has transferred what it was asked to.
-/
import Mathlib.Algebra.Ring.Nat
import Mathlib.Data.List.Basic
import AugmentedInsanity.Xrt.Defines

namespace AugmentedInsanity.Ipc

open Xrt

/-! ## The kernel -/

/-- One end of a connected socket: what the kernel has taken from it, and the bytes still to be received. -/
structure Channel where
  outgoing : List UInt8
  outgoingHandles : List ℤ
  incoming : List UInt8
  deriving DecidableEq

/-- What `sendmsg` says to `size` bytes. -/
inductive Sendmsg (size : ℕ) : Type
  | failed
  | accepted (n : ℕ) (hsize : n ≤ size)

/-- What `recvmsg` says to a buffer of `size` bytes: how many bytes of the stream it has written, and the handles
of the first control message. -/
inductive Recvmsg (incoming : List UInt8) (size : ℕ) : Type
  | failed
  | received (n : ℕ) (control : Option (List ℤ)) (hsize : n ≤ size) (havailable : n ≤ incoming.length)

/-- A failed `assert`, or a write past the end of `union imcontrol_buf`. -/
inductive ChannelFault
  | assertFailed
  | controlOverflow
  deriving DecidableEq

/-- The size of `union imcontrol_buf`. -/
abbrev IMCONTROL_BUF_SIZE : ℕ := 512

/-- `CMSG_SPACE` of `count` handles, with a header of 16 bytes and alignment to 8. -/
def cmsgSpace (count : ℕ) : ℕ := 16 + (4 * count + 7) / 8 * 8

/-! ## Sending and receiving -/

/-- What a call returns and leaves behind; `handles` are those written to `out_handles`, if it was written. -/
structure Transfer where
  result : XrtResult
  data : List UInt8
  handles : Option (List ℤ)
  channel : Channel
  deriving DecidableEq

def ipcSend (imc : Channel) (data : List UInt8) : Sendmsg data.length → Transfer
  | .failed => ⟨.errorIpcFailure, [], none, imc⟩
  | .accepted n _ => ⟨.success, [], none, { imc with outgoing := imc.outgoing ++ data.take n }⟩

def ipcReceive (imc : Channel) (size : ℕ) : Recvmsg imc.incoming size → Transfer
  | .failed => ⟨.errorIpcFailure, [], none, imc⟩
  | .received len _ _ _ =>
    let imc' := { imc with incoming := imc.incoming.drop len }
    if len ≠ size then ⟨.errorIpcFailure, imc.incoming.take len, none, imc'⟩
    else ⟨.success, imc.incoming.take len, none, imc'⟩

/-- `ipc_receive_fds`; what is copied past the handles of the control message is zeroed memory. -/
def ipcReceiveFds (imc : Channel) (size handleCount : ℕ) (answer : Recvmsg imc.incoming size) :
    Except ChannelFault Transfer :=
  if size = 0 ∨ handleCount = 0 then .error .assertFailed
  else if IMCONTROL_BUF_SIZE < cmsgSpace handleCount then .error .controlOverflow
  else
    match answer with
    | .failed => .ok ⟨.errorIpcFailure, [], none, imc⟩
    | .received len control _ _ =>
      let imc' := { imc with incoming := imc.incoming.drop len }
      if len = 0 then .ok ⟨.errorIpcFailure, [], none, imc'⟩
      else
        match control with
        | none => .ok ⟨.success, imc.incoming.take len, none, imc'⟩
        | some handles =>
          let copied := handles.take handleCount ++ List.replicate (handleCount - handles.length) 0
          .ok ⟨.success, imc.incoming.take len, some copied, imc'⟩

/-- `ipc_send_fds`; the handles travel with the first byte. -/
def ipcSendFds (imc : Channel) (data : List UInt8) (handles : List ℤ) (answer : Sendmsg data.length) :
    Except ChannelFault Transfer :=
  if data.length = 0 then .error .assertFailed
  else if IMCONTROL_BUF_SIZE < cmsgSpace handles.length then .error .controlOverflow
  else
    match answer with
    | .failed => .ok ⟨.errorIpcFailure, [], none, imc⟩
    | .accepted n _ =>
      let sent := if 0 < n then handles else []
      .ok ⟨.success, [], none,
        { imc with outgoing := imc.outgoing ++ data.take n, outgoingHandles := imc.outgoingHandles ++ sent }⟩

/-! ## Calls -/

inductive Call
  | send (data : List UInt8)
  | receive (size : ℕ)
  | sendFds (data : List UInt8) (handles : List ℤ)
  | receiveFds (size handleCount : ℕ)
  deriving DecidableEq

def Call.Answer (imc : Channel) : Call → Type
  | .send data => Sendmsg data.length
  | .receive size => Recvmsg imc.incoming size
  | .sendFds data _ => Sendmsg data.length
  | .receiveFds size _ => Recvmsg imc.incoming size

def Call.run (imc : Channel) : (call : Call) → call.Answer imc → Except ChannelFault Transfer
  | .send data, answer => .ok (ipcSend imc data answer)
  | .receive size, answer => .ok (ipcReceive imc size answer)
  | .sendFds data handles, answer => ipcSendFds imc data handles answer
  | .receiveFds size handleCount, answer => ipcReceiveFds imc size handleCount answer

/-- The bytes asked for have been received, and the stream stands behind them. -/
structure ReceivedExactly (imc : Channel) (size : ℕ) (t : Transfer) : Prop where
  available : size ≤ imc.incoming.length
  data : t.data = imc.incoming.take size
  rest : t.channel.incoming = imc.incoming.drop size

/-- What was asked for has been transferred; `delivered` are the handles that the kernel gave. -/
def Call.Transferred (imc : Channel) (t : Transfer) : (call : Call) → call.Answer imc → Prop
  | .send data, _ => t.channel.outgoing = imc.outgoing ++ data
  | .receive size, _ => ReceivedExactly imc size t
  | .sendFds data handles, _ =>
    t.channel.outgoing = imc.outgoing ++ data ∧ t.channel.outgoingHandles = imc.outgoingHandles ++ handles
  | .receiveFds size handleCount, .failed => ReceivedExactly imc size t ∧ handleCount = 0
  | .receiveFds size handleCount, .received _ control _ _ =>
    ReceivedExactly imc size t ∧ ∃ delivered, control = some delivered ∧ delivered.length = handleCount ∧
      t.handles = some delivered

/-- The kernel has taken or given all of it, or the function does not return `XRT_SUCCESS`. -/
def Call.Whole (imc : Channel) : (call : Call) → call.Answer imc → Prop
  | .send _, .failed => True
  | .send data, .accepted n _ => n = data.length
  | .receive _, _ => True
  | .sendFds _ _, .failed => True
  | .sendFds data handles, .accepted n _ =>
    data.length = 0 ∨ IMCONTROL_BUF_SIZE < cmsgSpace handles.length ∨ n = data.length
  | .receiveFds _ _, .failed => True
  | .receiveFds size handleCount, .received n control _ _ =>
    size = 0 ∨ handleCount = 0 ∨ IMCONTROL_BUF_SIZE < cmsgSpace handleCount ∨ n = 0 ∨
      (n = size ∧ ∃ delivered, control = some delivered ∧ delivered.length = handleCount)

section
variable {imc : Channel}

theorem append_take_eq_iff {α : Type} {xs ys : List α} {n : ℕ} (hn : n ≤ ys.length) :
    xs ++ ys.take n = xs ++ ys ↔ n = ys.length := by
  rw [List.append_cancel_left_eq]
  constructor
  · intro h
    have hlength := congrArg List.length h
    rw [List.length_take] at hlength
    omega
  · rintro rfl
    exact List.take_length

theorem send_exact {data : List UInt8} {answer : Sendmsg data.length} :
    ((ipcSend imc data answer).result = .success → Call.Transferred imc (ipcSend imc data answer) (.send data) answer) ↔
      Call.Whole imc (.send data) answer := by
  cases answer with
  | failed => exact iff_of_true (fun h => by cases h) trivial
  | accepted n hsize =>
    simp only [ipcSend, Call.Transferred, Call.Whole, forall_const]
    exact append_take_eq_iff hsize

theorem receive_exact {size : ℕ} {answer : Recvmsg imc.incoming size}
    (h : (ipcReceive imc size answer).result = .success) :
    ReceivedExactly imc size (ipcReceive imc size answer) := by
  cases answer with
  | failed => cases h
  | received len control hsize havailable =>
    unfold ipcReceive at h ⊢
    dsimp only at h ⊢
    by_cases hlen : len = size
    · subst hlen
      rw [if_neg (not_not.2 rfl)]
      exact ⟨havailable, rfl, rfl⟩
    · rw [if_pos hlen] at h
      cases h

theorem sendFds_exact {data : List UInt8} {handles : List ℤ} {answer : Sendmsg data.length} :
    (∀ t, ipcSendFds imc data handles answer = .ok t → t.result = .success →
        Call.Transferred imc t (.sendFds data handles) answer) ↔
      Call.Whole imc (.sendFds data handles) answer := by
  unfold ipcSendFds
  by_cases hdata : data.length = 0
  · rw [if_pos hdata]
    refine iff_of_true (fun t h => by cases h) ?_
    cases answer with
    | failed => trivial
    | accepted n hsize => exact Or.inl hdata
  · rw [if_neg hdata]
    by_cases hspace : IMCONTROL_BUF_SIZE < cmsgSpace handles.length
    · rw [if_pos hspace]
      refine iff_of_true (fun t h => by cases h) ?_
      cases answer with
      | failed => trivial
      | accepted n hsize => exact Or.inr (Or.inl hspace)
    · rw [if_neg hspace]
      cases answer with
      | failed => exact iff_of_true (fun t h hok => by cases h; cases hok) trivial
      | accepted n hsize =>
        -- the source reports success for any count of bytes that the kernel accepts
        simp only [Call.Transferred, Call.Whole, Except.ok.injEq, forall_eq', forall_const]
        rw [append_take_eq_iff hsize]
        constructor
        · exact fun h => Or.inr (Or.inr h.1)
        · rintro (h | h | h)
          · exact absurd h hdata
          · exact absurd h hspace
          · exact ⟨h, by rw [if_pos (by omega)]⟩

theorem receiveFds_exact {size handleCount : ℕ} {answer : Recvmsg imc.incoming size} :
    (∀ t, ipcReceiveFds imc size handleCount answer = .ok t → t.result = .success →
        Call.Transferred imc t (.receiveFds size handleCount) answer) ↔
      Call.Whole imc (.receiveFds size handleCount) answer := by
  unfold ipcReceiveFds
  cases answer with
  | failed =>
    refine iff_of_true (fun t h hok => ?_) trivial
    split at h
    · cases h
    · split at h
      · cases h
      · cases h
        cases hok
  | received n control hsize havailable =>
    unfold Call.Whole
    by_cases hassert : size = 0 ∨ handleCount = 0
    · rw [if_pos hassert]
      refine iff_of_true (fun t h => by cases h) ?_
      rcases hassert with h | h
      · exact Or.inl h
      · exact Or.inr (Or.inl h)
    · rw [if_neg hassert]
      by_cases hspace : IMCONTROL_BUF_SIZE < cmsgSpace handleCount
      · rw [if_pos hspace]
        exact iff_of_true (fun t h => by cases h) (Or.inr (Or.inr (Or.inl hspace)))
      · rw [if_neg hspace]
        dsimp only
        by_cases hn : n = 0
        · rw [if_pos hn]
          exact iff_of_true (fun t h hok => by cases h; cases hok) (Or.inr (Or.inr (Or.inr (Or.inl hn))))
        · rw [if_neg hn]
          cases control with
          | none =>
            -- no control message: the bytes are taken, the handles were never filled in
            refine iff_of_false (fun h => ?_) ?_
            · obtain ⟨-, delivered, hdelivered, -⟩ := h _ rfl rfl
              cases hdelivered
            · rintro (h | h | h | h | ⟨-, delivered, hdelivered, -⟩)
              · exact hassert (Or.inl h)
              · exact hassert (Or.inr h)
              · exact hspace h
              · exact hn h
              · cases hdelivered
          | some handles =>
            simp only [Call.Transferred, Except.ok.injEq, forall_eq', forall_const, Option.some.injEq]
            constructor
            · rintro ⟨hexact, delivered, rfl, hcount, -⟩
              -- the first `size` bytes were available and were taken, so the kernel gave all of them
              have hlength := congrArg List.length hexact.data
              rw [List.length_take, List.length_take] at hlength
              have havailable' := hexact.available
              have hsame : n = size := by omega
              exact Or.inr (Or.inr (Or.inr (Or.inr ⟨hsame, _, rfl, hcount⟩)))
            · rintro (h | h | h | h | ⟨hsame, delivered, rfl, hcount⟩)
              · exact absurd (Or.inl h) hassert
              · exact absurd (Or.inr h) hassert
              · exact absurd h hspace
              · exact absurd h hn
              · subst hsame hcount
                refine ⟨⟨havailable, rfl, rfl⟩, handles, rfl, rfl, ?_⟩
                rw [List.take_length, Nat.sub_self, List.replicate_zero, List.append_nil]

end

/-- A call that returns `XRT_SUCCESS` has transferred what it was asked to, exactly when the kernel did not stop
halfway through a send, or through the message or the handles of `ipc_receive_fds`. -/
theorem Call.exact_iff (imc : Channel) (call : Call) (answer : call.Answer imc) :
    (∀ t, call.run imc answer = .ok t → t.result = .success → call.Transferred imc t answer) ↔
      call.Whole imc answer := by
  cases call with
  | send data =>
    refine Iff.trans ?_ send_exact
    simp only [Call.run, Except.ok.injEq, forall_eq']
  | receive size =>
    refine iff_of_true (fun t h hok => ?_) trivial
    cases h
    exact receive_exact hok
  | sendFds data handles => exact sendFds_exact
  | receiveFds size handleCount => exact receiveFds_exact

def lateMessage : Channel := ⟨[], [], [7]⟩

/-- `ipc_receive_fds` returns `XRT_SUCCESS` for it. -/
theorem lateMessage_not_exact :
    ¬ ∀ t, (Call.receiveFds 4 1).run lateMessage (.received 1 none (by decide) (by decide)) = .ok t →
      t.result = .success →
      (Call.receiveFds 4 1).Transferred lateMessage t (.received 1 none (by decide) (by decide)) := by
  intro h
  have hdata := (h ⟨.success, [7], none, ⟨[], [], []⟩⟩ rfl rfl).1.available
  revert hdata
  decide

end AugmentedInsanity.Ipc
