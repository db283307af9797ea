/-
The reference spaces that a client uses (`ref_space_inc` and `ref_space_dec` of `ipc_client_space_overseer.c`). The
client counts its uses and has the server mark a type with the first and unmark it with the last, but counts before it
knows whether the server did. Counts and marks correspond, and calls that fail change no count, along exactly the runs
in which these requests succeed and no count overflows (`run_refSpacesRight_iff`).
-/
import AugmentedInsanity.Ipc.Server.Uses
import AugmentedInsanity.Lib.Runs
import AugmentedInsanity.Lib.SignedCounts

namespace AugmentedInsanity.Ipc.Client.RefSpaces

open Runs SignedCounts Xrt

/-! ## The calls -/

/-- `ref_space_use` of `struct ipc_client_space_overseer`, and what the server has of the client. -/
structure RefSpaceUses where
  refSpaceUse : Fin XRT_SPACE_REFERENCE_TYPE_COUNT → Int32
  ics : IpcClientState

def RefSpaceUses.create : RefSpaceUses := ⟨fun _ => 0, .zero⟩

def RefSpaceUses.count (s : RefSpaceUses) (type : Fin XRT_SPACE_REFERENCE_TYPE_COUNT) (count : Int32) : RefSpaceUses :=
  { s with refSpaceUse := Function.update s.refSpaceUse type count }

/-- What becomes of a request: it is not sent, or the server handles it, with the answer of its space overseer, and the
reply arrives or does not. -/
inductive IpcCall
  | notSent
  | replied (counted : XrtResult)
  | replyLost (counted : XrtResult)
  deriving DecidableEq

/-- `ipc_call_space_mark_ref_space_in_use`, `ipc_call_space_unmark_ref_space_in_use`. -/
def RefSpaceUses.ipcCall (s : RefSpaceUses) (request : UseRequest) : IpcCall → Except Fault (XrtResult × RefSpaceUses)
  | .notSent => .ok (.errorIpcFailure, s)
  | .replied counted => (request.handle s.ics counted).map fun r => (r.1, { s with ics := r.2 })
  | .replyLost counted => (request.handle s.ics counted).map fun r => (.errorIpcFailure, { s with ics := r.2 })

/-- `ref_space_inc`, of a type that passes its assertion. -/
def refSpaceInc (s : RefSpaceUses) (type : Fin XRT_SPACE_REFERENCE_TYPE_COUNT) (call : IpcCall) :
    Except Fault (XrtResult × RefSpaceUses) :=
  -- `xrt_reference_inc_and_was_zero`
  let count := s.refSpaceUse type + 1
  if count = 1 then (s.count type count).ipcCall (.markRefSpaceInUse (UInt32.ofNat type.val)) call
  else .ok (.success, s.count type count)

/-- `ref_space_dec`, of a type that passes its assertion. -/
def refSpaceDec (s : RefSpaceUses) (type : Fin XRT_SPACE_REFERENCE_TYPE_COUNT) (call : IpcCall) :
    Except Fault (XrtResult × RefSpaceUses) :=
  -- `xrt_reference_dec_and_is_zero`
  let count := s.refSpaceUse type - 1
  if count = 0 then (s.count type count).ipcCall (.unmarkRefSpaceInUse (UInt32.ofNat type.val)) call
  else .ok (.success, s.count type count)

/-! ## Runs -/

/-- A call for a type, with what becomes of the request that it may make. -/
inductive RefSpaceOp
  | inc (type : Fin XRT_SPACE_REFERENCE_TYPE_COUNT) (call : IpcCall)
  | dec (type : Fin XRT_SPACE_REFERENCE_TYPE_COUNT) (call : IpcCall)
  deriving DecidableEq

def RefSpaceUses.call (s : RefSpaceUses) : RefSpaceOp → Except Fault (XrtResult × RefSpaceUses)
  | .inc type call => refSpaceInc s type call
  | .dec type call => refSpaceDec s type call

def refSpaceStep (s : RefSpaceUses) (op : RefSpaceOp) : Option RefSpaceUses := (s.call op).toOption.map Prod.snd

def MarkedRight (s : RefSpaceUses) : Prop := ∀ type, 0 < s.refSpaceUse type ↔ s.ics.refSpaceUsed type = true

/-- The call returns, with the counts as they were if it fails, and what is used then is marked. -/
def RefSpacesRight (s : RefSpaceUses) (op : RefSpaceOp) : Prop :=
  ∃ xret s', s.call op = .ok (xret, s') ∧ (xret ≠ .success → s'.refSpaceUse = s.refSpaceUse) ∧ MarkedRight s'

/-- The server does as the first use and the last one ask, and the reply arrives; no count overflows. -/
def RequestsSucceed (s : RefSpaceUses) : RefSpaceOp → Prop
  | .inc type call =>
    (s.refSpaceUse type = 0 → call = .replied .success) ∧ s.refSpaceUse type ≠ 2147483647
  | .dec type call =>
    (s.refSpaceUse type = 1 → call = .replied .success) ∧ s.refSpaceUse type ≠ -2147483648

/-! ## One call -/

section
variable {s s' : RefSpaceUses} {type : Fin XRT_SPACE_REFERENCE_TYPE_COUNT}

theorem count_self (s : RefSpaceUses) (count : Int32) : (s.count type count).refSpaceUse type = count :=
  Function.update_self _ _ _

theorem count_other (s : RefSpaceUses) (count : Int32) {t : Fin XRT_SPACE_REFERENCE_TYPE_COUNT} (h : t ≠ type) :
    (s.count type count).refSpaceUse t = s.refSpaceUse t :=
  Function.update_of_ne h _ _

theorem refSpaceKind_type : ∀ type : Fin XRT_SPACE_REFERENCE_TYPE_COUNT,
    refSpaceKind (UInt32.ofNat type.val) = some (.refSpace type) := by
  decide

theorem ipcCall_spec (s : RefSpaceUses) {request : UseRequest} (hkind : request.kind = some (.refSpace type))
    (hused : s.ics.refSpaceUsed type ≠ request.on) (call : IpcCall) :
    ∃ xret s', s.ipcCall request call = .ok (xret, s') ∧ s'.refSpaceUse = s.refSpaceUse ∧
      (xret = .success ↔ call = .replied .success) ∧
      (call = .replied .success → s'.ics.refSpaceUsed = Function.update s.ics.refSpaceUsed type request.on) := by
  have hhandle : ∀ counted, request.handle s.ics counted =
      .ok (if counted ≠ .success then (counted, s.ics)
        else (.success, s.ics.setUsed (.refSpace type) request.on)) := by
    intro counted
    rw [UseRequest.handle_eq, hkind]
    exact congrArg _ (if_neg hused)
  cases call with
  | notSent =>
    refine ⟨_, _, rfl, rfl, by decide, ?_⟩
    rintro ⟨⟩
  | replied counted =>
    rw [RefSpaceUses.ipcCall, hhandle]
    by_cases hcounted : counted = .success
    · subst hcounted
      exact ⟨_, _, rfl, rfl, ⟨fun _ => rfl, fun _ => rfl⟩, fun _ => rfl⟩
    · rw [if_pos hcounted]
      refine ⟨_, _, rfl, rfl, ⟨fun h => absurd h hcounted, fun h => ?_⟩, fun h => ?_⟩
      · cases h
        rfl
      · cases h
        exact absurd rfl hcounted
  | replyLost counted =>
    rw [RefSpaceUses.ipcCall, hhandle]
    refine ⟨_, _, rfl, rfl, ?_, ?_⟩
    · exact ⟨fun h => absurd h (by decide), fun h => absurd h (by rintro ⟨⟩)⟩
    · rintro ⟨⟩

theorem MarkedRight.count_iff (h : MarkedRight s) {count : Int32} :
    MarkedRight (s.count type count) ↔ (0 < count ↔ 0 < s.refSpaceUse type) := by
  constructor
  · intro hmarked
    have hat := hmarked type
    rw [count_self] at hat
    exact hat.trans (h type).symm
  · intro hside t
    by_cases heq : t = type
    · subst heq
      rw [count_self]
      exact hside.trans (h t)
    · rw [count_other s count heq]
      exact h t

theorem MarkedRight.request_iff (h : MarkedRight s) {count : Int32} {request : UseRequest}
    (hkind : request.kind = some (.refSpace type)) (hused : s.ics.refSpaceUsed type ≠ request.on)
    (hcount : 0 < count ↔ request.on = true) (hne : count ≠ s.refSpaceUse type) (call : IpcCall) :
    (∃ xret s', (s.count type count).ipcCall request call = .ok (xret, s') ∧
      (xret ≠ .success → s'.refSpaceUse = s.refSpaceUse) ∧ MarkedRight s') ↔ call = .replied .success := by
  obtain ⟨xret, s', hcall, huse, hsuccess, hmark⟩ :=
    ipcCall_spec (s.count type count) hkind hused call
  constructor
  · rintro ⟨xret', s'', hcall', hkept, -⟩
    rw [hcall] at hcall'
    cases hcall'
    by_contra hnot
    have hsame := congrFun (huse.symm.trans (hkept fun hx => hnot (hsuccess.1 hx))) type
    rw [count_self] at hsame
    exact hne hsame
  · intro hreplied
    refine ⟨xret, s', hcall, fun hfail => absurd (hsuccess.2 hreplied) hfail, fun t => ?_⟩
    rw [huse, hmark hreplied]
    by_cases heq : t = type
    · subst heq
      rw [count_self, Function.update_self]
      exact hcount
    · rw [count_other s count heq, Function.update_of_ne heq]
      exact h t

theorem MarkedRight.inc_iff (h : MarkedRight s) {call : IpcCall} :
    RefSpacesRight s (.inc type call) ↔ RequestsSucceed s (.inc type call) := by
  show (∃ xret s', refSpaceInc s type call = .ok (xret, s') ∧
    (xret ≠ .success → s'.refSpaceUse = s.refSpaceUse) ∧ MarkedRight s') ↔
      (s.refSpaceUse type = 0 → call = .replied .success) ∧ s.refSpaceUse type ≠ 2147483647
  unfold refSpaceInc
  by_cases hzero : s.refSpaceUse type = 0
  · -- The first use: the server is to mark the type, which it has not.
    have hmark := h type
    rw [hzero] at hmark
    have hused : s.ics.refSpaceUsed type ≠ true := fun hon => absurd (hmark.2 hon) (by decide)
    have hkind : (UseRequest.markRefSpaceInUse (UInt32.ofNat type.val)).kind = some (.refSpace type) :=
      refSpaceKind_type type
    have hpositive : (0 : Int32) < 0 + 1 ↔ (UseRequest.markRefSpaceInUse (UInt32.ofNat type.val)).on = true :=
      ⟨fun _ => rfl, fun _ => by decide⟩
    rw [if_pos (inc_eq_one.2 hzero), hzero, h.request_iff hkind hused hpositive (by rw [hzero]; decide)]
    exact ⟨fun hcall => ⟨fun _ => hcall, by decide⟩, fun hsucceed => hsucceed.1 rfl⟩
  · rw [if_neg fun hone => hzero (inc_eq_one.1 hone)]
    constructor
    · rintro ⟨xret, s', hcall, -, hmarked⟩
      cases hcall
      refine ⟨fun hcount => absurd hcount hzero, fun hmax => ?_⟩
      have hside := h.count_iff.1 hmarked
      rw [hmax] at hside
      exact absurd hside (by decide)
    · rintro ⟨-, hmax⟩
      exact ⟨_, _, rfl, fun hne => absurd rfl hne, h.count_iff.2 (pos_inc hzero hmax)⟩

theorem MarkedRight.dec_iff (h : MarkedRight s) {call : IpcCall} :
    RefSpacesRight s (.dec type call) ↔ RequestsSucceed s (.dec type call) := by
  show (∃ xret s', refSpaceDec s type call = .ok (xret, s') ∧
    (xret ≠ .success → s'.refSpaceUse = s.refSpaceUse) ∧ MarkedRight s') ↔
      (s.refSpaceUse type = 1 → call = .replied .success) ∧ s.refSpaceUse type ≠ -2147483648
  unfold refSpaceDec
  by_cases hone : s.refSpaceUse type = 1
  · -- The last use: the server is to unmark the type, which it has marked.
    have hmark := h type
    rw [hone] at hmark
    have hused : s.ics.refSpaceUsed type ≠ false := by
      rw [hmark.1 (by decide)]
      decide
    have hkind : (UseRequest.unmarkRefSpaceInUse (UInt32.ofNat type.val)).kind = some (.refSpace type) :=
      refSpaceKind_type type
    have hpositive : (0 : Int32) < 1 - 1 ↔ (UseRequest.unmarkRefSpaceInUse (UInt32.ofNat type.val)).on = true :=
      ⟨fun hpos => absurd hpos (by decide), fun hon => absurd hon Bool.false_ne_true⟩
    rw [if_pos (dec_eq_zero.2 hone), hone, h.request_iff hkind hused hpositive (by rw [hone]; decide)]
    exact ⟨fun hcall => ⟨fun _ => hcall, by decide⟩, fun hsucceed => hsucceed.1 rfl⟩
  · rw [if_neg fun hzero => hone (dec_eq_zero.1 hzero)]
    constructor
    · rintro ⟨xret, s', hcall, -, hmarked⟩
      cases hcall
      refine ⟨fun hcount => absurd hcount hone, fun hmin => ?_⟩
      have hside := h.count_iff.1 hmarked
      rw [hmin] at hside
      exact absurd hside (by decide)
    · rintro ⟨-, hmin⟩
      exact ⟨_, _, rfl, fun hne => absurd rfl hne, h.count_iff.2 (pos_dec hone hmin)⟩

theorem MarkedRight.step_iff (h : MarkedRight s) (op : RefSpaceOp) : RefSpacesRight s op ↔ RequestsSucceed s op := by
  cases op with
  | inc type call => exact h.inc_iff
  | dec type call => exact h.dec_iff

theorem MarkedRight.step (h : MarkedRight s) {op : RefSpaceOp} (hsucceed : RequestsSucceed s op)
    (hs : refSpaceStep s op = some s') : MarkedRight s' := by
  obtain ⟨xret, t, hcall, -, hmarked⟩ := (h.step_iff op).2 hsucceed
  rw [refSpaceStep, hcall] at hs
  cases hs
  exact hmarked

end

theorem markedRight_create : MarkedRight .create := by
  intro type
  exact ⟨fun hpos => absurd hpos (show ¬ (0 : Int32) < 0 by decide), fun hon => absurd hon Bool.false_ne_true⟩

/-- In a run of calls of a client, its counts and the marks of the server correspond and calls that fail change no
count, if and only if the requests of first and of last uses succeed and no count overflows. -/
theorem run_refSpacesRight_iff (ops : List RefSpaceOp) :
    Along refSpaceStep RefSpacesRight .create ops ↔ Along refSpaceStep RequestsSucceed .create ops :=
  along_iff (fun _ op h => h.step_iff op) (fun _ _ _ h hsucceed hs => h.step hsucceed hs) markedRight_create ops

/-- The request of the first use is not sent. -/
theorem notSent_not_refSpacesRight :
    ¬ Along refSpaceStep RefSpacesRight .create [.inc 1 .notSent] := by
  intro hall
  obtain ⟨⟨xret, s', hcall, hkept, -⟩, -⟩ := along_cons.1 hall
  cases hcall
  have hcount := congrFun (hkept (by decide)) 1
  exact absurd hcount (by decide)

end AugmentedInsanity.Ipc.Client.RefSpaces
