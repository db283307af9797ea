/-
Futures (`u_future.cpp`). A future is decided once, by the first call that completes or cancels it, and from then on every
other call finds what that one has decided (`future_agrees`).

A step is what a call does with the mutex locked, or the atomic load it does without. Only `wait` gives the mutex back in
between. Time is left out: a wait may time out whenever it likes, before its end or past it.
-/
import AugmentedInsanity.Lib.CondVar
import AugmentedInsanity.Lib.Runs
import AugmentedInsanity.Xrt.Defines

namespace AugmentedInsanity.Util

open Xrt Runs

/-! ## Future -/

inductive XrtFutureState
  | pending
  | ready
  | cancelled
  deriving DecidableEq

inductive XrtFutureValue
  | none
  | uint64 (value : UInt64)
  | int64 (value : Int64)
  deriving DecidableEq

structure XrtFutureResult where
  value : XrtFutureValue
  result : XrtResult
  deriving DecidableEq

/-- `struct u_future`, without the mutex and the condition variable. -/
structure UFuture where
  state : XrtFutureState
  result : XrtResult
  value : XrtFutureValue
  deriving DecidableEq

/-- What a call gives back: its result code, and what it has written behind a pointer. -/
inductive Report
  | complete (ret : XrtResult)
  | cancel (ret : XrtResult)
  | getState (ret : XrtResult) (outState : Option XrtFutureState)
  | isCancelRequested (ret : XrtResult) (outRequestCancel : Option Bool)
  | getResult (ret : XrtResult) (outResult : Option XrtFutureResult)
  | wait (ret : XrtResult)
  deriving DecidableEq

/-- A call that decides a future, with what it decides. -/
inductive Outcome
  | ready (ftResult : XrtFutureResult)
  | cancelled
  deriving DecidableEq

namespace UFuture

/-- `u_future_create`. -/
def create : UFuture := ⟨.pending, .success, .none⟩

/-- `none` is a NULL pointer, here and below. The last part is not returned in the source: it tells whether the call has
taken effect. -/
def uFutureComplete (uft : UFuture) : Option XrtFutureResult → Report × UFuture × Option Outcome
  | none => (.complete .errorInvalidArgument, uft, none)
  | some ftResult =>
    match uft.state with
    | .ready => (.complete .errorFutureAlreadyComplete, uft, none)
    | .cancelled => (.complete .operationCancelled, uft, none)
    | .pending =>
      let uft := if ftResult.result = .success then { uft with value := ftResult.value } else uft
      (.complete .success, { uft with state := .ready, result := ftResult.result }, some (.ready ftResult))

def uFutureCancel (uft : UFuture) : Report × UFuture × Option Outcome :=
  if uft.state = .pending then
    (.cancel .success, { uft with state := .cancelled, result := .operationCancelled }, some .cancelled)
  else (.cancel .success, uft, none)

/-- The argument tells whether a pointer is given; so below. -/
def uFutureGetState (uft : UFuture) (outState : Bool) : Report :=
  if outState then .getState .success (some uft.state) else .getState .errorInvalidArgument none

def uFutureIsCancelRequested (uft : UFuture) (outRequestCancel : Bool) : Report :=
  if outRequestCancel then .isCancelRequested .success (some (uft.state = .cancelled))
  else .isCancelRequested .errorInvalidArgument none

def uFutureGetResult (uft : UFuture) : Option XrtFutureResult → Report
  | none => .getResult .errorInvalidArgument none
  | some outResult =>
    if uft.state = .pending then .getResult .errorFutureResultNotReady (some outResult)
    else
      let outResult := { outResult with result := uft.result }
      if outResult.result = .success ∧ uft.state = .ready then
        .getResult .success (some { outResult with value := uft.value })
      else .getResult .success (some outResult)

end UFuture

/-! ## Threads -/

/-- Where a thread is: in no call of `wait`, waiting in it, or past its loop with a state that is not pending. -/
inductive FutureCaller
  | outside
  | waiting
  | leaving
  deriving DecidableEq

/-- A future and the threads that wait for it, and what is not data of the source: the calls that have taken effect, and
what was given back by the call that has returned in the last step, if one has. -/
structure FutureSystem (θ : Type) where
  future : UFuture
  cv : CondVar θ
  caller : θ → FutureCaller
  effects : List Outcome
  report : Option Report

/-- What `pthread_cond_timedwait` returns after waiting, and for `ETIMEDOUT` whether the clock has passed the end. Other
errors it returns at once, without waiting. -/
inductive TimedWait
  | woken
  | timedOut (past : Bool)
  deriving DecidableEq

namespace FutureSystem

variable {θ : Type} [DecidableEq θ]

omit [DecidableEq θ] in
def create : FutureSystem θ := ⟨.create, .empty, fun _ => .outside, [], none⟩

def setCaller (s : FutureSystem θ) (t : θ) (state : FutureCaller) : FutureSystem θ :=
  { s with caller := Function.update s.caller t state }

/-- A call that may decide the future wakes all that wait if it does. -/
def settle (s : FutureSystem θ) : Report × UFuture × Option Outcome → FutureSystem θ
  | (report, uft, none) => { s with future := uft, report := some report }
  | (report, uft, some outcome) =>
    { s with future := uft, cv := s.cv.broadcast, effects := s.effects ++ [outcome], report := some report }

/-- `u_future_wait` after its loop, up to the load of the result. -/
def afterLoop (s : FutureSystem θ) (t : θ) (currState : XrtFutureState) : FutureSystem θ :=
  if currState = .pending then { s with report := some (.wait .timeout) }.setCaller t .outside
  else s.setCaller t .leaving

/-- The loop of `u_future_wait`, up to where the mutex is given back; `error` tells whether the thread cannot wait. -/
def waitLoop (s : FutureSystem θ) (t : θ) (error : Bool) : FutureSystem θ :=
  if s.future.state = .pending then
    if error then s.afterLoop t .pending else { s with cv := s.cv.wait t }.setCaller t .waiting
  else s.afterLoop t s.future.state

inductive FutureAction (θ : Type)
  | complete (ftResult : Option XrtFutureResult)
  | cancel
  | getState (outState : Bool)
  | isCancelRequested (outRequestCancel : Bool)
  | getResult (outResult : Option XrtFutureResult)
  | wait (t : θ) (error : Bool)
  | wake (t : θ)
  | resume (t : θ) (waitRes : TimedWait) (error : Bool)
  | leave (t : θ)

def live (s : FutureSystem θ) : FutureAction θ → Option (FutureSystem θ)
  | .complete ftResult => some (s.settle (s.future.uFutureComplete ftResult))
  | .cancel => some (s.settle s.future.uFutureCancel)
  | .getState outState => some { s with report := some (s.future.uFutureGetState outState) }
  | .isCancelRequested out => some { s with report := some (s.future.uFutureIsCancelRequested out) }
  | .getResult outResult => some { s with report := some (s.future.uFutureGetResult outResult) }
  | .wait t error => if s.caller t = .outside then some (s.waitLoop t error) else none
  | .wake t => (s.cv.spurious t).map fun cv => { s with cv := cv }
  | .resume t waitRes error =>
    if s.caller t = .waiting then
      (s.cv.resume t).map fun cv =>
        match waitRes with
        | .timedOut true => { s with cv := cv }.afterLoop t s.future.state
        | _ => { s with cv := cv }.waitLoop t error
    else none
  | .leave t =>
    if s.caller t = .leaving then some ({ s with report := some (.wait s.future.result) }.setCaller t .outside) else none

def step (s : FutureSystem θ) (a : FutureAction θ) : Option (FutureSystem θ) := { s with report := none }.live a

end FutureSystem

/-! ## What a future is to everybody -/

def Outcome.state : Outcome → XrtFutureState
  | .ready _ => .ready
  | .cancelled => .cancelled

def Outcome.result : Outcome → XrtResult
  | .ready ftResult => ftResult.result
  | .cancelled => .operationCancelled

/-- What `get_result` leaves behind its pointer: the value is only there with a success. -/
def Outcome.write (outResult : XrtFutureResult) : Outcome → XrtFutureResult
  | .ready ftResult => if ftResult.result = .success then ftResult else { outResult with result := ftResult.result }
  | .cancelled => { outResult with result := .operationCancelled }

/-- What a completion is answered once the future is decided. -/
def Outcome.refusal : Outcome → XrtResult
  | .ready _ => .errorFutureAlreadyComplete
  | .cancelled => .operationCancelled

namespace FutureSystem

variable {θ : Type}

/-- What a call decides if it is the first one to do so. -/
def decides : FutureAction θ → Option Outcome
  | .complete (some ftResult) => some (.ready ftResult)
  | .cancel => some .cancelled
  | _ => none

/-- What a call must give back, as the future was decided or not before. -/
def expected (o : Option Outcome) : FutureAction θ → Option Report
  | .complete none => some (.complete .errorInvalidArgument)
  | .complete (some _) => some (.complete (o.elim .success Outcome.refusal))
  | .cancel => some (.cancel .success)
  | .getState outState =>
    some (if outState then .getState .success (some (o.elim .pending Outcome.state))
      else .getState .errorInvalidArgument none)
  | .isCancelRequested out =>
    some (if out then .isCancelRequested .success (some (o = some .cancelled))
      else .isCancelRequested .errorInvalidArgument none)
  | .getResult none => some (.getResult .errorInvalidArgument none)
  | .getResult (some outResult) =>
    some (match o with
      | none => .getResult .errorFutureResultNotReady (some outResult)
      | some outcome => .getResult .success (some (outcome.write outResult)))
  | .leave _ => some (.wait (o.elim .timeout Outcome.result))
  | .wait _ _ => none
  | .wake _ => none
  | .resume _ _ _ => none

/-- The thread that goes through the loop of `wait` in a step. -/
def waiter : FutureAction θ → Option θ
  | .wait t _ => some t
  | .resume t _ _ => some t
  | _ => none

/-- The first call that completes or cancels the future decides it, once and for all; every call gives back what goes
with what was decided before it, and a wait times out only if nothing was, and else does not wait any longer. -/
structure Agrees (s : FutureSystem θ) (a : FutureAction θ) (s' : FutureSystem θ) : Prop where
  once : s'.effects.length ≤ 1
  first : s'.effects = if s.effects = [] then (decides a).toList else s.effects
  state : s'.future.state = s'.effects.head?.elim .pending Outcome.state
  stays : s.effects ≠ [] → s'.future = s.future
  reports : s'.report = expected s.effects.head? a ∨
    s.effects = [] ∧ (waiter a).isSome = true ∧ s'.report = some (.wait .timeout)
  leaves : s.effects ≠ [] → ∀ t, waiter a = some t → s'.caller t = .leaving

/-- The calls that do not wait. -/
def asks : FutureAction θ → Bool
  | .complete _ | .cancel | .getState _ | .isCancelRequested _ | .getResult _ => true
  | .wait _ _ | .wake _ | .resume _ _ _ | .leave _ => false

/-- Once the future is decided, every thread that waits for it can go on, whatever its wait returns. -/
def Unblocked [DecidableEq θ] (s : FutureSystem θ) : Prop :=
  s.effects ≠ [] → ∀ t waitRes error, s.caller t = .waiting → (s.step (.resume t waitRes error)).isSome = true

inductive Holds (uft : UFuture) : List Outcome → Prop
  | pending (hstate : uft.state = .pending) : Holds uft []
  | ready (ftResult : XrtFutureResult) (hstate : uft.state = .ready) (hresult : uft.result = ftResult.result)
      (hvalue : ftResult.result = .success → uft.value = ftResult.value) : Holds uft [.ready ftResult]
  | cancelled (hstate : uft.state = .cancelled) (hresult : uft.result = .operationCancelled) : Holds uft [.cancelled]

structure FutureInv (s : FutureSystem θ) : Prop where
  holds : Holds s.future s.effects
  leaving : ∀ t, s.caller t = .leaving → s.effects ≠ []
  waiting : ∀ t, s.caller t = .waiting → t ∈ s.cv.waiting
  woken : s.effects ≠ [] → s.cv.blocked = []

/-- All that wait but `t` are still in the condition variable, and woken if the future is decided. -/
structure Queued (s : FutureSystem θ) (t : θ) (cv : CondVar θ) : Prop where
  others : ∀ t', t' ≠ t → s.caller t' = .waiting → t' ∈ cv.waiting
  woken : s.effects ≠ [] → cv.blocked = []

variable {uft : UFuture} {effects : List Outcome} {s s' : FutureSystem θ}

theorem Holds.once (h : Holds uft effects) : effects.length ≤ 1 := by
  cases h with
  | pending => exact Nat.zero_le _
  | ready => exact Nat.le_refl _
  | cancelled => exact Nat.le_refl _

theorem Holds.state (h : Holds uft effects) : uft.state = effects.head?.elim .pending Outcome.state := by
  cases h with
  | pending hstate => exact hstate
  | ready ftResult hstate => exact hstate
  | cancelled hstate => exact hstate

theorem Holds.result (h : Holds uft effects) (hne : effects ≠ []) :
    some (Report.wait uft.result) = some (.wait (effects.head?.elim .timeout Outcome.result)) := by
  cases h with
  | pending => exact absurd rfl hne
  | ready ftResult hstate hresult => rw [hresult]; rfl
  | cancelled hstate hresult => rw [hresult]; rfl

theorem Holds.pending_iff (h : Holds uft effects) : uft.state = .pending ↔ effects = [] := by
  cases h with
  | pending hstate => exact iff_of_true hstate rfl
  | ready ftResult hstate => exact iff_of_false (by rw [hstate]; decide) (List.cons_ne_nil _ _)
  | cancelled hstate => exact iff_of_false (by rw [hstate]; decide) (List.cons_ne_nil _ _)

/-! ## Calls -/

/-- What a call that may decide the future has given, and what it leaves, if these calls have decided it before. -/
structure Settles (uft : UFuture) (effects : List Outcome) (a : FutureAction θ) (c : Report × UFuture × Option Outcome) :
    Prop where
  report : some c.1 = expected effects.head? a
  effect : c.2.2 = if effects = [] then decides a else none
  stays : effects ≠ [] → c.2.1 = uft
  holds : Holds c.2.1 (if effects = [] then (decides a).toList else effects)

theorem Holds.complete (h : Holds uft effects) (ftResult : Option XrtFutureResult) :
    Settles uft effects (.complete ftResult : FutureAction θ) (uft.uFutureComplete ftResult) := by
  cases ftResult with
  | none =>
    refine ⟨rfl, (ite_self _).symm, fun _ => rfl, ?_⟩
    split
    · rename_i hnil
      rw [hnil] at h
      exact h
    · exact h
  | some ftResult =>
    cases h with
    | pending hstate =>
      simp only [UFuture.uFutureComplete, hstate]
      refine ⟨rfl, rfl, fun hne => absurd rfl hne, .ready ftResult rfl rfl fun hsuccess => ?_⟩
      rw [if_pos hsuccess]
    | ready ft hstate hresult hvalue =>
      simp only [UFuture.uFutureComplete, hstate]
      exact ⟨rfl, rfl, fun _ => rfl, .ready ft hstate hresult hvalue⟩
    | cancelled hstate hresult =>
      simp only [UFuture.uFutureComplete, hstate]
      exact ⟨rfl, rfl, fun _ => rfl, .cancelled hstate hresult⟩

theorem Holds.cancel (h : Holds uft effects) :
    Settles uft effects (.cancel : FutureAction θ) uft.uFutureCancel := by
  unfold UFuture.uFutureCancel
  by_cases hnil : effects = []
  · rw [if_pos (h.pending_iff.2 hnil)]
    refine ⟨rfl, (if_pos hnil).symm, fun hne => absurd hnil hne, ?_⟩
    rw [if_pos hnil]
    exact .cancelled rfl rfl
  · rw [if_neg fun hpending => hnil (h.pending_iff.1 hpending)]
    refine ⟨rfl, (if_neg hnil).symm, fun _ => rfl, ?_⟩
    rw [if_neg hnil]
    exact h

theorem Holds.getResult (h : Holds uft effects) (outResult : Option XrtFutureResult) :
    some (uft.uFutureGetResult outResult) = expected effects.head? (.getResult outResult : FutureAction θ) := by
  cases outResult with
  | none => rfl
  | some outResult =>
    cases h with
    | pending hstate =>
      simp only [UFuture.uFutureGetResult, hstate]
      rfl
    | ready ftResult hstate hresult hvalue =>
      simp only [UFuture.uFutureGetResult, hstate, hresult, expected, List.head?_cons, Outcome.write]
      by_cases hsuccess : ftResult.result = .success
      · rw [if_neg (by decide), if_pos ⟨hsuccess, trivial⟩, if_pos hsuccess, hvalue hsuccess]
      · rw [if_neg (by decide), if_neg (fun hboth => hsuccess hboth.1), if_neg hsuccess]
    | cancelled hstate hresult =>
      simp only [UFuture.uFutureGetResult, hstate, hresult]
      rfl

theorem Holds.isCancelRequested (h : Holds uft effects) (out : Bool) :
    some (uft.uFutureIsCancelRequested out) = expected effects.head? (.isCancelRequested out : FutureAction θ) := by
  cases h with
  | pending hstate =>
    rw [UFuture.uFutureIsCancelRequested, hstate]
    rfl
  | ready ftResult hstate =>
    rw [UFuture.uFutureIsCancelRequested, hstate]
    rfl
  | cancelled hstate =>
    rw [UFuture.uFutureIsCancelRequested, hstate]
    rfl

/-! ## Steps -/

theorem settle_eq (s : FutureSystem θ) (c : Report × UFuture × Option Outcome) :
    ∃ cv, s.settle c =
      { s with future := c.2.1, cv := cv, effects := s.effects ++ c.2.2.toList, report := some c.1 } ∧
        cv.waiting = s.cv.waiting ∧ (s.cv.blocked = [] ∨ c.2.2 ≠ none → cv.blocked = []) := by
  obtain ⟨report, uft, effect⟩ := c
  cases effect with
  | none => exact ⟨s.cv, by rw [Option.toList_none, List.append_nil]; rfl, rfl, by simp⟩
  | some outcome => exact ⟨s.cv.broadcast, rfl, List.nil_append _, fun _ => rfl⟩

variable {a : FutureAction θ} {t : θ}

theorem FutureInv.settle (h : s.FutureInv) {c : Report × UFuture × Option Outcome}
    (hsettles : Settles s.future s.effects a c) (hwaiter : waiter a = none) :
    Agrees s a (s.settle c) ∧ (s.settle c).FutureInv := by
  obtain ⟨cv, heq, hwaiting, hwoken⟩ := settle_eq s c
  have heffects : s.effects ++ c.2.2.toList = if s.effects = [] then (decides a).toList else s.effects := by
    rw [hsettles.effect]
    by_cases hnil : s.effects = []
    · rw [if_pos hnil, if_pos hnil, hnil, List.nil_append]
    · rw [if_neg hnil, if_neg hnil, Option.toList_none, List.append_nil]
  have hholds := hsettles.holds
  rw [← heffects] at hholds
  rw [heq]
  constructor
  · refine ⟨hholds.once, heffects, hholds.state, hsettles.stays, .inl hsettles.report, fun _ t ht => ?_⟩
    rw [hwaiter] at ht
    cases ht
  · refine ⟨hholds, fun t ht => ?_, fun t ht => ?_, fun hne => hwoken ?_⟩
    · exact List.append_ne_nil_of_left_ne_nil (h.leaving t ht) _
    · show t ∈ cv.waiting
      rw [hwaiting]
      exact h.waiting t ht
    · by_cases hnil : s.effects = []
      · refine .inr fun hnone => hne ?_
        show s.effects ++ c.2.2.toList = []
        rw [hnil, hnone]
        rfl
      · exact .inl (h.woken hnil)

theorem FutureInv.caller (h : s.FutureInv) {a : FutureAction θ} {cv : CondVar θ} {caller : θ → FutureCaller}
    {report : Option Report} (hdecides : decides a = none)
    (hreport : report = expected s.effects.head? a ∨
      s.effects = [] ∧ (waiter a).isSome = true ∧ report = some (.wait .timeout))
    (hleaves : s.effects ≠ [] → ∀ t, waiter a = some t → caller t = .leaving)
    (hleaving : ∀ t, caller t = .leaving → s.effects ≠ []) (hwaiting : ∀ t, caller t = .waiting → t ∈ cv.waiting)
    (hwoken : s.effects ≠ [] → cv.blocked = []) :
    Agrees s a { s with cv := cv, caller := caller, report := report } ∧
      ({ s with cv := cv, caller := caller, report := report } : FutureSystem θ).FutureInv := by
  refine ⟨⟨h.holds.once, ?_, h.holds.state, fun _ => rfl, hreport, hleaves⟩, h.holds, hleaving, hwaiting,
    hwoken⟩
  rw [hdecides]
  split
  · rename_i hnil
    exact hnil
  · rfl

theorem FutureInv.reads (h : s.FutureInv) {report : Report} (hreport : some report = expected s.effects.head? a)
    (hdecides : decides a = none) (hwaiter : waiter a = none) :
    Agrees s a { s with report := some report } ∧ ({ s with report := some report } : FutureSystem θ).FutureInv := by
  refine h.caller hdecides (.inl hreport) (fun _ t ht => ?_) h.leaving h.waiting h.woken
  rw [hwaiter] at ht
  cases ht

theorem expected_of_waiter (h : waiter a = some t) : decides a = none ∧ ∀ o, expected o a = none := by
  cases a with
  | wait | resume => exact ⟨rfl, fun _ => rfl⟩
  | complete | cancel | getState | isCancelRequested | getResult | wake | leave => cases h

theorem FutureInv.queued (h : s.FutureInv) (t : θ) : s.Queued t s.cv := ⟨fun t' _ => h.waiting t', h.woken⟩

variable [DecidableEq θ] {cv : CondVar θ}

theorem Queued.caller (hcv : s.Queued t cv) {state : FutureCaller} (hstate : state ≠ .waiting) (t' : θ)
    (ht' : Function.update s.caller t state t' = .waiting) : t' ∈ cv.waiting := by
  by_cases heq : t' = t
  · rw [heq, Function.update_self] at ht'
    exact absurd ht' hstate
  · rw [Function.update_of_ne heq] at ht'
    exact hcv.others t' heq ht'

theorem FutureInv.afterLoop (h : s.FutureInv) (hnone : s.report = none) (hwaiter : waiter a = some t)
    (hcv : s.Queued t cv) : Agrees s a ({ s with cv := cv }.afterLoop t s.future.state) ∧
      ({ s with cv := cv }.afterLoop t s.future.state).FutureInv := by
  obtain ⟨hdecides, hexpected⟩ := expected_of_waiter hwaiter
  unfold FutureSystem.afterLoop
  split
  · rename_i hpending
    have hnil := h.holds.pending_iff.1 hpending
    refine h.caller hdecides (.inr ⟨hnil, ?_, rfl⟩) (fun hne => absurd hnil hne) (fun t' ht' => ?_)
      (hcv.caller nofun) hcv.woken
    · rw [hwaiter]
      rfl
    · by_cases heq : t' = t
      · rw [heq, Function.update_self] at ht'
        cases ht'
      · rw [Function.update_of_ne heq] at ht'
        exact h.leaving t' ht'
  · rename_i hpending
    have hne : s.effects ≠ [] := fun hnil => hpending (h.holds.pending_iff.2 hnil)
    refine h.caller hdecides (.inl ?_) (fun _ t' ht' => ?_) (fun _ _ => hne) (hcv.caller nofun) hcv.woken
    · rw [hexpected]
      exact hnone
    · rw [hwaiter] at ht'
      cases ht'
      exact Function.update_self ..

theorem FutureInv.waitLoop (h : s.FutureInv) (hnone : s.report = none) (hwaiter : waiter a = some t)
    (hcv : s.Queued t cv) (error : Bool) :
    Agrees s a ({ s with cv := cv }.waitLoop t error) ∧ ({ s with cv := cv }.waitLoop t error).FutureInv := by
  obtain ⟨hdecides, hexpected⟩ := expected_of_waiter hwaiter
  unfold FutureSystem.waitLoop
  split
  · rename_i hpending
    cases error with
    | true =>
      have hafter := h.afterLoop hnone hwaiter hcv
      rw [show s.future.state = .pending from hpending] at hafter
      exact hafter
    | false =>
      refine h.caller hdecides (.inl ?_) (fun hne => ?_) (fun t' ht' => ?_) (fun t' ht' => ?_) fun hne => ?_
      · rw [hexpected]
        exact hnone
      · exact absurd (h.holds.pending_iff.1 hpending) hne
      · by_cases heq : t' = t
        · rw [heq, Function.update_self] at ht'
          cases ht'
        · rw [Function.update_of_ne heq] at ht'
          exact h.leaving t' ht'
      · by_cases heq : t' = t
        · rw [heq]
          exact List.mem_cons_self
        · rw [Function.update_of_ne heq] at ht'
          exact List.mem_cons_of_mem _ (hcv.others t' heq ht')
      · exact absurd (h.holds.pending_iff.1 hpending) hne
  · exact h.afterLoop hnone hwaiter hcv

theorem FutureInv.live (h : s.FutureInv) (hnone : s.report = none) (hlive : s.live a = some s') :
    Agrees s a s' ∧ s'.FutureInv := by
  cases a with
  | complete ftResult =>
    cases hlive
    exact h.settle (h.holds.complete ftResult) rfl
  | cancel =>
    cases hlive
    exact h.settle h.holds.cancel rfl
  | getState outState =>
    cases hlive
    refine h.reads ?_ rfl rfl
    rw [UFuture.uFutureGetState, h.holds.state]
    rfl
  | isCancelRequested out =>
    cases hlive
    exact h.reads (h.holds.isCancelRequested out) rfl rfl
  | getResult outResult =>
    cases hlive
    exact h.reads (h.holds.getResult outResult) rfl rfl
  | wait t error =>
    simp only [FutureSystem.live] at hlive
    split at hlive
    · cases hlive
      exact h.waitLoop hnone rfl (h.queued t) error
    · cases hlive
  | wake t =>
    obtain ⟨cv, hcv, rfl⟩ := Option.map_eq_some_iff.1 hlive
    refine h.caller rfl (.inl hnone) (fun _ t' ht' => ?_) h.leaving
      (fun t' ht' => (CondVar.waiting_spurious hcv).mem_iff.2 (h.waiting t' ht'))
      fun hne => CondVar.blocked_spurious hcv (h.woken hne)
    cases ht'
  | resume t waitRes error =>
    simp only [FutureSystem.live] at hlive
    split at hlive
    · obtain ⟨cv, hcv, rfl⟩ := Option.map_eq_some_iff.1 hlive
      have hqueued : s.Queued t cv := by
        refine ⟨fun t' hne ht' => ?_, fun hne => (CondVar.blocked_resume hcv).trans (h.woken hne)⟩
        exact (List.mem_cons.1 ((CondVar.waiting_resume hcv).mem_iff.1 (h.waiting t' ht'))).resolve_left hne
      split
      · exact h.afterLoop hnone rfl hqueued
      · exact h.waitLoop hnone rfl hqueued error
    · cases hlive
  | leave t =>
    simp only [FutureSystem.live] at hlive
    split at hlive
    · rename_i hleaving
      cases hlive
      refine h.caller rfl (.inl (h.holds.result (h.leaving t hleaving))) (fun _ t' ht' => ?_) (fun t' ht' => ?_)
        ((h.queued t).caller nofun) h.woken
      · cases ht'
      · by_cases heq : t' = t
        · rw [heq, Function.update_self] at ht'
          cases ht'
        · rw [Function.update_of_ne heq] at ht'
          exact h.leaving t' ht'
    · cases hlive

theorem FutureInv.unblocked (h : s.FutureInv) : s.Unblocked := by
  intro hne t waitRes error ht
  have hmem : t ∈ s.cv.woken := by
    have hmem := h.waiting t ht
    rwa [CondVar.waiting, h.woken hne, List.nil_append] at hmem
  show (if s.caller t = .waiting then _ else none : Option (FutureSystem θ)).isSome = true
  rw [if_pos ht, Option.isSome_map]
  show (if t ∈ s.cv.woken then _ else none : Option (CondVar θ)).isSome = true
  rw [if_pos hmem]
  rfl

theorem step_of_asks (h : asks a = true) : (s.step a).isSome = true := by
  cases a with
  | complete | cancel | getState | isCancelRequested | getResult => rfl
  | wait | wake | resume | leave => cases h

/-- In every run of any calls by any threads, calls that do not wait are answered, all agree on what the first completion
or cancellation has decided, and nobody goes on waiting for it. -/
theorem future_agrees (actions : List (FutureAction θ)) :
    Along step (fun s a => (asks a = true → (s.step a).isSome = true) ∧
      ∀ s', s.step a = some s' → Agrees s a s' ∧ s'.Unblocked) (create : FutureSystem θ) actions := by
  have hcreate : (create : FutureSystem θ).FutureInv := ⟨.pending rfl, nofun, nofun, fun _ => rfl⟩
  have hstep : ∀ (s : FutureSystem θ) a s', s.FutureInv → s.step a = some s' → Agrees s a s' ∧ s'.FutureInv := by
    intro s a s' h hstep
    have hnone : ({ s with report := none } : FutureSystem θ).FutureInv := ⟨h.holds, h.leaving, h.waiting, h.woken⟩
    obtain ⟨hagrees, hinv⟩ := hnone.live rfl hstep
    exact ⟨⟨hagrees.once, hagrees.first, hagrees.state, hagrees.stays, hagrees.reports, hagrees.leaves⟩, hinv⟩
  refine along_of_inv' (fun s a h => ⟨step_of_asks, fun s' hs' => ?_⟩) (fun s a s' h hs' => (hstep s a s' h hs').2) hcreate
    actions
  obtain ⟨hagrees, hinv⟩ := hstep s a s' h hs'
  exact ⟨hagrees, hinv.unblocked⟩

end FutureSystem

end AugmentedInsanity.Util
