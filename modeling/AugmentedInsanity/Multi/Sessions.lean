/-
The session of the native compositor, as the multi system compositor begins and ends it
(`comp_multi_system.c`): the render thread follows the number of client sessions that are active. What it does between
two releases of its lock is one step, and so is what a client or the shutdown does with that lock.
-/
import Mathlib.Data.Finset.Card
import AugmentedInsanity.Lib.Runs

namespace AugmentedInsanity.Multi

open Runs

/-! ## The native compositor -/

/-- A call on the native compositor that matters to its session. -/
inductive NativeCall
  | beginSession
  | endSession
  | destroy
  deriving DecidableEq

inductive NativeState
  | idle
  | begun
  | destroyed
  deriving DecidableEq

def nativeStep : NativeState → NativeCall → Option NativeState
  | .idle, .beginSession => some .begun
  | .begun, .endSession => some .idle
  | .idle, .destroy => some .destroyed
  | _, _ => none

/-- The calls begin and end sessions in turn, and destroy the compositor with none begun. -/
def Alternate (calls : List NativeCall) : Prop := ∃ s, Reaches nativeStep .idle calls s

variable {calls : List NativeCall}

theorem nativeStep_deterministic {s t t' : NativeState} (h : Reaches nativeStep s calls t)
    (h' : Reaches nativeStep s calls t') : t = t' := by
  induction calls generalizing s with
  | nil => exact h.trans h'.symm
  | cons c calls ih =>
    obtain ⟨u, hu, h⟩ := h
    obtain ⟨u', hu', h'⟩ := h'
    obtain rfl : u = u' := Option.some.inj (hu.symm.trans hu')
    exact ih h h'

theorem alternate_snoc_iff {s : NativeState} (h : Reaches nativeStep .idle calls s) (c : NativeCall) :
    Alternate (calls ++ [c]) ↔ nativeStep s c ≠ none := by
  constructor
  · rintro ⟨t, ht⟩
    obtain ⟨u, hu, hstep⟩ := reaches_snoc.1 ht
    rw [nativeStep_deterministic h hu, hstep]
    exact Option.some_ne_none t
  · intro hne
    obtain ⟨t, ht⟩ := Option.ne_none_iff_exists'.1 hne
    exact ⟨t, reaches_snoc.2 ⟨s, h, ht⟩⟩

/-! ## The multi system compositor -/

inductive MultiSystemState
  | invalid
  | initWarmStart
  | stopped
  | running
  | stopping
  deriving DecidableEq

/-- Where the render thread is in `multi_main_loop`. -/
inductive RenderThread
  | check
  | sleeping
  | composing
  | ended
  deriving DecidableEq

/-- The session part of `struct multi_system_compositor`, with the client compositors, those of them that have
`session_active` set, and the calls on the native compositor so far. -/
structure MultiSystemCompositor where
  state : MultiSystemState
  activeCount : ℕ
  oth : RenderThread
  isRunning : Bool
  clients : Finset ℕ
  sessionActive : Finset ℕ
  calls : List NativeCall

def compMultiCreateSystemCompositor (doWarmStart : Bool) : MultiSystemCompositor where
  state := if doWarmStart then .initWarmStart else .stopped
  activeCount := 0
  oth := .check
  isRunning := true
  clients := ∅
  sessionActive := ∅
  calls := []

def MultiSystemCompositor.native (msc : MultiSystemCompositor) (c : NativeCall) : MultiSystemCompositor :=
  { msc with calls := msc.calls ++ [c] }

/-- `update_session_state_locked`, unless an assertion fails. -/
def updateSessionStateLocked (msc : MultiSystemCompositor) : Option MultiSystemCompositor :=
  match msc.state with
  | .initWarmStart => some ({ msc with state := .stopping }.native .beginSession)
  | .stopped =>
    if msc.activeCount = 0 then some msc else some ({ msc with state := .running }.native .beginSession)
  | .running => if 0 < msc.activeCount then some msc else some { msc with state := .stopping }
  | .stopping =>
    if 0 < msc.activeCount then some { msc with state := .running }
    else some ({ msc with state := .stopped }.native .endSession)
  | .invalid => none

/-- The clean-up of `multi_main_loop`. -/
def cleanUp (msc : MultiSystemCompositor) : MultiSystemCompositor :=
  match msc.state with
  | .running => msc.native .endSession
  | .stopping => msc.native .endSession
  | .stopped => msc
  | .initWarmStart => msc.native .endSession
  | .invalid => msc.native .endSession

/-- What the render thread does with its lock, at the check of the loop. -/
def checkRunning (msc : MultiSystemCompositor) : Option MultiSystemCompositor :=
  if msc.isRunning then
    (updateSessionStateLocked msc).map fun msc =>
      { msc with oth := if msc.state = .stopped then .sleeping else .composing }
  else some { cleanUp msc with oth := .ended }

abbrev UINT32_MAX : ℕ := 4294967295

/-- `multi_system_compositor_update_session_status`, unless an assertion fails. A thread that sleeps can also wake up
by itself, so the signal is no more than that. -/
def updateSessionStatus (msc : MultiSystemCompositor) (active : Bool) : Option MultiSystemCompositor :=
  if active then
    if msc.activeCount < UINT32_MAX then some { msc with activeCount := msc.activeCount + 1 } else none
  else if 0 < msc.activeCount then some { msc with activeCount := msc.activeCount - 1 } else none

/-! ## Steps -/

/-- A step of the render thread, of a client (by the number of its compositor), or of the shutdown. -/
inductive SessionOp
  | check
  | wakeUp
  | frame
  | create (client : ℕ)
  | beginSession (client : ℕ)
  | endSession (client : ℕ)
  | layerCommit (client : ℕ)
  | destroy (client : ℕ)
  | stopThread
  | destroySystem
  deriving DecidableEq

def sessionStep (msc : MultiSystemCompositor) : SessionOp → Option MultiSystemCompositor
  | .check => if msc.oth = .check then checkRunning msc else none
  | .wakeUp => if msc.oth = .sleeping then some { msc with oth := .check } else none
  | .frame => if msc.oth = .composing then some { msc with oth := .check } else none
  | .create client =>
    if client ∈ msc.clients ∨ .destroy ∈ msc.calls then none
    else some { msc with clients := insert client msc.clients }
  | .beginSession client =>
    if client ∈ msc.clients ∧ client ∉ msc.sessionActive then
      (updateSessionStatus msc true).map fun msc => { msc with sessionActive := insert client msc.sessionActive }
    else none
  | .endSession client =>
    if client ∈ msc.clients ∧ client ∈ msc.sessionActive then
      (updateSessionStatus msc false).map fun msc => { msc with sessionActive := msc.sessionActive.erase client }
    else none
  -- a commit has no part in the session state
  | .layerCommit client => if client ∈ msc.clients then some msc else none
  | .destroy client =>
    if client ∈ msc.clients then
      (if client ∈ msc.sessionActive then
        (updateSessionStatus msc false).map fun msc => { msc with sessionActive := msc.sessionActive.erase client }
      else some msc).map fun msc => { msc with clients := msc.clients.erase client }
    else none
  -- `system_compositor_destroy` first stops the thread and waits for it
  | .stopThread => if msc.isRunning then some { msc with isRunning := false } else none
  | .destroySystem =>
    if msc.oth = .ended ∧ .destroy ∉ msc.calls then some (msc.native .destroy) else none

/-- The calls on the native compositor alternate, after the step. -/
def CallsAlternate (msc : MultiSystemCompositor) (op : SessionOp) : Prop :=
  ∀ msc', sessionStep msc op = some msc' → Alternate msc'.calls

/-- The thread does not clean up what it has not started. -/
def StartedBeforeCleanUp (msc : MultiSystemCompositor) : SessionOp → Prop
  | .check => msc.oth = .check → msc.isRunning = false → msc.state ≠ .initWarmStart
  | _ => True

/-! ## The invariant -/

def MultiSystemState.native : MultiSystemState → NativeState
  | .running => .begun
  | .stopping => .begun
  | _ => .idle

def MultiSystemCompositor.expected (msc : MultiSystemCompositor) : NativeState :=
  if .destroy ∈ msc.calls then .destroyed
  else if msc.oth = .ended then .idle
  else msc.state.native

structure SessionInv (msc : MultiSystemCompositor) : Prop where
  native : Reaches nativeStep .idle msc.calls msc.expected
  valid : msc.state ≠ .invalid
  ended : .destroy ∈ msc.calls → msc.oth = .ended
  active : msc.sessionActive ⊆ msc.clients
  count : msc.activeCount = msc.sessionActive.card

theorem create_sessionInv (doWarmStart : Bool) : SessionInv (compMultiCreateSystemCompositor doWarmStart) := by
  constructor
  · cases doWarmStart <;> rfl
  · cases doWarmStart <;> exact MultiSystemState.noConfusion
  · rintro ⟨⟩
  · exact Finset.Subset.refl _
  · rfl

section
variable {msc msc' : MultiSystemCompositor}

theorem SessionInv.native_congr (h : SessionInv msc) (hcalls : msc'.calls = msc.calls)
    (hstate : msc'.state = msc.state) (hoth : msc'.oth = .ended ↔ msc.oth = .ended) :
    Reaches nativeStep .idle msc'.calls msc'.expected := by
  have hexpected : msc'.expected = msc.expected := by
    unfold MultiSystemCompositor.expected
    rw [hcalls, hstate]
    simp only [hoth]
  rw [hcalls, hexpected]
  exact h.native

/-! ### The render thread -/

structure SameClients (msc msc' : MultiSystemCompositor) : Prop where
  clients : msc'.clients = msc.clients
  sessionActive : msc'.sessionActive = msc.sessionActive
  activeCount : msc'.activeCount = msc.activeCount

theorem updateSessionStateLocked_spec (h : updateSessionStateLocked msc = some msc') :
    SameClients msc msc' ∧ msc'.state ≠ .invalid ∧ ∃ calls, msc'.calls = msc.calls ++ calls ∧ .destroy ∉ calls ∧
      Reaches nativeStep msc.state.native calls msc'.state.native := by
  unfold updateSessionStateLocked at h
  cases hstate : msc.state <;> rw [hstate] at h <;> dsimp only at h
  case invalid => cases h
  case initWarmStart =>
    cases h
    exact ⟨⟨rfl, rfl, rfl⟩, MultiSystemState.noConfusion, [.beginSession], rfl, by decide, .begun, rfl, rfl⟩
  case stopped =>
    split at h
    · cases h
      exact ⟨⟨rfl, rfl, rfl⟩, by rw [hstate]; decide, [], (List.append_nil _).symm, by decide, by rw [hstate]; rfl⟩
    · cases h
      exact ⟨⟨rfl, rfl, rfl⟩, MultiSystemState.noConfusion, [.beginSession], rfl, by decide, .begun, rfl, rfl⟩
  case running =>
    split at h
    · cases h
      exact ⟨⟨rfl, rfl, rfl⟩, by rw [hstate]; decide, [], (List.append_nil _).symm, by decide, by rw [hstate]; rfl⟩
    · cases h
      exact ⟨⟨rfl, rfl, rfl⟩, MultiSystemState.noConfusion, [], (List.append_nil _).symm, by decide, rfl⟩
  case stopping =>
    split at h
    · cases h
      exact ⟨⟨rfl, rfl, rfl⟩, MultiSystemState.noConfusion, [], (List.append_nil _).symm, by decide, rfl⟩
    · cases h
      exact ⟨⟨rfl, rfl, rfl⟩, MultiSystemState.noConfusion, [.endSession], rfl, by decide, .idle, rfl, rfl⟩

theorem cleanUp_spec (hvalid : msc.state ≠ .invalid) :
    SameClients msc (cleanUp msc) ∧ (cleanUp msc).state = msc.state ∧ ∃ calls, (cleanUp msc).calls = msc.calls ++ calls ∧
      .destroy ∉ calls ∧ (msc.state ≠ .initWarmStart → Reaches nativeStep msc.state.native calls .idle) ∧
      (msc.state = .initWarmStart → calls = [.endSession]) := by
  unfold cleanUp
  cases hstate : msc.state <;> dsimp only
  case invalid => exact absurd hstate hvalid
  case initWarmStart =>
    exact ⟨⟨rfl, rfl, rfl⟩, hstate, [.endSession], rfl, by decide, fun hne => absurd rfl hne, fun _ => rfl⟩
  case stopped =>
    exact ⟨⟨rfl, rfl, rfl⟩, hstate, [], (List.append_nil _).symm, by decide, fun _ => rfl, fun heq => by cases heq⟩
  case running =>
    exact ⟨⟨rfl, rfl, rfl⟩, hstate, [.endSession], rfl, by decide, fun _ => ⟨.idle, rfl, rfl⟩, fun heq => by cases heq⟩
  case stopping =>
    exact ⟨⟨rfl, rfl, rfl⟩, hstate, [.endSession], rfl, by decide, fun _ => ⟨.idle, rfl, rfl⟩, fun heq => by cases heq⟩

theorem SessionInv.native_of_check (h : SessionInv msc) (hoth : msc.oth = .check) :
    .destroy ∉ msc.calls ∧ Reaches nativeStep .idle msc.calls msc.state.native := by
  have hdestroy : .destroy ∉ msc.calls := by
    intro hmem
    have hended := h.ended hmem
    rw [hoth] at hended
    cases hended
  refine ⟨hdestroy, ?_⟩
  have hnative := h.native
  unfold MultiSystemCompositor.expected at hnative
  rwa [if_neg hdestroy, if_neg (by rw [hoth]; decide)] at hnative

theorem checkRunning_sessionInv (h : SessionInv msc) (hoth : msc.oth = .check)
    (hstarted : msc.isRunning = false → msc.state ≠ .initWarmStart) (hs : checkRunning msc = some msc') :
    SessionInv msc' := by
  obtain ⟨hdestroy, hnative⟩ := h.native_of_check hoth
  unfold checkRunning at hs
  split at hs
  · obtain ⟨msc₁, hu, rfl⟩ := Option.map_eq_some_iff.1 hs
    obtain ⟨⟨hclients, hactive, hcount⟩, hvalid, calls, hcalls, hnone, hreach⟩ := updateSessionStateLocked_spec hu
    have hdestroy' : .destroy ∉ msc₁.calls := by
      rw [hcalls, List.mem_append, not_or]
      exact ⟨hdestroy, hnone⟩
    have hoth' : (if msc₁.state = .stopped then RenderThread.sleeping else .composing) ≠ .ended := by
      split <;> exact RenderThread.noConfusion
    refine ⟨?_, hvalid, fun hmem => absurd hmem hdestroy', ?_, ?_⟩
    · unfold MultiSystemCompositor.expected
      dsimp only
      rw [if_neg hdestroy', if_neg hoth', hcalls]
      exact reaches_append.2 ⟨_, hnative, hreach⟩
    · dsimp only
      rw [hclients, hactive]
      exact h.active
    · dsimp only
      rw [hcount, hactive]
      exact h.count
  · rename_i hrunning
    cases hs
    obtain ⟨⟨hclients, hactive, hcount⟩, hstate, calls, hcalls, hnone, hreach, -⟩ := cleanUp_spec h.valid
    have hdestroy' : .destroy ∉ (cleanUp msc).calls := by
      rw [hcalls, List.mem_append, not_or]
      exact ⟨hdestroy, hnone⟩
    refine ⟨?_, ?_, fun _ => rfl, ?_, ?_⟩
    · unfold MultiSystemCompositor.expected
      dsimp only
      rw [if_neg hdestroy', if_pos rfl, hcalls]
      exact reaches_append.2 ⟨_, hnative, hreach (hstarted (Bool.eq_false_iff.2 hrunning))⟩
    · dsimp only
      rw [hstate]
      exact h.valid
    · dsimp only
      rw [hclients, hactive]
      exact h.active
    · dsimp only
      rw [hcount, hactive]
      exact h.count

theorem SessionInv.toCheck (h : SessionInv msc) (hoth : msc.oth ≠ .ended) :
    SessionInv { msc with oth := .check } := by
  refine ⟨h.native_congr rfl rfl ?_, h.valid, fun hmem => absurd (h.ended hmem) hoth, h.active, h.count⟩
  exact iff_of_false RenderThread.noConfusion hoth

/-! ### The clients -/

theorem updateSessionStatus_spec {active : Bool} (h : updateSessionStatus msc active = some msc') :
    ∃ activeCount, msc' = { msc with activeCount := activeCount } ∧
      if active then activeCount = msc.activeCount + 1 else activeCount + 1 = msc.activeCount := by
  unfold updateSessionStatus at h
  cases active
  · rw [if_neg Bool.false_ne_true] at h
    split at h
    · cases h
      refine ⟨_, rfl, ?_⟩
      rw [if_neg Bool.false_ne_true]
      omega
    · cases h
  · rw [if_pos rfl] at h
    split at h
    · cases h
      exact ⟨_, rfl, rfl⟩
    · cases h

theorem SessionInv.endSession (h : SessionInv msc) {client : ℕ} (hactive : client ∈ msc.sessionActive)
    (hs : (updateSessionStatus msc false).map
      (fun msc => { msc with sessionActive := msc.sessionActive.erase client }) = some msc') : SessionInv msc' := by
  obtain ⟨msc₁, hu, rfl⟩ := Option.map_eq_some_iff.1 hs
  obtain ⟨activeCount, rfl, hcount⟩ := updateSessionStatus_spec hu
  rw [if_neg Bool.false_ne_true] at hcount
  refine ⟨h.native_congr rfl rfl Iff.rfl, h.valid, h.ended, ?_, ?_⟩
  · exact (Finset.erase_subset _ _).trans h.active
  · dsimp only
    have hcard := Finset.card_erase_of_mem hactive
    have hbefore := h.count
    omega

theorem SessionInv.beginSession (h : SessionInv msc) {client : ℕ} (hclient : client ∈ msc.clients)
    (hactive : client ∉ msc.sessionActive)
    (hs : (updateSessionStatus msc true).map
      (fun msc => { msc with sessionActive := insert client msc.sessionActive }) = some msc') : SessionInv msc' := by
  obtain ⟨msc₁, hu, rfl⟩ := Option.map_eq_some_iff.1 hs
  obtain ⟨activeCount, rfl, hcount⟩ := updateSessionStatus_spec hu
  rw [if_pos rfl] at hcount
  refine ⟨h.native_congr rfl rfl Iff.rfl, h.valid, h.ended, ?_, ?_⟩
  · exact Finset.insert_subset hclient h.active
  · dsimp only
    rw [hcount, Finset.card_insert_of_notMem hactive, h.count]

theorem SessionInv.destroy (h : SessionInv msc) {client : ℕ}
    (hs : ((if client ∈ msc.sessionActive then
      (updateSessionStatus msc false).map fun msc => { msc with sessionActive := msc.sessionActive.erase client }
      else some msc).map fun msc => { msc with clients := msc.clients.erase client }) = some msc') :
    SessionInv msc' := by
  obtain ⟨msc₁, hended, rfl⟩ := Option.map_eq_some_iff.1 hs
  have hinv : SessionInv msc₁ ∧ client ∉ msc₁.sessionActive := by
    split at hended
    · rename_i hactive
      refine ⟨h.endSession hactive hended, ?_⟩
      obtain ⟨msc₂, -, rfl⟩ := Option.map_eq_some_iff.1 hended
      exact Finset.notMem_erase _ _
    · rename_i hactive
      cases hended
      exact ⟨h, hactive⟩
  obtain ⟨hinv, hactive⟩ := hinv
  refine ⟨hinv.native_congr rfl rfl Iff.rfl, hinv.valid, hinv.ended, ?_, hinv.count⟩
  exact Finset.subset_erase.2 ⟨hinv.active, hactive⟩

theorem SessionInv.destroySystem (h : SessionInv msc) (hoth : msc.oth = .ended) (hdestroy : .destroy ∉ msc.calls) :
    SessionInv (msc.native .destroy) := by
  refine ⟨?_, h.valid, fun _ => hoth, h.active, h.count⟩
  have hnative := h.native
  have hmem : .destroy ∈ (msc.native .destroy).calls := List.mem_append_right _ (List.mem_singleton_self _)
  unfold MultiSystemCompositor.expected at hnative ⊢
  rw [if_neg hdestroy, if_pos hoth] at hnative
  rw [if_pos hmem]
  exact reaches_snoc.2 ⟨.idle, hnative, rfl⟩

theorem sessionStep_inv {op : SessionOp} (h : SessionInv msc) (hstarted : StartedBeforeCleanUp msc op)
    (hs : sessionStep msc op = some msc') : SessionInv msc' := by
  cases op with
  | check =>
    simp only [sessionStep] at hs
    split at hs
    · rename_i hoth
      exact checkRunning_sessionInv h hoth (hstarted hoth) hs
    · cases hs
  | wakeUp =>
    simp only [sessionStep] at hs
    split at hs
    · rename_i hoth
      cases hs
      exact h.toCheck (by rw [hoth]; decide)
    · cases hs
  | frame =>
    simp only [sessionStep] at hs
    split at hs
    · rename_i hoth
      cases hs
      exact h.toCheck (by rw [hoth]; decide)
    · cases hs
  | create client =>
    simp only [sessionStep] at hs
    split at hs
    · cases hs
    · cases hs
      exact ⟨h.native_congr rfl rfl Iff.rfl, h.valid, h.ended, h.active.trans (Finset.subset_insert _ _), h.count⟩
  | beginSession client =>
    simp only [sessionStep] at hs
    split at hs
    · rename_i hmem
      exact h.beginSession hmem.1 hmem.2 hs
    · cases hs
  | endSession client =>
    simp only [sessionStep] at hs
    split at hs
    · rename_i hmem
      exact h.endSession hmem.2 hs
    · cases hs
  | layerCommit client =>
    simp only [sessionStep] at hs
    split at hs
    · cases hs
      exact h
    · cases hs
  | destroy client =>
    simp only [sessionStep] at hs
    split at hs
    · exact h.destroy hs
    · cases hs
  | stopThread =>
    simp only [sessionStep] at hs
    split at hs
    · cases hs
      exact ⟨h.native_congr rfl rfl Iff.rfl, h.valid, h.ended, h.active, h.count⟩
    · cases hs
  | destroySystem =>
    simp only [sessionStep] at hs
    split at hs
    · rename_i hended
      cases hs
      exact h.destroySystem hended.1 hended.2
    · cases hs

/-! ## Runs -/

theorem callsAlternate_iff (h : SessionInv msc) (op : SessionOp) :
    CallsAlternate msc op ↔ StartedBeforeCleanUp msc op := by
  constructor
  · intro hcalls
    cases op with
    | check =>
      intro hoth hrunning hwarm
      obtain ⟨-, hnative⟩ := h.native_of_check hoth
      obtain ⟨-, -, calls, heq, -, -, hcold⟩ := cleanUp_spec h.valid
      have hstep : sessionStep msc .check = some { cleanUp msc with oth := .ended } := by
        rw [sessionStep, if_pos hoth, checkRunning, if_neg (by rw [hrunning]; exact Bool.false_ne_true)]
      have halternate := hcalls _ hstep
      dsimp only at halternate
      rw [heq, hcold hwarm, alternate_snoc_iff hnative, hwarm] at halternate
      exact halternate rfl
    | _ => trivial
  · exact fun hstarted msc' hs => ⟨_, (sessionStep_inv h hstarted hs).native⟩

end

/-- Along every interleaving of the render thread, the clients and the shutdown, the calls on the native compositor
begin and end sessions in turn, and destroy it with none begun, exactly when the render thread never cleans up before
its warm start has begun a session. -/
theorem nativeCalls_iff (doWarmStart : Bool) (ops : List SessionOp) :
    Along sessionStep CallsAlternate (compMultiCreateSystemCompositor doWarmStart) ops ↔
      Along sessionStep StartedBeforeCleanUp (compMultiCreateSystemCompositor doWarmStart) ops :=
  along_iff (fun _ op h => callsAlternate_iff h op) (fun _ _ _ h hstarted hs => sessionStep_inv h hstarted hs)
    (create_sessionInv doWarmStart) ops

/-- The system is shut down before the render thread comes to its first check. -/
theorem warmStart_endsUnbegun :
    ¬ Along sessionStep CallsAlternate (compMultiCreateSystemCompositor true) [.stopThread, .check] := by
  intro hall
  obtain ⟨-, hrest⟩ := along_cons.1 hall
  obtain ⟨hcheck, -⟩ := along_cons.1 (hrest _ rfl)
  obtain ⟨s, hreach⟩ := hcheck _ rfl
  obtain ⟨t, ht, -⟩ := hreach
  cases ht

end AugmentedInsanity.Multi
