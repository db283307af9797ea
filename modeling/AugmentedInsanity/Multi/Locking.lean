/-
Who holds `list_and_timing_lock` of the multi compositor. Each function that takes it, or writes what it guards, is a
program of lock operations and writes, and the threads run them in any interleaving. All of them take and release the
lock in turn, but `system_compositor_set_z_order` releases a lock that it never took (`lockDiscipline_iff`).
-/
import AugmentedInsanity.Lib.LockDiscipline

namespace AugmentedInsanity.Multi

open LockDiscipline Runs

/-! ## Fields -/

/-- What the functions write, by the client compositor where there is one of each. -/
inductive MultiField
  | clientList
  | lastTimings
  | chromaKey
  /-- `sessions.active_count`, which the lock of the render thread guards. -/
  | activeCount
  | progress (mc : ℕ)
  | scheduled (mc : ℕ)
  | delivered (mc : ℕ)
  | slotNextFrameDisplay (mc : ℕ)
  /-- The timings in the app pacer. -/
  | pacer (mc : ℕ)
  /-- `state` of the client compositor. -/
  | sessionState (mc : ℕ)
  /-- The event sink of the session. -/
  | events (mc : ℕ)
  deriving DecidableEq

def MultiField.guarded : MultiField → Bool
  | .clientList => true
  | .lastTimings => true
  | .progress _ => true
  | .scheduled _ => true
  | .delivered _ => true
  | .slotNextFrameDisplay _ => true
  | .pacer _ => true
  | _ => false

/-! ## Programs -/

/-- What `transfer_layers_locked` does with the delivered frame of a client. -/
inductive TransferOutcome
  | inactive
  | retired
  | latched
  deriving DecidableEq

/-- A client in `transfer_layers_locked`, and whether its scheduled frame arrives. -/
structure ClientTransfer where
  mc : ℕ
  arrives : Bool
  outcome : TransferOutcome
  deriving DecidableEq

/-- A call, with what decides its branches: whether the flags of the client change, there is room in the list, the
session is active, and what the loops over the clients find. The wait thread's round and a commit without a fence do
the same. -/
inductive MultiCall
  | setState (mc : ℕ) (changes : Bool)
  | setZOrder (mc : ℕ)
  | setBaseChromaKeyParams
  | setMainAppVisibility (mc : ℕ)
  | notifyLossPending (mc : ℕ)
  | notifyLost (mc : ℕ)
  | notifyDisplayRefreshChanged (mc : ℕ)
  | create (mc : ℕ) (room : Bool)
  | destroy (mc : ℕ) (sessionActive listed : Bool)
  | predictFrame (mc : ℕ)
  | markFrame (mc : ℕ)
  | beginFrame (mc : ℕ)
  | discardFrame (mc : ℕ)
  | layerCommit (mc : ℕ)
  | renderFrame (clients clients' : List ℕ) (transfers : List ClientTransfer) (base : Option ℕ)
  deriving DecidableEq

/-- The fields of `slot_move_and_clear_locked`. -/
def slotMoveAndClear (mc : ℕ) (dst src : MultiField) : List MultiField := [.pacer mc, dst, src]

def ClientTransfer.fields (t : ClientTransfer) : List MultiField :=
  (if t.arrives then slotMoveAndClear t.mc (.delivered t.mc) (.scheduled t.mc) else []) ++
    match t.outcome with
    | .inactive => []
    | .retired => [.pacer t.mc, .delivered t.mc]
    | .latched => [.pacer t.mc]

def MultiCall.program : MultiCall → List (Instr MultiField)
  | .setState mc changes => (if changes then [.sessionState mc, .events mc] else []).map .write
  | .setZOrder mc => [.write (.sessionState mc), .release]
  | .setBaseChromaKeyParams => critical [.chromaKey]
  | .setMainAppVisibility mc => [.sessionState mc, .events mc].map .write
  | .notifyLossPending mc => [.events mc].map .write
  | .notifyLost mc => [.events mc].map .write
  | .notifyDisplayRefreshChanged mc => [.events mc].map .write
  | .create mc room => critical ((if room then [.clientList] else []) ++ [.pacer mc])
  | .destroy mc sessionActive listed =>
    (if sessionActive then [.activeCount, .sessionState mc] else []).map .write ++
      (critical (if listed then [.clientList] else []) ++
        critical [.pacer mc, .progress mc, .scheduled mc, .delivered mc])
  | .predictFrame mc => critical [.pacer mc]
  | .markFrame mc => critical [.pacer mc]
  | .beginFrame mc => critical [.pacer mc]
  | .discardFrame mc => critical [.pacer mc, .delivered mc]
  | .layerCommit mc => critical [.pacer mc] ++ critical (slotMoveAndClear mc (.scheduled mc) (.progress mc))
  -- `broadcast_timings_to_clients`, `broadcast_timings_to_pacers` and `transfer_layers_locked`
  | .renderFrame clients clients' transfers base =>
    critical (clients.map .slotNextFrameDisplay) ++
      (critical ((clients'.flatMap fun mc => [.pacer mc, .slotNextFrameDisplay mc]) ++ [.lastTimings]) ++
        critical (transfers.flatMap ClientTransfer.fields ++ base.toList.map .delivered))

def MultiCall.IsSetZOrder (c : MultiCall) : Prop := ∃ mc, c = .setZOrder mc

/-! ## The discipline -/

theorem program_balanced (c : MultiCall) (h : ¬ c.IsSetZOrder) :
    Balanced (fun f : MultiField => f.guarded = true) c.program False := by
  cases c with
  | setZOrder mc => exact absurd ⟨mc, rfl⟩ h
  | setState mc changes =>
    apply writes_balanced
    cases changes <;> simp [MultiField.guarded]
  | setMainAppVisibility mc =>
    apply writes_balanced
    simp [MultiField.guarded]
  | notifyLossPending mc =>
    apply writes_balanced
    simp [MultiField.guarded]
  | notifyLost mc =>
    apply writes_balanced
    simp [MultiField.guarded]
  | notifyDisplayRefreshChanged mc =>
    apply writes_balanced
    simp [MultiField.guarded]
  | destroy mc sessionActive listed =>
    refine Balanced.append ?_ ((critical_balanced _).append (critical_balanced _))
    apply writes_balanced
    cases sessionActive <;> simp [MultiField.guarded]
  | layerCommit mc => exact (critical_balanced _).append (critical_balanced _)
  | renderFrame clients clients' transfers base =>
    exact (critical_balanced _).append ((critical_balanced _).append (critical_balanced _))
  | setBaseChromaKeyParams => exact critical_balanced _
  | create mc room => exact critical_balanced _
  | predictFrame mc => exact critical_balanced _
  | markFrame mc => exact critical_balanced _
  | beginFrame mc => exact critical_balanced _
  | discardFrame mc => exact critical_balanced _

theorem setZOrder_lockless (c : MultiCall) (h : c.IsSetZOrder) :
    Lockless (fun f : MultiField => f.guarded = true) c.program := by
  obtain ⟨mc, rfl⟩ := h
  refine ⟨by simp [MultiCall.program], fun field hmem => ?_⟩
  simp only [MultiCall.program, List.mem_cons, Instr.write.injEq, reduceCtorEq, List.not_mem_nil, or_false] at hmem
  rw [hmem]
  exact Bool.false_ne_true

/-- In every interleaving of the calls by any threads, the lock is released by its holder only, and the list, the slots
and the timings are written by its holder only, exactly when no call of `set_z_order` gets to its unlock. -/
theorem lockDiscipline_iff {τ : Type} [DecidableEq τ] (moves : List (Move τ MultiCall)) :
    Along (Threads.step MultiCall.program) (Disciplined fun f : MultiField => f.guarded = true) Threads.init moves ↔
      Along (Threads.step MultiCall.program) (NoStrayRelease MultiCall.IsSetZOrder) Threads.init moves :=
  disciplined_iff program_balanced setZOrder_lockless moves

/-- The render thread is at the client list when another thread sets a z-order. -/
theorem setZOrder_unlocks :
    ¬ Along (Threads.step MultiCall.program) (Disciplined fun f : MultiField => f.guarded = true)
      (Threads.init : Threads ℕ MultiCall MultiField)
      [.enter 0 (.renderFrame [7] [7] [] none), .run 0, .enter 1 (.setZOrder 7), .run 1, .run 1] := by
  intro hall
  obtain ⟨-, hall⟩ := along_cons.1 hall
  obtain ⟨-, hall⟩ := along_cons.1 (hall _ rfl)
  obtain ⟨-, hall⟩ := along_cons.1 (hall _ rfl)
  obtain ⟨-, hall⟩ := along_cons.1 (hall _ rfl)
  obtain ⟨⟨hrelease, -⟩, -⟩ := along_cons.1 (hall _ rfl)
  have howner := hrelease [] rfl
  cases howner

end AugmentedInsanity.Multi
