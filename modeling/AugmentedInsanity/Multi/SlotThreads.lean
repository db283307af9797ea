/-
The threads that move frames through the slots of the multi compositor: of each client, the thread that submits and the
wait thread, and the render thread. In every interleaving each frame is in one slot at a time and is retired once,
frames are delivered in the order of their commits and each swapchain reference is dropped once, as long as a frame is
only begun when the progress slot is empty and layers are only added while there is room for them (`slots_iff`).
-/
import AugmentedInsanity.Lib.Runs
import AugmentedInsanity.Multi.Slots

namespace AugmentedInsanity.Multi

open Runs

/-! ## Times -/

abbrev U_TIME_HALF_MS_IN_NS : ℤ := 500000

def timeIsWithinHalfMs (a b : ℤ) : Bool := decide (-U_TIME_HALF_MS_IN_NS < a - b) && decide (a - b < U_TIME_HALF_MS_IN_NS)

def timeIsGreaterThenOrWithinHalfMs (a b : ℤ) : Bool := decide (a > b) || timeIsWithinHalfMs a b

/-! ## Threads -/

/-- What a commit gives the wait thread to wait for, `xcf` or `xcsem`. -/
inductive SyncObject
  | fence
  | semaphore
  deriving DecidableEq

/-- What the client's thread does once `wait_for_wait_thread` lets it. -/
inductive AfterWait
  | layerBegin (frameId displayTimeNs : ℤ)
  | push (sync : SyncObject)
  deriving DecidableEq

inductive ClientAt
  | idle
  /-- At the start of `wait_for_wait_thread`. -/
  | entering (next : AfterWait)
  | blocked (next : AfterWait)
  /-- In `layer_begin`, past the wait. -/
  | beginning (frameId displayTimeNs : ℤ)
  /-- In the loop of `wait_for_scheduled_free`. -/
  | checking
  /-- Past that loop. -/
  | moving
  /-- In `destroy`, off the list. -/
  | stopping
  | joining
  | gone
  deriving DecidableEq

inductive WaitAt
  /-- At the check of `running`. -/
  | head
  /-- Waiting to be signalled. -/
  | sleeping
  /-- In `wait_fence` or `wait_semaphore`. -/
  | syncing
  | checking
  | moving
  /-- Past `wait_for_scheduled_free`. -/
  | finishing
  | ended
  deriving DecidableEq

/-- `wait_thread` of `struct multi_compositor`. -/
structure WaitThread where
  sync : Option SyncObject
  waiting : Bool
  blocked : Bool
  running : Bool
  place : WaitAt
  deriving DecidableEq

structure SlotClient where
  slots : MultiSlots
  slotNextFrameDisplay : ℤ
  waitThread : WaitThread
  clientAt : ClientAt
  /-- It is on the list of the system compositor. -/
  listed : Bool
  visible : Bool
  sessionActive : Bool
  deriving DecidableEq

/-- `multi_compositor_create`; with too many clients it is not put on the list. -/
def SlotClient.create (room : Bool) : SlotClient where
  slots := .create
  slotNextFrameDisplay := 0
  waitThread := ⟨none, false, false, true, .head⟩
  clientAt := .idle
  listed := room
  visible := false
  sessionActive := false

/-- `is_pushed_or_waiting_locked`. -/
def WaitThread.isPushedOrWaiting (w : WaitThread) : Bool := w.waiting || w.sync.isSome

/-- The loop of `wait_for_scheduled_free` is done: there is no frame in the way, or one that the new frame is to
replace. -/
def SlotClient.scheduledFree (mc : SlotClient) (nowNs : ℤ) : Bool :=
  !mc.slots.scheduled.active ||
    timeIsWithinHalfMs mc.slots.progress.displayTimeNs mc.slotNextFrameDisplay ||
    decide (mc.slots.scheduled.displayTimeNs < nowNs)

/-- What the client's thread does past `wait_for_wait_thread`. -/
def SlotClient.proceed (mc : SlotClient) : AfterWait → SlotClient
  | .layerBegin frameId displayTimeNs => { mc with clientAt := .beginning frameId displayTimeNs }
  | .push sync => { mc with waitThread := { mc.waitThread with sync := some sync }, clientAt := .idle }

def deliverAnyFrames (s : MultiSlots) (displayTimeNs : ℤ) : MultiSlots :=
  if s.scheduled.active && timeIsGreaterThenOrWithinHalfMs displayTimeNs s.scheduled.displayTimeNs then s.deliver else s

/-- What `transfer_layers_locked` does with the slots of one client: a delivered frame that is not to be shown is
retired, and any other one is latched. -/
def SlotClient.transferLayers (mc : SlotClient) (displayTimeNs : ℤ) : MultiSlots :=
  let s := deliverAnyFrames mc.slots displayTimeNs
  if s.delivered.active && !(mc.visible && mc.sessionActive) then s.retireDelivered else s

/-- The wait thread takes what was pushed, if anything was. -/
def WaitThread.take (w : WaitThread) (otherwise : WaitAt) : WaitThread :=
  if w.sync.isSome then { w with sync := none, waiting := true, place := .syncing } else { w with place := otherwise }

/-! ## Steps -/

/-- A step of a thread that concerns a client compositor. Each is what happens under one lock. -/
inductive SlotStep
  | create (room : Bool)
  | layerBegin (frameId displayTimeNs : ℤ)
  | enterWait
  | released
  | beginProgress
  | layer (call : LayerCall)
  | layerCommit (sync : Option SyncObject)
  | clientCheck (nowNs : ℤ)
  | clientSchedule
  | discardFrame
  | setSession (active : Bool)
  | destroy
  | stopWaitThread
  | clearSlots
  /-- The wait thread looks at `running`, or wakes up. -/
  | waitTurn
  /-- The sync object is signalled, or has failed. -/
  | waitSynced
  | waitCheck (nowNs : ℤ)
  | waitSchedule
  | waitFinish
  | setState (visible : Bool)
  | broadcastTimings (predictedDisplayTimeNs : ℤ)
  | transferLayers (displayTimeNs : ℤ)
  deriving DecidableEq

def SlotClient.clientStep (mc : SlotClient) : SlotStep → Option SlotClient
  | .layerBegin frameId displayTimeNs =>
    if mc.clientAt = .idle then some { mc with clientAt := .entering (.layerBegin frameId displayTimeNs) } else none
  | .enterWait =>
    match mc.clientAt with
    | .entering next =>
      if mc.waitThread.isPushedOrWaiting then
        some { mc with waitThread := { mc.waitThread with blocked := true }, clientAt := .blocked next }
      else some (mc.proceed next)
    | _ => none
  | .released =>
    match mc.clientAt with
    | .blocked next => if mc.waitThread.blocked then none else some (mc.proceed next)
    | _ => none
  | .beginProgress =>
    match mc.clientAt with
    | .beginning frameId displayTimeNs =>
      some { mc with slots := mc.slots.layerBegin frameId displayTimeNs, clientAt := .idle }
    | _ => none
  | .layer call => if mc.clientAt = .idle then some { mc with slots := mc.slots.addLayer call } else none
  -- `multi_compositor_layer_commit` without and with a fence, and `multi_compositor_layer_commit_with_semaphore`
  | .layerCommit sync =>
    if mc.clientAt = .idle then
      some { mc with slots := mc.slots.commit, clientAt := sync.elim .checking fun sync => .entering (.push sync) }
    else none
  | .clientCheck nowNs =>
    if mc.clientAt = .checking then
      some { mc with clientAt := if mc.scheduledFree nowNs then .moving else .checking }
    else none
  | .clientSchedule =>
    if mc.clientAt = .moving then some { mc with slots := mc.slots.schedule, clientAt := .idle } else none
  | .discardFrame => if mc.clientAt = .idle then some { mc with slots := mc.slots.retireDelivered } else none
  | .setSession active => if mc.clientAt = .idle then some { mc with sessionActive := active } else none
  | .destroy =>
    if mc.clientAt = .idle then some { mc with sessionActive := false, listed := false, clientAt := .stopping }
    else none
  | .stopWaitThread =>
    if mc.clientAt = .stopping then
      some { mc with waitThread := { mc.waitThread with running := false }, clientAt := .joining }
    else none
  | .clearSlots =>
    if mc.clientAt = .joining ∧ mc.waitThread.place = .ended then
      some { mc with slots := mc.slots.clearAll, clientAt := .gone }
    else none
  | _ => none

/-- Steps of the wait thread, `run_func`. -/
def SlotClient.waitStep (mc : SlotClient) : SlotStep → Option SlotClient
  | .waitTurn =>
    match mc.waitThread.place with
    | .head =>
      if mc.waitThread.running then some { mc with waitThread := mc.waitThread.take .sleeping }
      else some { mc with waitThread := { mc.waitThread with place := .ended } }
    | .sleeping => some { mc with waitThread := mc.waitThread.take .head }
    | _ => none
  | .waitSynced =>
    if mc.waitThread.place = .syncing then some { mc with waitThread := { mc.waitThread with place := .checking } }
    else none
  | .waitCheck nowNs =>
    if mc.waitThread.place = .checking then
      some { mc with
        waitThread := { mc.waitThread with place := if mc.scheduledFree nowNs then .moving else .checking } }
    else none
  | .waitSchedule =>
    if mc.waitThread.place = .moving then
      some { mc with slots := mc.slots.schedule, waitThread := { mc.waitThread with place := .finishing } }
    else none
  | .waitFinish =>
    if mc.waitThread.place = .finishing then
      some { mc with waitThread := { mc.waitThread with waiting := false, blocked := false, place := .head } }
    else none
  | _ => none

/-- Steps of the render thread, and calls from elsewhere. -/
def SlotClient.systemStep (mc : SlotClient) : SlotStep → Option SlotClient
  | .setState visible => some { mc with visible := visible }
  | .broadcastTimings predictedDisplayTimeNs =>
    if mc.listed then some { mc with slotNextFrameDisplay := predictedDisplayTimeNs } else none
  | .transferLayers displayTimeNs =>
    if mc.listed then some { mc with slots := mc.transferLayers displayTimeNs } else none
  | _ => none

def slotStep : Option SlotClient → SlotStep → Option SlotClient
  | none, .create room => some (.create room)
  | none, _ => none
  | some mc, a => mc.clientStep a <|> mc.waitStep a <|> mc.systemStep a

/-! ## What is to hold -/

/-- The slots are as they should be, and they are drained once the client is gone. -/
structure SlotClient.Ok (mc : SlotClient) : Prop where
  slots : SlotsOk mc.slots
  drained : mc.clientAt = .gone → mc.slots.Drained

/-- A frame is only begun when the progress slot is empty, and layers are only added while there is room. -/
def SlotsFree : Option SlotClient → SlotStep → Prop
  | some mc, .beginProgress => ∀ frameId displayTimeNs, mc.clientAt = .beginning frameId displayTimeNs →
    mc.slots.ProgressFree
  | some mc, .layer call => mc.clientAt = .idle → mc.slots.HasRoom call
  | _, _ => True

/-! ## The invariant -/

def ClientAt.committing : ClientAt → Bool
  | .entering (.push _) => true
  | .blocked (.push _) => true
  | .checking => true
  | .moving => true
  | _ => false

/-- In `destroy`, or past it. -/
def ClientAt.leaving : ClientAt → Bool
  | .stopping => true
  | .joining => true
  | .gone => true
  | _ => false

def WaitAt.busy : WaitAt → Bool
  | .syncing => true
  | .checking => true
  | .moving => true
  | .finishing => true
  | _ => false

/-- While the frame in the progress slot is not committed yet, neither thread is about to move it. -/
structure SlotClientInv (mc : SlotClient) : Prop where
  slots : SlotsInv mc.slots
  uncommitted : mc.slots.uncommitted = true →
    mc.waitThread.isPushedOrWaiting = false ∧ mc.clientAt.committing = false
  beginning : ∀ frameId displayTimeNs, mc.clientAt = .beginning frameId displayTimeNs →
    mc.waitThread.isPushedOrWaiting = false
  blocked : ∀ next, mc.clientAt = .blocked next →
    mc.waitThread.blocked = true ∨ mc.waitThread.isPushedOrWaiting = false
  busy : mc.waitThread.place.busy = true → mc.waitThread.waiting = true
  taken : mc.waitThread.waiting = true → mc.waitThread.sync = none
  leaving : mc.clientAt.leaving = true → mc.listed = false
  gone : mc.clientAt = .gone → mc.waitThread.place = .ended ∧ mc.slots.Drained

namespace SlotClientInv

variable {mc : SlotClient}

theorem ok (h : SlotClientInv mc) : mc.Ok := ⟨h.slots.toSlotsOk, fun hgone => (h.gone hgone).2⟩

theorem create (room : Bool) : SlotClientInv (.create room) where
  slots := slotsInv_create
  uncommitted := by rintro ⟨⟩
  beginning := by rintro _ _ ⟨⟩
  blocked := by rintro _ ⟨⟩
  busy := by rintro ⟨⟩
  taken := by rintro ⟨⟩
  leaving := by rintro ⟨⟩
  gone := by rintro ⟨⟩

theorem withSlots (h : SlotClientInv mc) {s : MultiSlots} (hs : SlotsInv s)
    (huncommitted : s.uncommitted = mc.slots.uncommitted) (hgone : mc.clientAt ≠ .gone) :
    SlotClientInv { mc with slots := s } where
  slots := hs
  uncommitted hun := h.uncommitted (huncommitted ▸ hun)
  beginning := h.beginning
  blocked := h.blocked
  busy := h.busy
  taken := h.taken
  leaving := h.leaving
  gone hat := absurd hat hgone

theorem withClientAt (h : SlotClientInv mc) {clientAt : ClientAt}
    (hcommitting : clientAt.committing = true → mc.slots.uncommitted = false)
    (hbeginning : ∀ frameId displayTimeNs, clientAt ≠ .beginning frameId displayTimeNs)
    (hblocked : ∀ next, clientAt ≠ .blocked next)
    (hleaving : clientAt.leaving = false) : SlotClientInv { mc with clientAt := clientAt } where
  slots := h.slots
  uncommitted hun := by
    refine ⟨(h.uncommitted hun).1, ?_⟩
    apply Bool.eq_false_iff.2
    intro hat
    rw [hcommitting hat] at hun
    cases hun
  beginning frameId displayTimeNs hat := absurd hat (hbeginning frameId displayTimeNs)
  blocked next hat := absurd hat (hblocked next)
  busy := h.busy
  taken := h.taken
  leaving hat := by rw [hleaving] at hat; cases hat
  gone hat := by
    rw [show clientAt = .gone from hat] at hleaving
    cases hleaving

theorem committed_of_committing (h : SlotClientInv mc) (hat : mc.clientAt.committing = true) :
    mc.slots.uncommitted = false := by
  apply Bool.eq_false_iff.2
  intro hun
  rw [(h.uncommitted hun).2] at hat
  cases hat

theorem committed_of_pushed (h : SlotClientInv mc) (hpushed : mc.waitThread.isPushedOrWaiting = true) :
    mc.slots.uncommitted = false := by
  apply Bool.eq_false_iff.2
  intro hun
  rw [(h.uncommitted hun).1] at hpushed
  cases hpushed

theorem not_gone_of_idle (hat : mc.clientAt = .idle) : mc.clientAt ≠ .gone := by
  rw [hat]
  rintro ⟨⟩

/-! ### The thread of the client -/

theorem layerBegin (h : SlotClientInv mc) (frameId displayTimeNs : ℤ) :
    SlotClientInv { mc with clientAt := .entering (.layerBegin frameId displayTimeNs) } := by
  apply h.withClientAt
  · rintro ⟨⟩
  · rintro _ _ ⟨⟩
  · rintro _ ⟨⟩
  · rfl

theorem proceed (h : SlotClientInv mc) {next : AfterWait}
    (hat : mc.clientAt = .entering next ∨ mc.clientAt = .blocked next)
    (hquiet : mc.waitThread.isPushedOrWaiting = false) : SlotClientInv (mc.proceed next) := by
  have hwaiting : mc.waitThread.waiting = false := (Bool.or_eq_false_iff.1 hquiet).1
  cases next with
  | layerBegin frameId displayTimeNs =>
    exact
      { slots := h.slots
        uncommitted := fun hun => ⟨hquiet, rfl⟩
        beginning := fun _ _ _ => hquiet
        blocked := by rintro _ ⟨⟩
        busy := h.busy
        taken := h.taken
        leaving := by rintro ⟨⟩
        gone := by rintro ⟨⟩ }
  | push sync =>
    have hcommitted : mc.slots.uncommitted = false := by
      apply h.committed_of_committing
      rcases hat with hat | hat <;> rw [hat] <;> rfl
    exact
      { slots := h.slots
        uncommitted := fun hun => absurd (hcommitted.symm.trans hun) (by decide)
        beginning := by rintro _ _ ⟨⟩
        blocked := by rintro _ ⟨⟩
        busy := h.busy
        taken := fun hw => absurd (hwaiting.symm.trans hw) (by decide)
        leaving := by rintro ⟨⟩
        gone := by rintro ⟨⟩ }

theorem block (h : SlotClientInv mc) {next : AfterWait} (hpushed : mc.waitThread.isPushedOrWaiting = true) :
    SlotClientInv { mc with waitThread := { mc.waitThread with blocked := true }, clientAt := .blocked next } where
  slots := h.slots
  uncommitted hun := absurd ((h.committed_of_pushed hpushed).symm.trans hun) (by decide)
  beginning := by rintro _ _ ⟨⟩
  blocked := fun _ _ => Or.inl rfl
  busy := h.busy
  taken := h.taken
  leaving := by rintro ⟨⟩
  gone := by rintro ⟨⟩

theorem beginProgress (h : SlotClientInv mc) {frameId displayTimeNs : ℤ}
    (hat : mc.clientAt = .beginning frameId displayTimeNs) (hfree : mc.slots.ProgressFree) :
    SlotClientInv { mc with slots := mc.slots.layerBegin frameId displayTimeNs, clientAt := .idle } where
  slots := layerBegin_inv h.slots frameId displayTimeNs hfree
  uncommitted := fun _ => ⟨h.beginning _ _ hat, rfl⟩
  beginning := by rintro _ _ ⟨⟩
  blocked := by rintro _ ⟨⟩
  busy := h.busy
  taken := h.taken
  leaving := by rintro ⟨⟩
  gone := by rintro ⟨⟩

theorem layerCommit (h : SlotClientInv mc) (hat : mc.clientAt = .idle) (sync : Option SyncObject) :
    SlotClientInv { mc with
      slots := mc.slots.commit, clientAt := sync.elim .checking fun sync => .entering (.push sync) } := by
  have hcommit : SlotClientInv { mc with slots := mc.slots.commit } :=
    { slots := commit_inv h.slots
      uncommitted := by rintro ⟨⟩
      beginning := h.beginning
      blocked := h.blocked
      busy := h.busy
      taken := h.taken
      leaving := h.leaving
      gone := fun hgone => absurd hgone (not_gone_of_idle hat) }
  cases sync with
  | none => exact hcommit.withClientAt (fun _ => rfl) (by rintro _ _ ⟨⟩) (by rintro _ ⟨⟩) rfl
  | some sync => exact hcommit.withClientAt (fun _ => rfl) (by rintro _ _ ⟨⟩) (by rintro _ ⟨⟩) rfl

theorem clientCheck (h : SlotClientInv mc) (hat : mc.clientAt = .checking) (free : Bool) :
    SlotClientInv { mc with clientAt := if free then .moving else .checking } := by
  have hcommitted : mc.slots.uncommitted = false := h.committed_of_committing (by rw [hat]; rfl)
  apply h.withClientAt
  · exact fun _ => hcommitted
  · intro _ _
    split <;> rintro ⟨⟩
  · intro _
    split <;> rintro ⟨⟩
  · split <;> rfl

theorem clientSchedule (h : SlotClientInv mc) (hat : mc.clientAt = .moving) :
    SlotClientInv { mc with slots := mc.slots.schedule, clientAt := .idle } := by
  have hcommitted : mc.slots.uncommitted = false := h.committed_of_committing (by rw [hat]; rfl)
  have hschedule : SlotClientInv { mc with slots := mc.slots.schedule } :=
    h.withSlots (schedule_inv h.slots hcommitted) rfl (by rw [hat]; rintro ⟨⟩)
  apply hschedule.withClientAt
  · rintro ⟨⟩
  · rintro _ _ ⟨⟩
  · rintro _ ⟨⟩
  · rfl

theorem leave (h : SlotClientInv mc) (sessionActive running : Bool) {listed : Bool} (hlisted : listed = false)
    {clientAt : ClientAt} (hat : clientAt = .stopping ∨ clientAt = .joining) :
    SlotClientInv { mc with
      sessionActive := sessionActive, listed := listed, clientAt := clientAt
      waitThread := { mc.waitThread with running := running } } where
  slots := h.slots
  uncommitted hun := ⟨(h.uncommitted hun).1, by rcases hat with rfl | rfl <;> rfl⟩
  beginning := by rcases hat with rfl | rfl <;> rintro _ _ ⟨⟩
  blocked := by rcases hat with rfl | rfl <;> rintro _ ⟨⟩
  busy := h.busy
  taken := h.taken
  leaving := fun _ => hlisted
  gone := by rcases hat with rfl | rfl <;> rintro ⟨⟩

theorem clearSlots (h : SlotClientInv mc) (hat : mc.clientAt = .joining) (hended : mc.waitThread.place = .ended) :
    SlotClientInv { mc with slots := mc.slots.clearAll, clientAt := .gone } where
  slots := clearAll_inv h.slots
  uncommitted hun := ⟨(h.uncommitted hun).1, rfl⟩
  beginning := by rintro _ _ ⟨⟩
  blocked := by rintro _ ⟨⟩
  busy := h.busy
  taken := h.taken
  leaving := fun _ => h.leaving (by rw [hat]; rfl)
  gone := fun _ => ⟨hended, clearAll_drained _⟩

/-! ### The wait thread -/

theorem withWaitAt (h : SlotClientInv mc) {place : WaitAt} (hbusy : place.busy = true → mc.waitThread.waiting = true)
    (hended : mc.waitThread.place ≠ .ended) : SlotClientInv { mc with waitThread := { mc.waitThread with place := place } } where
  slots := h.slots
  uncommitted := h.uncommitted
  beginning := h.beginning
  blocked := h.blocked
  busy := hbusy
  taken := h.taken
  leaving := h.leaving
  gone hgone := absurd (h.gone hgone).1 hended

theorem take (h : SlotClientInv mc) {otherwise : WaitAt} (hidle : otherwise.busy = false)
    (hended : mc.waitThread.place ≠ .ended) :
    SlotClientInv { mc with waitThread := mc.waitThread.take otherwise } := by
  unfold WaitThread.take
  split
  · rename_i hsome
    have hpushed : mc.waitThread.isPushedOrWaiting = true := Bool.or_eq_true_iff.2 (Or.inr hsome)
    exact
      { slots := h.slots
        uncommitted := fun hun => absurd ((h.committed_of_pushed hpushed).symm.trans hun) (by decide)
        beginning := fun _ _ hat => absurd (hpushed.symm.trans (h.beginning _ _ hat)) (by decide)
        blocked := fun next hat => Or.inl <|
          (h.blocked next hat).resolve_right fun hquiet => absurd (hpushed.symm.trans hquiet) (by decide)
        busy := fun _ => rfl
        taken := fun _ => rfl
        leaving := h.leaving
        gone := fun hgone => absurd (h.gone hgone).1 hended }
  · apply h.withWaitAt _ hended
    intro hbusy
    rw [hidle] at hbusy
    cases hbusy

theorem waitSchedule (h : SlotClientInv mc) (hat : mc.waitThread.place = .moving) :
    SlotClientInv { mc with slots := mc.slots.schedule, waitThread := { mc.waitThread with place := .finishing } } := by
  have hwaiting : mc.waitThread.waiting = true := h.busy (by rw [hat]; rfl)
  have hcommitted : mc.slots.uncommitted = false :=
    h.committed_of_pushed (Bool.or_eq_true_iff.2 (Or.inl hwaiting))
  have hended : mc.waitThread.place ≠ .ended := by
    rw [hat]
    rintro ⟨⟩
  have hschedule : SlotClientInv { mc with slots := mc.slots.schedule } :=
    h.withSlots (schedule_inv h.slots hcommitted) rfl fun hgone => hended (h.gone hgone).1
  exact hschedule.withWaitAt (fun _ => hwaiting) hended

theorem waitFinish (h : SlotClientInv mc) (hat : mc.waitThread.place = .finishing) :
    SlotClientInv { mc with
      waitThread := { mc.waitThread with waiting := false, blocked := false, place := .head } } := by
  have hwaiting : mc.waitThread.waiting = true := h.busy (by rw [hat]; rfl)
  -- nothing was pushed while the thread was waiting
  have hquiet : mc.waitThread.sync = none := h.taken hwaiting
  have hended : mc.waitThread.place ≠ .ended := by
    rw [hat]
    rintro ⟨⟩
  have hafter : ({ mc.waitThread with waiting := false, blocked := false, place := .head } :
      WaitThread).isPushedOrWaiting = false := by
    simp [WaitThread.isPushedOrWaiting, hquiet]
  exact
    { slots := h.slots
      uncommitted := fun hun => ⟨hafter, (h.uncommitted hun).2⟩
      beginning := fun _ _ _ => hafter
      blocked := fun _ _ => Or.inr hafter
      busy := by rintro ⟨⟩
      taken := by rintro ⟨⟩
      leaving := h.leaving
      gone := fun hgone => absurd (h.gone hgone).1 hended }

/-! ### The render thread -/

theorem deliverAnyFrames_inv {s : MultiSlots} (h : SlotsInv s) (displayTimeNs : ℤ) :
    SlotsInv (deliverAnyFrames s displayTimeNs) ∧
      (deliverAnyFrames s displayTimeNs).uncommitted = s.uncommitted := by
  unfold deliverAnyFrames
  split
  · exact ⟨deliver_inv h, rfl⟩
  · exact ⟨h, rfl⟩

theorem transferLayers (h : SlotClientInv mc) (hlisted : mc.listed = true) (displayTimeNs : ℤ) :
    SlotClientInv { mc with slots := mc.transferLayers displayTimeNs } := by
  have hgone : mc.clientAt ≠ .gone := by
    intro hat
    have hunlisted := h.leaving (by rw [hat]; rfl)
    rw [hlisted] at hunlisted
    cases hunlisted
  obtain ⟨hinv, huncommitted⟩ := deliverAnyFrames_inv h.slots displayTimeNs
  unfold SlotClient.transferLayers
  dsimp only
  split
  · exact h.withSlots (retireDelivered_inv hinv) huncommitted hgone
  · exact h.withSlots hinv huncommitted hgone

end SlotClientInv

/-! ## Steps keep the invariant -/

section

variable {mc mc' : SlotClient} {a : SlotStep}

theorem clientStep_inv (h : SlotClientInv mc) (hfree : SlotsFree (some mc) a) (hstep : mc.clientStep a = some mc') :
    SlotClientInv mc' := by
  cases a with
  | layerBegin frameId displayTimeNs =>
    obtain ⟨-, heq⟩ := Option.ite_none_right_eq_some.1 hstep
    cases heq
    exact h.layerBegin frameId displayTimeNs
  | enterWait =>
    simp only [SlotClient.clientStep] at hstep
    split at hstep
    · rename_i next hat
      split at hstep
      · rename_i hpushed
        cases hstep
        exact h.block hpushed
      · rename_i hquiet
        cases hstep
        exact h.proceed (Or.inl hat) (Bool.eq_false_iff.2 hquiet)
    · cases hstep
  | released =>
    simp only [SlotClient.clientStep] at hstep
    split at hstep
    · rename_i next hat
      split at hstep
      · cases hstep
      · rename_i hblocked
        cases hstep
        exact h.proceed (Or.inr hat) ((h.blocked next hat).resolve_left hblocked)
    · cases hstep
  | beginProgress =>
    simp only [SlotClient.clientStep] at hstep
    split at hstep
    · rename_i frameId displayTimeNs hat
      cases hstep
      exact h.beginProgress hat (hfree frameId displayTimeNs hat)
    · cases hstep
  | layer call =>
    obtain ⟨hat, heq⟩ := Option.ite_none_right_eq_some.1 hstep
    cases heq
    exact h.withSlots (addLayer_inv h.slots call (hfree hat)) rfl (SlotClientInv.not_gone_of_idle hat)
  | layerCommit sync =>
    obtain ⟨hat, heq⟩ := Option.ite_none_right_eq_some.1 hstep
    cases heq
    exact h.layerCommit hat sync
  | clientCheck nowNs =>
    obtain ⟨hat, heq⟩ := Option.ite_none_right_eq_some.1 hstep
    cases heq
    exact h.clientCheck hat _
  | clientSchedule =>
    obtain ⟨hat, heq⟩ := Option.ite_none_right_eq_some.1 hstep
    cases heq
    exact h.clientSchedule hat
  | discardFrame =>
    obtain ⟨hat, heq⟩ := Option.ite_none_right_eq_some.1 hstep
    cases heq
    exact h.withSlots (retireDelivered_inv h.slots) rfl (SlotClientInv.not_gone_of_idle hat)
  | setSession active =>
    obtain ⟨-, heq⟩ := Option.ite_none_right_eq_some.1 hstep
    cases heq
    exact { h with }
  | destroy =>
    obtain ⟨-, heq⟩ := Option.ite_none_right_eq_some.1 hstep
    cases heq
    exact h.leave false mc.waitThread.running rfl (Or.inl rfl)
  | stopWaitThread =>
    obtain ⟨hat, heq⟩ := Option.ite_none_right_eq_some.1 hstep
    cases heq
    exact h.leave mc.sessionActive false (h.leaving (by rw [hat]; rfl)) (Or.inr rfl)
  | clearSlots =>
    obtain ⟨⟨hat, hended⟩, heq⟩ := Option.ite_none_right_eq_some.1 hstep
    cases heq
    exact h.clearSlots hat hended
  | _ => cases hstep

theorem waitStep_inv (h : SlotClientInv mc) (hstep : mc.waitStep a = some mc') : SlotClientInv mc' := by
  cases a with
  | waitTurn =>
    simp only [SlotClient.waitStep] at hstep
    split at hstep
    · rename_i hat
      have hended : mc.waitThread.place ≠ .ended := by
        rw [hat]
        rintro ⟨⟩
      split at hstep
      · cases hstep
        exact h.take rfl hended
      · cases hstep
        exact h.withWaitAt (by rintro ⟨⟩) hended
    · rename_i hat
      cases hstep
      exact h.take rfl (by rw [hat]; rintro ⟨⟩)
    · cases hstep
  | waitSynced =>
    obtain ⟨hat, heq⟩ := Option.ite_none_right_eq_some.1 hstep
    cases heq
    exact h.withWaitAt (fun _ => h.busy (by rw [hat]; rfl)) (by rw [hat]; rintro ⟨⟩)
  | waitCheck nowNs =>
    obtain ⟨hat, heq⟩ := Option.ite_none_right_eq_some.1 hstep
    cases heq
    exact h.withWaitAt (fun _ => h.busy (by rw [hat]; rfl)) (by rw [hat]; rintro ⟨⟩)
  | waitSchedule =>
    obtain ⟨hat, heq⟩ := Option.ite_none_right_eq_some.1 hstep
    cases heq
    exact h.waitSchedule hat
  | waitFinish =>
    obtain ⟨hat, heq⟩ := Option.ite_none_right_eq_some.1 hstep
    cases heq
    exact h.waitFinish hat
  | _ => cases hstep

theorem systemStep_inv (h : SlotClientInv mc) (hstep : mc.systemStep a = some mc') : SlotClientInv mc' := by
  cases a with
  | setState visible =>
    cases hstep
    exact { h with }
  | broadcastTimings predictedDisplayTimeNs =>
    obtain ⟨-, heq⟩ := Option.ite_none_right_eq_some.1 hstep
    cases heq
    exact { h with }
  | transferLayers displayTimeNs =>
    obtain ⟨hlisted, heq⟩ := Option.ite_none_right_eq_some.1 hstep
    cases heq
    exact h.transferLayers hlisted displayTimeNs
  | _ => cases hstep

end

theorem slotStep_inv (client : Option SlotClient) (a : SlotStep) (mc' : SlotClient)
    (h : ∀ mc, client = some mc → SlotClientInv mc) (hfree : SlotsFree client a)
    (hstep : slotStep client a = some mc') : SlotClientInv mc' := by
  cases client with
  | none =>
    cases a with
    | create room =>
      cases hstep
      exact SlotClientInv.create room
    | _ => cases hstep
  | some mc =>
    have hinv := h mc rfl
    rcases (Option.orElse_eq_some _ _ _).1 hstep with hclient | ⟨-, hrest⟩
    · exact clientStep_inv hinv hfree hclient
    · rcases (Option.orElse_eq_some _ _ _).1 hrest with hwait | ⟨-, hsystem⟩
      · exact waitStep_inv hinv hwait
      · exact systemStep_inv hinv hsystem

theorem slotStep_of_clientStep {mc mc' : SlotClient} {a : SlotStep} (h : mc.clientStep a = some mc') :
    slotStep (some mc) a = some mc' := by
  change (mc.clientStep a <|> (mc.waitStep a <|> mc.systemStep a)) = some mc'
  rw [h]
  rfl

theorem slotStep_ok_iff (client : Option SlotClient) (a : SlotStep)
    (h : ∀ mc, client = some mc → SlotClientInv mc) :
    (∀ mc', slotStep client a = some mc' → mc'.Ok) ↔ SlotsFree client a := by
  constructor
  · intro hok
    unfold SlotsFree
    split
    · rename_i mc
      intro frameId displayTimeNs hat
      have hstep : mc.clientStep .beginProgress =
          some { mc with slots := mc.slots.layerBegin frameId displayTimeNs, clientAt := .idle } := by
        simp only [SlotClient.clientStep, hat]
      exact (layerBegin_iff (h mc rfl).slots.toSlotsOk frameId displayTimeNs).1 (hok _ (slotStep_of_clientStep hstep)).slots
    · rename_i mc call
      intro hat
      have hstep : mc.clientStep (.layer call) = some { mc with slots := mc.slots.addLayer call } := if_pos hat
      exact (addLayer_iff (h mc rfl).slots.toSlotsOk call).1 (hok _ (slotStep_of_clientStep hstep)).slots
    · trivial
  · intro hfree mc' hstep
    exact (slotStep_inv client a mc' h hfree hstep).ok

/-! ## Runs -/

/-- After each step of a run of any threads of any clients, the slots of all clients are as they should be. -/
def SlotsAlong (steps : List (ℕ × SlotStep)) : Prop :=
  Along (memberStep slotStep) (MembersOk slotStep SlotClient.Ok) (fun _ => none) steps

theorem slots_iff (steps : List (ℕ × SlotStep)) :
    SlotsAlong steps ↔ Along (memberStep slotStep) (AtMember SlotsFree) (fun _ => none) steps :=
  along_members_iff (fun _ h => h.ok) slotStep_ok_iff slotStep_inv steps

/-- A client begins a frame, adds a quad with a swapchain, and begins the next frame without a commit: the frame is
overwritten, it is not retired, and the reference to the swapchain is not dropped. -/
theorem abandonedFrame_lost :
    ¬ SlotsAlong ([.create true, .layerBegin 1 0, .enterWait, .beginProgress, .layer (.single (some 7)),
      .layerBegin 2 0, .enterWait, .beginProgress].map fun a => (0, a)) := by
  intro hall
  simp only [List.map_cons, List.map_nil] at hall
  obtain ⟨-, hall⟩ := along_cons.1 hall
  obtain ⟨-, hall⟩ := along_cons.1 (hall _ rfl)
  obtain ⟨-, hall⟩ := along_cons.1 (hall _ rfl)
  obtain ⟨-, hall⟩ := along_cons.1 (hall _ rfl)
  obtain ⟨-, hall⟩ := along_cons.1 (hall _ rfl)
  obtain ⟨-, hall⟩ := along_cons.1 (hall _ rfl)
  obtain ⟨-, hall⟩ := along_cons.1 (hall _ rfl)
  obtain ⟨hlast, -⟩ := along_cons.1 (hall _ rfl)
  have hrefs := (hlast _ rfl 0 _ rfl).slots.refs
  exact absurd hrefs (by decide : ¬ (0 + 0 : Multiset ℕ) = {7})

end AugmentedInsanity.Multi
