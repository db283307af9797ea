/-
The frames of the app pacer, under clients that keep to the frame protocol: each frame is predicted, woken up for,
begun, and then discarded, or delivered and finished by the GPU. A frame lives in the slot of its id, modulo the
number of slots, and nothing bounds how many a client leaves unfinished; the assertions hold exactly as long as a new
frame is only predicted once the frame that has its slot is finished (`framesFound_iff`).
-/
import AugmentedInsanity.Pacing.AppTimes

namespace AugmentedInsanity.Pacing

open Runs

/-! ## The protocol -/

inductive FramePhase
  | unseen
  | predicted
  | woke
  | begun
  | delivered
  | finished
  deriving DecidableEq

/-- The state in which the pacer has to find the frame, while the client is at it. -/
def FramePhase.state : FramePhase → Option UPaState
  | .unseen => none
  | .predicted => some .predicted
  | .woke => some .waitLeft
  | .begun => some .begun
  | .delivered => some .delivered
  | .finished => none

/-- What a client does about a frame it has predicted, in `ipc_handle_compositor_wait_woke`, `begin_frame`,
`discard_frame`, and the begin and the end of its layer submission. -/
inductive FrameMark
  | waitWoke
  | beginFrame
  | discardFrame
  | layerBegin (displayTimeNs : ℤ)
  | gpuDone
  deriving DecidableEq

def FrameMark.pacerCall (frameId whenNs : ℤ) : FrameMark → PacerCall
  | .waitWoke => .markPoint frameId .wakeUp whenNs
  | .beginFrame => .markPoint frameId .begin whenNs
  | .discardFrame => .markDiscarded frameId
  | .layerBegin displayTimeNs => .markDelivered frameId whenNs displayTimeNs
  | .gpuDone => .markGpuDone frameId whenNs

/-- Where the protocol allows the mark, and what it leads to. -/
def FrameMark.follow : FrameMark → FramePhase → Option FramePhase
  | .waitWoke, .predicted => some .woke
  | .beginFrame, .woke => some .begun
  | .discardFrame, .woke => some .finished
  | .discardFrame, .begun => some .finished
  | .layerBegin _, .begun => some .delivered
  | .gpuDone, .delivered => some .finished
  | _, _ => none

/-- The `last_timings` of the system compositor; the display has a period. -/
structure Timings where
  predictedDisplayTimeNs : ℤ
  predictedDisplayPeriodNs : ℤ
  extraNs : ℤ
  period_pos : 0 < predictedDisplayPeriodNs
  deriving DecidableEq

/-- A call of the client, or new timings that the system compositor hands on. -/
inductive FrameCall
  | predictFrame (nowNs : ℤ)
  | mark (mark : FrameMark) (frameId whenNs : ℤ)
  | info (timings : Timings)
  deriving DecidableEq

/-- A pacer, with how far its client got with each frame. -/
structure FramesRun where
  pa : PacingApp
  phase : ℤ → FramePhase

/-- `pa_info` with the timings. -/
def PacingApp.handTimings (pa : PacingApp) (t : Timings) : PacingApp :=
  paInfo pa t.predictedDisplayTimeNs t.predictedDisplayPeriodNs t.extraNs

/-- The pacer as `multi_compositor_create` makes it: it has the current timings from the start. -/
def FramesRun.create (t : Timings) : FramesRun := ⟨paCreate.handTimings t, fun _ => .unseen⟩

def frameStep (o : PacingOptions) (r : FramesRun) : FrameCall → Option FramesRun
  | .predictFrame nowNs =>
    (paPredict o r.pa nowNs).map fun (p, _, pa) => ⟨pa, Function.update r.phase p.frameId .predicted⟩
  | .mark mark frameId whenNs =>
    (mark.follow (r.phase frameId)).bind fun phase =>
      (r.pa.call o (mark.pacerCall frameId whenNs)).map fun (_, pa) => ⟨pa, Function.update r.phase frameId phase⟩
  | .info timings => some ⟨r.pa.handTimings timings, r.phase⟩

/-! ## What is to hold of a call -/

def FramesRun.Live (r : FramesRun) (frameId : ℤ) : Prop := (r.phase frameId).state ≠ none

def SlotKept (pa pa' : PacingApp) (frameId : ℤ) : Prop :=
  ∀ index, getIndexFromId frameId = some index → pa'.frames index = pa.frames index

/-- The assertions of the call hold, and it leaves the slots of all other live frames alone. -/
def FramesFound (o : PacingOptions) (r : FramesRun) : FrameCall → Prop
  | .predictFrame nowNs =>
    ∃ p pa, paPredict o r.pa nowNs = some (p, true, pa) ∧ ∀ frameId, r.Live frameId → SlotKept r.pa pa frameId
  | .mark mark frameId whenNs =>
    mark.follow (r.phase frameId) ≠ none →
      ∃ pa, r.pa.call o (mark.pacerCall frameId whenNs) = some (true, pa) ∧
        ∀ other, other ≠ frameId → r.Live other → SlotKept r.pa pa other
  | .info _ => True

/-- A frame is predicted once the frame that had its slot before is finished. -/
def SlotFinished (r : FramesRun) : FrameCall → Prop
  | .predictFrame _ => ¬ r.Live (r.pa.frameCounter + 1 - FRAME_COUNT)
  | _ => True

/-! ## The invariant -/

structure InSlot (r : FramesRun) (frameId : ℤ) (index : Fin FRAME_COUNT) : Prop where
  id : (r.pa.frames index).frameId = frameId
  state : (r.phase frameId).state = some (r.pa.frames index).state

/-- The live frames are among the last `FRAME_COUNT` ones and each is in its slot; every other slot is empty. -/
structure FramesInv (r : FramesRun) : Prop where
  period : 0 < r.pa.predictedDisplayPeriodNs
  counter : 0 ≤ r.pa.frameCounter
  recent : ∀ frameId, r.Live frameId → 0 < frameId ∧ frameId ≤ r.pa.frameCounter ∧
    r.pa.frameCounter < frameId + FRAME_COUNT
  slot : ∀ frameId index, r.Live frameId → getIndexFromId frameId = some index → InSlot r frameId index
  empty : ∀ index : Fin FRAME_COUNT, r.pa.frames index = .reset ∨
    ∃ frameId, r.Live frameId ∧ getIndexFromId frameId = some index

variable {index : Fin FRAME_COUNT} {frameId : ℤ}

theorem index_eq (hid : 0 ≤ frameId) (h : getIndexFromId frameId = some index) :
    (index : ℤ) = frameId % FRAME_COUNT := by
  obtain ⟨index', hindex, heq⟩ := getIndexFromId_of_nonneg hid
  rw [h] at hindex
  cases hindex
  exact heq

variable {r : FramesRun} {o : PacingOptions} {mark : FrameMark} {r' : FramesRun}

theorem FramesInv.index_injective (h : FramesInv r) {a b : ℤ} (ha : r.Live a) (hb : r.Live b)
    (hia : getIndexFromId a = some index) (hib : getIndexFromId b = some index) : a = b := by
  obtain ⟨ha0, hac, hca⟩ := h.recent a ha
  obtain ⟨hb0, hbc, hcb⟩ := h.recent b hb
  have hmod := (index_eq ha0.le hia).symm.trans (index_eq hb0.le hib)
  simp only [FRAME_COUNT, Nat.cast_ofNat] at hmod hca hcb
  omega

theorem FramesInv.nextSlot_iff (h : FramesInv r) (hindex : getIndexFromId (r.pa.frameCounter + 1) = some index) :
    r.pa.frames index = .reset ↔ ¬ r.Live (r.pa.frameCounter + 1 - FRAME_COUNT) := by
  have hcounter := h.counter
  have hnext := index_eq (by omega) hindex
  constructor
  · intro hreset hlive
    obtain ⟨hpos, -, -⟩ := h.recent _ hlive
    obtain ⟨index', hindex', heq⟩ := getIndexFromId_of_nonneg hpos.le
    have hsame : index' = index := by
      apply Fin.ext
      have hmod : (index' : ℤ) = index := by
        rw [heq, hnext, Int.sub_emod_right]
      exact_mod_cast hmod
    have hid := (h.slot _ _ hlive hindex').id
    rw [hsame, hreset] at hid
    simp only [UPaFrame.reset] at hid
    omega
  · intro hdead
    refine (h.empty index).resolve_right ?_
    rintro ⟨frameId, hlive, hid⟩
    obtain ⟨hpos, hle, hrecent⟩ := h.recent frameId hlive
    have hmod := (index_eq hpos.le hid).symm.trans hnext
    have heq : frameId = r.pa.frameCounter + 1 - FRAME_COUNT := by
      simp only [FRAME_COUNT, Nat.cast_ofNat] at hmod hrecent ⊢
      omega
    exact hdead (heq ▸ hlive)

/-! ## Marks -/

theorem mark_spec (o : PacingOptions) (whenNs : ℤ) {phase : FramePhase}
    (hfollow : mark.follow (r.phase frameId) = some phase) (hindex : getIndexFromId frameId = some index)
    (hslot : InSlot r frameId index) :
    ∃ pa f, r.pa.call o (mark.pacerCall frameId whenNs) = some (true, pa) ∧
      pa.frames = Function.update r.pa.frames index f ∧ pa.frameCounter = r.pa.frameCounter ∧
      pa.predictedDisplayPeriodNs = r.pa.predictedDisplayPeriodNs ∧
      (phase.state = some f.state ∧ f.frameId = frameId ∨ phase.state = none ∧ f = .reset) := by
  obtain ⟨hid, hstate⟩ := hslot
  generalize hphase : r.phase frameId = before at hfollow hstate
  cases mark <;> cases before <;> cases hfollow <;> cases hf : (r.pa.frames index).state <;>
    rw [hf] at hstate <;> cases hstate
  all_goals
    unfold PacingApp.call FrameMark.pacerCall
    simp only [paMarkPoint, paMarkDiscarded, paMarkDelivered, paMarkGpuDone, hindex, Option.map_some, hid, hf]
  all_goals first
    | exact ⟨_, _, rfl, rfl, rfl, rfl, Or.inl ⟨rfl, rfl⟩⟩
    | exact ⟨_, _, rfl, rfl, rfl, rfl, Or.inr ⟨rfl, rfl⟩⟩

theorem follow_live {before after : FramePhase} (h : mark.follow before = some after) : before.state ≠ none := by
  cases mark <;> cases before <;> cases h <;> exact Option.some_ne_none _

/-! ## Calls -/

theorem predict_spec (o : PacingOptions) (h : FramesInv r) (nowNs : ℤ) :
    ∃ p asserts pa index f, paPredict o r.pa nowNs = some (p, asserts, pa) ∧
      getIndexFromId p.frameId = some index ∧ p.frameId = r.pa.frameCounter + 1 ∧
      pa.frames = Function.update r.pa.frames index f ∧ f.frameId = p.frameId ∧ f.state = .predicted ∧
      pa.frameCounter = p.frameId ∧ pa.predictedDisplayPeriodNs = r.pa.predictedDisplayPeriodNs ∧
      (asserts = true ↔ SlotFinished r (.predictFrame nowNs)) := by
  have hcounter := h.counter
  obtain ⟨p, hp, hid, -⟩ := @predictTimes_ends o r.pa (displayPeriod_pos h.period.le) nowNs
  obtain ⟨index, asserts, f, hindex, hpredict, hasserts, hf, hstate⟩ := paPredict_of_times hp (by omega)
  refine ⟨p, asserts, _, index, f, hpredict, hindex, hid, rfl, hf, hstate, rfl, rfl, ?_⟩
  rw [hid] at hindex
  rw [hasserts, decide_eq_true_iff, SlotFinished, ← h.nextSlot_iff hindex]
  refine ⟨fun ⟨_, hempty⟩ => ?_, fun hreset => by rw [hreset]; exact ⟨h.period.ne', rfl, rfl⟩⟩
  refine (h.empty index).resolve_right ?_
  rintro ⟨frameId, hlive, hin⟩
  have heq := (h.slot frameId index hlive hin).id
  have hpos := (h.recent frameId hlive).1
  have hfree := hempty.1
  omega

theorem FramesInv.kept_of_reset (h : FramesInv r) {pa : PacingApp} {f : UPaFrame} (hreset : r.pa.frames index = .reset)
    (hframes : pa.frames = Function.update r.pa.frames index f) (hlive : r.Live frameId) :
    SlotKept r.pa pa frameId := by
  intro index' hindex'
  have hne : index' ≠ index := by
    rintro rfl
    have hid := (h.slot frameId index' hlive hindex').id
    have hpos := (h.recent frameId hlive).1
    rw [hreset] at hid
    simp only [UPaFrame.reset] at hid
    omega
  rw [hframes, Function.update_of_ne hne]

theorem FramesInv.kept_of_mark (h : FramesInv r) {pa : PacingApp} {f : UPaFrame} {frameId other : ℤ}
    (hlive : r.Live frameId) (hindex : getIndexFromId frameId = some index)
    (hframes : pa.frames = Function.update r.pa.frames index f) (hne : other ≠ frameId) (hother : r.Live other) :
    SlotKept r.pa pa other := by
  intro index' hindex'
  have hindices : index' ≠ index := by
    rintro rfl
    exact hne (h.index_injective hother hlive hindex' hindex)
  rw [hframes, Function.update_of_ne hindices]

theorem framesFound_iff_slotFinished (o : PacingOptions) (h : FramesInv r) (c : FrameCall) :
    FramesFound o r c ↔ SlotFinished r c := by
  cases c with
  | predictFrame nowNs =>
    obtain ⟨p, asserts, pa, index, f, hpredict, hindex, hid, hframes, -, -, -, -, hasserts⟩ := predict_spec o h nowNs
    rw [hid] at hindex
    rw [← hasserts]
    constructor
    · rintro ⟨p', pa', heq, -⟩
      rw [hpredict] at heq
      cases heq
      rfl
    · rintro rfl
      have hreset := (h.nextSlot_iff hindex).2 (hasserts.1 rfl)
      exact ⟨p, pa, hpredict, fun frameId hlive => h.kept_of_reset hreset hframes hlive⟩
  | mark mark frameId whenNs =>
    refine iff_of_true (fun hallowed => ?_) trivial
    obtain ⟨phase, hfollow⟩ := Option.ne_none_iff_exists'.1 hallowed
    have hlive : r.Live frameId := follow_live hfollow
    obtain ⟨index, hindex, -⟩ := getIndexFromId_of_nonneg (h.recent frameId hlive).1.le
    obtain ⟨pa, f, hcall, hframes, -⟩ := mark_spec o whenNs hfollow hindex (h.slot _ _ hlive hindex)
    exact ⟨pa, hcall, fun other hne hother => h.kept_of_mark hlive hindex hframes hne hother⟩
  | info t => exact iff_of_true trivial trivial

/-! ## Runs -/

section
variable {pa : PacingApp} {frameId other : ℤ} {phase : FramePhase}

theorem live_update_self : FramesRun.Live ⟨pa, Function.update r.phase frameId phase⟩ frameId ↔ phase.state ≠ none := by
  unfold FramesRun.Live
  dsimp only
  rw [Function.update_self]

theorem live_update_ne (hne : other ≠ frameId) :
    FramesRun.Live ⟨pa, Function.update r.phase frameId phase⟩ other ↔ r.Live other := by
  unfold FramesRun.Live
  dsimp only
  rw [Function.update_of_ne hne]

theorem FramesInv.moveOn (h : FramesInv r) {index : Fin FRAME_COUNT} {f : UPaFrame}
    (hindex : getIndexFromId frameId = some index) (hframes : pa.frames = Function.update r.pa.frames index f)
    (hperiod : pa.predictedDisplayPeriodNs = r.pa.predictedDisplayPeriodNs) (hcounter : 0 ≤ pa.frameCounter)
    (hrecent : ∀ other, FramesRun.Live ⟨pa, Function.update r.phase frameId phase⟩ other →
      0 < other ∧ other ≤ pa.frameCounter ∧ pa.frameCounter < other + FRAME_COUNT)
    (hself : phase.state = some f.state ∧ f.frameId = frameId ∨ phase.state = none ∧ f = .reset)
    (hkept : ∀ other, other ≠ frameId → r.Live other → SlotKept r.pa pa other) :
    FramesInv ⟨pa, Function.update r.phase frameId phase⟩ := by
  constructor
  · rw [hperiod]
    exact h.period
  · exact hcounter
  · exact hrecent
  · intro other index' hother hindex'
    by_cases heq : other = frameId
    · subst heq
      obtain rfl : index = index' := Option.some.inj (hindex.symm.trans hindex')
      rcases hself with ⟨hstate, hid⟩ | ⟨hgone, -⟩
      · constructor
        · dsimp only
          rw [hframes, Function.update_self, hid]
        · dsimp only
          rw [hframes, Function.update_self, Function.update_self, hstate]
      · exact absurd hgone (live_update_self.1 hother)
    · have hbefore := (live_update_ne heq).1 hother
      obtain ⟨hin, hstate⟩ := h.slot other index' hbefore hindex'
      have hsame := hkept other heq hbefore index' hindex'
      constructor
      · dsimp only
        rw [hsame, hin]
      · dsimp only
        rw [hsame, Function.update_of_ne heq, hstate]
  · intro index'
    dsimp only
    by_cases heq : index' = index
    · subst heq
      rw [hframes, Function.update_self]
      rcases hself with ⟨hstate, -⟩ | ⟨-, hreset⟩
      · exact Or.inr ⟨frameId, live_update_self.2 (by rw [hstate]; exact Option.some_ne_none _), hindex⟩
      · exact Or.inl hreset
    · rcases h.empty index' with hempty | ⟨other, hother, hin⟩
      · rw [hframes, Function.update_of_ne heq]
        exact Or.inl hempty
      · have hne : other ≠ frameId := by
          rintro rfl
          exact heq (Option.some.inj (hin.symm.trans hindex))
        exact Or.inr ⟨other, (live_update_ne hne).2 hother, hin⟩

end

theorem predict_framesInv {nowNs : ℤ} (h : FramesInv r) (hfits : SlotFinished r (.predictFrame nowNs))
    (hs : frameStep o r (.predictFrame nowNs) = some r') : FramesInv r' := by
  obtain ⟨p, asserts, pa, index, f, hpredict, hindex, hid, hframes, hf, hstate, hcounter', hperiod, -⟩ :=
    predict_spec o h nowNs
  have hcounter := h.counter
  have hreset : r.pa.frames index = .reset := (h.nextSlot_iff (hid ▸ hindex)).2 hfits
  simp only [frameStep, hpredict, Option.map_some] at hs
  obtain rfl := Option.some.inj hs
  refine h.moveOn hindex hframes hperiod (by omega) (fun frameId hlive => ?_) (Or.inl ⟨?_, hf⟩) fun frameId _ hlive =>
    h.kept_of_reset hreset hframes hlive
  · rw [hcounter']
    by_cases heq : frameId = p.frameId
    · simp only [FRAME_COUNT, Nat.cast_ofNat]
      omega
    · -- the frame that is as old as the table is long is not live
      have hold := (live_update_ne heq).1 hlive
      obtain ⟨hpos, hle, hrecent⟩ := h.recent frameId hold
      have hne : frameId ≠ r.pa.frameCounter + 1 - FRAME_COUNT := by
        rintro rfl
        exact hfits hold
      omega
  · rw [hstate]
    rfl

theorem mark_framesInv {frameId whenNs : ℤ} (h : FramesInv r)
    (hs : frameStep o r (.mark mark frameId whenNs) = some r') : FramesInv r' := by
  obtain ⟨phase, hfollow, hs⟩ := Option.bind_eq_some_iff.1 hs
  have hlive : r.Live frameId := follow_live hfollow
  obtain ⟨index, hindex, -⟩ := getIndexFromId_of_nonneg (h.recent frameId hlive).1.le
  obtain ⟨pa, f, hcall, hframes, hcounter, hperiod, hf⟩ :=
    mark_spec o whenNs hfollow hindex (h.slot _ _ hlive hindex)
  rw [hcall, Option.map_some] at hs
  obtain rfl := Option.some.inj hs
  refine h.moveOn hindex hframes hperiod (hcounter ▸ h.counter) (fun other hother => ?_) hf fun other hne hother =>
    h.kept_of_mark hlive hindex hframes hne hother
  rw [hcounter]
  apply h.recent
  by_cases heq : other = frameId
  · rwa [heq]
  · exact (live_update_ne heq).1 hother

theorem frameStep_inv {c : FrameCall} (h : FramesInv r) (hfits : SlotFinished r c) (hs : frameStep o r c = some r') :
    FramesInv r' := by
  cases c with
  | predictFrame nowNs => exact predict_framesInv h hfits hs
  | mark mark frameId whenNs => exact mark_framesInv h hs
  | info t =>
    obtain rfl := Option.some.inj hs
    refine ⟨t.period_pos, h.counter, h.recent, fun frameId index hlive hindex => ?_, h.empty⟩
    obtain ⟨hid, hstate⟩ := h.slot frameId index hlive hindex
    exact ⟨hid, hstate⟩

theorem create_framesInv (t : Timings) : FramesInv (.create t) :=
  ⟨t.period_pos, le_rfl, fun _ hlive => absurd rfl hlive, fun _ _ hlive => absurd rfl hlive, fun _ => Or.inl rfl⟩

/-- Along every sequence of calls of a client that keeps to the protocol, no assertion of the pacer fails and no live
frame loses its slot exactly when each new frame is predicted once the frame before it in its slot is finished. -/
theorem framesFound_iff (o : PacingOptions) (t : Timings) (calls : List FrameCall) :
    Along (frameStep o) (FramesFound o) (.create t) calls ↔ Along (frameStep o) SlotFinished (.create t) calls :=
  along_iff (fun _ c h => framesFound_iff_slotFinished o h c) (fun _ _ _ h hfits hs => frameStep_inv h hfits hs)
    (create_framesInv t) calls

/-! ## Predictions that are never finished -/

theorem predict_live (o : PacingOptions) (h : FramesInv r) (nowNs : ℤ) :
    ∃ r', frameStep o r (.predictFrame nowNs) = some r' ∧ r'.pa.frameCounter = r.pa.frameCounter + 1 ∧
      r'.Live (r.pa.frameCounter + 1) ∧ ∀ frameId, r.Live frameId → r'.Live frameId := by
  obtain ⟨p, asserts, pa, index, f, hpredict, -, hid, -, -, -, hcounter, -⟩ := predict_spec o h nowNs
  have hs : frameStep o r (.predictFrame nowNs) = some ⟨pa, Function.update r.phase p.frameId .predicted⟩ := by
    simp only [frameStep, hpredict, Option.map_some]
  refine ⟨_, hs, hcounter.trans hid, ?_, fun frameId hlive => ?_⟩
  · simp only [FramesRun.Live, ← hid, Function.update_self]
    exact Option.some_ne_none _
  · have hne : frameId ≠ p.frameId := by
      have := (h.recent frameId hlive).2.1
      omega
    simp only [FramesRun.Live, Function.update_of_ne hne]
    exact hlive

theorem predictions_fail (o : PacingOptions) (nowNs : ℤ) (k : ℕ) (h : FramesInv r) (hfirst : r.Live 1)
    (hcounter : r.pa.frameCounter + k = FRAME_COUNT) :
    ¬ Along (frameStep o) (FramesFound o) r (List.replicate (k + 1) (.predictFrame nowNs)) := by
  induction k generalizing r with
  | zero =>
    rintro ⟨hfound, -⟩
    refine (framesFound_iff_slotFinished o h _).1 hfound ?_
    have hslot : r.pa.frameCounter + 1 - FRAME_COUNT = 1 := by
      simp only [FRAME_COUNT, Nat.cast_ofNat] at hcounter ⊢
      omega
    rwa [hslot]
  | succ k ih =>
    intro hall
    rw [List.replicate_succ] at hall
    obtain ⟨hfound, hrest⟩ := along_cons.1 hall
    obtain ⟨r', hs, hnext, -, hlive⟩ := predict_live o h nowNs
    have hfits := (framesFound_iff_slotFinished o h _).1 hfound
    refine ih (frameStep_inv h hfits hs) (hlive 1 hfirst) ?_ (hrest r' hs)
    rw [hnext, ← hcounter]
    push_cast
    ring

def plainOptions : PacingOptions where
  minAppTimeNs := U_TIME_1MS_IN_NS
  marginTimeNs := U_TIME_1MS_IN_NS * 2
  useMinFramePeriod := false
  immediateWaitFrameReturn := false
  immediateWaitFrameReturnBelowRefresh := false
  alignPredictedDisplayTimeToAppPeriod := false
  iirFilter := fun _ sample => sample

/-- A client that predicts one frame more than there are slots, and finishes none. -/
theorem unfinished_fails :
    ¬ Along (frameStep plainOptions) (FramesFound plainOptions)
      (.create ⟨0, U_TIME_1MS_IN_NS * 16, U_TIME_1MS_IN_NS * 5, by decide⟩)
      (List.replicate (FRAME_COUNT + 1) (.predictFrame 0)) := by
  intro hall
  rw [List.replicate_succ] at hall
  obtain ⟨hfound, hrest⟩ := along_cons.1 hall
  have hinv := create_framesInv ⟨0, U_TIME_1MS_IN_NS * 16, U_TIME_1MS_IN_NS * 5, by decide⟩
  obtain ⟨r, hs, hcounter, hlive, -⟩ := predict_live plainOptions hinv 0
  have hfits := (framesFound_iff_slotFinished plainOptions hinv _).1 hfound
  exact predictions_fail plainOptions 0 127 (frameStep_inv hinv hfits hs) hlive (by rw [hcounter]; rfl) (hrest r hs)

end AugmentedInsanity.Pacing
