/-
The present times that the compositor pacer predicts. The pacer steps in periods from a time that it takes from an
earlier frame; but its search leaves out the newest frame, so it does not know when that one is presented. A frame
comes about a period after the one before exactly when no time on the steps gets in between, and, while there is no
earlier frame to start from, when ten periods from now are late enough (`presents_iff`).
-/
import AugmentedInsanity.Lib.Runs
import AugmentedInsanity.Pacing.Compositor

namespace AugmentedInsanity.Pacing

open CatchUp Runs

/-! ## The predictors -/

/-- The time from which the next prediction steps forward, if there is a frame to take it from. -/
def PacingCompositor.lastPresentTimeNs (pc : PacingCompositor) : Option ℤ :=
  match getLatestFrameWithStateAtLeast pc .predicted, getLatestFrameWithStateAtLeast pc .info with
  | some predicted, some completed =>
    if completed = predicted then some (pc.frames completed).earliestPresentTimeNs
    else
      some ((pc.frames completed).earliestPresentTimeNs +
        ((pc.frames predicted).frameId - (pc.frames completed).frameId) * pc.framePeriodNs)
  | some predicted, none => some (pc.frames predicted).predictedDisplayTimeNs
  | none, _ => none

variable {pc : PacingCompositor} {index : Fin NUM_FRAMES}

theorem latestFrame_id {state : FrameState} {rounds : ℕ} (h : latestFrame pc state rounds = some index) :
    (pc.frames index).frameId ≤ pc.nextFrameId - (NUM_FRAMES - rounds) := by
  induction rounds with
  | zero => cases h
  | succ rounds ih =>
    simp only [latestFrame] at h
    split at h
    · split at h
      · rename_i hfound
        obtain rfl := Option.some.inj h
        rw [hfound.2]
        push_cast
        omega
      · have := ih h
        push_cast at this ⊢
        omega
    · cases h

theorem value_predicted_le_info : FrameState.predicted.value ≤ FrameState.info.value := by decide

theorem latestFrame_mono {state state' : FrameState} (hle : state'.value ≤ state.value) {rounds : ℕ}
    {completed : Fin NUM_FRAMES} (h : latestFrame pc state rounds = some completed) :
    ∃ predicted, latestFrame pc state' rounds = some predicted ∧
      (completed = predicted ∨ (pc.frames completed).frameId < (pc.frames predicted).frameId) := by
  induction rounds with
  | zero => cases h
  | succ rounds ih =>
    simp only [latestFrame] at h ⊢
    split at h
    · rename_i hcount
      rw [if_pos hcount]
      split at h
      · rename_i hfound
        obtain rfl := Option.some.inj h
        rw [if_pos ⟨hle.trans hfound.1, hfound.2⟩]
        exact ⟨_, rfl, Or.inl rfl⟩
      · split
        · rename_i hfound
          refine ⟨_, rfl, Or.inr ?_⟩
          have := latestFrame_id h
          rw [hfound.2]
          push_cast at this ⊢
          omega
        · exact ih h
    · cases h

@[simp] theorem createFrame_framePeriodNs (state : FrameState) :
    (createFrame pc state).2.framePeriodNs = pc.framePeriodNs := rfl

theorem walkForward_ends (pc : PacingCompositor) (lastPresentTimeNs nowNs : ℤ) :
    ∃ desired index pc', advance pc.framePeriodNs (nowNs + calcTotalCompTime pc)
        (lastPresentTimeNs + pc.framePeriodNs) = some desired ∧
      walkForwardThroughFrames pc lastPresentTimeNs nowNs = some (index, pc') ∧
      (pc'.frames index).desiredPresentTimeNs = desired := by
  obtain ⟨desired, hdesired⟩ :=
    advance_ends pc.period_pos (nowNs + calcTotalCompTime pc) (lastPresentTimeNs + pc.framePeriodNs)
  unfold walkForwardThroughFrames
  simp only [hdesired, Option.bind_eq_bind, Option.bind_some, Option.pure_def]
  refine ⟨desired, _, _, rfl, rfl, ?_⟩
  simp only [PacingCompositor.putFrame, Function.update_self]

theorem pcPredict_of_walk {lastPresentTimeNs : ℤ} (nowNs : ℤ) (h : pc.lastPresentTimeNs = some lastPresentTimeNs) :
    ∃ p pc', pcPredict pc nowNs = some (p, true, pc') ∧
      advance pc.framePeriodNs (nowNs + calcTotalCompTime pc) (lastPresentTimeNs + pc.framePeriodNs) =
        some p.desiredPresentTimeNs := by
  obtain ⟨desired, index, pc', hdesired, hwalk, hframe⟩ := walkForward_ends pc lastPresentTimeNs nowNs
  have hchoose : chooseNextFrame pc nowNs = some (true, index, pc') := by
    unfold PacingCompositor.lastPresentTimeNs at h
    unfold chooseNextFrame
    cases hpredicted : getLatestFrameWithStateAtLeast pc .predicted with
    | none =>
      rw [hpredicted] at h
      cases h
    | some predicted =>
      cases hcompleted : getLatestFrameWithStateAtLeast pc .info with
      | none =>
        rw [hpredicted, hcompleted] at h
        obtain rfl := Option.some.inj h
        simp only [hwalk, Option.map_some]
      | some completed =>
        obtain ⟨predicted', hfound, hnewer⟩ := latestFrame_mono value_predicted_le_info hcompleted
        obtain rfl : predicted' = predicted := Option.some.inj (hfound.symm.trans hpredicted)
        rw [hpredicted, hcompleted] at h
        dsimp only at h
        by_cases hsame : completed = predicted'
        · rw [if_pos hsame] at h
          obtain rfl := Option.some.inj h
          simp only [if_pos hsame, hwalk, Option.map_some]
        · rw [if_neg hsame] at h
          obtain rfl := Option.some.inj h
          simp only [if_neg hsame, hwalk, Option.map_some, decide_eq_true (hnewer.resolve_left hsame)]
  refine ⟨_, _, by rw [pcPredict, predictNextFrame, hchoose]; rfl, ?_⟩
  simp only [PacingCompositor.putFrame, Function.update_self, hframe]
  exact hdesired

theorem pcPredict_of_cleanSlate (nowNs : ℤ) (h : pc.lastPresentTimeNs = none) :
    ∃ p pc', pcPredict pc nowNs = some (p, true, pc') ∧
      p.desiredPresentTimeNs = nowNs + pc.framePeriodNs * 10 := by
  have hpredicted : getLatestFrameWithStateAtLeast pc .predicted = none := by
    unfold PacingCompositor.lastPresentTimeNs at h
    cases hpredicted : getLatestFrameWithStateAtLeast pc .predicted with
    | none => rfl
    | some predicted =>
      rw [hpredicted] at h
      cases hcompleted : getLatestFrameWithStateAtLeast pc .info with
      | none =>
        rw [hcompleted] at h
        cases h
      | some completed =>
        rw [hcompleted] at h
        dsimp only at h
        split at h <;> cases h
  have hcompleted : getLatestFrameWithStateAtLeast pc .info = none := by
    by_contra hsome
    obtain ⟨completed, hcompleted⟩ := Option.ne_none_iff_exists'.1 hsome
    obtain ⟨predicted, hfound, -⟩ := latestFrame_mono value_predicted_le_info hcompleted
    exact absurd (hfound.symm.trans hpredicted) (Option.some_ne_none predicted)
  unfold pcPredict predictNextFrame chooseNextFrame
  simp only [hpredicted, hcompleted, Option.map_some]
  refine ⟨_, _, rfl, ?_⟩
  simp only [PacingCompositor.putFrame, doCleanSlateFrame, Function.update_self, createFrame_framePeriodNs]

/-! ## Runs -/

/-- A pacer, with the present time that it predicted last. -/
structure PacedCompositor where
  pc : PacingCompositor
  previous : Option ℤ

/-- The program goes on with what a call leaves, if its assertions hold. -/
def PacedCompositor.goOn (r : PacedCompositor) : Bool × PacingCompositor → Option PacedCompositor
  | (true, pc) => some ⟨pc, r.previous⟩
  | (false, _) => none

def presentStep (r : PacedCompositor) : CompositorPacerCall → Option PacedCompositor
  | .predict nowNs => do
    let (p, asserts, pc) ← pcPredict r.pc nowNs
    PacedCompositor.goOn ⟨r.pc, some p.desiredPresentTimeNs⟩ (asserts, pc)
  | .markPoint point frameId whenNs => r.goOn (pcMarkPoint r.pc point frameId whenNs)
  | .info frameId feedback whenNs => r.goOn (pcInfo r.pc frameId feedback whenNs)
  | .updatePresentOffset offsetNs => r.goOn (true, pcUpdatePresentOffset r.pc offsetNs)

/-- A present time is past now and the time of the compositor, later than the previous one, and a period later up to
the tolerance. -/
structure PresentOk (toleranceNs : ℤ) (r : PacedCompositor) (nowNs presentNs : ℤ) : Prop where
  late : nowNs + calcTotalCompTime r.pc < presentNs
  increases : ∀ previous ∈ r.previous, previous < presentNs
  period : ∀ previous ∈ r.previous, previous + r.pc.framePeriodNs ≤ presentNs + toleranceNs

/-- What is to hold of a call: a prediction ends, and its present time is right. -/
def PresentsWell (toleranceNs : ℤ) (r : PacedCompositor) : CompositorPacerCall → Prop
  | .predict nowNs =>
    ∃ p pc, pcPredict r.pc nowNs = some (p, true, pc) ∧ PresentOk toleranceNs r nowNs p.desiredPresentTimeNs
  | _ => True

/-- The steps from the time that the pacer starts from meet no time that is late enough for the compositor, but too
early after the previous frame; where there is nothing to start from, the compositor takes less than ten periods, and
the previous frame is presented at most nine periods from now. -/
def StepsFit (toleranceNs : ℤ) (r : PacedCompositor) : CompositorPacerCall → Prop
  | .predict nowNs =>
    match r.pc.lastPresentTimeNs with
    | none => calcTotalCompTime r.pc < 10 * r.pc.framePeriodNs ∧ ∀ previous ∈ r.previous,
      previous < nowNs + 10 * r.pc.framePeriodNs ∧ previous ≤ nowNs + 9 * r.pc.framePeriodNs + toleranceNs
    | some lastPresentTimeNs => ∀ steps : ℕ, ∀ previous ∈ r.previous,
      let timeNs := lastPresentTimeNs + (steps + 1) * r.pc.framePeriodNs
      nowNs + calcTotalCompTime r.pc < timeNs →
        previous < timeNs ∧ previous + r.pc.framePeriodNs ≤ timeNs + toleranceNs
  | _ => True

theorem presentsWell_iff (toleranceNs : ℤ) (r : PacedCompositor) (c : CompositorPacerCall) :
    PresentsWell toleranceNs r c ↔ StepsFit toleranceNs r c := by
  cases c with
  | predict nowNs =>
    cases hlast : r.pc.lastPresentTimeNs with
    | none =>
      obtain ⟨p, pc', hpredict, hdesired⟩ := pcPredict_of_cleanSlate nowNs hlast
      simp only [PresentsWell, StepsFit, hlast, hpredict]
      constructor
      · rintro ⟨p', pc'', heq, hlate, hincreases, hperiod⟩
        cases heq
        rw [hdesired] at hlate
        refine ⟨by omega, fun previous hprevious => ?_⟩
        have hlt := hincreases previous hprevious
        have hle := hperiod previous hprevious
        rw [hdesired] at hlt hle
        omega
      · rintro ⟨hcomp, hprevious⟩
        refine ⟨p, pc', rfl, ?_⟩
        rw [hdesired]
        constructor
        · omega
        · intro previous hmem
          have := (hprevious previous hmem).1
          omega
        · intro previous hmem
          have := (hprevious previous hmem).2
          omega
    | some lastPresentTimeNs =>
      obtain ⟨p, pc', hpredict, hwalk⟩ := pcPredict_of_walk nowNs hlast
      -- the walk starts one period after the last present time
      have hstep : ∀ steps : ℕ, lastPresentTimeNs + r.pc.framePeriodNs + steps * r.pc.framePeriodNs =
          lastPresentTimeNs + (steps + 1) * r.pc.framePeriodNs := by
        intro steps
        ring
      have hreach := le_advance_iff r.pc.period_pos hwalk
      simp only [hstep] at hreach
      simp only [PresentsWell, StepsFit, hlast, hpredict]
      constructor
      · rintro ⟨p', pc'', heq, -, hincreases, hperiod⟩ steps previous hprevious hlate
        cases heq
        have hlt := (hreach (previous + 1)).1 (hincreases previous hprevious) steps hlate
        have hle := (hreach (previous + r.pc.framePeriodNs - toleranceNs)).1
          (by have := hperiod previous hprevious; omega) steps hlate
        omega
      · intro hfit
        refine ⟨p, pc', rfl, advance_past hwalk, fun previous hprevious => ?_, fun previous hprevious => ?_⟩
        · exact (hreach (previous + 1)).2 fun steps hlate => (hfit steps previous hprevious hlate).1
        · have := (hreach (previous + r.pc.framePeriodNs - toleranceNs)).2 fun steps hlate => by
            have := (hfit steps previous hprevious hlate).2
            omega
          omega
  | _ => exact Iff.rfl

/-- Along every sequence of calls with any feedback, the assertions of the predictions hold and their present times are
right exactly when the steps fit. -/
theorem presents_iff (toleranceNs : ℤ) (pc : PacingCompositor) (calls : List CompositorPacerCall) :
    Along presentStep (PresentsWell toleranceNs) ⟨pc, none⟩ calls ↔
      Along presentStep (StepsFit toleranceNs) ⟨pc, none⟩ calls :=
  along_iff (I := fun _ => True) (fun r c _ => presentsWell_iff toleranceNs r c) (fun _ _ _ _ _ _ => trivial) trivial
    calls

def atSixteenMs : PacingCompositor :=
  uPcDisplayTimingCreate (fun timeNs percent => timeNs * percent / 100) (U_TIME_1MS_IN_NS * 16) (by decide)
    U_PC_DISPLAY_TIMING_CONFIG_DEFAULT

/-- The second prediction does not see the first one, and again comes to ten periods from now: one millisecond after
the first present time, if it is made one millisecond later. -/
theorem secondPrediction_tooEarly :
    ¬ Along presentStep (PresentsWell PRESENT_SLOP_NS) ⟨atSixteenMs, none⟩ [.predict 0, .predict U_TIME_1MS_IN_NS] := by
  intro hall
  obtain ⟨-, hrest⟩ := along_cons.1 hall
  obtain ⟨⟨p, pc, hpredict, hok⟩, -⟩ := along_cons.1 (hrest _ rfl)
  have hp : p.desiredPresentTimeNs = 161000000 := by
    cases hpredict
    rfl
  have hperiod := hok.period 160000000 rfl
  rw [hp] at hperiod
  revert hperiod
  decide

/-! ## The ring -/

/-- The newest frames are in their slots and have been predicted; the slot of id 0 is untouched until it is reused. -/
structure RingInv (pc : PacingCompositor) : Prop where
  next : 0 ≤ pc.nextFrameId
  held : ∀ frameId, 0 < frameId → frameId ≤ pc.nextFrameId → pc.nextFrameId < frameId + NUM_FRAMES →
    (pc.frames (getFrame frameId)).frameId = frameId ∧ 1 ≤ (pc.frames (getFrame frameId)).state.value
  untouched : pc.nextFrameId < NUM_FRAMES → (pc.frames (getFrame 0)).state = .cleared

theorem getFrame_ne {a b : ℤ} (ha : 0 ≤ a) (hab : a < b) (hba : b < a + NUM_FRAMES) : getFrame a ≠ getFrame b := by
  intro heq
  have hmod := congrArg Fin.val heq
  simp only [getFrame, Fin.val_ofNat, NUM_FRAMES, Nat.cast_ofNat] at hmod hba
  omega

variable {pc' : PacingCompositor}

theorem RingInv.congr (h : RingInv pc) (hframes : pc'.frames = pc.frames) (hnext : pc'.nextFrameId = pc.nextFrameId) :
    RingInv pc' := by
  obtain ⟨hpos, hheld, huntouched⟩ := h
  rw [← hframes, ← hnext] at hheld huntouched
  rw [← hnext] at hpos
  exact ⟨hpos, hheld, huntouched⟩

theorem RingInv.putFrame (h : RingInv pc) {f : Frame} (state : FrameState) (hid : f.frameId = (pc.frames index).frameId)
    (hstate : f.state = state) (hvalue : 1 ≤ state.value) (hbefore : (pc.frames index).state ≠ .cleared) :
    RingInv (pc.putFrame index f) := by
  constructor
  · exact h.next
  · intro frameId hpos hle hlt
    have hold := h.held frameId hpos hle hlt
    simp only [PacingCompositor.putFrame]
    by_cases heq : getFrame frameId = index
    · rw [heq, Function.update_self]
      rw [heq] at hold
      exact ⟨hid.trans hold.1, hstate ▸ hvalue⟩
    · rw [Function.update_of_ne heq]
      exact hold
  · intro hlt
    have hcleared := h.untouched hlt
    have hne : getFrame 0 ≠ index := by
      rintro rfl
      exact hbefore hcleared
    simp only [PacingCompositor.putFrame]
    rw [Function.update_of_ne hne]
    exact hcleared

structure NewFrame (pc : PacingCompositor) (index : Fin NUM_FRAMES) (pc' : PacingCompositor) : Prop where
  slot : index = getFrame (pc.nextFrameId + 1)
  next : pc'.nextFrameId = pc.nextFrameId + 1
  frames : ∃ f, pc'.frames = Function.update pc.frames index f ∧ f.frameId = pc.nextFrameId + 1 ∧ f.state = .predicted

theorem createFrame_newFrame (pc : PacingCompositor) :
    NewFrame pc (createFrame pc .predicted).1 (createFrame pc .predicted).2 :=
  ⟨rfl, rfl, _, rfl, rfl, rfl⟩

theorem NewFrame.putFrame (h : NewFrame pc index pc') {f : Frame} (hid : f.frameId = (pc'.frames index).frameId)
    (hstate : f.state = (pc'.frames index).state) : NewFrame pc index (pc'.putFrame index f) := by
  obtain ⟨hindex, hnext, f', hframes, hid', hstate'⟩ := h
  rw [hframes, Function.update_self] at hid hstate
  refine ⟨hindex, hnext, f, ?_, hid.trans hid', hstate.trans hstate'⟩
  simp only [PacingCompositor.putFrame, hframes, Function.update_idem]

theorem walkForward_newFrame {lastPresentTimeNs nowNs : ℤ}
    (h : walkForwardThroughFrames pc lastPresentTimeNs nowNs = some (index, pc')) : NewFrame pc index pc' := by
  obtain ⟨desired, -, h⟩ := Option.bind_eq_some_iff.1 h
  cases h
  exact (createFrame_newFrame pc).putFrame rfl rfl

theorem pcPredict_newFrame {nowNs : ℤ} {p : PresentPrediction} {asserts : Bool}
    (h : pcPredict pc nowNs = some (p, asserts, pc')) : ∃ index, NewFrame pc index pc' := by
  obtain ⟨⟨asserts', index, pc''⟩, hpredict, heq⟩ := Option.map_eq_some_iff.1 h
  cases heq
  obtain ⟨⟨asserts'', index', pc''⟩, hbranch, hlast⟩ := Option.map_eq_some_iff.1 hpredict
  cases hlast
  refine ⟨index, NewFrame.putFrame ?_ rfl rfl⟩
  unfold chooseNextFrame at hbranch
  split at hbranch
  · cases hbranch
    exact (createFrame_newFrame pc).putFrame rfl rfl
  · split at hbranch
    · obtain ⟨⟨index, pc⟩, hwalk, heq⟩ := Option.map_eq_some_iff.1 hbranch
      cases heq
      exact walkForward_newFrame hwalk
    · obtain ⟨⟨index, pc⟩, hwalk, heq⟩ := Option.map_eq_some_iff.1 hbranch
      cases heq
      exact walkForward_newFrame hwalk
  · obtain ⟨⟨index, pc⟩, hwalk, heq⟩ := Option.map_eq_some_iff.1 hbranch
    cases heq
    exact walkForward_newFrame hwalk
  · cases hbranch

theorem RingInv.newFrame (h : RingInv pc) (hnew : NewFrame pc index pc') : RingInv pc' := by
  obtain ⟨rfl, hnext, f, hframes, hid, hstate⟩ := hnew
  have hpos := h.next
  constructor
  · omega
  · intro frameId hframe hle hlt
    rw [hframes]
    by_cases heq : frameId = pc.nextFrameId + 1
    · rw [heq, Function.update_self, hid, hstate]
      exact ⟨rfl, le_rfl⟩
    · rw [Function.update_of_ne (getFrame_ne (b := pc.nextFrameId + 1) hframe.le (by omega) (by omega))]
      exact h.held frameId hframe (by omega) (by omega)
  · intro hlt
    rw [hframes, Function.update_of_ne (getFrame_ne (b := pc.nextFrameId + 1) le_rfl (by omega) (by omega))]
    exact h.untouched (by omega)

theorem adjustCompTime_keeps (pc : PacingCompositor) (f : Frame) :
    (adjustCompTime pc f).frames = pc.frames ∧ (adjustCompTime pc f).nextFrameId = pc.nextFrameId := by
  unfold adjustCompTime
  split_ifs <;> exact ⟨rfl, rfl⟩

theorem goOn_eq_some {r r' : PacedCompositor} {x : Bool × PacingCompositor} (h : r.goOn x = some r') :
    x.1 = true ∧ r'.pc = x.2 := by
  obtain ⟨_ | _, pc⟩ := x
  · cases h
  · cases h
    exact ⟨rfl, rfl⟩

theorem presentStep_ringInv {r r' : PacedCompositor} {c : CompositorPacerCall} (h : RingInv r.pc)
    (hs : presentStep r c = some r') : RingInv r'.pc := by
  cases c with
  | predict nowNs =>
    obtain ⟨⟨p, asserts, pc'⟩, hpredict, hs⟩ := Option.bind_eq_some_iff.1 hs
    obtain ⟨index, hnew⟩ := pcPredict_newFrame hpredict
    rw [(goOn_eq_some hs).2]
    exact h.newFrame hnew
  | markPoint point frameId whenNs =>
    obtain ⟨hasserts, hpc⟩ := goOn_eq_some hs
    rw [hpc]
    unfold pcMarkPoint at hasserts ⊢
    dsimp only at hasserts ⊢
    split_ifs at hasserts ⊢
    · exact h
    · cases point with
      | wakeUp => exact h.putFrame .woke rfl rfl (by decide) (by rw [of_decide_eq_true hasserts]; decide)
      | begin => exact h.putFrame .began rfl rfl (by decide) (by rw [of_decide_eq_true hasserts]; decide)
      | submitBegin => exact h
      | submitEnd => exact h.putFrame .submitted rfl rfl (by decide) (by rw [of_decide_eq_true hasserts]; decide)
  | info frameId feedback whenNs =>
    obtain ⟨hasserts, hpc⟩ := goOn_eq_some hs
    rw [hpc]
    unfold pcInfo at hasserts ⊢
    dsimp only at hasserts ⊢
    split_ifs at hasserts ⊢
    · exact h
    · obtain ⟨hframes, hnext⟩ := adjustCompTime_keeps (r.pc.putFrame (getFrame frameId) _) _
      refine RingInv.congr ?_ hframes hnext
      exact h.putFrame .info rfl rfl (by decide) (by rw [(of_decide_eq_true hasserts).1]; decide)
  | updatePresentOffset offsetNs =>
    cases hs
    exact h.congr rfl rfl

end AugmentedInsanity.Pacing
