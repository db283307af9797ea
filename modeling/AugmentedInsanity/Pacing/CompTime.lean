/-
The time that the compositor pacer reckons the compositor to take. A missed frame raises it to its maximum at most; a
frame that is not missed moves it by a fixed step down or up, and nothing stops it at zero or at the maximum. It stays
in between exactly as long as every such step has room (`compTime_inBounds_iff`).
-/
import AugmentedInsanity.Pacing.CompositorTimes

namespace AugmentedInsanity.Pacing

open Runs

/-- What a percentage of a time keeps when it is computed with doubles: it is not negative, and grows with the
percentage. -/
structure PercentLaws (getPercentOfTime : ℤ → ℕ → ℤ) : Prop where
  nonneg : ∀ timeNs percent, 0 ≤ timeNs → 0 ≤ getPercentOfTime timeNs percent
  mono : ∀ timeNs p q, 0 ≤ timeNs → p ≤ q → getPercentOfTime timeNs p ≤ getPercentOfTime timeNs q

def CompTimeInBounds (pc : PacingCompositor) : Prop := 0 ≤ pc.compTimeNs ∧ pc.compTimeNs ≤ pc.compTimeMaxNs

structure TimingOk (pc : PacingCompositor) : Prop where
  inBounds : CompTimeInBounds pc
  missed : 0 ≤ pc.adjustMissedNs
  nonMiss : 0 ≤ pc.adjustNonMissNs

variable {pc : PacingCompositor}

theorem create_timingOk {getPercentOfTime : ℤ → ℕ → ℤ} (hlaws : PercentLaws getPercentOfTime) {periodNs : ℤ}
    (hperiod : 0 < periodNs) {config : DisplayTimingConfig}
    (hfraction : config.compTimeFraction ≤ config.compTimeMaxFraction) :
    TimingOk (uPcDisplayTimingCreate getPercentOfTime periodNs hperiod config) where
  inBounds := ⟨hlaws.nonneg _ _ hperiod.le, hlaws.mono _ _ _ hperiod.le hfraction⟩
  missed := hlaws.nonneg _ _ hperiod.le
  nonMiss := hlaws.nonneg _ _ hperiod.le

/-! ## One adjustment -/

def Missed (desiredPresentTimeNs actualPresentTimeNs : ℤ) : Prop :=
  desiredPresentTimeNs < actualPresentTimeNs ∧ isWithinHalfMs actualPresentTimeNs desiredPresentTimeNs = false

/-- The step that a frame takes that is not missed has room: down to zero if the GPU was done early, up to the maximum
if it was late. -/
def AdjustHasRoom (pc : PacingCompositor) (desiredPresentTimeNs : ℤ) (fb : PresentFeedback) : Prop :=
  ¬ Missed desiredPresentTimeNs fb.actualPresentTimeNs →
    isWithinOfEachOther fb.presentMarginNs pc.marginNs pc.adjustNonMissNs = false →
      (pc.marginNs < fb.presentMarginNs → pc.adjustNonMissNs ≤ pc.compTimeNs) ∧
        (fb.presentMarginNs ≤ pc.marginNs → pc.compTimeNs + pc.adjustNonMissNs ≤ pc.compTimeMaxNs)

theorem adjustCompTime_inBounds_iff (h : TimingOk pc) {f : Frame} {fb : PresentFeedback}
    (hactual : f.actualPresentTimeNs = fb.actualPresentTimeNs) (hmargin : f.presentMarginNs = fb.presentMarginNs) :
    CompTimeInBounds (adjustCompTime pc f) ↔ AdjustHasRoom pc f.desiredPresentTimeNs fb := by
  obtain ⟨⟨hzero, hmax⟩, hmissed, hnonMiss⟩ := h
  unfold adjustCompTime AdjustHasRoom Missed CompTimeInBounds
  rw [hactual, hmargin]
  split_ifs with hmiss hwithin hearly
  · constructor
    · intro _ hnot
      exact absurd hmiss hnot
    · intro _
      dsimp only
      omega
  · constructor
    · intro _ _ hout
      rw [hwithin] at hout
      cases hout
    · exact fun _ => ⟨hzero, hmax⟩
  · constructor
    · intro hin _ _
      have hlow : 0 ≤ pc.compTimeNs - pc.adjustNonMissNs := hin.1
      exact ⟨fun _ => by omega, fun hle => by omega⟩
    · intro hroom
      have hle := (hroom hmiss (Bool.eq_false_iff.2 hwithin)).1 hearly
      dsimp only
      omega
  · constructor
    · intro hin _ _
      exact ⟨fun hlt => absurd hlt hearly, fun _ => hin.2⟩
    · intro hroom
      have hle := (hroom hmiss (Bool.eq_false_iff.2 hwithin)).2 (not_lt.1 hearly)
      dsimp only
      omega

/-! ## Calls -/

structure SameTiming (pc pc' : PacingCompositor) : Prop where
  comp : pc'.compTimeNs = pc.compTimeNs
  max : pc'.compTimeMaxNs = pc.compTimeMaxNs
  missed : pc'.adjustMissedNs = pc.adjustMissedNs
  nonMiss : pc'.adjustNonMissNs = pc.adjustNonMissNs
  margin : pc'.marginNs = pc.marginNs

variable {pc' : PacingCompositor}

theorem SameTiming.inBounds (h : SameTiming pc pc') : CompTimeInBounds pc' ↔ CompTimeInBounds pc := by
  rw [CompTimeInBounds, CompTimeInBounds, h.comp, h.max]

theorem SameTiming.timingOk (h : SameTiming pc pc') (hpc : TimingOk pc) : TimingOk pc' where
  inBounds := h.inBounds.2 hpc.inBounds
  missed := h.missed ▸ hpc.missed
  nonMiss := h.nonMiss ▸ hpc.nonMiss

theorem walkForward_sameTiming {lastPresentTimeNs nowNs : ℤ} {index : Fin NUM_FRAMES}
    (h : walkForwardThroughFrames pc lastPresentTimeNs nowNs = some (index, pc')) : SameTiming pc pc' := by
  obtain ⟨desired, -, h⟩ := Option.bind_eq_some_iff.1 h
  cases h
  exact ⟨rfl, rfl, rfl, rfl, rfl⟩

theorem pcPredict_sameTiming {nowNs : ℤ} {p : PresentPrediction} {asserts : Bool}
    (h : pcPredict pc nowNs = some (p, asserts, pc')) : SameTiming pc pc' := by
  obtain ⟨⟨asserts', index, pc''⟩, hpredict, heq⟩ := Option.map_eq_some_iff.1 h
  cases heq
  obtain ⟨⟨asserts'', index', pc''⟩, hbranch, hlast⟩ := Option.map_eq_some_iff.1 hpredict
  cases hlast
  have hbefore : SameTiming pc pc'' := by
    unfold chooseNextFrame at hbranch
    split at hbranch
    · cases hbranch
      exact ⟨rfl, rfl, rfl, rfl, rfl⟩
    · split at hbranch
      · obtain ⟨⟨index, pc⟩, hwalk, heq⟩ := Option.map_eq_some_iff.1 hbranch
        cases heq
        exact walkForward_sameTiming hwalk
      · obtain ⟨⟨index, pc⟩, hwalk, heq⟩ := Option.map_eq_some_iff.1 hbranch
        cases heq
        exact walkForward_sameTiming hwalk
    · obtain ⟨⟨index, pc⟩, hwalk, heq⟩ := Option.map_eq_some_iff.1 hbranch
      cases heq
      exact walkForward_sameTiming hwalk
    · cases hbranch
  exact ⟨hbefore.comp, hbefore.max, hbefore.missed, hbefore.nonMiss, hbefore.margin⟩

theorem pcMarkPoint_sameTiming (point : UTimingPoint) (frameId whenNs : ℤ) :
    SameTiming pc (pcMarkPoint pc point frameId whenNs).2 := by
  unfold pcMarkPoint
  dsimp only
  split_ifs
  · exact ⟨rfl, rfl, rfl, rfl, rfl⟩
  · cases point <;> exact ⟨rfl, rfl, rfl, rfl, rfl⟩

/-- The feedback is for a frame that the pacer holds, that was submitted and that was to be presented then. -/
structure IsFor (pc : PacingCompositor) (frameId : ℤ) (fb : PresentFeedback) : Prop where
  held : (pc.frames (getFrame frameId)).frameId = frameId
  submitted : (pc.frames (getFrame frameId)).state = .submitted
  desired : (pc.frames (getFrame frameId)).desiredPresentTimeNs = fb.desiredPresentTimeNs ∨
    (pc.frames (getFrame frameId)).desiredPresentTimeNs = fb.desiredPresentTimeNs + PRESENT_SLOP_NS

/-- What is to hold of a call: after it the time is in bounds. -/
def LeavesInBounds (r : PacedCompositor) (c : CompositorPacerCall) : Prop :=
  ∀ r', presentStep r c = some r' → CompTimeInBounds r'.pc

/-- When feedback adjusts the time, the step has room. -/
def HasRoom (r : PacedCompositor) : CompositorPacerCall → Prop
  | .info frameId fb _ =>
    IsFor r.pc frameId fb → AdjustHasRoom r.pc (r.pc.frames (getFrame frameId)).desiredPresentTimeNs fb
  | _ => True

inductive TimingStep (r : PacedCompositor) : CompositorPacerCall → PacingCompositor → Prop
  | keeps {c : CompositorPacerCall} {pc' : PacingCompositor} (same : SameTiming r.pc pc')
    (other : ∀ frameId fb whenNs, c = .info frameId fb whenNs → ¬ IsFor r.pc frameId fb) : TimingStep r c pc'
  | adjusts {frameId whenNs : ℤ} {fb : PresentFeedback} {pc : PacingCompositor} {f : Frame}
      (isFor : IsFor r.pc frameId fb)
    (same : SameTiming r.pc pc)
    (desired : f.desiredPresentTimeNs = (r.pc.frames (getFrame frameId)).desiredPresentTimeNs)
    (actual : f.actualPresentTimeNs = fb.actualPresentTimeNs) (margin : f.presentMarginNs = fb.presentMarginNs) :
    TimingStep r (.info frameId fb whenNs) (adjustCompTime pc f)

variable {c : CompositorPacerCall} {r : PacedCompositor}

theorem presentStep_timing {r r' : PacedCompositor} (hs : presentStep r c = some r') : TimingStep r c r'.pc := by
  cases c with
  | predict nowNs =>
    obtain ⟨⟨p, asserts, pc'⟩, hpredict, hs⟩ := Option.bind_eq_some_iff.1 hs
    rw [(goOn_eq_some hs).2]
    exact .keeps (pcPredict_sameTiming hpredict) fun _ _ _ h => by cases h
  | markPoint point frameId whenNs =>
    rw [(goOn_eq_some hs).2]
    exact .keeps (pcMarkPoint_sameTiming point frameId whenNs) fun _ _ _ h => by cases h
  | info frameId fb whenNs =>
    obtain ⟨hasserts, hpc⟩ := goOn_eq_some hs
    rw [hpc]
    unfold pcInfo at hasserts ⊢
    dsimp only at hasserts ⊢
    split_ifs at hasserts ⊢ with hheld
    · refine .keeps ⟨rfl, rfl, rfl, rfl, rfl⟩ fun frameId' fb' whenNs' h hfor => ?_
      cases h
      exact hheld hfor.held
    · obtain ⟨hsubmitted, hdesired⟩ := of_decide_eq_true hasserts
      exact .adjusts ⟨not_not.1 hheld, hsubmitted, hdesired⟩ ⟨rfl, rfl, rfl, rfl, rfl⟩ rfl rfl rfl
  | updatePresentOffset offsetNs =>
    cases hs
    exact .keeps ⟨rfl, rfl, rfl, rfl, rfl⟩ fun _ _ _ h => by cases h

theorem info_of_isFor {frameId : ℤ} {fb : PresentFeedback} (h : IsFor r.pc frameId fb) (whenNs : ℤ) :
    ∃ r', presentStep r (.info frameId fb whenNs) = some r' := by
  unfold presentStep pcInfo
  simp only [h.held, ne_eq, not_true, if_false, h.submitted, true_and, decide_eq_true h.desired]
  exact ⟨_, rfl⟩

theorem adjustHasRoom_congr (h : SameTiming pc pc') (desiredPresentTimeNs : ℤ) (fb : PresentFeedback) :
    AdjustHasRoom pc' desiredPresentTimeNs fb ↔ AdjustHasRoom pc desiredPresentTimeNs fb := by
  rw [AdjustHasRoom, AdjustHasRoom, h.margin, h.nonMiss, h.comp, h.max]

theorem TimingStep.inBounds_iff (hr : TimingOk r.pc) (h : TimingStep r c pc') : CompTimeInBounds pc' ↔ HasRoom r c := by
  cases h with
  | keeps same other =>
    constructor
    · intro _
      cases c with
      | info frameId fb whenNs => exact fun hfor => absurd hfor (other frameId fb whenNs rfl)
      | _ => trivial
    · exact fun _ => same.inBounds.2 hr.inBounds
  | adjusts isFor same desired actual margin =>
    rw [adjustCompTime_inBounds_iff (same.timingOk hr) actual margin, adjustHasRoom_congr same, desired]
    exact ⟨fun h _ => h, fun h => h isFor⟩

theorem leavesInBounds_iff (hr : TimingOk r.pc) (c : CompositorPacerCall) : LeavesInBounds r c ↔ HasRoom r c := by
  constructor
  · intro h
    cases c with
    | info frameId fb whenNs =>
      intro hfor
      obtain ⟨r', hs⟩ := info_of_isFor hfor whenNs
      exact ((presentStep_timing hs).inBounds_iff hr).1 (h r' hs) hfor
    | _ => trivial
  · exact fun h r' hs => ((presentStep_timing hs).inBounds_iff hr).2 h

theorem adjustCompTime_params (pc : PacingCompositor) (f : Frame) :
    (adjustCompTime pc f).adjustMissedNs = pc.adjustMissedNs ∧
      (adjustCompTime pc f).adjustNonMissNs = pc.adjustNonMissNs := by
  unfold adjustCompTime
  split_ifs <;> exact ⟨rfl, rfl⟩

theorem presentStep_timingOk {r r' : PacedCompositor} (hr : TimingOk r.pc) (hroom : HasRoom r c)
    (hs : presentStep r c = some r') : TimingOk r'.pc := by
  have hstep := presentStep_timing hs
  have hin := (hstep.inBounds_iff hr).2 hroom
  generalize r'.pc = pc' at hstep hin
  cases hstep with
  | keeps same other => exact same.timingOk hr
  | @adjusts _ _ _ pc f isFor same desired actual margin =>
    obtain ⟨hmissed, hnonMiss⟩ := adjustCompTime_params pc f
    have hpc := same.timingOk hr
    exact ⟨hin, hmissed ▸ hpc.missed, hnonMiss ▸ hpc.nonMiss⟩

/-! ## Runs -/

/-- Along every sequence of calls with any feedback, every call leaves the time in bounds exactly when the steps have
room. -/
theorem compTime_inBounds_iff {getPercentOfTime : ℤ → ℕ → ℤ} (hlaws : PercentLaws getPercentOfTime) {periodNs : ℤ}
    (hperiod : 0 < periodNs) {config : DisplayTimingConfig}
    (hfraction : config.compTimeFraction ≤ config.compTimeMaxFraction) (calls : List CompositorPacerCall) :
    Along presentStep LeavesInBounds ⟨uPcDisplayTimingCreate getPercentOfTime periodNs hperiod config, none⟩ calls ↔
      Along presentStep HasRoom ⟨uPcDisplayTimingCreate getPercentOfTime periodNs hperiod config, none⟩ calls :=
  along_iff (I := fun r => TimingOk r.pc) (fun _ c hr => leavesInBounds_iff hr c)
    (fun _ _ _ hr hroom hs => presentStep_timingOk hr hroom hs) (create_timingOk hlaws hperiod hfraction) calls

theorem percentLaws_exact : PercentLaws fun timeNs percent => timeNs * percent / 100 where
  nonneg timeNs percent h := Int.ediv_nonneg (Int.mul_nonneg h (Int.natCast_nonneg percent)) (by decide)
  mono timeNs p q h hle := Int.ediv_le_ediv (by decide) (Int.mul_le_mul_of_nonneg_left (Int.ofNat_le.2 hle) h)

/-- A frame that is predicted, rendered and presented when it was to be, with the GPU done ten milliseconds early. -/
def earlyFrame (frameId presentNs : ℤ) : List CompositorPacerCall :=
  [.predict 0, .markPoint .wakeUp frameId 0, .markPoint .begin frameId 0, .markPoint .submitEnd frameId 0,
    .info frameId ⟨presentNs, presentNs, presentNs, 10 * U_TIME_1MS_IN_NS⟩ 0]

theorem earlyFrame_inBounds_iff :
    Along presentStep LeavesInBounds ⟨atSixteenMs, none⟩ (earlyFrame 1 160000000) ↔
      Along presentStep HasRoom ⟨atSixteenMs, none⟩ (earlyFrame 1 160000000) :=
  compTime_inBounds_iff percentLaws_exact (by decide) (by decide) (earlyFrame 1 160000000)

def sixEarlyFrames : List CompositorPacerCall :=
  earlyFrame 1 160000000 ++ earlyFrame 2 160000000 ++ earlyFrame 3 176000000 ++ earlyFrame 4 176000000 ++
    earlyFrame 5 192000000 ++ earlyFrame 6 192000000

/-- Six frames whose GPU work is done early bring the time below zero. -/
theorem sixEarlyFrames_below : ¬ Along presentStep LeavesInBounds ⟨atSixteenMs, none⟩ sixEarlyFrames := by
  intro hall
  have hlast : (sixEarlyFrames.foldlM presentStep ⟨atSixteenMs, none⟩).map (fun r => r.pc.compTimeNs) =
      some (-320000) := by
    decide +kernel
  obtain ⟨r, hr, hcomp⟩ := Option.map_eq_some_iff.1 hlast
  have hin : CompTimeInBounds r.pc :=
    inv_of_along (I := fun r => CompTimeInBounds r.pc) (fun _ _ t _ hleaves hs => hleaves t hs)
      ⟨by decide, by decide⟩ hall
      (reaches_iff_foldlM.2 hr)
  have hzero := hin.1
  omega

end AugmentedInsanity.Pacing
