/-
The display-timing pacer of the compositor (`u_pacing_compositor.c`): it predicts when the next frame of the system
compositor is to be presented, from the frames before it and from the present times it is told of them. Times are
integers that stay in range. A function also says whether its assertions hold.
-/
import AugmentedInsanity.Pacing.App

namespace AugmentedInsanity.Pacing

open CatchUp

abbrev NUM_FRAMES : ℕ := 16
abbrev PRESENT_SLOP_NS : ℤ := U_TIME_HALF_MS_IN_NS

/-! ## Frames -/

inductive FrameState
  | skipped
  | cleared
  | predicted
  | woke
  | began
  | submitted
  | info
  deriving DecidableEq

/-- The number of the state, which the pacer compares. -/
def FrameState.value : FrameState → ℤ
  | .skipped => -1
  | .cleared => 0
  | .predicted => 1
  | .woke => 2
  | .began => 3
  | .submitted => 4
  | .info => 5

/-- `struct frame`, without the time that nothing sets. -/
structure Frame where
  frameId : ℤ
  whenPredictNs : ℤ
  wakeUpTimeNs : ℤ
  whenWokeNs : ℤ
  whenBeganNs : ℤ
  whenSubmittedNs : ℤ
  whenInfoedNs : ℤ
  currentCompTimeNs : ℤ
  desiredPresentTimeNs : ℤ
  predictedDisplayTimeNs : ℤ
  presentMarginNs : ℤ
  actualPresentTimeNs : ℤ
  earliestPresentTimeNs : ℤ
  state : FrameState
  deriving DecidableEq

def Frame.zero : Frame := ⟨0, 0, 0, 0, 0, 0, 0, 0, 0, 0, 0, 0, 0, .cleared⟩

/-! ## The pacer -/

/-- `struct pacing_compositor`; a display has a period. -/
structure PacingCompositor where
  presentToDisplayOffsetNs : ℤ
  framePeriodNs : ℤ
  compTimeNs : ℤ
  nextFrameId : ℤ
  compTimeMaxNs : ℤ
  adjustMissedNs : ℤ
  adjustNonMissNs : ℤ
  marginNs : ℤ
  frames : Fin NUM_FRAMES → Frame
  period_pos : 0 < framePeriodNs

structure DisplayTimingConfig where
  presentToDisplayOffsetNs : ℤ
  marginNs : ℤ
  compTimeFraction : ℕ
  compTimeMaxFraction : ℕ
  adjustMissedFraction : ℕ
  adjustNonMissFraction : ℕ
  deriving DecidableEq

def U_PC_DISPLAY_TIMING_CONFIG_DEFAULT : DisplayTimingConfig where
  presentToDisplayOffsetNs := U_TIME_1MS_IN_NS * 4
  marginNs := U_TIME_1MS_IN_NS
  compTimeFraction := 10
  compTimeMaxFraction := 30
  adjustMissedFraction := 4
  adjustNonMissFraction := 2

/-- `u_pc_display_timing_create`. `getPercentOfTime` is `get_percent_of_time`, which computes with doubles. -/
def uPcDisplayTimingCreate (getPercentOfTime : ℤ → ℕ → ℤ) (estimatedFramePeriodNs : ℤ)
    (period_pos : 0 < estimatedFramePeriodNs) (config : DisplayTimingConfig) : PacingCompositor where
  presentToDisplayOffsetNs := config.presentToDisplayOffsetNs
  framePeriodNs := estimatedFramePeriodNs
  compTimeNs := getPercentOfTime estimatedFramePeriodNs config.compTimeFraction
  nextFrameId := 0
  compTimeMaxNs := getPercentOfTime estimatedFramePeriodNs config.compTimeMaxFraction
  adjustMissedNs := getPercentOfTime estimatedFramePeriodNs config.adjustMissedFraction
  adjustNonMissNs := getPercentOfTime estimatedFramePeriodNs config.adjustNonMissFraction
  marginNs := config.marginNs
  frames := fun _ => .zero
  period_pos := period_pos

/-! ## Helpers -/

variable (pc : PacingCompositor)

def calcTotalCompTime : ℤ := pc.compTimeNs + pc.marginNs

def calcDisplayTimeFromPresentTime (desiredPresentTimeNs : ℤ) : ℤ :=
  desiredPresentTimeNs + pc.presentToDisplayOffsetNs

def isWithinOfEachOther (l r range : ℤ) : Bool := decide (-range < l - r ∧ l - r < range)

def isWithinHalfMs (l r : ℤ) : Bool := isWithinOfEachOther l r U_TIME_HALF_MS_IN_NS

/-- The slot to which `get_frame` points, for an id that is not negative. -/
def getFrame (frameId : ℤ) : Fin NUM_FRAMES := Fin.ofNat NUM_FRAMES frameId.toNat

def PacingCompositor.putFrame (index : Fin NUM_FRAMES) (f : Frame) : PacingCompositor :=
  { pc with frames := Function.update pc.frames index f }

/-- `create_frame`: the slot of the next id, whose other fields keep what they had. -/
def createFrame (state : FrameState) : Fin NUM_FRAMES × PacingCompositor :=
  let frameId := pc.nextFrameId + 1
  let index := getFrame frameId
  (index, { pc.putFrame index { pc.frames index with frameId := frameId, state := state } with nextFrameId := frameId })

/-- The loop of `get_latest_frame_with_state_at_least`, with the number of rounds that it has left at most. -/
def latestFrame (state : FrameState) : ℕ → Option (Fin NUM_FRAMES)
  | 0 => none
  | rounds + 1 =>
    let count : ℤ := NUM_FRAMES - (rounds + 1)
    if count ≤ pc.nextFrameId then
      let frameId := pc.nextFrameId - count
      let f := pc.frames (getFrame frameId)
      if state.value ≤ f.state.value ∧ f.frameId = frameId then some (getFrame frameId) else latestFrame state rounds
    else none

/-- The loop starts one frame before the newest one. -/
def getLatestFrameWithStateAtLeast (state : FrameState) : Option (Fin NUM_FRAMES) :=
  latestFrame pc state (NUM_FRAMES - 1)

def doCleanSlateFrame (nowNs : ℤ) : Fin NUM_FRAMES × PacingCompositor :=
  let (index, pc) := createFrame pc .predicted
  let theTimeNs := nowNs + pc.framePeriodNs * 10
  (index, pc.putFrame index { pc.frames index with whenPredictNs := nowNs, desiredPresentTimeNs := theTimeNs })

/-- `walk_forward_through_frames`, unless its loop goes on forever. -/
def walkForwardThroughFrames (lastPresentTimeNs nowNs : ℤ) : Option (Fin NUM_FRAMES × PacingCompositor) := do
  let fromTimeNs := nowNs + calcTotalCompTime pc
  let desiredPresentTimeNs ← advance pc.framePeriodNs fromTimeNs (lastPresentTimeNs + pc.framePeriodNs)
  let (index, pc) := createFrame pc .predicted
  return (index,
    pc.putFrame index { pc.frames index with whenPredictNs := nowNs, desiredPresentTimeNs := desiredPresentTimeNs })

/-- The predictor that `predict_next_frame` chooses: whether its assertions hold, the slot of the frame, and the
pacer. -/
def chooseNextFrame (nowNs : ℤ) : Option (Bool × Fin NUM_FRAMES × PacingCompositor) :=
  match getLatestFrameWithStateAtLeast pc .predicted, getLatestFrameWithStateAtLeast pc .info with
  | none, none => some (true, doCleanSlateFrame pc nowNs)
  | some predicted, some completed =>
    let lastPredicted := pc.frames predicted
    let lastCompleted := pc.frames completed
    if completed = predicted then
      (walkForwardThroughFrames pc lastCompleted.earliestPresentTimeNs nowNs).map (true, ·)
    else
      let diffId := lastPredicted.frameId - lastCompleted.frameId
      let adjustedLastPresentTimeNs := lastCompleted.earliestPresentTimeNs + diffId * pc.framePeriodNs
      (walkForwardThroughFrames pc adjustedLastPresentTimeNs nowNs).map
        (decide (lastCompleted.frameId < lastPredicted.frameId), ·)
  | some predicted, none =>
    (walkForwardThroughFrames pc (pc.frames predicted).predictedDisplayTimeNs nowNs).map (true, ·)
  -- the assertion that a frame was predicted fails, and the null pointer is read
  | none, some _ => none

def predictNextFrame (nowNs : ℤ) : Option (Bool × Fin NUM_FRAMES × PacingCompositor) :=
  (chooseNextFrame pc nowNs).map fun (asserts, index, pc) =>
    let f := pc.frames index
    (asserts, index, pc.putFrame index { f with
      predictedDisplayTimeNs := calcDisplayTimeFromPresentTime pc f.desiredPresentTimeNs
      wakeUpTimeNs := f.desiredPresentTimeNs - calcTotalCompTime pc
      currentCompTimeNs := pc.compTimeNs })

def adjustCompTime (f : Frame) : PacingCompositor :=
  if f.desiredPresentTimeNs < f.actualPresentTimeNs ∧
      isWithinHalfMs f.actualPresentTimeNs f.desiredPresentTimeNs = false then
    { pc with compTimeNs := min (pc.compTimeNs + pc.adjustMissedNs) pc.compTimeMaxNs }
  else if isWithinOfEachOther f.presentMarginNs pc.marginNs pc.adjustNonMissNs then pc
  else if pc.marginNs < f.presentMarginNs then
    -- approach the present time
    { pc with compTimeNs := pc.compTimeNs - pc.adjustNonMissNs }
  else
    -- back off the present time
    { pc with compTimeNs := pc.compTimeNs + pc.adjustNonMissNs }

/-! ## Member functions -/

/-- What `pc_predict` returns. -/
structure PresentPrediction where
  frameId : ℤ
  wakeUpTimeNs : ℤ
  desiredPresentTimeNs : ℤ
  presentSlopNs : ℤ
  predictedDisplayTimeNs : ℤ
  predictedDisplayPeriodNs : ℤ
  minDisplayPeriodNs : ℤ
  deriving DecidableEq

def pcPredict (nowNs : ℤ) : Option (PresentPrediction × Bool × PacingCompositor) :=
  (predictNextFrame pc nowNs).map fun (asserts, index, pc) =>
    let f := pc.frames index
    (⟨f.frameId, f.wakeUpTimeNs, f.desiredPresentTimeNs, PRESENT_SLOP_NS, f.predictedDisplayTimeNs, pc.framePeriodNs,
      pc.framePeriodNs⟩, asserts, pc)

/-- A point of a frame that the pacer no longer has is discarded. -/
def pcMarkPoint (point : UTimingPoint) (frameId whenNs : ℤ) : Bool × PacingCompositor :=
  let index := getFrame frameId
  let f := pc.frames index
  if f.frameId ≠ frameId then (decide (0 ≤ frameId), pc)
  else
    match point with
    | .wakeUp => (decide (f.state = .predicted), pc.putFrame index { f with state := .woke, whenWokeNs := whenNs })
    | .begin => (decide (f.state = .woke), pc.putFrame index { f with state := .began, whenBeganNs := whenNs })
    | .submitBegin => (true, pc)
    | .submitEnd =>
      (decide (f.state = .began), pc.putFrame index { f with state := .submitted, whenSubmittedNs := whenNs })

/-- What the display says about a frame that it has presented. -/
structure PresentFeedback where
  desiredPresentTimeNs : ℤ
  actualPresentTimeNs : ℤ
  earliestPresentTimeNs : ℤ
  presentMarginNs : ℤ
  deriving DecidableEq

def pcInfo (frameId : ℤ) (fb : PresentFeedback) (whenNs : ℤ) : Bool × PacingCompositor :=
  let index := getFrame frameId
  let f := pc.frames index
  if f.frameId ≠ frameId then (decide (0 ≤ frameId), pc)
  else
    let unsloppedDesiredPresentTimeNs := fb.desiredPresentTimeNs + PRESENT_SLOP_NS
    let f' := { f with
      whenInfoedNs := whenNs
      actualPresentTimeNs := fb.actualPresentTimeNs
      earliestPresentTimeNs := fb.earliestPresentTimeNs
      presentMarginNs := fb.presentMarginNs
      state := .info }
    (decide (f.state = .submitted ∧
        (f.desiredPresentTimeNs = fb.desiredPresentTimeNs ∨ f.desiredPresentTimeNs = unsloppedDesiredPresentTimeNs)),
      adjustCompTime (pc.putFrame index f') f')

def pcUpdatePresentOffset (presentToDisplayOffsetNs : ℤ) : PacingCompositor :=
  { pc with presentToDisplayOffsetNs := presentToDisplayOffsetNs }

inductive CompositorPacerCall
  | predict (nowNs : ℤ)
  | markPoint (point : UTimingPoint) (frameId whenNs : ℤ)
  | info (frameId : ℤ) (feedback : PresentFeedback) (whenNs : ℤ)
  | updatePresentOffset (presentToDisplayOffsetNs : ℤ)
  deriving DecidableEq

end AugmentedInsanity.Pacing
