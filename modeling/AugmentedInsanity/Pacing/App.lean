/-
The app pacer (`u_pacing_app.c`): it predicts when a frame of a client is displayed and when the client has to wake
up for it, and follows the frame until its GPU work is done. Times are integers that stay in range. A function also
says whether its assertions hold; what it gives after one that does not is what a build without them does.
-/
import AugmentedInsanity.Lib.CatchUp

namespace AugmentedInsanity.Pacing

open CatchUp

abbrev U_TIME_1MS_IN_NS : ℤ := 1000 * 1000
abbrev U_TIME_HALF_MS_IN_NS : ℤ := U_TIME_1MS_IN_NS / 2

abbrev FRAME_COUNT : ℕ := 128
abbrev IMMEDIATE_WAIT_FRAME_RETURN_MARGIN_NS : ℤ := U_TIME_HALF_MS_IN_NS

/-! ## Frames -/

inductive UPaState
  | ready
  | waitLeft
  | predicted
  | begun
  | delivered
  | gpuDone
  deriving DecidableEq

/-- `struct u_pa_frame`; the `when` fields are those of the inner struct. -/
structure UPaFrame where
  frameId : ℤ
  predictedFrameTimeNs : ℤ
  predictedWakeUpTimeNs : ℤ
  predictedGpuDoneTimeNs : ℤ
  predictedDisplayTimeNs : ℤ
  predictedDisplayPeriodNs : ℤ
  displayTimeNs : ℤ
  whenPredictedNs : ℤ
  whenWaitWokeNs : ℤ
  whenBeginNs : ℤ
  whenDeliveredNs : ℤ
  whenGpuDoneNs : ℤ
  state : UPaState
  deriving DecidableEq

def UPaFrame.reset : UPaFrame := ⟨-1, 0, 0, 0, 0, 0, 0, 0, 0, 0, 0, 0, .ready⟩

inductive UTimingPoint
  | wakeUp
  | begin
  | submitBegin
  | submitEnd
  deriving DecidableEq

/-! ## The pacer -/

/-- The options of the process, with the two times of the pacer that are given in milliseconds. `iirFilter` is
`do_iir_filter`, which computes with doubles, of the old value and the sample. -/
structure PacingOptions where
  minAppTimeNs : ℤ
  marginTimeNs : ℤ
  useMinFramePeriod : Bool
  immediateWaitFrameReturn : Bool
  immediateWaitFrameReturnBelowRefresh : Bool
  alignPredictedDisplayTimeToAppPeriod : Bool
  iirFilter : ℤ → ℤ → ℤ

structure PacingApp where
  frames : Fin FRAME_COUNT → UPaFrame
  frameCounter : ℤ
  cpuTimeNs : ℤ
  drawTimeNs : ℤ
  gpuTimeNs : ℤ
  predictedDisplayTimeNs : ℤ
  predictedDisplayPeriodNs : ℤ
  extraNs : ℤ
  lastReturnedNs : ℤ

def paCreate : PacingApp where
  frames := fun _ => .reset
  frameCounter := 0
  cpuTimeNs := U_TIME_1MS_IN_NS * 2
  drawTimeNs := U_TIME_1MS_IN_NS * 2
  gpuTimeNs := 0
  predictedDisplayTimeNs := 0
  predictedDisplayPeriodNs := 0
  extraNs := 0
  lastReturnedNs := 0

/-- `GET_INDEX_FROM_ID`, with the remainder of C; a negative one is no index. -/
def getIndexFromId (frameId : ℤ) : Option (Fin FRAME_COUNT) :=
  if h : 0 ≤ frameId.tmod FRAME_COUNT ∧ (frameId.tmod FRAME_COUNT).toNat < FRAME_COUNT then
    some ⟨(frameId.tmod FRAME_COUNT).toNat, h.2⟩
  else none

def PacingApp.setFrame (pa : PacingApp) (index : Fin FRAME_COUNT) (f : UPaFrame) : PacingApp :=
  { pa with frames := Function.update pa.frames index f }

/-! ## Helpers -/

variable (o : PacingOptions)

def totalAppTimeNs (pa : PacingApp) : ℤ :=
  let totalNs := pa.cpuTimeNs + pa.drawTimeNs + pa.gpuTimeNs
  if totalNs < o.minAppTimeNs then o.minAppTimeNs else totalNs

def totalCompositorTimeNs (pa : PacingApp) : ℤ := o.marginTimeNs + pa.extraNs

def totalAppAndCompositorTimeNs (pa : PacingApp) : ℤ := totalAppTimeNs o pa + totalCompositorTimeNs o pa

/-- `calc_app_period`; each of its loops raises the period while it is below a time of the app. -/
def calcAppPeriod (pa : PacingApp) (displayPeriodNs : ℤ) : Option ℤ := do
  if o.useMinFramePeriod then return displayPeriodNs
  let appPeriodNs ← advance displayPeriodNs (pa.cpuTimeNs - 1) displayPeriodNs
  let appPeriodNs ← advance displayPeriodNs (pa.drawTimeNs - 1) appPeriodNs
  advance displayPeriodNs (pa.gpuTimeNs - 1) appPeriodNs

def predictDisplayTime (pa : PacingApp) (nowNs displayPeriodNs appPeriodNs : ℤ) : Option ℤ := do
  let val ← advance appPeriodNs (pa.lastReturnedNs + appPeriodNs.tdiv 2) pa.predictedDisplayTimeNs
  let periodNs := if o.alignPredictedDisplayTimeToAppPeriod then appPeriodNs else displayPeriodNs
  advance periodNs (nowNs + totalAppAndCompositorTimeNs o pa) val

def shouldReturnImmediately (frameTimeNs displayPeriodNs : ℤ) : Bool :=
  o.immediateWaitFrameReturn ||
    (o.immediateWaitFrameReturnBelowRefresh &&
      decide (displayPeriodNs < frameTimeNs + IMMEDIATE_WAIT_FRAME_RETURN_MARGIN_NS))

/-! ## Member functions

A function gives `none` where a loop does not end, or an index is outside the frames. -/

/-- What `pa_predict` returns. -/
structure Prediction where
  frameId : ℤ
  wakeUpTimeNs : ℤ
  predictedDisplayTimeNs : ℤ
  predictedDisplayPeriodNs : ℤ
  deriving DecidableEq

/-- The display period that `pa_predict` goes by. -/
def PacingApp.displayPeriod (pa : PacingApp) : ℤ :=
  if pa.predictedDisplayPeriodNs = 0 then U_TIME_1MS_IN_NS * 16 else pa.predictedDisplayPeriodNs

/-- The times of `pa_predict`, before it looks for a frame. -/
def predictTimes (pa : PacingApp) (nowNs : ℤ) : Option Prediction := do
  let frameId := pa.frameCounter + 1
  let displayPeriodNs := pa.displayPeriod
  let appPeriodNs ← calcAppPeriod o pa displayPeriodNs
  let predictNs ← predictDisplayTime o pa nowNs displayPeriodNs appPeriodNs
  let wakeUpTimeNs :=
    if shouldReturnImmediately o (totalAppTimeNs o pa) displayPeriodNs then nowNs
    else predictNs - totalAppAndCompositorTimeNs o pa
  return ⟨frameId, wakeUpTimeNs, predictNs, appPeriodNs⟩

def paPredict (pa : PacingApp) (nowNs : ℤ) : Option (Prediction × Bool × PacingApp) := do
  let p ← predictTimes o pa nowNs
  let index ← getIndexFromId p.frameId
  let f := pa.frames index
  let asserts := decide (pa.predictedDisplayPeriodNs ≠ 0 ∧ f.frameId = -1 ∧ f.state = .ready)
  let f' := { f with
    state := .predicted
    frameId := p.frameId
    predictedFrameTimeNs := totalAppTimeNs o pa
    predictedWakeUpTimeNs := p.wakeUpTimeNs
    predictedGpuDoneTimeNs := p.wakeUpTimeNs + totalAppTimeNs o pa
    predictedDisplayTimeNs := p.predictedDisplayTimeNs
    predictedDisplayPeriodNs := p.predictedDisplayPeriodNs
    whenPredictedNs := nowNs }
  return (p, asserts,
    { pa.setFrame index f' with frameCounter := p.frameId, lastReturnedNs := p.predictedDisplayTimeNs })

def paMarkPoint (pa : PacingApp) (frameId : ℤ) (point : UTimingPoint) (whenNs : ℤ) : Option (Bool × PacingApp) :=
  (getIndexFromId frameId).map fun index =>
    let f := pa.frames index
    match point with
    | .wakeUp =>
      (decide (f.frameId = frameId ∧ f.state = .predicted),
        pa.setFrame index { f with whenWaitWokeNs := whenNs, state := .waitLeft })
    | .begin =>
      (decide (f.frameId = frameId ∧ f.state = .waitLeft),
        pa.setFrame index { f with whenBeginNs := whenNs, state := .begun })
    | _ => (false, pa)

def paMarkDiscarded (pa : PacingApp) (frameId : ℤ) : Option (Bool × PacingApp) :=
  (getIndexFromId frameId).map fun index =>
    let f := pa.frames index
    (decide (f.frameId = frameId ∧ (f.state = .waitLeft ∨ f.state = .begun)), pa.setFrame index .reset)

def paMarkDelivered (pa : PacingApp) (frameId whenNs displayTimeNs : ℤ) : Option (Bool × PacingApp) :=
  (getIndexFromId frameId).map fun index =>
    let f := pa.frames index
    (decide (f.frameId = frameId ∧ f.state = .begun),
      pa.setFrame index { f with whenDeliveredNs := whenNs, displayTimeNs := displayTimeNs, state := .delivered })

def paMarkGpuDone (pa : PacingApp) (frameId whenNs : ℤ) : Option (Bool × PacingApp) :=
  (getIndexFromId frameId).map fun index =>
    let f := pa.frames index
    let diffCpuNs := f.whenBeginNs - f.whenWaitWokeNs
    let diffDrawNs := f.whenDeliveredNs - f.whenBeginNs
    let diffGpuNs := whenNs - f.whenDeliveredNs
    (decide (f.frameId = frameId ∧ f.state = .delivered),
      { pa.setFrame index .reset with
        cpuTimeNs := o.iirFilter pa.cpuTimeNs diffCpuNs
        drawTimeNs := o.iirFilter pa.drawTimeNs diffDrawNs
        gpuTimeNs := o.iirFilter pa.gpuTimeNs diffGpuNs })

def paInfo (pa : PacingApp) (predictedDisplayTimeNs predictedDisplayPeriodNs extraNs : ℤ) : PacingApp :=
  { pa with
    predictedDisplayTimeNs := predictedDisplayTimeNs
    predictedDisplayPeriodNs := predictedDisplayPeriodNs
    extraNs := extraNs }

inductive PacerCall
  | predict (nowNs : ℤ)
  | markPoint (frameId : ℤ) (point : UTimingPoint) (whenNs : ℤ)
  | markDiscarded (frameId : ℤ)
  | markDelivered (frameId whenNs displayTimeNs : ℤ)
  | markGpuDone (frameId whenNs : ℤ)
  | info (predictedDisplayTimeNs predictedDisplayPeriodNs extraNs : ℤ)
  deriving DecidableEq

/-- Whether the assertions of the call hold, and the pacer after it. -/
def PacingApp.call (pa : PacingApp) : PacerCall → Option (Bool × PacingApp)
  | .predict nowNs => (paPredict o pa nowNs).map Prod.snd
  | .markPoint frameId point whenNs => paMarkPoint pa frameId point whenNs
  | .markDiscarded frameId => paMarkDiscarded pa frameId
  | .markDelivered frameId whenNs displayTimeNs => paMarkDelivered pa frameId whenNs displayTimeNs
  | .markGpuDone frameId whenNs => paMarkGpuDone o pa frameId whenNs
  | .info predictedDisplayTimeNs predictedDisplayPeriodNs extraNs =>
    some (true, paInfo pa predictedDisplayTimeNs predictedDisplayPeriodNs extraNs)

end AugmentedInsanity.Pacing
