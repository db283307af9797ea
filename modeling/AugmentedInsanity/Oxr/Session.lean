/-
Sessions (`oxr_session.c`, `oxr_session_frame_end.c`, `oxr_frame_sync.c`): the calls of an application, with what
the compositor answers, and the events that it sends. A session knows its state, and counts and numbers the frames that
it is asked for; what has been told to the application and to the compositor is kept in order to speak of it.
-/
import AugmentedInsanity.Oxr.FrameEnd

namespace AugmentedInsanity.Oxr

open Xrt Checks

/-! ## States -/

inductive XrSessionState
  | unknown
  | idle
  | ready
  | synchronized
  | visible
  | focused
  | stopping
  | lossPending
  | exiting
  deriving DecidableEq

def XrSessionState.value (state : XrSessionState) : ℕ := state.ctorIdx

/-- The results of `XrResult` that are successes. -/
inductive XrSuccess
  | success
  | sessionLossPending
  | sessionNotFocused
  | frameDiscarded
  deriving DecidableEq

/-- `struct oxr_frame_sync`; `canWaitFrameReturn` is 0 or 1. -/
structure OxrFrameSync where
  canWaitFrameReturn : Bool
  running : Bool
  deriving DecidableEq

/-- A change of the state that the application gets to know of, and whether the session was running then. -/
structure StateChange where
  state : XrSessionState
  running : Bool
  deriving DecidableEq

inductive FrameStep
  | beginFrame
  | discard
  | submit
  deriving DecidableEq

/-- What the compositor has been told, and whether it did it. -/
structure Told where
  step : FrameStep
  id : ℤ
  accepted : Bool
  deriving DecidableEq

/-- `struct oxr_session`: first what does not change, that is whether it has a compositor, a quirk of the instance and
the system that it is built for. The last two fields are no part of it, and have the newest first. -/
structure OxrSession where
  headless : Bool
  skipEndSession : Bool
  android : Bool
  state : XrSessionState
  hasLost : Bool
  exiting : Bool
  hasEndedOnce : Bool
  compositorVisible : Bool
  compositorFocused : Bool
  frameSync : OxrFrameSync
  activeWaitFrames : ℤ
  frameIdWaited : ℤ
  frameIdBegun : ℤ
  frameStarted : Bool
  changes : List StateChange
  told : List Told

abbrev SessionResult := OxrSession × Except XrError XrSuccess

/-! ## Frame synchronization -/

namespace OxrFrameSync

/-- `oxr_frame_sync_wait_frame`, and whether the session is running; none while it blocks. -/
def waitFrame (ofs : OxrFrameSync) : Option (OxrFrameSync × Bool) :=
  if ofs.running then
    if ofs.canWaitFrameReturn then some ({ ofs with canWaitFrameReturn := false }, true) else none
  else some (ofs, false)

/-- `oxr_frame_sync_release`; none is an error. -/
def release (ofs : OxrFrameSync) : Option OxrFrameSync :=
  if ofs.running && !ofs.canWaitFrameReturn then some { ofs with canWaitFrameReturn := true } else none

def beginSession (ofs : OxrFrameSync) : Option OxrFrameSync := if !ofs.running then some ⟨true, true⟩ else none

def endSession (ofs : OxrFrameSync) : Option OxrFrameSync :=
  if ofs.running then some { ofs with running := false } else none

end OxrFrameSync

namespace OxrSession

/-! ## Parts of the calls -/

def changeState (s : OxrSession) (state : XrSessionState) : OxrSession :=
  if s.state = state then s
  else { s with state := state, changes := ⟨state, s.frameSync.running⟩ :: s.changes }

/-- The session is synchronized, and held to have ended a frame. -/
def synchronizeOnce (s : OxrSession) : OxrSession := { s.changeState .synchronized with hasEndedOnce := true }

def successResult (s : OxrSession) : XrSuccess :=
  match s.state with
  | .lossPending => .sessionLossPending
  | _ => .success

/-- `OXR_CHECK_XRET`, of a result that is not a success. -/
def fail (s : OxrSession) (xret : XrtResult) : SessionResult :=
  ({ s with hasLost := s.hasLost || xret == .errorIpcFailure }, .error (xretError xret))

def tell (s : OxrSession) (step : FrameStep) (id : ℤ) (xret : XrtResult) : OxrSession :=
  { s with told := ⟨step, id, xret == .success⟩ :: s.told }

/-! ## Beginning and ending a session -/

/-- The end of `oxr_session_begin`. -/
def startFrameSync (s : OxrSession) : SessionResult :=
  match s.frameSync.beginSession with
  | none => (s, .error .sessionNotRunning)
  | some ofs => ({ s with frameSync := ofs }, .ok s.successResult)

/-- `oxr_session_begin`; the presence is a success where it is not asked for. -/
def sessionBegin (s : OxrSession) (xret presence : XrtResult) : SessionResult :=
  if s.state ≠ .ready then (s, .error .sessionNotReady)
  else if s.headless then
    let s := { s with compositorVisible := true, compositorFocused := true }
    let s := s.changeState .synchronized
    let s := s.changeState .visible
    let s := s.changeState .focused
    s.startFrameSync
  else if xret ≠ .success then s.fail xret
  else if presence ≠ .success then s.fail presence
  else s.startFrameSync

/-- The frames that there are when a session ends are discarded; what the compositor answers is not looked at. -/
def discardFrames (s : OxrSession) (discardWaited discardBegun : XrtResult) : OxrSession :=
  let s := if s.frameIdWaited > 0 then { s.tell .discard s.frameIdWaited discardWaited with frameIdWaited := -1 } else s
  let s := if s.frameIdBegun > 0 then { s.tell .discard s.frameIdBegun discardBegun with frameIdBegun := -1 } else s
  { s with frameStarted := false }

/-- The end of `oxr_session_end`. -/
def stopFrameSync (s : OxrSession) : SessionResult :=
  let s := s.changeState .idle
  let s := if s.exiting then s.changeState .exiting else if s.android then s else s.changeState .ready
  match s.frameSync.endSession with
  | none => (s, .error .sessionNotRunning)
  | some ofs => ({ s with frameSync := ofs, hasEndedOnce := false }, .ok s.successResult)

def sessionEnd (s : OxrSession) (discardWaited discardBegun xret : XrtResult) : SessionResult :=
  if s.skipEndSession then (s, .ok .success)
  else if !s.frameSync.running then (s, .error .sessionNotRunning)
  else if s.state ≠ .stopping then (s, .error .sessionNotStopping)
  else if s.headless then { s with compositorVisible := false, compositorFocused := false }.stopFrameSync
  else
    let s := s.discardFrames discardWaited discardBegun
    if xret ≠ .success then s.fail xret else s.stopFrameSync

/-- `oxr_session_request_exit`, which always succeeds. -/
def requestExit (s : OxrSession) : OxrSession :=
  let s := if s.state = .focused then s.changeState .visible else s
  let s := if s.state = .visible then s.changeState .synchronized else s
  let s := if s.hasEndedOnce = false ∧ s.state ≠ .synchronized then s.synchronizeOnce else s
  { s.changeState .stopping with exiting := true }

/-! ## Events -/

/-- `union xrt_session_event`; the others do not change a session. -/
inductive SessionEvent
  | stateChange (visible focused : Bool)
  | lossPending
  | lost
  | requestExit
  | other
  deriving DecidableEq

/-- The last event in the life of an Android activity, when there is one that matters. -/
inductive ActivityEvent
  | onPause
  | onResume
  deriving DecidableEq

/-- What `oxr_session_poll` does for Android. -/
def pollActivity (s : OxrSession) : Option ActivityEvent → OxrSession
  | some .onPause =>
    let s := if s.state = .focused then s.changeState .visible else s
    let s := if s.state = .visible then s.changeState .synchronized else s
    if s.state = .synchronized then s.changeState .stopping else s
  | some .onResume => if s.state = .idle then s.changeState .ready else s
  | none => s

/-- The body of the loop of `oxr_session_poll`. -/
def dispatch (s : OxrSession) : SessionEvent → OxrSession
  | .stateChange visible focused => { s with compositorVisible := visible, compositorFocused := focused }
  | .lossPending => s.changeState .lossPending
  | .lost => { s with hasLost := true }
  | .requestExit => s.requestExit
  | .other => s

/-- The end of `oxr_session_poll`. -/
def followCompositor (s : OxrSession) : OxrSession :=
  let s := if s.state = .synchronized ∧ s.compositorVisible = true then s.changeState .visible else s
  let s := if s.state = .visible ∧ s.compositorFocused = true then s.changeState .focused else s
  let s := if s.state = .focused ∧ s.compositorFocused = false then s.changeState .visible else s
  if s.state = .visible ∧ s.compositorVisible = false then s.changeState .synchronized else s

def afterEvents (s : OxrSession) (activity : Option ActivityEvent) (events : List SessionEvent) : OxrSession :=
  events.foldl dispatch (if s.android then s.pollActivity activity else s)

/-- `oxr_session_poll`; after the events there are no more of them, or reading fails. -/
def poll (s : OxrSession) (activity : Option ActivityEvent) (events : List SessionEvent) (last : XrtResult) :
    SessionResult :=
  let s := s.afterEvents activity events
  if last ≠ .success then s.fail last else (s.followCompositor, .ok .success)

/-! ## Frames -/

/-- What the compositor answers to a wait, and the time that this is for the application. -/
structure WaitAnswer where
  xret : XrtResult
  frameId : ℤ
  predictedDisplayTime : ℤ
  convertedTime : ℤ
  deriving DecidableEq

def doWaitFrameAndChecks (s : OxrSession) (answer : WaitAnswer) : OxrSession × Except XrError ℤ :=
  if answer.xret ≠ .success then ((s.fail answer.xret).1, .error (xretError answer.xret))
  else if answer.frameId < 0 then (s, .error .runtimeFailure)
  else if answer.predictedDisplayTime ≤ 0 then (s, .error .runtimeFailure)
  else if answer.convertedTime ≤ 0 then (s, .error .runtimeFailure)
  else (s, .ok answer.frameId)

/-- `oxr_session_frame_wait`, when `oxr_frame_sync_wait_frame` has returned. -/
def frameWait (s : OxrSession) (answer : WaitAnswer) : SessionResult :=
  match s.doWaitFrameAndChecks answer with
  | (s, .error e) => ({ s with frameSync := s.frameSync.release.getD s.frameSync }, .error e)
  | (s, .ok frameId) =>
    ({ s with activeWaitFrames := s.activeWaitFrames + 1, frameIdWaited := frameId }, .ok s.successResult)

/-- The end of `oxr_session_frame_begin`. -/
def releaseWait (s : OxrSession) (ret : XrSuccess) : SessionResult :=
  match s.frameSync.release with
  | none => (s, .error .sessionNotRunning)
  | some ofs => ({ s with frameSync := ofs }, .ok ret)

/-- The part of `oxr_session_frame_begin` that begins the frame that was waited for. -/
def beginWaited (s : OxrSession) (beginFrame : XrtResult) (ret : XrSuccess) : SessionResult :=
  if s.headless then s.releaseWait ret
  else
    let s := s.tell .beginFrame s.frameIdWaited beginFrame
    if beginFrame ≠ .success then s.fail beginFrame
    else { s with frameIdBegun := s.frameIdWaited, frameIdWaited := -1 }.releaseWait ret

def frameBegin (s : OxrSession) (discard beginFrame : XrtResult) : SessionResult :=
  if s.activeWaitFrames = 0 then (s, .error .callOrderInvalid)
  else if s.frameStarted then
    if s.activeWaitFrames ≠ 2 then (s, .error .callOrderInvalid)
    else if s.headless then s.beginWaited beginFrame .frameDiscarded
    else
      let s := s.tell .discard s.frameIdBegun discard
      if discard ≠ .success then s.fail discard
      else
        { s with frameIdBegun := -1, activeWaitFrames := s.activeWaitFrames - 1 }.beginWaited beginFrame .frameDiscarded
  else { s with frameStarted := true }.beginWaited beginFrame s.successResult

def doSynchronizeStateChange (s : OxrSession) : OxrSession :=
  if s.hasEndedOnce = false ∧ s.state.value < XrSessionState.visible.value then s.synchronizeOnce else s

/-- What is found of a frame (`frameEnd`): whether its time and its blend mode are right, how many layers it has, and
what the verify functions say of them. -/
structure CheckedFrame where
  displayTime : ℤ
  blendMode : Except XrError Unit
  layerCount : ℕ
  layers : Except XrError Unit

/-- What the compositor answers when a frame is ended. -/
structure FrameEndAnswers where
  discard : XrtResult
  layerBegin : XrtResult
  layerCommit : XrtResult
  deriving DecidableEq

def discardBegun (s : OxrSession) (discard : XrtResult) : SessionResult :=
  let s := { s with activeWaitFrames := s.activeWaitFrames - 1 }
  let s := s.tell .discard s.frameIdBegun discard
  if discard ≠ .success then s.fail discard
  else
    let s := { s with frameIdBegun := -1, frameStarted := false }
    let s := s.doSynchronizeStateChange
    (s, .ok s.successResult)

/-- The result with which a frame is submitted: that of beginning its layers, or of committing them. -/
def FrameEndAnswers.submitted (answers : FrameEndAnswers) : XrtResult :=
  if answers.layerBegin ≠ .success then answers.layerBegin else answers.layerCommit

def submitBegun (s : OxrSession) (answers : FrameEndAnswers) : SessionResult :=
  let s := s.doSynchronizeStateChange
  let s := s.tell .submit s.frameIdBegun answers.submitted
  if answers.submitted ≠ .success then s.fail answers.submitted
  else
    let s := { s with frameIdBegun := -1, frameStarted := false, activeWaitFrames := s.activeWaitFrames - 1 }
    (s, .ok s.successResult)

def frameEnd (s : OxrSession) (frame : CheckedFrame) (answers : FrameEndAnswers) : SessionResult :=
  if !s.frameStarted then (s, .error .callOrderInvalid)
  else if frame.displayTime ≤ 0 then (s, .error .timeInvalid)
  else if s.headless then
    let s := { s with frameStarted := false, activeWaitFrames := s.activeWaitFrames - 1 }
    let s := s.doSynchronizeStateChange
    (s, .ok s.successResult)
  else
    match frame.blendMode with
    | .error e => (s, .error e)
    | .ok () =>
      if frame.layerCount = 0 then s.discardBegun answers.discard
      else
        match frame.layers with
        | .error e => (s, .error e)
        | .ok () => s.submitBegun answers

section
variable {Q V F : Type} [PoseTests Q V] [FloatTests F] (sess : FrameEndSession) (unreturned : ℕ → Except XrError Unit)
  (info : XrFrameEndInfo Q V F)

def CheckedFrame.of : CheckedFrame where
  displayTime := info.displayTime
  blendMode := do
    failIf (!uVerifyBlendModeValid (convertBlendMode info.environmentBlendMode)) .validationFailure
    failIf (!sess.blendModes.contains (convertBlendMode info.environmentBlendMode)) .environmentBlendModeUnsupported
  layerCount := info.layerCount
  layers := do verifyLayers sess unreturned (← require info.layers .layerInvalid)

/-- What is done with a frame that passed the checks. -/
def followPath (s : OxrSession) (answers : FrameEndAnswers) : FrameEndPath → SessionResult
  | .headless =>
    let s := { s with frameStarted := false, activeWaitFrames := s.activeWaitFrames - 1 }
    let s := s.doSynchronizeStateChange
    (s, .ok s.successResult)
  | .discard => s.discardBegun answers.discard
  | .submit => s.submitBegun answers

/-- The session goes on by what the checks of `FrameEnd` come to, in their order. -/
theorem frameEnd_of {s : OxrSession} (hstarted : s.frameStarted = sess.frameStarted) (hheadless : s.headless = sess.headless)
    (answers : FrameEndAnswers) :
    s.frameEnd (.of sess unreturned info) answers =
      match Oxr.frameEnd sess unreturned info with
      | .error e => (s, .error e)
      | .ok path => s.followPath answers path := by
  unfold frameEnd Oxr.frameEnd CheckedFrame.of
  simp only [← hstarted, ← hheadless, failIf_step, decide_eq_true_eq]
  by_cases hnot : (!s.frameStarted) = true
  · simp only [if_pos hnot]
  by_cases htime : info.displayTime ≤ 0
  · simp only [if_neg hnot, if_pos htime]
  by_cases hh : s.headless = true
  · simp only [if_neg hnot, if_neg htime, if_pos hh]
    rfl
  simp only [if_neg hnot, if_neg htime, if_neg hh]
  by_cases hvalid : (!uVerifyBlendModeValid (convertBlendMode info.environmentBlendMode)) = true
  · simp only [if_pos hvalid]
  simp only [if_neg hvalid]
  by_cases hmode : (!sess.blendModes.contains (convertBlendMode info.environmentBlendMode)) = true
  · simp only [failIf, if_pos hmode]
  simp only [failIf, if_neg hmode]
  by_cases hcount : info.layerCount = 0
  · simp only [if_pos hcount]
    rfl
  simp only [if_neg hcount]
  cases info.layers with
  | none => rfl
  | some layers =>
    cases hverify : verifyLayers sess unreturned layers <;> simp [hverify, require, followPath, bind, Except.bind]

end

/-! ## Calls -/

/-- A call for which the session must not be lost and has to be running. -/
def whileRunning (s : OxrSession) (result : SessionResult) : SessionResult :=
  if s.hasLost then (s, .error .sessionLost)
  else if !s.frameSync.running then (s, .error .sessionNotRunning)
  else result

/-- `xrBeginSession`; the type of views may be wrong, of which there are none without a compositor. -/
def xrBeginSession (s : OxrSession) (viewConfig : Except XrError Unit) (xret presence : XrtResult) : SessionResult :=
  if s.hasLost then (s, .error .sessionLost)
  else
    match if s.headless then .ok () else viewConfig with
    | .error e => (s, .error e)
    | .ok () => if s.frameSync.running then (s, .error .sessionRunning) else s.sessionBegin xret presence

def xrEndSession (s : OxrSession) (discardWaited discardBegun xret : XrtResult) : SessionResult :=
  s.whileRunning (s.sessionEnd discardWaited discardBegun xret)

def xrRequestExitSession (s : OxrSession) : SessionResult :=
  s.whileRunning (s.requestExit, .ok s.requestExit.successResult)

def xrBeginFrame (s : OxrSession) (discard beginFrame : XrtResult) : SessionResult :=
  s.whileRunning (s.frameBegin discard beginFrame)

/-- `xrEndFrame`, with the greatest number of layers. -/
def xrEndFrame (s : OxrSession) (maxLayers : ℕ) (frame : CheckedFrame) (answers : FrameEndAnswers) : SessionResult :=
  s.whileRunning (if frame.layerCount > maxLayers then (s, .error .layerLimitExceeded) else s.frameEnd frame answers)

end OxrSession

/-! ## Runs -/

/-- A session, how often it has been begun, the wait that is under way with the run of the session in which it has
passed `oxr_frame_sync_wait_frame`, the frames waited for in this run of the session, and all that the compositor gave. -/
structure SessionRun where
  sess : OxrSession
  run : ℕ
  waiting : Option ℕ
  waitedIds : List ℤ
  given : List ℤ

/-- What can happen to a session: calls, and a wait that returns. -/
inductive SessionCall
  | beginSession (viewConfig : Except XrError Unit) (xret presence : XrtResult)
  | endSession (discardWaited discardBegun xret : XrtResult)
  | requestExitSession
  | waitFrame
  | waitReturns (answer : OxrSession.WaitAnswer)
  | beginFrame (discard beginFrame : XrtResult)
  | endFrame (maxLayers : ℕ) (frame : OxrSession.CheckedFrame) (answers : OxrSession.FrameEndAnswers)
  | pollEvent (activity : Option OxrSession.ActivityEvent) (events : List OxrSession.SessionEvent) (last : XrtResult)

namespace SessionRun

/-- `oxr_session_create`: the memory of a session is zero, and it is idle and then ready. -/
def create (headless skipEndSession android : Bool) : SessionRun where
  sess :=
    { headless := headless
      skipEndSession := skipEndSession
      android := android
      state := .ready
      hasLost := false
      exiting := false
      hasEndedOnce := false
      compositorVisible := false
      compositorFocused := false
      frameSync := ⟨false, false⟩
      activeWaitFrames := 0
      frameIdWaited := 0
      frameIdBegun := 0
      frameStarted := false
      changes := [⟨.ready, false⟩, ⟨.idle, false⟩]
      told := [] }
  run := 0
  waiting := none
  waitedIds := []
  given := []

/-- `xrWaitFrame`, of which there is one at a time, as far as `oxr_frame_sync_wait_frame`: none while it blocks. -/
def enterWait (r : SessionRun) : Option SessionRun :=
  if r.waiting.isSome then none
  else if r.sess.hasLost ∨ r.sess.frameSync.running = false ∨ r.sess.headless then some r
  else
    match r.sess.frameSync.waitFrame with
    | none => none
    | some (_, false) => some r
    | some (ofs, true) => some { r with sess := { r.sess with frameSync := ofs }, waiting := some r.run }

/-- A wait returns; the compositor does not give a frame twice. -/
def leaveWait (r : SessionRun) (answer : OxrSession.WaitAnswer) : Option SessionRun :=
  match r.waiting with
  | none => none
  | some run =>
    match r.sess.doWaitFrameAndChecks answer with
    | (_, .error _) => some { r with sess := (r.sess.frameWait answer).1, waiting := none }
    | (_, .ok frameId) =>
      if frameId ∈ r.given then none
      else some
        { r with
          sess := (r.sess.frameWait answer).1
          waiting := none
          waitedIds := if run = r.run ∧ r.sess.frameSync.running then frameId :: r.waitedIds else r.waitedIds
          given := frameId :: r.given }

/-- One call. When a session begins to run, no frame has been waited for in this run. -/
def step (r : SessionRun) : SessionCall → Option SessionRun
  | .beginSession viewConfig xret presence =>
    match r.sess.xrBeginSession viewConfig xret presence with
    | (sess, .ok _) => some { r with sess := sess, run := r.run + 1, waitedIds := [] }
    | (sess, .error _) => some { r with sess := sess }
  | .endSession discardWaited discardBegun xret =>
    some { r with sess := (r.sess.xrEndSession discardWaited discardBegun xret).1 }
  | .requestExitSession => some { r with sess := r.sess.xrRequestExitSession.1 }
  | .waitFrame => r.enterWait
  | .waitReturns answer => r.leaveWait answer
  | .beginFrame discard beginFrame => some { r with sess := (r.sess.xrBeginFrame discard beginFrame).1 }
  | .endFrame maxLayers frame answers => some { r with sess := (r.sess.xrEndFrame maxLayers frame answers).1 }
  | .pollEvent activity events last => some { r with sess := (r.sess.poll activity events last).1 }

end SessionRun

end AugmentedInsanity.Oxr
