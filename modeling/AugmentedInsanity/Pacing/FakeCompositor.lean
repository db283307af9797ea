/-
The fake pacer of the compositor (`u_pacing_compositor_fake.c`): it steps in periods from the last present time it
knows of, which is a guess until the display tells it of a vblank. A predicted time is the least step that leaves the
compositor its time, and predictions that are made from one present time keep their phase and are ordered as the
times at which they are made (`predictsWell_of_stepsInv`); a vblank may bring them back.
-/
import AugmentedInsanity.Lib.Runs
import AugmentedInsanity.Pacing.App

namespace AugmentedInsanity.Pacing.Fake

open CatchUp Runs

abbrev FRAME_COUNT : ℕ := 8

/-! ## The pacer -/

/-- `struct frame`, without the time that nothing sets. -/
structure Frame where
  frameId : ℤ
  predictedWakeUpTimeNs : ℤ
  predictedPresentTimeNs : ℤ
  predictedDisplayTimeNs : ℤ
  predictedDisplayPeriodNs : ℤ
  whenWokeNs : ℤ
  whenBeganNs : ℤ
  whenSubmitBeganNs : ℤ
  whenSubmitEndNs : ℤ
  deriving DecidableEq

def Frame.zero : Frame := ⟨0, 0, 0, 0, 0, 0, 0, 0, 0⟩

/-- The numbers `D` with a fraction that the pacer computes with, and what it does with them. -/
structure Doubles (D : Type) where
  fabsf : D → D
  timeMsFToNs : D → ℤ
  timeNsToMsF : ℤ → D
  getPercentOfTime : ℤ → D → ℤ

structure FakeOptions (D : Type) where
  presentToDisplayOffsetMs : D
  minCompTimeMs : D
  compTimeFractionPercent : D

/-- `struct fake_timing`, without its statistics; a display has a period. -/
structure FakeTiming (D : Type) where
  framePeriodNs : ℤ
  lastPresentTimeNs : ℤ
  presentToDisplayOffsetMs : D
  compTimeNs : ℤ
  frameIdGenerator : ℤ
  frames : Fin FRAME_COUNT → Frame
  period_pos : 0 < framePeriodNs

variable {D : Type} (doubles : Doubles D)

def uPcFakeCreate (options : FakeOptions D) (estimatedFramePeriodNs : ℤ) (period_pos : 0 < estimatedFramePeriodNs)
    (nowNs : ℤ) : FakeTiming D where
  framePeriodNs := estimatedFramePeriodNs
  lastPresentTimeNs := nowNs + U_TIME_1MS_IN_NS * 50
  presentToDisplayOffsetMs := options.presentToDisplayOffsetMs
  compTimeNs :=
    let compTimeNs := doubles.getPercentOfTime estimatedFramePeriodNs (doubles.fabsf options.compTimeFractionPercent)
    let minCompTimeNs := doubles.timeMsFToNs options.minCompTimeMs
    if compTimeNs < minCompTimeNs then minCompTimeNs else compTimeNs
  frameIdGenerator := 0
  frames := fun _ => .zero
  period_pos := period_pos

/-! ## Helpers -/

/-- `(uint64_t)frame_id % FRAME_COUNT`; the cast keeps the remainder. -/
def frameIndex (frameId : ℤ) : Fin FRAME_COUNT := Fin.ofNat FRAME_COUNT (frameId % FRAME_COUNT).toNat

section
variable (ft : FakeTiming D)

def getFrameOrNull (frameId : ℤ) : Option (Fin FRAME_COUNT) :=
  if (ft.frames (frameIndex frameId)).frameId = frameId then some (frameIndex frameId) else none

def FakeTiming.putFrame (index : Fin FRAME_COUNT) (f : Frame) : FakeTiming D :=
  { ft with frames := Function.update ft.frames index f }

def getNewFrame : Fin FRAME_COUNT × FakeTiming D :=
  let frameId := ft.frameIdGenerator + 1
  let ft := { ft with frameIdGenerator := frameId }
  (frameIndex frameId, ft.putFrame (frameIndex frameId) { Frame.zero with frameId := frameId })

/-- The loop goes on while `now_ns + time_needed_ns` is greater than the time it has got to. -/
def predictNextFramePresentTime (nowNs : ℤ) : Option ℤ :=
  let timeNeededNs := ft.compTimeNs
  advance ft.framePeriodNs (nowNs + timeNeededNs - 1) (ft.lastPresentTimeNs + ft.framePeriodNs)

def calcDisplayTime (presentTimeNs : ℤ) : ℤ :=
  presentTimeNs + doubles.timeMsFToNs ft.presentToDisplayOffsetMs

/-! ## Member functions -/

structure Prediction where
  frameId : ℤ
  wakeUpTimeNs : ℤ
  desiredPresentTimeNs : ℤ
  presentSlopNs : ℤ
  predictedDisplayTimeNs : ℤ
  predictedDisplayPeriodNs : ℤ
  minDisplayPeriodNs : ℤ
  deriving DecidableEq

/-- `pc_predict`, or `none` if its loop goes on forever. -/
def pcPredict (nowNs : ℤ) : Option (Prediction × FakeTiming D) := do
  let (index, ft) := getNewFrame ft
  let f := ft.frames index
  let desiredPresentTimeNs ← predictNextFramePresentTime ft nowNs
  let predictedDisplayTimeNs := calcDisplayTime doubles ft desiredPresentTimeNs
  let wakeUpTimeNs := desiredPresentTimeNs - ft.compTimeNs
  pure (⟨f.frameId, wakeUpTimeNs, desiredPresentTimeNs, U_TIME_HALF_MS_IN_NS, predictedDisplayTimeNs, ft.framePeriodNs,
      ft.framePeriodNs⟩,
    ft.putFrame index { f with
      predictedWakeUpTimeNs := wakeUpTimeNs
      predictedPresentTimeNs := desiredPresentTimeNs
      predictedDisplayTimeNs := predictedDisplayTimeNs
      predictedDisplayPeriodNs := ft.framePeriodNs })

/-- A point of a frame that the pacer no longer has is dropped. -/
def pcMarkPoint (point : UTimingPoint) (frameId whenNs : ℤ) : FakeTiming D :=
  match getFrameOrNull ft frameId with
  | none => ft
  | some index =>
    let f := ft.frames index
    match point with
    | .wakeUp => ft.putFrame index { f with whenWokeNs := whenNs }
    | .begin => ft.putFrame index { f with whenBeganNs := whenNs }
    | .submitBegin => ft.putFrame index { f with whenSubmitBeganNs := whenNs }
    | .submitEnd => ft.putFrame index { f with whenSubmitEndNs := whenNs }

def pcUpdateVblankFromDisplayControl (lastVblankNs : ℤ) : FakeTiming D :=
  { ft with lastPresentTimeNs := lastVblankNs }

def pcUpdatePresentOffset (presentToDisplayOffsetNs : ℤ) : FakeTiming D :=
  { ft with presentToDisplayOffsetMs := doubles.timeNsToMsF presentToDisplayOffsetNs }

end

/-- A call of a member function of the pacer; what `pc_info` and `pc_info_gpu` are told changes nothing. -/
inductive FakePacerCall
  | predict (nowNs : ℤ)
  | markPoint (point : UTimingPoint) (frameId whenNs : ℤ)
  | info
  | infoGpu
  | updateVblank (lastVblankNs : ℤ)
  | updatePresentOffset (presentToDisplayOffsetNs : ℤ)

/-! ## Predictions -/

section
variable {doubles} {ft : FakeTiming D}

/-- The times that are whole periods after the last present time and leave the compositor its time. -/
def Presentable (ft : FakeTiming D) (nowNs : ℤ) : Set ℤ :=
  {t | ∃ k : ℕ, 1 ≤ k ∧ t = ft.lastPresentTimeNs + k * ft.framePeriodNs ∧ nowNs + ft.compTimeNs ≤ t}

theorem predictNextFramePresentTime_isLeast {nowNs presentNs : ℤ}
    (h : predictNextFramePresentTime ft nowNs = some presentNs) : IsLeast (Presentable ft nowNs) presentNs := by
  have hstep : ∀ k : ℕ, ft.lastPresentTimeNs + ft.framePeriodNs + k * ft.framePeriodNs =
      ft.lastPresentTimeNs + (k + 1 : ℕ) * ft.framePeriodNs := by
    intro k
    simp only [Nat.cast_add, Nat.cast_one]
    ring
  obtain ⟨⟨k, hk, hpast⟩, hleast⟩ := advance_isLeast ft.period_pos h
  constructor
  · refine ⟨k + 1, by omega, ?_, by omega⟩
    rw [hk, hstep]
  · rintro t ⟨j, hj, rfl, hle⟩
    obtain ⟨j, rfl⟩ := Nat.exists_eq_add_of_le' hj
    exact hleast ⟨j, (hstep j).symm, by omega⟩

theorem predictNextFramePresentTime_emod {nowNs presentNs : ℤ}
    (h : predictNextFramePresentTime ft nowNs = some presentNs) :
    presentNs % ft.framePeriodNs = ft.lastPresentTimeNs % ft.framePeriodNs := by
  rw [advance_emod ft.period_pos h, Int.add_emod_right]

structure SameSteps (ft ft' : FakeTiming D) : Prop where
  period : ft'.framePeriodNs = ft.framePeriodNs
  last : ft'.lastPresentTimeNs = ft.lastPresentTimeNs
  comp : ft'.compTimeNs = ft.compTimeNs

theorem SameSteps.predict {ft' : FakeTiming D} (h : SameSteps ft ft') (nowNs : ℤ) :
    predictNextFramePresentTime ft' nowNs = predictNextFramePresentTime ft nowNs := by
  simp only [predictNextFramePresentTime, h.period, h.last, h.comp]

theorem pcPredict_ends (doubles : Doubles D) (ft : FakeTiming D) (nowNs : ℤ) :
    ∃ p ft', pcPredict doubles ft nowNs = some (p, ft') := by
  obtain ⟨presentNs, h⟩ := advance_ends ft.period_pos (nowNs + ft.compTimeNs - 1)
    (ft.lastPresentTimeNs + ft.framePeriodNs)
  have hsteps : SameSteps ft (getNewFrame ft).2 := ⟨rfl, rfl, rfl⟩
  have hpresent : predictNextFramePresentTime (getNewFrame ft).2 nowNs = some presentNs := by
    rw [hsteps.predict]
    exact h
  unfold pcPredict
  simp only [hpresent, Option.bind_eq_bind, Option.bind_some, Option.pure_def]
  exact ⟨_, _, rfl⟩

theorem pcPredict_spec {nowNs : ℤ} {p : Prediction} {ft' : FakeTiming D}
    (h : pcPredict doubles ft nowNs = some (p, ft')) :
    predictNextFramePresentTime ft nowNs = some p.desiredPresentTimeNs ∧ SameSteps ft ft' := by
  obtain ⟨presentNs, hpresent, h⟩ := Option.bind_eq_some_iff.1 h
  cases h
  have hsteps : SameSteps ft (getNewFrame ft).2 := ⟨rfl, rfl, rfl⟩
  exact ⟨(hsteps.predict nowNs).symm.trans hpresent, rfl, rfl, rfl⟩

theorem pcMarkPoint_sameSteps (ft : FakeTiming D) (point : UTimingPoint) (frameId whenNs : ℤ) :
    SameSteps ft (pcMarkPoint ft point frameId whenNs) := by
  unfold pcMarkPoint
  cases getFrameOrNull ft frameId with
  | none => exact ⟨rfl, rfl, rfl⟩
  | some index => cases point <;> exact ⟨rfl, rfl, rfl⟩

end

/-! ## Runs -/

structure Predicted where
  nowNs : ℤ
  presentNs : ℤ

/-- A pacer, with the predictions that it has made, and those among them that it made since it was last told of a
vblank. -/
structure PacedFake (D : Type) where
  ft : FakeTiming D
  earlier : List Predicted
  sinceVblank : List Predicted

def fakeStep (r : PacedFake D) : FakePacerCall → Option (PacedFake D)
  | .predict nowNs => do
    let (p, ft) ← pcPredict doubles r.ft nowNs
    let made : Predicted := ⟨nowNs, p.desiredPresentTimeNs⟩
    pure ⟨ft, made :: r.earlier, made :: r.sinceVblank⟩
  | .markPoint point frameId whenNs => some { r with ft := pcMarkPoint r.ft point frameId whenNs }
  | .info | .infoGpu => some r
  | .updateVblank lastVblankNs =>
    some { r with ft := pcUpdateVblankFromDisplayControl r.ft lastVblankNs, sinceVblank := [] }
  | .updatePresentOffset offsetNs => some { r with ft := pcUpdatePresentOffset doubles r.ft offsetNs }

def NeverBack (r : PacedFake D) (made : Predicted) : Prop := ∀ e ∈ r.earlier, e.presentNs ≤ made.presentNs

/-- No prediction comes before one that was made since the last vblank, and not later. -/
def Ordered (r : PacedFake D) (made : Predicted) : Prop :=
  ∀ e ∈ r.sinceVblank, e.nowNs ≤ made.nowNs → e.presentNs ≤ made.presentNs

/-- What is to hold of a call: a prediction ends, at the least of the times that can be, in phase with those since the
last vblank, and in order. -/
def PredictsWell (InOrder : PacedFake D → Predicted → Prop) (r : PacedFake D) : FakePacerCall → Prop
  | .predict nowNs => ∃ p ft, pcPredict doubles r.ft nowNs = some (p, ft) ∧
    IsLeast (Presentable r.ft nowNs) p.desiredPresentTimeNs ∧
    (∀ e ∈ r.sinceVblank, p.desiredPresentTimeNs % r.ft.framePeriodNs = e.presentNs % r.ft.framePeriodNs) ∧
    InOrder r ⟨nowNs, p.desiredPresentTimeNs⟩
  | _ => True

/-- The predictions since the last vblank are those that the pacer would make now. -/
def StepsInv (r : PacedFake D) : Prop :=
  ∀ e ∈ r.sinceVblank, predictNextFramePresentTime r.ft e.nowNs = some e.presentNs

section
variable {doubles} {r r' : PacedFake D}

theorem StepsInv.of_sameSteps {ft' : FakeTiming D} (h : StepsInv r) (hsame : SameSteps r.ft ft') :
    StepsInv { r with ft := ft' } := by
  intro e he
  exact (hsame.predict e.nowNs).trans (h e he)

theorem fakeStep_stepsInv {c : FakePacerCall} (h : StepsInv r) (hs : fakeStep doubles r c = some r') :
    StepsInv r' := by
  cases c with
  | predict nowNs =>
    obtain ⟨⟨p, ft⟩, hpredict, hs⟩ := Option.bind_eq_some_iff.1 hs
    cases hs
    obtain ⟨hpresent, hsame⟩ := pcPredict_spec hpredict
    intro e he
    rcases List.mem_cons.1 he with rfl | he
    · exact (hsame.predict nowNs).trans hpresent
    · exact (hsame.predict e.nowNs).trans (h e he)
  | markPoint point frameId whenNs =>
    cases hs
    exact h.of_sameSteps (pcMarkPoint_sameSteps r.ft point frameId whenNs)
  | info =>
    cases hs
    exact h
  | infoGpu =>
    cases hs
    exact h
  | updateVblank lastVblankNs =>
    cases hs
    intro e he
    cases he
  | updatePresentOffset offsetNs =>
    cases hs
    exact h.of_sameSteps ⟨rfl, rfl, rfl⟩

theorem predictsWell_of_stepsInv (h : StepsInv r) (c : FakePacerCall) : PredictsWell doubles Ordered r c := by
  cases c with
  | predict nowNs =>
    obtain ⟨p, ft, hpredict⟩ := pcPredict_ends doubles r.ft nowNs
    have hpresent := (pcPredict_spec hpredict).1
    refine ⟨p, ft, hpredict, predictNextFramePresentTime_isLeast hpresent, ?_, ?_⟩
    · intro e he
      rw [predictNextFramePresentTime_emod hpresent, predictNextFramePresentTime_emod (h e he)]
    · intro e he hle
      have hbound : e.nowNs + r.ft.compTimeNs - 1 ≤ nowNs + r.ft.compTimeNs - 1 :=
        Int.sub_le_sub_right (Int.add_le_add_right hle _) _
      exact advance_mono r.ft.period_pos hbound (h e he) hpresent
  | _ => trivial

end

/-- Along every sequence of calls, every prediction ends at the least of the times that can be, and since the last
vblank the predictions are in phase and in the order of the times at which they are made. -/
theorem run_predictsWell (options : FakeOptions D) {periodNs : ℤ} (hperiod : 0 < periodNs) (nowNs : ℤ)
    (calls : List FakePacerCall) :
    Along (fakeStep doubles) (PredictsWell doubles Ordered)
      ⟨uPcFakeCreate doubles options periodNs hperiod nowNs, [], []⟩ calls :=
  along_of_inv' (fun _ c h => predictsWell_of_stepsInv h c) (fun _ _ _ h hs => fakeStep_stepsInv h hs)
    (fun _ he => by cases he) calls

def millionths : Doubles ℤ where
  fabsf x := x.natAbs
  timeMsFToNs ms := ms
  timeNsToMsF ns := ns
  getPercentOfTime timeNs percent := timeNs * percent / 100000000

def defaultOptions : FakeOptions ℤ where
  presentToDisplayOffsetMs := 4000000
  minCompTimeMs := 3000000
  compTimeFractionPercent := 20000000

theorem sixteenMs_pos : 0 < U_TIME_1MS_IN_NS * 16 := by decide

def atSixteenMs : PacedFake ℤ :=
  ⟨uPcFakeCreate millionths defaultOptions (U_TIME_1MS_IN_NS * 16) sixteenMs_pos 0, [], []⟩

theorem predictsWell_sixteenMs :
    Along (fakeStep millionths) (PredictsWell millionths Ordered) atSixteenMs
      [.predict 0, .predict U_TIME_1MS_IN_NS] :=
  run_predictsWell millionths defaultOptions sixteenMs_pos 0 [.predict 0, .predict U_TIME_1MS_IN_NS]

def presentTimes (r : PacedFake D) : List ℤ := r.earlier.map (·.presentNs)

theorem presentTimes_sorted {r r' : PacedFake D} {calls : List FakePacerCall}
    (hall : Along (fakeStep doubles) (PredictsWell doubles NeverBack) r calls)
    (hr : Reaches (fakeStep doubles) r calls r') (h : (presentTimes r).Pairwise (· ≥ ·)) :
    (presentTimes r').Pairwise (· ≥ ·) := by
  refine inv_of_along (I := fun r => (presentTimes r).Pairwise (· ≥ ·)) ?_ h hall hr
  intro r c r' h hwell hs
  cases c with
  | predict nowNs =>
    obtain ⟨p, ft, hpredict, -, -, hback⟩ := hwell
    obtain ⟨⟨p', ft'⟩, hpredict', hs⟩ := Option.bind_eq_some_iff.1 hs
    cases hpredict.symm.trans hpredict'
    cases hs
    refine List.pairwise_cons.2 ⟨fun t ht => ?_, h⟩
    obtain ⟨e, he, rfl⟩ := List.mem_map.1 ht
    exact hback e he
  | _ =>
    cases hs
    exact h

def vblankBetween : List FakePacerCall :=
  [.predict 0, .updateVblank (U_TIME_1MS_IN_NS * 2), .predict (U_TIME_1MS_IN_NS * 3)]

def clockBack : List FakePacerCall := [.predict (U_TIME_1MS_IN_NS * 70), .predict 0]

theorem vblankBetween_and_clockBack_back :
    ¬ Along (fakeStep millionths) (PredictsWell millionths NeverBack) atSixteenMs vblankBetween ∧
      ¬ Along (fakeStep millionths) (PredictsWell millionths NeverBack) atSixteenMs clockBack := by
  have hback : ∀ calls, (∃ times ∈ (calls.foldlM (fakeStep millionths) atSixteenMs).map presentTimes,
      ¬ times.Pairwise (· ≥ ·)) →
      ¬ Along (fakeStep millionths) (PredictsWell millionths NeverBack) atSixteenMs calls := by
    rintro calls ⟨times, htimes, hnot⟩ hall
    obtain ⟨r, hr, rfl⟩ := Option.map_eq_some_iff.1 htimes
    exact hnot (presentTimes_sorted _ hall (reaches_iff_foldlM.2 hr) List.Pairwise.nil)
  constructor
  · apply hback
    exact ⟨[18000000, 66000000], by decide +kernel, by decide⟩
  · apply hback
    exact ⟨[66000000, 82000000], by decide +kernel, by decide⟩

end AugmentedInsanity.Pacing.Fake
