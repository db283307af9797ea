/-
The times that the app pacer predicts. As long as it is told positive display periods, whatever else it is told and
in whatever order its frames are marked, every prediction ends, is more than half an app period past the one before
(`predictions_ok`), and leaves the app its time.
-/
import AugmentedInsanity.Lib.Runs
import AugmentedInsanity.Pacing.App

namespace AugmentedInsanity.Pacing

open CatchUp Runs

variable {o : PacingOptions} {pa : PacingApp}

/-! ## The searches -/

theorem calcAppPeriod_ends {displayPeriodNs : ℤ} (hpos : 0 < displayPeriodNs) :
    ∃ appPeriodNs, calcAppPeriod o pa displayPeriodNs = some appPeriodNs ∧ displayPeriodNs ≤ appPeriodNs := by
  unfold calcAppPeriod
  by_cases hmin : o.useMinFramePeriod = true
  · rw [if_pos hmin]
    exact ⟨_, rfl, le_rfl⟩
  · rw [if_neg hmin]
    obtain ⟨cpu, hcpu⟩ := advance_ends hpos (pa.cpuTimeNs - 1) displayPeriodNs
    obtain ⟨draw, hdraw⟩ := advance_ends hpos (pa.drawTimeNs - 1) cpu
    obtain ⟨gpu, hgpu⟩ := advance_ends hpos (pa.gpuTimeNs - 1) draw
    refine ⟨gpu, ?_, ?_⟩
    · simp only [hcpu, hdraw, hgpu, Option.bind_eq_bind, Option.bind_some]
    · exact (le_advance hcpu).trans ((le_advance hdraw).trans (le_advance hgpu))

theorem predictDisplayTime_ends {displayPeriodNs appPeriodNs : ℤ} (hdisplay : 0 < displayPeriodNs)
    (happ : 0 < appPeriodNs) (nowNs : ℤ) :
    ∃ predictNs, predictDisplayTime o pa nowNs displayPeriodNs appPeriodNs = some predictNs ∧
      pa.lastReturnedNs + appPeriodNs.tdiv 2 < predictNs ∧
      nowNs + totalAppAndCompositorTimeNs o pa < predictNs := by
  unfold predictDisplayTime
  obtain ⟨val, hval⟩ := advance_ends happ (pa.lastReturnedNs + appPeriodNs.tdiv 2) pa.predictedDisplayTimeNs
  set periodNs := if o.alignPredictedDisplayTimeToAppPeriod then appPeriodNs else displayPeriodNs with hperiod
  have hpos : 0 < periodNs := by
    rw [hperiod]
    split
    · exact happ
    · exact hdisplay
  obtain ⟨r, hr⟩ := advance_ends hpos (nowNs + totalAppAndCompositorTimeNs o pa) val
  refine ⟨r, ?_, (advance_past hval).trans_le (le_advance hr), advance_past hr⟩
  simp only [hval, Option.bind_eq_bind, Option.bind_some, hr]

/-- What is to hold of a prediction that is made of a pacer at a time: unless the app is woken at once, it is woken
later than now, and early enough for its own time, the one of the compositor and the margin. -/
structure TimesOk (o : PacingOptions) (pa : PacingApp) (nowNs : ℤ) (p : Prediction) : Prop where
  wake : shouldReturnImmediately o (totalAppTimeNs o pa) pa.displayPeriod = false → nowNs < p.wakeUpTimeNs
  display : shouldReturnImmediately o (totalAppTimeNs o pa) pa.displayPeriod = false →
    p.wakeUpTimeNs + totalAppTimeNs o pa + pa.extraNs = p.predictedDisplayTimeNs - o.marginTimeNs

theorem predictTimes_ends (hpos : 0 < pa.displayPeriod) (nowNs : ℤ) :
    ∃ p, predictTimes o pa nowNs = some p ∧ p.frameId = pa.frameCounter + 1 ∧ TimesOk o pa nowNs p ∧
      p.predictedDisplayPeriodNs < 2 * (p.predictedDisplayTimeNs - pa.lastReturnedNs) ∧
      pa.lastReturnedNs < p.predictedDisplayTimeNs := by
  obtain ⟨appPeriodNs, happ, hle⟩ := @calcAppPeriod_ends o pa _ hpos
  have happPos : 0 < appPeriodNs := hpos.trans_le hle
  obtain ⟨predictNs, hpredict, hlast, hnow⟩ := @predictDisplayTime_ends o pa _ _ hpos happPos nowNs
  have hhalf : appPeriodNs.tdiv 2 = appPeriodNs / 2 := Int.tdiv_eq_ediv_of_nonneg happPos.le
  unfold predictTimes
  simp only [happ, hpredict, Option.bind_eq_bind, Option.bind_some, Option.pure_def]
  refine ⟨_, rfl, rfl, ⟨fun hwait => ?_, fun hwait => ?_⟩, ?_, ?_⟩
  · rw [if_neg (by rw [hwait]; exact Bool.false_ne_true)]
    dsimp only
    omega
  · rw [if_neg (by rw [hwait]; exact Bool.false_ne_true)]
    dsimp only
    unfold totalAppAndCompositorTimeNs totalCompositorTimeNs
    omega
  · dsimp only
    omega
  · dsimp only
    omega

/-! ## Runs -/

structure PacedApp where
  pa : PacingApp
  previous : Option Prediction

def PacedApp.create : PacedApp := ⟨paCreate, none⟩

def paceStep (o : PacingOptions) (r : PacedApp) : PacerCall → Option PacedApp
  | .predict nowNs => (paPredict o r.pa nowNs).map fun (p, _, pa) => ⟨pa, some p⟩
  | c => (r.pa.call o c).map fun (_, pa) => ⟨pa, r.previous⟩

/-- What is to hold of a call: a prediction ends, its times are right, and it is more than half an app period past the
previous one. -/
def PredictsWell (o : PacingOptions) (r : PacedApp) : PacerCall → Prop
  | .predict nowNs =>
    ∃ p asserts pa, paPredict o r.pa nowNs = some (p, asserts, pa) ∧ TimesOk o r.pa nowNs p ∧
      ∀ q, r.previous = some q →
        q.predictedDisplayTimeNs < p.predictedDisplayTimeNs ∧
          p.predictedDisplayPeriodNs < 2 * (p.predictedDisplayTimeNs - q.predictedDisplayTimeNs)
  | _ => True

def PositivePeriod : PacerCall → Prop
  | .info _ predictedDisplayPeriodNs _ => 0 < predictedDisplayPeriodNs
  | _ => True

structure PacedInv (r : PacedApp) : Prop where
  period : 0 ≤ r.pa.predictedDisplayPeriodNs
  counter : 0 ≤ r.pa.frameCounter
  previous : ∀ q, r.previous = some q → r.pa.lastReturnedNs = q.predictedDisplayTimeNs

theorem displayPeriod_pos (h : 0 ≤ pa.predictedDisplayPeriodNs) : 0 < pa.displayPeriod := by
  unfold PacingApp.displayPeriod
  split
  · decide
  · omega

theorem getIndexFromId_of_nonneg {frameId : ℤ} (h : 0 ≤ frameId) :
    ∃ index : Fin FRAME_COUNT, getIndexFromId frameId = some index ∧ (index : ℤ) = frameId % FRAME_COUNT := by
  have hmod : frameId.tmod FRAME_COUNT = frameId % FRAME_COUNT := Int.tmod_eq_emod_of_nonneg h
  have hnonneg : 0 ≤ frameId % FRAME_COUNT := Int.emod_nonneg frameId (by decide)
  have hlt : frameId % FRAME_COUNT < FRAME_COUNT := Int.emod_lt_of_pos frameId (by decide)
  have hrange : 0 ≤ frameId.tmod FRAME_COUNT ∧ (frameId.tmod FRAME_COUNT).toNat < FRAME_COUNT := by
    rw [hmod]
    omega
  refine ⟨⟨_, hrange.2⟩, dif_pos hrange, ?_⟩
  dsimp only
  rw [hmod]
  omega

theorem paPredict_of_times {p : Prediction} {nowNs : ℤ} (h : predictTimes o pa nowNs = some p)
    (hid : 0 ≤ p.frameId) :
    ∃ index asserts f, getIndexFromId p.frameId = some index ∧
      paPredict o pa nowNs = some (p, asserts,
        { pa.setFrame index f with frameCounter := p.frameId, lastReturnedNs := p.predictedDisplayTimeNs }) ∧
      asserts = decide (pa.predictedDisplayPeriodNs ≠ 0 ∧ (pa.frames index).frameId = -1 ∧
        (pa.frames index).state = .ready) ∧
      f.frameId = p.frameId ∧ f.state = .predicted := by
  obtain ⟨index, hindex, -⟩ := getIndexFromId_of_nonneg hid
  unfold paPredict
  simp only [h, hindex, Option.bind_eq_bind, Option.bind_some, Option.pure_def]
  exact ⟨index, _, _, rfl, rfl, rfl, rfl, rfl⟩

theorem predictsWell_of_inv {r : PacedApp} (h : PacedInv r) (c : PacerCall) : PredictsWell o r c := by
  cases c with
  | predict nowNs =>
    obtain ⟨p, hp, hid, htimes, hhalf, hlast⟩ := @predictTimes_ends o r.pa (displayPeriod_pos h.period) nowNs
    have hcounter := h.counter
    obtain ⟨index, asserts, f, -, hpredict, -⟩ := paPredict_of_times hp (by omega)
    refine ⟨p, _, _, hpredict, htimes, fun q hq => ?_⟩
    rw [← h.previous q hq]
    exact ⟨hlast, hhalf⟩
  | _ => trivial

theorem call_keeps {c : PacerCall} {asserts : Bool} {pa' : PacingApp} (hmark : ∀ nowNs, c ≠ .predict nowNs)
    (hinfo : ∀ t p e, c ≠ .info t p e) (h : pa.call o c = some (asserts, pa')) :
    pa'.predictedDisplayPeriodNs = pa.predictedDisplayPeriodNs ∧ pa'.frameCounter = pa.frameCounter ∧
      pa'.lastReturnedNs = pa.lastReturnedNs := by
  cases c with
  | predict nowNs => exact absurd rfl (hmark nowNs)
  | info t p e => exact absurd rfl (hinfo t p e)
  | markPoint frameId point whenNs =>
    obtain ⟨index, -, heq⟩ := Option.map_eq_some_iff.1 h
    cases point <;> cases heq <;> exact ⟨rfl, rfl, rfl⟩
  | markDiscarded frameId =>
    obtain ⟨index, -, heq⟩ := Option.map_eq_some_iff.1 h
    cases heq
    exact ⟨rfl, rfl, rfl⟩
  | markDelivered frameId whenNs displayTimeNs =>
    obtain ⟨index, -, heq⟩ := Option.map_eq_some_iff.1 h
    cases heq
    exact ⟨rfl, rfl, rfl⟩
  | markGpuDone frameId whenNs =>
    obtain ⟨index, -, heq⟩ := Option.map_eq_some_iff.1 h
    cases heq
    exact ⟨rfl, rfl, rfl⟩

theorem paceStep_inv {r r' : PacedApp} {c : PacerCall} (h : PacedInv r) (hperiod : PositivePeriod c)
    (hs : paceStep o r c = some r') : PacedInv r' := by
  have hmark : (∀ nowNs, c ≠ .predict nowNs) → (∀ t p e, c ≠ .info t p e) →
      (r.pa.call o c).map (fun x => (⟨x.2, r.previous⟩ : PacedApp)) = some r' → PacedInv r' := by
    intro hmark hinfo hs
    obtain ⟨⟨asserts, pa'⟩, hcall, rfl⟩ := Option.map_eq_some_iff.1 hs
    obtain ⟨hp, hc, hl⟩ := call_keeps hmark hinfo hcall
    exact ⟨hp ▸ h.period, hc ▸ h.counter, fun q hq => hl.trans (h.previous q hq)⟩
  cases c with
  | predict nowNs =>
    obtain ⟨p, hp, hid, -⟩ := @predictTimes_ends o r.pa (displayPeriod_pos h.period) nowNs
    have hcounter := h.counter
    obtain ⟨index, asserts, f, -, hpredict, -⟩ := paPredict_of_times hp (by omega)
    simp only [paceStep, hpredict, Option.map_some] at hs
    cases hs
    refine ⟨h.period, ?_, ?_⟩
    · show 0 ≤ p.frameId
      omega
    · rintro q hq
      cases hq
      rfl
  | info t p e =>
    cases hs
    exact ⟨hperiod.le, h.counter, h.previous⟩
  | markPoint frameId point whenNs => exact hmark (by simp) (by simp) hs
  | markDiscarded frameId => exact hmark (by simp) (by simp) hs
  | markDelivered frameId whenNs displayTimeNs => exact hmark (by simp) (by simp) hs
  | markGpuDone frameId whenNs => exact hmark (by simp) (by simp) hs

/-- Along every sequence of calls with positive display periods, each prediction ends, is more than half an app period
past the one before, and wakes the app when it says. -/
theorem predictions_ok (o : PacingOptions) (calls : List PacerCall) (hperiods : ∀ c ∈ calls, PositivePeriod c) :
    Along (paceStep o) (PredictsWell o) .create calls := by
  have hinv : PacedInv PacedApp.create := ⟨le_rfl, le_rfl, by rintro q ⟨⟩⟩
  generalize PacedApp.create = r at hinv ⊢
  induction calls generalizing r with
  | nil => trivial
  | cons c calls ih =>
    refine along_cons.2 ⟨predictsWell_of_inv hinv c, fun r' hs => ih ?_ r' ?_⟩
    · exact fun c' hc' => hperiods c' (List.mem_cons_of_mem _ hc')
    · exact paceStep_inv hinv (hperiods c (List.mem_cons_self ..)) hs

/-- An app at 90 Hz that is told of a later display time, and then of an earlier one. -/
theorem predictions_ok_shiftingDisplay :
    Along (paceStep ⟨1000000, 2000000, false, false, false, false, fun _ t => t⟩)
      (PredictsWell ⟨1000000, 2000000, false, false, false, false, fun _ t => t⟩) .create
      [.info 50000000 11111111 5000000, .predict 40000000, .info 61000000 11111111 5000000, .predict 41000000,
        .info 55000000 11111111 5000000, .predict 42000000] :=
  predictions_ok _ _ (by simp [PositivePeriod])

end AugmentedInsanity.Pacing
