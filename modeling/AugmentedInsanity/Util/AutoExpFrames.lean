/-
What the controller of exposure and gain makes of a frame (`get_score`, `update_brightness` and `u_autoexpgain_update` of
`u_autoexpgain.c`). The frame is sampled by two loops whose step is the width divided by 32. An update ends well just if
both loops end, an `int` can count the samples and the format has one pixel in a block (`updated_iff`).
-/
import Mathlib.Algebra.Order.Ring.Rat
import AugmentedInsanity.Lib.WrappingLoops
import AugmentedInsanity.Util.AutoExpGain

namespace AugmentedInsanity.Util

open WrappingLoops

/-! ## Frames -/

inductive XrtFormat
  | r8g8b8x8
  | r8g8b8a8
  | r8g8b8
  | r8g8
  | r8
  | bayerGr8
  | l8
  | bitmap8x1
  | bitmap8x8
  | yuv888
  | yuyv422
  | uyvy422
  | mjpeg
  | bc4
  deriving DecidableEq

namespace XrtFormat

/-- `u_format_block_width`; `none` is a failed assertion. -/
def blockWidth : XrtFormat → Option ℕ
  | r8g8b8x8 | r8g8b8a8 | r8g8b8 | r8g8 | r8 | bayerGr8 | l8 | yuv888 => some 1
  | yuyv422 | uyvy422 => some 2
  | bitmap8x8 | bitmap8x1 => some 8
  | bc4 => some 4
  | mjpeg => none

def blockHeight : XrtFormat → Option ℕ
  | r8g8b8x8 | r8g8b8a8 | r8g8b8 | r8g8 | r8 | bayerGr8 | l8 | bitmap8x1 | yuv888 | yuyv422 | uyvy422 => some 1
  | bitmap8x8 => some 8
  | bc4 => some 4
  | mjpeg => none

def blockSize : XrtFormat → Option UInt64
  | bitmap8x1 | r8 | bayerGr8 | l8 => some 1
  | r8g8 => some 2
  | r8g8b8 | yuv888 => some 3
  | r8g8b8x8 | r8g8b8a8 | yuyv422 | uyvy422 => some 4
  | bc4 | bitmap8x8 => some 8
  | mjpeg => none

theorem blockHeight_of_blockWidth {format : XrtFormat} (hone : format.blockWidth = some 1) :
    format.blockHeight = some 1 := by
  cases format <;> first | rfl | cases hone

end XrtFormat

/-- `struct xrt_frame`; the data is what is at an offset. -/
structure XrtFrame where
  width : UInt32
  height : UInt32
  stride : UInt64
  format : XrtFormat
  data : UInt64 → UInt8

namespace XrtFrame

/-- The frame has a block in this column and row of blocks. -/
def HasBlock (xf : XrtFrame) (x y : UInt32) : Prop :=
  ∃ w ∈ xf.format.blockWidth, ∃ h ∈ xf.format.blockHeight, x.toNat * w < xf.width.toNat ∧ y.toNat * h < xf.height.toNat

instance (xf : XrtFrame) (x y : UInt32) : Decidable (xf.HasBlock x y) := by
  unfold HasBlock
  exact inferInstance

/-- `xf->data[y * xf->stride + x * pixel_size]`; `none` is a read outside of the frame. -/
def read (xf : XrtFrame) (pixelSize : UInt64) (x y : UInt32) : Option UInt8 :=
  if xf.HasBlock x y then some (xf.data (y.toUInt64 * xf.stride + x.toUInt64 * pixelSize)) else none

end XrtFrame

/-! ## Samples -/

/-- The histogram and `samples_count`; both are of `int`, and no level has more than all samples. -/
structure Samples where
  histogram : UInt8 → ℕ
  count : ℕ

def Samples.empty : Samples := ⟨fun _ => 0, 0⟩

/-- The body of the loops of `get_score`; `none` is a read outside of the frame or a count that overflows. -/
def sample (xf : XrtFrame) (pixelSize : UInt64) (y x : UInt32) (s : Samples) : Option Samples :=
  (xf.read pixelSize x y).bind fun intensity =>
    if s.count + 1 ≤ 2147483647 then
      some ⟨fun level => if level = intensity then s.histogram level + 1 else s.histogram level, s.count + 1⟩
    else none

/-- The loops of `get_score`. -/
def samples (fuel : ℕ) (xf : XrtFrame) : Option Samples :=
  let s := xf.width / GRID_COLS
  xf.format.blockSize.bind fun pixelSize =>
    forLoop xf.height s (fun y => forLoop xf.width s (sample xf pixelSize y) fuel 0) fuel 0 .empty

/-! ## Updates -/

section Updates

open FloatOps

variable {F : Type} [FloatOps F]

/-- `float mean`, the sum of the levels over the number of samples. -/
def mean (s : Samples) : F :=
  let sum := (List.range LEVELS).foldl
    (fun sum (i : ℕ) => add sum (mul (ofRat i) (ofRat (s.histogram (.ofNat i))))) (ofRat 0 : F)
  div sum (ofRat s.count)

def targetMean : UAegStrategy → F
  | .tracking => ofRat 64
  | .dynamicRange => ofRat 128

/-- `get_score`, with the histogram that is drawn. -/
def getScore (fuel : ℕ) (aeg : UAutoexpgain F) (xf : XrtFrame) : Option (UAutoexpgain F × F) :=
  (samples fuel xf).map fun s =>
    let aeg := { aeg with histogram := (List.range LEVELS).map fun i => ofRat (s.histogram (.ofNat i)) }
    let mean : F := mean s
    let targetMean := targetMean aeg.strategy
    let rangeSize := if lt mean targetMean then targetMean else sub (ofRat LEVELS) targetMean
    let score := div (sub mean targetMean) rangeSize
    (aeg, fclamp score (ofRat (-1)) (ofRat 1))

def actionOf (aeg : UAutoexpgain F) (score : F) : UAegAction :=
  let targetScore := match aeg.strategy with
    | .tracking => neg aeg.threshold
    | .dynamicRange => ofRat 0
  if lt (add targetScore aeg.threshold) score then .bright
  else if lt score (sub targetScore aeg.threshold) then .dark
  else .good

/-- What `update_brightness` does with the score. -/
def applyScore (aeg : UAutoexpgain F) (score : F) : UAutoexpgain F :=
  let aeg := { aeg with currentScore := score }
  if !aeg.enable then aeg
  else
    let aeg := { aeg with toAegMachine := aeg.toAegMachine.setState (actionOf aeg score) }
    if aeg.state ≠ .brighten ∧ aeg.state ≠ .darken then aeg
    else
      let maxStep := aeg.maxBrightnessStep
      let step := div (mul maxStep score) (powf (ofRat 2) (ofRat aeg.overshoots))
      let brightness := sub aeg.brightness (fclamp step (neg maxStep) maxStep)
      { aeg with brightness := fclamp brightness (ofRat 0) (ofRat 1) }

def updateBrightness (fuel : ℕ) (aeg : UAutoexpgain F) (xf : XrtFrame) : Option (UAutoexpgain F) :=
  (getScore fuel aeg xf).map fun (aeg, score) => applyScore aeg score

/-- `struct step` of `brightness_to_expgain`. -/
structure ExpgainStep where
  b : ℚ
  e : ℚ
  g : ℚ

def expgainSteps : UAegStrategy → List ExpgainStep
  | .tracking =>
    [⟨0, 120, 16⟩, ⟨15 / 100, 4500, 16⟩, ⟨1 / 2, 4500, 127⟩, ⟨55 / 100, 6000, 127⟩, ⟨9 / 10, 6000, 255⟩, ⟨1, 9000, 255⟩]
  | .dynamicRange => [⟨0, 120, 16⟩, ⟨3 / 10, 9000, 16⟩, ⟨1, 9000, 255⟩]

def between (b lowerB higherB lower higher : F) : F :=
  add lower (mul (div (sub b lowerB) (sub higherB lowerB)) (sub higher lower))

def piecewise (b : F) : List ExpgainStep → F × F
  | s0 :: s1 :: rest =>
    if le (ofRat s0.b) b && le b (ofRat s1.b) then
      (between b (ofRat s0.b) (ofRat s1.b) (ofRat s0.e) (ofRat s1.e),
        between b (ofRat s0.b) (ofRat s1.b) (ofRat s0.g) (ofRat s1.g))
    else piecewise b (s1 :: rest)
  | _ => (ofRat 0, ofRat 0)

/-- `brightness_to_expgain`; `none` is a failed assertion. -/
def brightnessToExpgain (strategy : UAegStrategy) (b : F) : Option (F × F) :=
  let steps := expgainSteps strategy
  if 2 ≤ steps.length ∧ steps.head?.all (fun s => eq (ofRat s.b : F) (ofRat 0)) ∧
      steps.getLast?.all (fun s => eq (ofRat s.b : F) (ofRat 1)) ∧ le (ofRat 0) b ∧ le b (ofRat 1) then
    some (piecewise b steps)
  else none

def updateExpgain (aeg : UAutoexpgain F) : Option (UAutoexpgain F) :=
  if eq aeg.lastBrightness aeg.brightness then some aeg
  else (brightnessToExpgain aeg.strategy aeg.brightness).map fun (exposure, gain) =>
    { aeg with lastBrightness := aeg.brightness, exposure, gain }

def uAutoexpgainUpdate (fuel : ℕ) (aeg : UAutoexpgain F) (xf : XrtFrame) : Option (UAutoexpgain F) :=
  (updateBrightness fuel aeg xf).bind updateExpgain

def uAutoexpgainCreate (strategy : UAegStrategy) (enabledFromStart : Bool) (frameDelay : ℤ) :
    Option (UAutoexpgain F) :=
  (brightnessToExpgain strategy (ofRat INITIAL_BRIGHTNESS : F)).map fun (exposure, gain) =>
    { toAegMachine := .create frameDelay
      enable := enabledFromStart
      strategy
      histogram := List.replicate LEVELS (ofRat 0)
      brightness := ofRat INITIAL_BRIGHTNESS
      lastBrightness := ofRat INITIAL_BRIGHTNESS
      maxBrightnessStep := ofRat INITIAL_MAX_BRIGHTNESS_STEP
      currentScore := ofRat 0
      threshold := ofRat INITIAL_THRESHOLD
      exposure
      gain }

end Updates

/-! ## When the loops end -/

/-- The loops end, an `int` can count their rounds, and the frame has a block for each pixel. -/
structure FrameOk (xf : XrtFrame) : Prop where
  onePixel : xf.format.blockWidth = some 1
  ends : ∃ k l, xf.width.toNat ≤ k * (xf.width.toNat / 32) % 2 ^ 32 ∧
    xf.height.toNat ≤ l * (xf.width.toNat / 32) % 2 ^ 32 ∧ k * l ≤ 2147483647

variable {xf : XrtFrame} {pixelSize : UInt64} {fuel n m : ℕ}

theorem toNat_step (xf : XrtFrame) : (xf.width / GRID_COLS).toNat = xf.width.toNat / 32 := UInt32.toNat_div _ _

theorem sample_counted (xf : XrtFrame) (pixelSize : UInt64) (y : UInt32) (s : UInt32) :
    Counted Samples.count 2147483647 1 (fun i : ℕ => xf.HasBlock (nth s i) y)
      fun samples i => sample xf pixelSize y (nth s i) samples := by
  have hsample : ∀ samples x, sample xf pixelSize y x samples =
      if xf.HasBlock x y ∧ samples.count + 1 ≤ 2147483647 then
        some ⟨fun level => if level = xf.data (y.toUInt64 * xf.stride + x.toUInt64 * pixelSize) then
          samples.histogram level + 1 else samples.histogram level, samples.count + 1⟩ else none := by
    intro samples x
    unfold sample XrtFrame.read
    by_cases hblock : xf.HasBlock x y
    · rw [if_pos hblock, Option.bind_some]
      simp only [hblock, true_and]
    · rw [if_neg hblock, if_neg fun h => hblock h.1]
      rfl
  constructor
  · intro samples i
    rw [hsample]
    split_ifs with h
    · exact iff_of_true rfl h
    · exact iff_of_false nofun h
  · intro samples i samples' hsome
    rw [hsample] at hsome
    split_ifs at hsome
    obtain rfl := Option.some.inj hsome
    rfl

theorem range_ne_nil (hn : 0 < n) : List.range n ≠ [] := by
  rw [ne_eq, List.range_eq_nil]
  exact Nat.ne_of_gt hn

theorem row_counted (hn : 0 < n) (xf : XrtFrame) (pixelSize : UInt64) (s : UInt32) :
    Counted Samples.count 2147483647 ((List.range n).length * 1)
      (fun j => ∀ i ∈ List.range n, xf.HasBlock (nth s i) (nth s j)) fun samples j =>
      (List.range n).foldlM (fun samples i => sample xf pixelSize (nth s j) (nth s i) samples) samples := by
  have hblock : ∀ j, Counted Samples.count 2147483647 1 (fun i => xf.HasBlock (nth s i) (nth s j))
      fun samples i => sample xf pixelSize (nth s j) (nth s i) samples := fun j => sample_counted xf pixelSize (nth s j) s
  exact Counted.inner (range_ne_nil hn) hblock

theorem loops_isSome_iff (hn : 0 < n) (hm : 0 < m) (xf : XrtFrame) (pixelSize : UInt64) (s : UInt32) :
    ((List.range m).foldlM (fun samples j => (List.range n).foldlM
        (fun samples i => sample xf pixelSize (nth s j) (nth s i) samples) samples) Samples.empty).isSome ↔
      (∀ j < m, ∀ i < n, xf.HasBlock (nth s i) (nth s j)) ∧ m * n ≤ 2147483647 := by
  rw [(row_counted hn xf pixelSize s).foldlM_isSome_iff (range_ne_nil hm)]
  simp only [List.mem_range, List.length_range, Nat.mul_one]
  have hzero : Samples.empty.count = 0 := rfl
  rw [hzero, Nat.zero_add]

theorem samples_eq (hsize : xf.format.blockSize = some pixelSize) (hn : Stops xf.width (xf.width / GRID_COLS) n)
    (hm : Stops xf.height (xf.width / GRID_COLS) m) (hnf : n < fuel) (hmf : m < fuel) :
    samples fuel xf = (List.range m).foldlM (fun samples j => (List.range n).foldlM
      (fun samples i => sample xf pixelSize (nth (xf.width / GRID_COLS) j) (nth (xf.width / GRID_COLS) i) samples)
      samples) Samples.empty := by
  unfold samples
  rw [hsize, Option.bind_some, forLoop_of_stops hm hmf]
  simp only [forLoop_of_stops hn hnf]

theorem stops_of_samples {s : Samples} (hh : 0 < xf.height) (hsome : samples fuel xf = some s) :
    ∃ pixelSize n m, xf.format.blockSize = some pixelSize ∧ Stops xf.width (xf.width / GRID_COLS) n ∧
      Stops xf.height (xf.width / GRID_COLS) m ∧ n < fuel ∧ m < fuel := by
  obtain ⟨pixelSize, hsize, hloop⟩ := Option.bind_eq_some_iff.mp hsome
  obtain ⟨m, hm, hmf, hfold⟩ := forLoop_eq_some hloop
  obtain ⟨m', rfl⟩ : ∃ m', m = m' + 1 := Nat.exists_eq_succ_of_ne_zero (Nat.ne_of_gt (hm.pos hh))
  rw [List.range_succ_eq_map, List.foldlM_cons] at hfold
  obtain ⟨s', hrow, -⟩ := Option.bind_eq_some_iff.mp hfold
  obtain ⟨n, hn, hnf, -⟩ := forLoop_eq_some hrow
  exact ⟨pixelSize, n, m' + 1, hsize, hn, hm, hnf, hmf⟩

theorem exists_late_sample (hw : 0 < xf.width) (hn : Stops xf.width (xf.width / GRID_COLS) n) :
    ∃ i < n, xf.width.toNat ≤ 2 * (nth (xf.width / GRID_COLS) i).toNat := by
  have hwidth : 0 < xf.width.toNat := UInt32.lt_iff_toNat_lt.mp hw
  have hafter := not_lt_iff.mp hn.after
  rw [toNat_step] at hafter
  have hlt := xf.width.toNat_lt
  have hstep : 0 < xf.width.toNat / 32 := by
    refine Nat.pos_of_ne_zero fun hzero => ?_
    rw [hzero, Nat.mul_zero, Nat.zero_mod] at hafter
    omega
  have hle : (xf.width.toNat - 1) / (xf.width.toNat / 32) * (xf.width.toNat / 32) ≤ xf.width.toNat - 1 :=
    Nat.div_mul_le_self _ _
  have hnext : xf.width.toNat - 1 <
      ((xf.width.toNat - 1) / (xf.width.toNat / 32) + 1) * (xf.width.toNat / 32) :=
    Nat.mul_comm _ _ ▸ Nat.lt_mul_div_succ _ hstep
  refine ⟨(xf.width.toNat - 1) / (xf.width.toNat / 32), ?_, ?_⟩
  · by_contra hge
    have hmul := Nat.mul_le_mul_right (xf.width.toNat / 32) (Nat.le_of_not_lt hge)
    rw [Nat.mod_eq_of_lt (by omega)] at hafter
    omega
  · rw [toNat_nth, toNat_step, Nat.mod_eq_of_lt (by omega)]
    rw [Nat.succ_mul] at hnext
    omega

theorem XrtFormat.blockWidth_pos {format : XrtFormat} {w : ℕ} (hw : w ∈ format.blockWidth) : 0 < w := by
  cases format
  case mjpeg => cases hw
  all_goals
    obtain rfl := Option.some.inj hw
    decide

theorem XrtFormat.blockSize_of_blockWidth {format : XrtFormat} (hone : format.blockWidth = some 1) :
    ∃ pixelSize, format.blockSize = some pixelSize := by
  cases format
  case mjpeg => cases hone
  all_goals exact ⟨_, rfl⟩

theorem exists_samples_iff (hw : 0 < xf.width) (hh : 0 < xf.height) :
    (∃ fuel s, samples fuel xf = some s ∧ s.count ≠ 0) ↔ FrameOk xf := by
  constructor
  · rintro ⟨fuel, s, hsome, -⟩
    obtain ⟨pixelSize, n, m, hsize, hn, hm, hnf, hmf⟩ := stops_of_samples hh hsome
    have hloops := (loops_isSome_iff (hn.pos hw) (hm.pos hh) xf pixelSize (xf.width / GRID_COLS)).mp
      (by rw [← samples_eq hsize hn hm hnf hmf, hsome]; rfl)
    refine ⟨?_, n, m, ?_, ?_, Nat.mul_comm n m ▸ hloops.2⟩
    · obtain ⟨i, hi, hlate⟩ := exists_late_sample hw hn
      obtain ⟨w, hwidth, -, -, hin, -⟩ := hloops.1 0 (hm.pos hh) i hi
      have hpos := XrtFormat.blockWidth_pos hwidth
      have hone : w = 1 := by
        by_contra hne
        have htwo := Nat.mul_le_mul_left (nth (xf.width / GRID_COLS) i).toNat (show 2 ≤ w by omega)
        omega
      exact hone ▸ hwidth
    · exact toNat_step xf ▸ not_lt_iff.mp hn.after
    · exact toNat_step xf ▸ not_lt_iff.mp hm.after
  · rintro ⟨hone, k, l, hk, hl, hcount⟩
    rw [← toNat_step] at hk hl
    obtain ⟨n, hnk, hn⟩ := exists_stops (not_lt_iff.mpr hk)
    obtain ⟨m, hml, hm⟩ := exists_stops (not_lt_iff.mpr hl)
    obtain ⟨pixelSize, hsize⟩ := XrtFormat.blockSize_of_blockWidth hone
    have hmn : m * n ≤ 2147483647 := by
      rw [Nat.mul_comm]
      exact (Nat.mul_le_mul hnk hml).trans hcount
    have hblocks : ∀ j < m, ∀ i < n, xf.HasBlock (nth (xf.width / GRID_COLS) i) (nth (xf.width / GRID_COLS) j) := by
      intro j hj i hi
      refine ⟨1, hone, 1, XrtFormat.blockHeight_of_blockWidth hone, ?_, ?_⟩
      · rw [Nat.mul_one]
        exact UInt32.lt_iff_toNat_lt.mp (hn.before i hi)
      · rw [Nat.mul_one]
        exact UInt32.lt_iff_toNat_lt.mp (hm.before j hj)
    obtain ⟨s, hs⟩ := Option.isSome_iff_exists.mp
      ((loops_isSome_iff (hn.pos hw) (hm.pos hh) xf pixelSize (xf.width / GRID_COLS)).mpr ⟨hblocks, hmn⟩)
    have hadds := (row_counted (hn.pos hw) xf pixelSize (xf.width / GRID_COLS)).foldlM_adds hs
    refine ⟨n + m + 1, s, (samples_eq hsize hn hm (by omega) (by omega)).trans hs, ?_⟩
    rw [hadds, List.length_range, List.length_range, Nat.mul_one]
    exact Nat.ne_of_gt (Nat.lt_of_lt_of_le (Nat.mul_pos (hm.pos hh) (hn.pos hw)) (Nat.le_add_left _ _))

/-! ## Ranges -/

section Ranges

open FloatOps

/-- What the comparisons of floats promise: a number below another is at most the other, and numbers are converted in
their order. -/
class LawfulFloats (F : Type) [FloatOps F] : Prop where
  le_of_lt : ∀ a b : F, lt a b = true → le a b = true
  ofRat_le : ∀ a b : ℚ, a ≤ b → le (ofRat a : F) (ofRat b) = true
  ofRat_eq : ∀ a : ℚ, eq (ofRat a : F) (ofRat a) = true

variable {F : Type} [FloatOps F] {aeg aeg' : UAutoexpgain F}

def Within (a b : ℚ) (x : F) : Prop := le (ofRat a) x = true ∧ le x (ofRat b) = true

structure InRange (aeg : UAutoexpgain F) : Prop where
  score : Within (-1) 1 aeg.currentScore
  brightness : Within 0 1 aeg.brightness
  overshoots : 0 ≤ aeg.overshoots ∧ aeg.overshoots ≤ 3

variable [LawfulFloats F]

theorem within_ofRat {a b x : ℚ} (ha : a ≤ x) (hb : x ≤ b) : Within a b (ofRat x : F) :=
  ⟨LawfulFloats.ofRat_le a x ha, LawfulFloats.ofRat_le x b hb⟩

theorem within_fclamp {a b : ℚ} (hab : a ≤ b) (x : F) : Within a b (fclamp x (ofRat a) (ofRat b)) := by
  unfold fclamp fmin fmax
  split_ifs with hlow hhigh hhigh
  · exact ⟨LawfulFloats.le_of_lt _ _ hlow, LawfulFloats.le_of_lt _ _ hhigh⟩
  · exact within_ofRat hab (le_refl b)
  · exact within_ofRat (le_refl a) hab
  · exact within_ofRat hab (le_refl b)

omit [LawfulFloats F] in
theorem setState_overshoots_range (aeg : AegMachine) (action : UAegAction) :
    0 ≤ (aeg.setState action).overshoots ∧ (aeg.setState action).overshoots ≤ 3 := by
  constructor
  · exact le_min (le_max_right _ _) (by decide)
  · exact min_le_right _ _

theorem brightnessToExpgain_isSome (strategy : UAegStrategy) {b : F} (hb : Within 0 1 b) :
    (brightnessToExpgain strategy b).isSome := by
  unfold brightnessToExpgain
  rw [if_pos]
  · rfl
  · cases strategy
    all_goals exact ⟨by decide, LawfulFloats.ofRat_eq 0, LawfulFloats.ofRat_eq 1, hb⟩

theorem updateExpgain_isSome (hb : Within 0 1 aeg.brightness) : (updateExpgain aeg).isSome := by
  unfold updateExpgain
  split_ifs
  · rfl
  · rw [Option.isSome_map]
    exact brightnessToExpgain_isSome aeg.strategy hb

omit [LawfulFloats F] in
theorem InRange.updateExpgain (h : InRange aeg) (hupdate : updateExpgain aeg = some aeg') : InRange aeg' := by
  unfold Util.updateExpgain at hupdate
  split_ifs at hupdate
  · obtain rfl := Option.some.inj hupdate
    exact h
  · obtain ⟨⟨exposure, gain⟩, -, rfl⟩ := Option.map_eq_some_iff.mp hupdate
    exact ⟨h.score, h.brightness, h.overshoots⟩

omit [LawfulFloats F] in
theorem updateBrightness_eq_some (hupdate : updateBrightness fuel aeg xf = some aeg') :
    ∃ histogram score, aeg' = applyScore { aeg with histogram } (fclamp score (ofRat (-1)) (ofRat 1)) := by
  obtain ⟨⟨aeg₁, score⟩, hscore, rfl⟩ := Option.map_eq_some_iff.mp hupdate
  obtain ⟨s, -, hpair⟩ := Option.map_eq_some_iff.mp hscore
  obtain ⟨rfl, rfl⟩ := Prod.mk.inj hpair
  exact ⟨_, _, rfl⟩

theorem InRange.applyScore (h : InRange aeg) {score : F} (hscore : Within (-1) 1 score) :
    InRange (applyScore aeg score) := by
  unfold Util.applyScore
  dsimp only
  split_ifs
  · exact ⟨hscore, h.brightness, h.overshoots⟩
  · exact ⟨hscore, h.brightness, setState_overshoots_range aeg.toAegMachine _⟩
  · exact ⟨hscore, within_fclamp (by decide +kernel) _, setState_overshoots_range aeg.toAegMachine _⟩

theorem InRange.updateBrightness (h : InRange aeg) (hupdate : updateBrightness fuel aeg xf = some aeg') :
    InRange aeg' := by
  obtain ⟨histogram, score, rfl⟩ := updateBrightness_eq_some hupdate
  have hsame : InRange { aeg with histogram } := ⟨h.score, h.brightness, h.overshoots⟩
  exact hsame.applyScore (within_fclamp (by decide +kernel) score)

/-- What `u_autoexpgain_create`, updates and the debug UI can lead to; the UI keeps the brightness within its limits. -/
inductive Reachable : UAutoexpgain F → Prop
  | create (strategy : UAegStrategy) (enabled : Bool) (frameDelay : ℤ) (aeg : UAutoexpgain F)
      (hcreate : uAutoexpgainCreate strategy enabled frameDelay = some aeg) : Reachable aeg
  | update (fuel : ℕ) (xf : XrtFrame) (aeg aeg' : UAutoexpgain F) (h : Reachable aeg)
      (hupdate : uAutoexpgainUpdate fuel aeg xf = some aeg') : Reachable aeg'
  | edit (enable : Bool) (frameDelay : ℤ) (strategy : UAegStrategy) (brightness threshold maxBrightnessStep : F)
      (hbrightness : Within 0 1 brightness) (aeg : UAutoexpgain F) (h : Reachable aeg) :
      Reachable { aeg with enable, frameDelay, strategy, brightness, threshold, maxBrightnessStep }

theorem Reachable.inRange (h : Reachable aeg) : InRange aeg := by
  induction h with
  | create strategy enabled frameDelay aeg hcreate =>
    obtain ⟨⟨exposure, gain⟩, -, rfl⟩ := Option.map_eq_some_iff.mp hcreate
    exact ⟨within_ofRat (by decide +kernel) (by decide +kernel), within_ofRat (by decide +kernel) (by decide +kernel),
      le_refl 0, (by decide : (0 : ℤ) ≤ 3)⟩
  | update fuel xf aeg aeg' h hupdate ih =>
    obtain ⟨aeg₁, hbrightness, hexpgain⟩ := Option.bind_eq_some_iff.mp hupdate
    exact (ih.updateBrightness hbrightness).updateExpgain hexpgain
  | edit enable frameDelay strategy brightness threshold maxBrightnessStep hbrightness aeg h ih =>
    exact ⟨ih.score, hbrightness, ih.overshoots⟩

/-- An update ends, has divided by the number of some samples, all of the frame, and keeps the ranges. -/
structure Updated (aeg : UAutoexpgain F) (xf : XrtFrame) (fuel : ℕ) (s : Samples) (aeg' : UAutoexpgain F) : Prop where
  sampled : samples fuel xf = some s
  divisor : s.count ≠ 0
  updated : uAutoexpgainUpdate fuel aeg xf = some aeg'
  inRange : InRange aeg'

theorem updated_iff (h : Reachable aeg) (hw : 0 < xf.width) (hh : 0 < xf.height) :
    (∃ fuel s aeg', Updated aeg xf fuel s aeg') ↔ FrameOk xf := by
  rw [← exists_samples_iff hw hh]
  constructor
  · rintro ⟨fuel, s, aeg', hupdated⟩
    exact ⟨fuel, s, hupdated.sampled, hupdated.divisor⟩
  · rintro ⟨fuel, s, hsampled, hdivisor⟩
    have hbrightness : (updateBrightness fuel aeg xf).isSome := by
      unfold updateBrightness getScore
      rw [hsampled]
      rfl
    obtain ⟨aeg₁, haeg₁⟩ := Option.isSome_iff_exists.mp hbrightness
    have hrange := h.inRange.updateBrightness haeg₁
    obtain ⟨aeg', haeg'⟩ := Option.isSome_iff_exists.mp (updateExpgain_isSome hrange.brightness)
    exact ⟨fuel, s, aeg', hsampled, hdivisor, Option.bind_eq_some_iff.mpr ⟨aeg₁, haeg₁, haeg'⟩,
      hrange.updateExpgain haeg'⟩

end Ranges

/-! ## Exact numbers -/

/-- Floats that never round. -/
instance exactFloats : FloatOps ℚ where
  ofRat a := a
  sub a b := a - b
  add a b := a + b
  mul a b := a * b
  div a b := a / b
  neg a := -a
  powf a b := a ^ b.num.toNat
  lt a b := decide (a < b)
  le a b := decide (a ≤ b)
  eq a b := decide (a = b)

instance exactFloats_lawful : LawfulFloats ℚ where
  le_of_lt _ _ hlt := decide_eq_true (le_of_lt (of_decide_eq_true hlt))
  ofRat_le _ _ hle := decide_eq_true hle
  ofRat_eq _ := decide_eq_true rfl

theorem exists_created : ∃ aeg : UAutoexpgain ℚ, Reachable aeg := by
  have hcreate : (uAutoexpgainCreate .tracking true 0 : Option (UAutoexpgain ℚ)).isSome := by
    unfold uAutoexpgainCreate
    rw [Option.isSome_map]
    exact brightnessToExpgain_isSome _ (within_ofRat (by decide +kernel) (by decide +kernel))
  obtain ⟨aeg, haeg⟩ := Option.isSome_iff_exists.mp hcreate
  exact ⟨aeg, .create _ _ _ aeg haeg⟩

def narrowFrame : XrtFrame := ⟨16, 16, 16, .l8, fun _ => 0⟩

/-- The loops make no step in it. -/
theorem not_updated_narrowFrame : ∃ aeg : UAutoexpgain ℚ, Reachable aeg ∧ 0 < narrowFrame.width ∧
    0 < narrowFrame.height ∧ ¬∃ fuel s aeg', Updated aeg narrowFrame fuel s aeg' := by
  obtain ⟨aeg, haeg⟩ := exists_created
  refine ⟨aeg, haeg, by decide, by decide, ?_⟩
  rintro ⟨fuel, s, aeg', hupdated⟩
  obtain ⟨-, k, l, hk, -, -⟩ := (exists_samples_iff (by decide) (by decide)).mp
    ⟨fuel, s, hupdated.sampled, hupdated.divisor⟩
  have hstep : narrowFrame.width.toNat / 32 = 0 := rfl
  rw [hstep, Nat.mul_zero] at hk
  exact absurd hk (by decide)

def cameraFrame : XrtFrame := ⟨640, 480, 640, .l8, fun _ => 0⟩

theorem updated_iff_cameraFrame : ∃ aeg : UAutoexpgain ℚ, Reachable aeg ∧
    ((∃ fuel s aeg', Updated aeg cameraFrame fuel s aeg') ↔ FrameOk cameraFrame) := by
  obtain ⟨aeg, haeg⟩ := exists_created
  exact ⟨aeg, haeg, updated_iff haeg (by decide) (by decide)⟩

end AugmentedInsanity.Util
