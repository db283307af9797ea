/-
The audio resampler (`u_resampler.c`), as far as it does not resample: a ring of samples that is written at the rate it has.
Between the read and the write index are the samples that have not been read, at first one silent sample, and one slot is
kept free. A write that goes round the end of the ring leaves its write index at the start of it, so that what it has put
there is lost. Everything is read as it was accepted exactly if no write goes round (`resampler_iff`).
-/
import AugmentedInsanity.Lib.RingFifo
import AugmentedInsanity.Lib.Runs
import Mathlib.Algebra.Ring.Nat

namespace AugmentedInsanity.Util

open RingFifo Runs

variable {numSamples : ℕ} {S : Type}

/-- `struct u_resampler`, without what resampling needs. Samples are only copied. -/
structure Resampler (numSamples : ℕ) (S : Type) where
  samples : ℕ → S
  readIndex : ℕ
  writeIndex : ℕ

namespace Resampler

/-- `u_resampler_create`; `0` is the silent sample. -/
def create [Zero S] : Resampler numSamples S := ⟨fun _ => 0, 0, 1⟩

def wrapAdd (numSamples a b : ℕ) : ℕ := (a + b) % numSamples

def between (numSamples a b : ℕ) : ℕ := if b > a then b - a else numSamples - a + b

def uResamplerRead (r : Resampler numSamples S) (num : ℕ) : List S × Resampler numSamples S :=
  let samplesInBuffer := between numSamples r.readIndex r.writeIndex - 1
  let untilEnd := numSamples - r.readIndex
  let read := min samplesInBuffer (min untilEnd num)
  let samples := Ring.slice r.samples r.readIndex read
  let num := num - read
  let r := { r with readIndex := wrapAdd numSamples r.readIndex read }
  let samplesInBuffer := samplesInBuffer - read
  if num > 0 ∧ samplesInBuffer > 0 then
    let read := min samplesInBuffer num
    (samples ++ Ring.slice r.samples r.readIndex read, { r with readIndex := wrapAdd numSamples r.readIndex read })
  else (samples, r)

/-- `none` is a failed assertion. -/
def resamplerWriteRaw (r : Resampler numSamples S) (samples : List S) : Option (ℕ × Resampler numSamples S) :=
  let num := samples.length
  let canWrite := between numSamples r.writeIndex r.readIndex - 1
  if canWrite = 0 then some (0, r)
  else
    let untilEnd := numSamples - r.writeIndex
    let written := min canWrite (min untilEnd num)
    let num := num - written
    let canWrite := canWrite - written
    let r : Resampler numSamples S :=
      { r with
        samples := Ring.copy r.samples r.writeIndex (samples.take written)
        writeIndex := wrapAdd numSamples r.writeIndex written }
    let samples := samples.drop written
    if num > 0 ∧ canWrite > 0 then
      if r.writeIndex = 0 then
        let writtenAfterStart := min r.readIndex num
        some (written + writtenAfterStart,
          { r with samples := Ring.copy r.samples r.writeIndex (samples.take writtenAfterStart) })
      else none
    else some (written, r)

/-- `u_resampler_write` at the resampler's own sample rate. -/
def uResamplerWrite (r : Resampler numSamples S) (samples : List S) : Option (ℕ × Resampler numSamples S) :=
  if samples.length = 0 then some (0, r) else r.resamplerWriteRaw samples

/-! ## The ring -/

/-- Both indices are in the buffer, and they are not the same. -/
structure Valid (r : Resampler numSamples S) : Prop where
  readIndex : r.readIndex < numSamples
  writeIndex : r.writeIndex < numSamples
  ne : r.readIndex ≠ r.writeIndex

variable {r : Resampler numSamples S}

def ring (r : Resampler numSamples S) (h : r.Valid) : Ring numSamples S :=
  ⟨r.samples, r.readIndex, r.writeIndex, h.readIndex, h.writeIndex⟩

theorem size_ring (h : r.Valid) :
    (r.ring h).size =
      if r.readIndex ≤ r.writeIndex then r.writeIndex - r.readIndex else r.writeIndex + numSamples - r.readIndex :=
  rfl

theorem between_read (h : r.Valid) : between numSamples r.readIndex r.writeIndex = (r.ring h).size := by
  have hne := h.ne
  have hread := h.readIndex
  rw [size_ring, between]
  split_ifs <;> omega

theorem between_write (h : r.Valid) :
    between numSamples r.writeIndex r.readIndex + (r.ring h).size = numSamples := by
  have hne := h.ne
  have hread := h.readIndex
  have hwrite := h.writeIndex
  rw [size_ring, between]
  split_ifs <;> omega

def contents (r : Resampler numSamples S) : List S :=
  (List.range (between numSamples r.readIndex r.writeIndex)).map fun k => r.samples (wrapAdd numSamples r.readIndex k)

theorem contents_eq (h : r.Valid) : r.contents = (r.ring h).contents := by
  rw [contents, between_read h]
  rfl

theorem size_pos (h : r.Valid) : 0 < (r.ring h).size := by
  have hne := h.ne
  have hread := h.readIndex
  have hwrite := h.writeIndex
  rw [size_ring]
  split_ifs <;> omega

theorem skip_spec (h : r.Valid) (read : ℕ) (hread : read < (r.ring h).size) (hend : r.readIndex + read ≤ numSamples) :
    ∃ h' : ({ r with readIndex := wrapAdd numSamples r.readIndex read } : Resampler numSamples S).Valid,
      (r.ring h).contents = Ring.slice r.samples r.readIndex read ++ (ring _ h').contents ∧
        (ring _ h').size + read = (r.ring h).size := by
  have hvalid : ({ r with readIndex := wrapAdd numSamples r.readIndex read } : Resampler numSamples S).Valid := by
    refine ⟨Nat.mod_lt _ (Nat.zero_lt_of_lt h.readIndex), h.writeIndex, fun heq => ?_⟩
    have hlt := Ring.size_lt (r := r.ring h)
    have hsize := (Ring.mod_eq_stop_iff (r := r.ring h) (Nat.lt_trans hread hlt)).1 heq
    omega
  exact ⟨hvalid, Ring.contents_skip (r := r.ring h) (Nat.le_of_lt hread) hend,
    Ring.size_skip (r := r.ring h) (Nat.le_of_lt hread)⟩

theorem read_spec (h : r.Valid) (num : ℕ) :
    ∃ h' : (r.uResamplerRead num).2.Valid,
      (r.ring h).contents = (r.uResamplerRead num).1 ++ ((r.uResamplerRead num).2.ring h').contents := by
  have hpos := size_pos h
  have hlt := Ring.size_lt (r := r.ring h)
  have hread := h.readIndex
  unfold uResamplerRead
  simp only [between_read h]
  set read := min ((r.ring h).size - 1) (min (numSamples - r.readIndex) num) with hmin
  obtain ⟨hvalid, hcontents, hsize⟩ := skip_spec h read (by omega) (by omega)
  split
  · rename_i hmore
    -- the rest is read from the start of the buffer
    have hstart : wrapAdd numSamples r.readIndex read = 0 := by
      have hall : r.readIndex + read = numSamples := by omega
      rw [wrapAdd, hall, Nat.mod_self]
    obtain ⟨hvalid', hcontents', -⟩ := skip_spec hvalid (min ((r.ring h).size - 1 - read) (num - read))
      (by omega) (by simp only [hstart]; omega)
    refine ⟨hvalid', ?_⟩
    rw [hcontents, hcontents', List.append_assoc]
  · exact ⟨hvalid, hcontents⟩

theorem fill_spec (h : r.Valid) (l : List S) (hroom : (r.ring h).size + l.length < numSamples)
    (hend : r.writeIndex + l.length ≤ numSamples) :
    ∃ h' : ({ r with
        samples := Ring.copy r.samples r.writeIndex l
        writeIndex := wrapAdd numSamples r.writeIndex l.length } : Resampler numSamples S).Valid,
      (ring _ h').contents = (r.ring h).contents ++ l := by
  have hfill := Ring.contents_fill (r := r.ring h) hroom hend
  have hvalid : ({ r with
      samples := Ring.copy r.samples r.writeIndex l
      writeIndex := wrapAdd numSamples r.writeIndex l.length } : Resampler numSamples S).Valid := by
    refine ⟨h.readIndex, Nat.mod_lt _ (Nat.zero_lt_of_lt h.readIndex), fun heq => ?_⟩
    have hsize := Ring.size_fill (r := r.ring h) hroom
    have hpos := size_pos h
    have hmeet : ((r.ring h).fill l).start = ((r.ring h).fill l).stop := heq
    rw [Ring.size, hmeet, if_pos (Nat.le_refl _), Nat.sub_self] at hsize
    omega
  exact ⟨hvalid, hfill⟩

/-- The free slots, without the one that is kept free. -/
def free (r : Resampler numSamples S) : ℕ := between numSamples r.writeIndex r.readIndex - 1

theorem write_spec (h : r.Valid) (samples : List S) (hfits : min samples.length r.free ≤ numSamples - r.writeIndex) :
    ∃ (r' : Resampler numSamples S) (h' : r'.Valid),
      r.uResamplerWrite samples = some (min samples.length r.free, r') ∧
        (r'.ring h').contents = (r.ring h).contents ++ samples.take (min samples.length r.free) := by
  have hroom := between_write h
  have hwrite := h.writeIndex
  have hfree : r.free = between numSamples r.writeIndex r.readIndex - 1 := rfl
  have hnone : min samples.length r.free = 0 → samples.take (min samples.length r.free) = [] := fun hzero => by
    rw [hzero, List.take_zero]
  unfold uResamplerWrite resamplerWriteRaw
  simp only [← hfree]
  split
  · rename_i hempty
    exact ⟨r, h, by rw [hempty, Nat.zero_min], by rw [hnone (by omega), List.append_nil]⟩
  · split
    · rename_i hfull
      exact ⟨r, h, by rw [hfull, Nat.min_zero], by rw [hnone (by omega), List.append_nil]⟩
    · have hall : min r.free (min (numSamples - r.writeIndex) samples.length) = min samples.length r.free := by omega
      have hlength : (samples.take (min samples.length r.free)).length = min samples.length r.free := by
        rw [List.length_take]
        omega
      obtain ⟨hvalid, hcontents⟩ := fill_spec h (samples.take (min samples.length r.free))
        (by omega) (by omega)
      rw [hall, if_neg (by omega)]
      simp only [hlength] at hvalid hcontents
      exact ⟨_, hvalid, rfl, hcontents⟩

theorem raw_round (h : r.Valid) (samples : List S) (hround : numSamples - r.writeIndex < min samples.length r.free) :
    ∃ r' : Resampler numSamples S,
      r.resamplerWriteRaw samples = some (numSamples - r.writeIndex +
        min r.readIndex (samples.length - (numSamples - r.writeIndex)), r') ∧
      r'.readIndex = r.readIndex ∧ r'.writeIndex = 0 := by
  have hwrite := h.writeIndex
  have hfree : r.free = between numSamples r.writeIndex r.readIndex - 1 := rfl
  have hfirst : min r.free (min (numSamples - r.writeIndex) samples.length) = numSamples - r.writeIndex := by omega
  have hzero : wrapAdd numSamples r.writeIndex (numSamples - r.writeIndex) = 0 := by
    rw [wrapAdd, Nat.add_sub_cancel' (Nat.le_of_lt hwrite), Nat.mod_self]
  unfold resamplerWriteRaw
  simp only [← hfree]
  rw [if_neg (by omega), hfirst, if_pos (by omega), if_pos hzero]
  exact ⟨_, rfl, rfl, hzero⟩

theorem readIndex_pos (h : r.Valid) (hround : numSamples - r.writeIndex < r.free) : 0 < r.readIndex := by
  have hwrite := h.writeIndex
  have hfree : r.free = between numSamples r.writeIndex r.readIndex - 1 := rfl
  unfold between at hfree
  split at hfree <;> omega

theorem write_round (h : r.Valid) (samples : List S) (hround : numSamples - r.writeIndex < min samples.length r.free) :
    ∃ (r' : Resampler numSamples S) (written : ℕ),
      r.uResamplerWrite samples = some (written, r') ∧ written ≤ samples.length ∧
        numSamples - r.writeIndex < written ∧ r'.readIndex = r.readIndex ∧ r'.writeIndex = 0 := by
  obtain ⟨r', hraw, hreadIndex, hwriteIndex⟩ := raw_round h samples hround
  have hpos := readIndex_pos h (by omega)
  have hnonempty : ¬samples.length = 0 := by omega
  have hsame : r.uResamplerWrite samples = r.resamplerWriteRaw samples := if_neg hnonempty
  exact ⟨r', _, hsame.trans hraw, by omega, by omega, hreadIndex, hwriteIndex⟩

theorem free_eq (h : r.Valid) : r.free = numSamples - 1 - r.contents.length := by
  have hroom := between_write h
  rw [contents_eq h, Ring.length_contents, free]
  omega

end Resampler

/-! ## Runs -/

/-- A resampler, and what was read from it and what writes have reported as accepted. -/
structure ResamplerRun (numSamples : ℕ) (S : Type) where
  resampler : Resampler numSamples S
  reads : List S
  accepted : List S

inductive ResamplerCall (S : Type)
  | read (num : ℕ)
  | write (samples : List S)
  deriving DecidableEq

namespace ResamplerRun

def create [Zero S] : ResamplerRun numSamples S := ⟨.create, [], []⟩

def step (s : ResamplerRun numSamples S) : ResamplerCall S → Option (ResamplerRun numSamples S)
  | .read num =>
    some
      { s with
        resampler := (s.resampler.uResamplerRead num).2
        reads := s.reads ++ (s.resampler.uResamplerRead num).1 }
  | .write samples =>
    (s.resampler.uResamplerWrite samples).map fun (written, r) =>
      { s with resampler := r, accepted := s.accepted ++ samples.take written }

variable [Zero S]

/-- What was read and what has not been read yet is the silent sample and all that was accepted. -/
def NothingLost (s : ResamplerRun numSamples S) : Prop := s.reads ++ s.resampler.contents = 0 :: s.accepted

/-- What is promised of a call: no assertion fails, a write accepts what there is room for, what was read is a prefix of
the silent sample and what was accepted, and nothing is lost. -/
def Promised (s : ResamplerRun numSamples S) (call : ResamplerCall S) : Prop :=
  (∃ s', s.step call = some s' ∧ s'.reads <+: 0 :: s'.accepted ∧ s'.NothingLost) ∧
    ∀ samples, call = .write samples →
      ∃ r, s.resampler.uResamplerWrite samples =
        some (min samples.length (numSamples - 1 - s.resampler.contents.length), r)

omit [Zero S] in
/-- What a write can take does not go round the end of the buffer. -/
def BeforeEnd (s : ResamplerRun numSamples S) (call : ResamplerCall S) : Prop :=
  ∀ samples, call = .write samples → min samples.length s.resampler.free ≤ numSamples - s.resampler.writeIndex

structure RunInv (s : ResamplerRun numSamples S) : Prop where
  valid : s.resampler.Valid
  nothingLost : s.NothingLost

variable {s : ResamplerRun numSamples S} {s' : ResamplerRun numSamples S}

theorem NothingLost.begins (h : s.NothingLost) : s.reads <+: 0 :: s.accepted := ⟨_, h⟩

theorem RunInv.read (h : s.RunInv) (num : ℕ) (hstep : s.step (.read num) = some s') : s'.RunInv := by
  obtain ⟨hvalid, hcontents⟩ := s.resampler.read_spec h.valid num
  rw [step, Option.some.injEq] at hstep
  subst hstep
  refine ⟨hvalid, ?_⟩
  have hlost := h.nothingLost
  unfold NothingLost at hlost ⊢
  simp only
  rw [List.append_assoc, Resampler.contents_eq hvalid, ← hcontents, ← Resampler.contents_eq h.valid, hlost]

theorem RunInv.write (h : s.RunInv) {samples : List S} (hend : s.BeforeEnd (.write samples)) :
    ∃ r, s.resampler.uResamplerWrite samples = some (min samples.length s.resampler.free, r) ∧
      ({ s with
        resampler := r
        accepted := s.accepted ++ samples.take (min samples.length s.resampler.free) } :
        ResamplerRun numSamples S).RunInv := by
  obtain ⟨r, hvalid, hwrite, hcontents⟩ := s.resampler.write_spec h.valid samples (hend samples rfl)
  refine ⟨r, hwrite, hvalid, ?_⟩
  have hlost := h.nothingLost
  unfold NothingLost at hlost ⊢
  simp only
  rw [Resampler.contents_eq hvalid, hcontents, ← Resampler.contents_eq h.valid, ← List.append_assoc, hlost]
  rfl

theorem RunInv.not_promised (h : s.RunInv) {samples : List S}
    (hround : numSamples - s.resampler.writeIndex < min samples.length s.resampler.free) :
    ¬s.Promised (.write samples) := by
  rintro ⟨⟨s', hstep, -, hlost'⟩, -⟩
  obtain ⟨r', written, hwrite, hle, hlt, hreadIndex, hwriteIndex⟩ := s.resampler.write_round h.valid samples hround
  simp only [step, hwrite, Option.map_some, Option.some.injEq] at hstep
  subst hstep
  have hbefore := congrArg List.length h.nothingLost
  have hafter := congrArg List.length hlost'
  have hvalid := h.valid.readIndex
  have hpos := Resampler.size_pos h.valid
  simp only [List.length_append, List.length_cons, Resampler.contents, List.length_map, List.length_range,
    List.length_take, hreadIndex, hwriteIndex] at hbefore hafter
  rw [Nat.min_eq_left hle, Resampler.between, if_neg (Nat.not_lt_zero _)] at hafter
  rw [Resampler.between_read h.valid] at hbefore
  have hroom := Resampler.between_write h.valid
  have hfree : s.resampler.free = Resampler.between numSamples s.resampler.writeIndex s.resampler.readIndex - 1 := rfl
  -- more was accepted than the samples up to the end of the buffer
  have hbetween := Resampler.between_read h.valid
  unfold Resampler.between at hfree hbetween hroom
  split_ifs at hfree hbetween hroom <;> omega

theorem RunInv.promised_iff (h : s.RunInv) (call : ResamplerCall S) : s.Promised call ↔ s.BeforeEnd call := by
  cases call with
  | read num =>
    refine iff_of_true ⟨⟨_, rfl, ?_⟩, by rintro samples ⟨⟩⟩ (by rintro samples ⟨⟩)
    have hlost := (h.read num rfl).nothingLost
    exact ⟨hlost.begins, hlost⟩
  | write samples =>
    by_cases hend : min samples.length s.resampler.free ≤ numSamples - s.resampler.writeIndex
    · have hbefore : s.BeforeEnd (.write samples) := by
        rintro samples' ⟨⟩
        exact hend
      obtain ⟨r, hwrite, hinv⟩ := h.write hbefore
      refine iff_of_true ⟨⟨_, ?_, hinv.nothingLost.begins, hinv.nothingLost⟩, ?_⟩ hbefore
      · rw [step, hwrite]
        rfl
      · rintro samples' ⟨⟩
        rw [← Resampler.free_eq h.valid]
        exact ⟨r, hwrite⟩
    · refine iff_of_false (h.not_promised (Nat.lt_of_not_le hend)) fun hbefore => hend ?_
      exact hbefore samples rfl

theorem RunInv.step (h : s.RunInv) {call : ResamplerCall S} (hend : s.BeforeEnd call) (hstep : s.step call = some s') :
    s'.RunInv := by
  cases call with
  | read num => exact h.read num hstep
  | write samples =>
    obtain ⟨r, hwrite, hinv⟩ := h.write hend
    rw [ResamplerRun.step, hwrite] at hstep
    cases hstep
    exact hinv

theorem runInv_create (h : 2 ≤ numSamples) : (create : ResamplerRun numSamples S).RunInv := by
  refine ⟨⟨Nat.lt_of_lt_of_le Nat.zero_lt_two h, h, Nat.zero_ne_one⟩, ?_⟩
  unfold NothingLost
  rfl

/-- What is promised holds all along a run exactly if no write of the run goes round the end of the buffer. -/
theorem resampler_iff (h : 2 ≤ numSamples) (calls : List (ResamplerCall S)) :
    Along step Promised (create : ResamplerRun numSamples S) calls ↔
      Along step BeforeEnd (create : ResamplerRun numSamples S) calls :=
  along_iff (fun _ call hinv => hinv.promised_iff call) (fun _ _ _ hinv hend hstep => hinv.step hend hstep)
    (runInv_create h) calls

def upToEnd : List (ResamplerCall ℕ) := [.write [1, 2], .read 2]

theorem resampler_iff_upToEnd : Along step Promised (create : ResamplerRun 4 ℕ) upToEnd := by
  refine (resampler_iff (by decide) upToEnd).2 ⟨?_, ?_, trivial⟩
  · rintro samples ⟨⟩
    decide
  · rintro samples ⟨⟩

/-- The next write goes round. It reports three samples as accepted, of which two are overwritten by the write after it,
and `6` is read where `4` was accepted. -/
theorem round_loses :
    ∃ s, Reaches step (create : ResamplerRun 4 ℕ) (upToEnd ++ [.write [3, 4, 5], .read 1, .write [6, 7], .read 3]) s ∧
      s.accepted = [1, 2, 3, 4, 5, 6, 7] ∧ ¬s.reads <+: 0 :: s.accepted := by
  refine ⟨_, ⟨_, rfl, _, rfl, _, rfl, _, rfl, _, rfl, _, rfl, rfl⟩, rfl, ?_⟩
  decide

end ResamplerRun

end AugmentedInsanity.Util
