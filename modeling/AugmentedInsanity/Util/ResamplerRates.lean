/-
The audio resampler at another sample rate (`u_resampler_write`). It resamples one sample more than the raw write has room
for, and returns the index of the last sample it has used, so that a caller that goes on from there uses it again and never
comes to the end of the source (`promised_iff_nil`). Rates are exact numbers.
-/
import Mathlib.Data.Rat.Floor
import AugmentedInsanity.Util.Resampler

namespace AugmentedInsanity.Util.Resampler

variable {numSamples : ℕ} {S : Type} {r : Resampler numSamples S} {rate sampleRate : ℚ} {samples : List S}
  {target : List S}

/-! ## Rates -/

def toRate (idx : ℕ) (sourceRate targetRate : ℚ) : ℕ := ⌊(idx : ℚ) * (targetRate / sourceRate)⌋₊

/-- The loop of `u_resampler_write` from `target_idx` on: it ends when there is nothing to read or no room to write. -/
def resampleFrom (samples : List S) (rate sampleRate : ℚ) (targetIdx : ℕ) : ℕ → List S
  | 0 => []
  | canWrite + 1 =>
    match samples[toRate targetIdx rate sampleRate]? with
    | none => []
    | some sample => sample :: resampleFrom samples rate sampleRate (targetIdx + 1) canWrite

/-- `target_samples`. -/
def resampled (r : Resampler numSamples S) (rate : ℚ) (samples : List S) (sampleRate : ℚ) : List S :=
  resampleFrom samples rate sampleRate 0 (between numSamples r.writeIndex r.readIndex)

/-- `u_resampler_write` of a resampler of a rate; `none` is a failed assertion. -/
def uResamplerWriteAt (r : Resampler numSamples S) (rate : ℚ) (samples : List S) (sampleRate : ℚ) :
    Option (ℕ × Resampler numSamples S) :=
  if samples.length = 0 then some (0, r)
  else if sampleRate = rate then r.resamplerWriteRaw samples
  else
    let target := r.resampled rate samples sampleRate
    (r.resamplerWriteRaw target).map fun (_, r) => (toRate (target.length - 1) rate sampleRate, r)

def resampledAll (rate : ℚ) (samples : List S) (sampleRate : ℚ) : List S :=
  (List.range ⌈(samples.length : ℚ) * (rate / sampleRate)⌉₊).filterMap fun j => samples[toRate j rate sampleRate]?

/-! ## Callers -/

/-- A caller with what is left of its source, and what its writes have stored. -/
structure Caller (numSamples : ℕ) (S : Type) where
  resampler : Resampler numSamples S
  source : List S
  stored : List S

/-- The samples are written, and those from the returned count on are left. -/
def Caller.submit (rate sampleRate : ℚ) (s : Caller numSamples S) : Option (Caller numSamples S) :=
  (s.resampler.uResamplerWriteAt rate s.source sampleRate).bind fun (count, r) =>
    (s.resampler.resamplerWriteRaw (s.resampler.resampled rate s.source sampleRate)).map fun (written, _) =>
      ⟨r, s.source.drop count, s.stored ++ (s.resampler.resampled rate s.source sampleRate).take written⟩

def Caller.read (num : ℕ) (s : Caller numSamples S) : Caller numSamples S :=
  { s with resampler := (s.resampler.uResamplerRead num).2 }

/-- The caller after a number of submissions, with the samples that are read before each. -/
def Caller.after (rate sampleRate : ℚ) (reads : ℕ → ℕ) (s : Caller numSamples S) : ℕ → Option (Caller numSamples S)
  | 0 => some s
  | k + 1 => (s.after rate sampleRate reads k).bind fun s => (s.read (reads k)).submit rate sampleRate

structure Promised (r : Resampler numSamples S) (rate : ℚ) (samples : List S) (sampleRate : ℚ) : Prop where
  /-- The raw write accepts all that was resampled. -/
  accepts : ∃ r', r.resamplerWriteRaw (r.resampled rate samples sampleRate) =
    some ((r.resampled rate samples sampleRate).length, r')
  count : ∃ count r', r.uResamplerWriteAt rate samples sampleRate = some (count, r') ∧ count ≤ samples.length
  /-- A caller that always finds room comes to the end of the source, and has stored it resampled. -/
  consumed : ∀ reads : ℕ → ℕ,
    (∀ k s, Caller.after rate sampleRate reads ⟨r, samples, []⟩ k = some s → 0 < (s.read (reads k)).resampler.free) →
    ∃ k s, Caller.after rate sampleRate reads ⟨r, samples, []⟩ k = some s ∧ s.source = [] ∧
      s.stored = resampledAll rate samples sampleRate

/-! ## Resampling -/

theorem toRate_zero (sourceRate targetRate : ℚ) : toRate 0 sourceRate targetRate = 0 := by
  rw [toRate, Nat.cast_zero, zero_mul, Nat.floor_zero]

theorem length_resampleFrom_le (samples : List S) (rate sampleRate : ℚ) (targetIdx canWrite : ℕ) :
    (resampleFrom samples rate sampleRate targetIdx canWrite).length ≤ canWrite := by
  induction canWrite generalizing targetIdx with
  | zero => exact le_refl 0
  | succ canWrite ih =>
    unfold resampleFrom
    split
    · exact Nat.zero_le _
    · exact Nat.succ_le_succ (ih _)

theorem toRate_lt {targetIdx canWrite j : ℕ}
    (hj : j < (resampleFrom samples rate sampleRate targetIdx canWrite).length) :
    toRate (targetIdx + j) rate sampleRate < samples.length := by
  induction canWrite generalizing targetIdx j with
  | zero => exact absurd hj (Nat.not_lt_zero j)
  | succ canWrite ih =>
    unfold resampleFrom at hj
    split at hj
    · exact absurd hj (Nat.not_lt_zero j)
    · rename_i sample hsample
      cases j with
      | zero => exact (List.getElem?_eq_some_iff.mp hsample).1
      | succ j =>
        rw [Nat.add_succ, ← Nat.succ_add]
        exact ih (Nat.lt_of_succ_lt_succ hj)

theorem resampled_nil (r : Resampler numSamples S) : r.resampled rate [] sampleRate = [] := by
  unfold resampled
  cases between numSamples r.writeIndex r.readIndex <;> rfl

theorem length_resampled_pos (h : r.Valid) (hne : samples ≠ []) : 0 < (r.resampled rate samples sampleRate).length := by
  have hroom := between_write h
  have hlt := RingFifo.Ring.size_lt (r := r.ring h)
  obtain ⟨canWrite, hcan⟩ : ∃ canWrite, between numSamples r.writeIndex r.readIndex = canWrite + 1 :=
    Nat.exists_eq_succ_of_ne_zero (by omega)
  obtain ⟨sample, rest, rfl⟩ := List.exists_cons_of_ne_nil hne
  unfold resampled
  rw [hcan, resampleFrom, toRate_zero]
  exact Nat.succ_pos _

theorem length_resampled_le (r : Resampler numSamples S) (rate : ℚ) (samples : List S) (sampleRate : ℚ) :
    (r.resampled rate samples sampleRate).length ≤ r.free + 1 := by
  have hle := length_resampleFrom_le samples rate sampleRate 0 (between numSamples r.writeIndex r.readIndex)
  have hfree : r.free = between numSamples r.writeIndex r.readIndex - 1 := rfl
  unfold resampled
  omega

/-! ## The raw write -/

theorem raw_eq_write (hne : target ≠ []) : r.uResamplerWrite target = r.resamplerWriteRaw target :=
  if_neg fun hlength => hne (List.length_eq_zero_iff.mp hlength)

theorem raw_valid (h : r.Valid) (hne : target ≠ []) :
    ∃ written r', r.resamplerWriteRaw target = some (written, r') ∧ r'.Valid := by
  by_cases hfits : min target.length r.free ≤ numSamples - r.writeIndex
  · obtain ⟨r', hvalid, hwrite, -⟩ := write_spec h target hfits
    exact ⟨_, r', raw_eq_write hne ▸ hwrite, hvalid⟩
  · obtain ⟨r', hraw, hreadIndex, hwriteIndex⟩ := raw_round h target (Nat.lt_of_not_le hfits)
    have hpos := readIndex_pos h (by omega)
    refine ⟨_, r', hraw, ?_, ?_, ?_⟩
    · rw [hreadIndex]
      exact h.readIndex
    · rw [hwriteIndex]
      exact Nat.zero_lt_of_lt h.readIndex
    · rw [hreadIndex, hwriteIndex]
      exact Nat.ne_of_gt hpos

theorem raw_nil (r : Resampler numSamples S) : ∃ r', r.resamplerWriteRaw [] = some (0, r') := by
  unfold resamplerWriteRaw
  dsimp only
  split_ifs with hfull hmore
  · exact ⟨_, rfl⟩
  · simp at hmore
  · simp at hmore
  · exact ⟨_, by rw [List.length_nil, Nat.min_zero, Nat.min_zero]⟩

theorem accepts_iff (h : r.Valid) (hne : target ≠ []) (hlength : target.length ≤ r.free + 1) :
    (∃ r', r.resamplerWriteRaw target = some (target.length, r')) ↔
      target.length ≤ r.free ∨ numSamples - r.writeIndex < r.free := by
  have hwrite := h.writeIndex
  by_cases hfits : min target.length r.free ≤ numSamples - r.writeIndex
  · obtain ⟨r', -, hraw, -⟩ := write_spec h target hfits
    rw [raw_eq_write hne] at hraw
    constructor
    · rintro ⟨r'', haccepts⟩
      have hsame := congrArg Prod.fst (Option.some.inj (hraw.symm.trans haccepts))
      dsimp only at hsame
      omega
    · rintro (hle | hround)
      · exact ⟨r', by rw [hraw, Nat.min_eq_left hle]⟩
      · exact ⟨r', by rw [hraw, Nat.min_eq_left (by omega)]⟩
  · obtain ⟨r', hraw, -, -⟩ := raw_round h target (Nat.lt_of_not_le hfits)
    have hfree : r.free = between numSamples r.writeIndex r.readIndex - 1 := rfl
    have hread := h.readIndex
    have hroom : numSamples - r.writeIndex + r.readIndex = r.free + 1 := by
      unfold between at hfree
      split at hfree <;> omega
    refine iff_of_true ⟨r', ?_⟩ (.inr (by omega))
    rw [hraw]
    congr 2
    omega

/-! ## Writes -/

theorem uResamplerWriteAt_spec (h : r.Valid) (hrate : sampleRate ≠ rate) (hne : samples ≠ []) :
    ∃ count r', r.uResamplerWriteAt rate samples sampleRate = some (count, r') ∧ r'.Valid ∧ count < samples.length := by
  have hpos : 0 < (r.resampled rate samples sampleRate).length := length_resampled_pos h hne
  obtain ⟨written, r', hraw, hvalid⟩ := raw_valid h (List.ne_nil_of_length_pos hpos)
  have hlt := toRate_lt (Nat.sub_lt hpos Nat.one_pos)
  rw [Nat.zero_add] at hlt
  refine ⟨_, r', ?_, hvalid, hlt⟩
  unfold uResamplerWriteAt
  rw [if_neg fun hlength => hne (List.length_eq_zero_iff.mp hlength), if_neg hrate]
  dsimp only
  rw [hraw]
  rfl

theorem free_read_all (h : r.Valid) :
    ∃ _ : (r.uResamplerRead numSamples).2.Valid, (r.uResamplerRead numSamples).2.free = numSamples - 2 := by
  have hpos := size_pos h
  have hlt := RingFifo.Ring.size_lt (r := r.ring h)
  have hread := h.readIndex
  have hone : ∀ {r' : Resampler numSamples S} (h' : r'.Valid), (r'.ring h').size = 1 → r'.free = numSamples - 2 := by
    intro r' h' hsize
    have hroom := between_write h'
    unfold free
    omega
  unfold uResamplerRead
  simp only [between_read h]
  set read := min ((r.ring h).size - 1) (min (numSamples - r.readIndex) numSamples) with hmin
  obtain ⟨hvalid, -, hsize⟩ := skip_spec h read (by omega) (by omega)
  split
  · rename_i hmore
    have hstart : wrapAdd numSamples r.readIndex read = 0 := by
      have hall : r.readIndex + read = numSamples := by omega
      rw [wrapAdd, hall, Nat.mod_self]
    obtain ⟨hvalid', -, hsize'⟩ := skip_spec hvalid (min ((r.ring h).size - 1 - read) (numSamples - read))
      (by omega) (by simp only [hstart]; omega)
    have hlast : (ring _ hvalid').size = 1 := by omega
    exact ⟨hvalid', hone hvalid' hlast⟩
  · rename_i hless
    have hlast : (ring _ hvalid).size = 1 := by omega
    exact ⟨hvalid, hone hvalid hlast⟩

theorem Caller.after_source (h : r.Valid) (hrate : sampleRate ≠ rate) (hne : samples ≠ []) (k : ℕ)
    {s : Caller numSamples S} (hs : Caller.after rate sampleRate (fun _ => numSamples) ⟨r, samples, []⟩ k = some s) :
    s.resampler.Valid ∧ s.source ≠ [] := by
  induction k generalizing s with
  | zero =>
    obtain rfl := Option.some.inj hs
    exact ⟨h, hne⟩
  | succ k ih =>
    obtain ⟨s₁, hs₁, hsubmit⟩ := Option.bind_eq_some_iff.mp hs
    obtain ⟨hvalid, hleft⟩ := ih hs₁
    obtain ⟨hread, -⟩ := free_read_all hvalid
    obtain ⟨count, r', hwrite, hvalid', hlt⟩ := uResamplerWriteAt_spec hread hrate hleft
    obtain ⟨⟨count', r''⟩, hwrite', hrest⟩ := Option.bind_eq_some_iff.mp hsubmit
    obtain ⟨-, -, rfl⟩ := Option.map_eq_some_iff.mp hrest
    obtain ⟨rfl, rfl⟩ := Prod.mk.inj (Option.some.inj (hwrite.symm.trans hwrite'))
    refine ⟨hvalid', fun hnil => ?_⟩
    have hlength := List.drop_eq_nil_iff.mp hnil
    exact Nat.not_le_of_lt hlt hlength

theorem not_promised (h : r.Valid) (hrate : sampleRate ≠ rate) (hne : samples ≠ []) :
    ¬r.Promised rate samples sampleRate := by
  intro hpromised
  have hpos : 0 < (r.resampled rate samples sampleRate).length := length_resampled_pos h hne
  rcases Nat.lt_or_ge 2 numSamples with hmore | hfew
  · obtain ⟨k, s, hs, hnil, -⟩ := hpromised.consumed (fun _ => numSamples) fun k s hs => by
      obtain ⟨-, hfree⟩ := free_read_all (Caller.after_source h hrate hne k hs).1
      have hroom : 0 < numSamples - 2 := by omega
      exact hfree ▸ hroom
    exact (Caller.after_source h hrate hne k hs).2 hnil
  · -- in a buffer of two samples, there is no free slot
    have hroom := between_write h
    have hsize := size_pos h
    have hfree : r.free = between numSamples r.writeIndex r.readIndex - 1 := rfl
    rcases (accepts_iff h (List.ne_nil_of_length_pos hpos) (length_resampled_le r rate samples sampleRate)).mp
      hpromised.accepts with hle | hround <;> omega

theorem promised_nil (r : Resampler numSamples S) : r.Promised rate [] sampleRate := by
  refine ⟨?_, ⟨0, r, rfl, le_refl 0⟩, fun _ _ => ⟨0, _, rfl, rfl, ?_⟩⟩
  · rw [resampled_nil]
    exact raw_nil r
  · unfold resampledAll
    rw [List.length_nil, Nat.cast_zero, zero_mul, Nat.ceil_zero]
    rfl

/-- What is promised of a write at another rate holds just if there is nothing to write. -/
theorem promised_iff_nil (h : r.Valid) (hrate : sampleRate ≠ rate) :
    r.Promised rate samples sampleRate ↔ samples = [] := by
  constructor
  · intro hpromised
    by_contra hne
    exact not_promised h hrate hne hpromised
  · rintro rfl
    exact promised_nil r

theorem create_valid : (create : Resampler 4 ℕ).Valid := ⟨by decide, by decide, by decide⟩

/-- Two samples at twice the rate: one is resampled and stored, and the count that is returned is zero. -/
theorem not_promised_twice : ¬(create : Resampler 4 ℕ).Promised 1 [1, 2] 2 :=
  not_promised create_valid (by decide) (by decide)

theorem promised_iff_twice : (create : Resampler 4 ℕ).Promised 1 [1, 2] 2 ↔ [1, 2] = ([] : List ℕ) :=
  promised_iff_nil create_valid (by decide)

end AugmentedInsanity.Util.Resampler
