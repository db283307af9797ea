/-
The estimates of the offset of two clocks (`m_clock_tracking.c`). A step of the moving average is the weighted mean of
the least skew and of the average so far as long as their weighted sum is a `size_t`, and then it is between what was
observed (`estimates_between`); a sum below zero comes out at half of the range. No jump is ever noticed, so the
estimates after it keep what was before (`not_restarts`).
-/
import AugmentedInsanity.Math.ClockTracking

namespace AugmentedInsanity.Math

open Checked64 Runs

namespace MClockWindowedSkewTracker

variable {t t' : MClockWindowedSkewTracker} {since seen : List MClockObservation} {obs : MClockObservation}

/-! ## Averages -/

/-- The smoothed skew is between the smallest and the largest that were observed. -/
def Between (t : MClockWindowedSkewTracker) (seen : List MClockObservation) : Prop :=
  (∃ obs ∈ seen, obs.skew ≤ t.currentSkew) ∧ ∃ obs ∈ seen, t.currentSkew ≤ obs.skew

/-- There is one observation in the window, or the weighted sum of the least skew and of the average so far is a
`size_t`. -/
def SumFits (s : MClockWindowedSkewTracker × List MClockObservation) (ts : Int64 × Int64) : Prop :=
  ∀ obs ∈ mClockObservationInit ts.1 ts.2,
    ((obs :: s.2).take s.1.maxWindowSamples).length = 1 ∨
      ∀ least ∈ (obs :: s.2).take s.1.maxWindowSamples,
        (∀ other ∈ (obs :: s.2).take s.1.maxWindowSamples, least.skew ≤ other.skew) →
          0 ≤ least.skew.toInt + s.1.currentSkew.toInt * (((obs :: s.2).take s.1.maxWindowSamples).length - 1) ∧
            least.skew.toInt + s.1.currentSkew.toInt * (((obs :: s.2).take s.1.maxWindowSamples).length - 1) < 2 ^ 64

instance (s : MClockWindowedSkewTracker × List MClockObservation) (ts : Int64 × Int64) : Decidable (SumFits s ts) := by
  unfold SumFits
  infer_instance

instance (t : MClockWindowedSkewTracker) (seen : List MClockObservation) : Decidable (t.Between seen) := by
  unfold Between
  infer_instance

theorem movingAverage_one (currentMinSkew currentSkew : Int64) :
    movingAverage currentMinSkew currentSkew 1 = currentMinSkew := by
  unfold movingAverage
  rw [UInt64.sub_self, UInt64.mul_zero, UInt64.add_zero, UInt64.div_one]
  rfl

theorem movingAverage_between {currentMinSkew currentSkew : Int64} {w : UInt64} {lo hi : Int64} (hw : 0 < w.toNat)
    (hfits : 0 ≤ currentMinSkew.toInt + currentSkew.toInt * (w.toNat - 1) ∧
      currentMinSkew.toInt + currentSkew.toInt * (w.toNat - 1) < 2 ^ 64)
    (hmin : lo ≤ currentMinSkew ∧ currentMinSkew ≤ hi) (hskew : lo ≤ currentSkew ∧ currentSkew ≤ hi) :
    lo ≤ movingAverage currentMinSkew currentSkew w ∧ movingAverage currentMinSkew currentSkew w ≤ hi := by
  simp only [Int64.le_iff_toInt_le] at hmin hskew ⊢
  obtain ⟨hlo, hhi⟩ := weighted_between (w := w.toNat) (by omega) hmin hskew
  rw [movingAverage, toInt_toInt64_div hw hfits (Int.lt_of_le_of_lt hhi hi.toInt_lt)]
  exact ⟨hlo, hhi⟩

theorem exists_bounds {m s : Int64} (hm : ∃ obs ∈ seen, obs.skew = m)
    (hs : (∃ obs ∈ seen, obs.skew ≤ s) ∧ ∃ obs ∈ seen, s ≤ obs.skew) :
    ∃ lo ∈ seen, ∃ hi ∈ seen, (lo.skew ≤ m ∧ m ≤ hi.skew) ∧ lo.skew ≤ s ∧ s ≤ hi.skew := by
  obtain ⟨least, hleast, rfl⟩ := hm
  obtain ⟨⟨below, hbelow, hle⟩, above, habove, hge⟩ := hs
  have hlo : ∃ lo ∈ seen, lo.skew ≤ least.skew ∧ lo.skew ≤ s := by
    rcases Int64.le_total least.skew below.skew with h | h
    · exact ⟨least, hleast, Int64.le_refl _, Int64.le_trans h hle⟩
    · exact ⟨below, hbelow, h, hle⟩
  have hhi : ∃ hi ∈ seen, least.skew ≤ hi.skew ∧ s ≤ hi.skew := by
    rcases Int64.le_total least.skew above.skew with h | h
    · exact ⟨above, habove, h, hge⟩
    · exact ⟨least, hleast, Int64.le_refl _, Int64.le_trans hge h⟩
  obtain ⟨lo, hlo, hlom, hlos⟩ := hlo
  obtain ⟨hi, hhi, hhim, hhis⟩ := hhi
  exact ⟨lo, hlo, hi, hhi, ⟨hlom, hhim⟩, hlos, hhis⟩

theorem observe_between {ts : Int64 × Int64} (h : t.Tracks seen) (hmax : 0 < t.maxWindowSamples)
    (hsize : t.maxWindowSamples < 2 ^ 64) (hfresh : t.haveLastObservation = false)
    (hbetween : seen ≠ [] → t.Between seen) (hinit : mClockObservationInit ts.1 ts.2 = some obs)
    (hfits : SumFits (t, seen) ts) (hobs : t.observe obs = some t') : t'.Between (obs :: seen) := by
  rw [observe_of_fresh hfresh] at hobs
  have hnoted : Tracks { t with lastObservation := obs } seen := ⟨h.length_window, h.samples, h.pos, h.stored, h.least⟩
  obtain ⟨u, hstore, htracks⟩ := hnoted.store obs hmax
  rw [hstore] at hobs
  cases hobs
  obtain ⟨hmaxWindow, -, hskew⟩ := store_frame hstore
  -- the least skew is that of one of the observations in the window
  obtain ⟨least, hleast, hkey⟩ := (htracks.least (List.cons_ne_nil _ _)).exists_mem
  have hmin : least.skew = u.currentMinSkew := Int64.toInt_inj.1 hkey
  have hrecent := htracks.mem_stored.1 hleast
  have hle : ∀ other ∈ (obs :: seen).take t.maxWindowSamples, least.skew ≤ other.skew := by
    intro other hother
    rw [Int64.le_iff_toInt_le, hmin]
    exact (htracks.least (List.cons_ne_nil _ _)).le other (htracks.mem_stored.2 (hmaxWindow ▸ hother))
  have hsamples : u.currentWindowSamples = ((obs :: seen).take t.maxWindowSamples).length := by
    rw [List.length_take, List.length_cons]
    exact htracks.samples.trans (hmaxWindow ▸ Nat.min_comm _ _)
  have hmem := List.mem_of_mem_take (hmaxWindow ▸ hrecent)
  by_cases hone : ((obs :: seen).take t.maxWindowSamples).length = 1
  · have haverage : u.smooth.currentSkew = least.skew := by
      show movingAverage u.currentMinSkew u.currentSkew (.ofNat u.currentWindowSamples) = _
      rw [hsamples, hone, hmin]
      exact movingAverage_one _ _
    exact ⟨⟨least, hmem, Int64.le_of_eq haverage.symm⟩, least, hmem, Int64.le_of_eq haverage⟩
  · have hsum := (hfits obs hinit).resolve_left hone least (hmaxWindow ▸ hrecent) hle
    have hsome : seen ≠ [] := by
      rintro rfl
      exact hone (by rw [List.length_take, List.length_singleton, Nat.min_eq_right hmax])
    have hbefore : u.currentSkew = t.currentSkew := by
      refine hskew.trans (if_neg ?_)
      rintro ⟨hroom, hpos⟩
      exact hsome (List.eq_nil_of_length_eq_zero ((h.stored_of_room hroom).2.1.symm.trans hpos))
    obtain ⟨⟨below, hbelow, hle'⟩, above, habove, hge'⟩ := hbetween hsome
    obtain ⟨lo, hlo, hi, hhi, hmbounds, hsbounds⟩ := exists_bounds ⟨least, hmem, rfl⟩
      ⟨⟨below, List.mem_cons_of_mem _ hbelow, hle'⟩, above, List.mem_cons_of_mem _ habove, hge'⟩
    have hw : (UInt64.ofNat u.currentWindowSamples).toNat = ((obs :: seen).take t.maxWindowSamples).length := by
      rw [UInt64.toNat_ofNat', Nat.mod_eq_of_lt, hsamples]
      rw [hsamples]
      exact Nat.lt_of_le_of_lt (List.length_take_le _ _) hsize
    have hpos : 0 < (UInt64.ofNat u.currentWindowSamples).toNat := by
      rw [hw, List.length_take, List.length_cons]
      omega
    have haverage : lo.skew ≤ u.smooth.currentSkew ∧ u.smooth.currentSkew ≤ hi.skew := by
      show lo.skew ≤ movingAverage u.currentMinSkew u.currentSkew (.ofNat u.currentWindowSamples) ∧
        movingAverage u.currentMinSkew u.currentSkew (.ofNat u.currentWindowSamples) ≤ hi.skew
      rw [← hmin, hbefore]
      exact movingAverage_between hpos (by rw [hw]; exact hsum) hmbounds hsbounds
    exact ⟨⟨lo, hlo, haverage.1⟩, hi, hhi, haverage.2⟩

/-! ## Estimates -/

theorem toLocal_iff_toRemote {remoteTs localTs : Int64} :
    t.toLocal remoteTs = some (some localTs) ↔ t.toRemote localTs = some (some remoteTs) := by
  unfold toLocal toRemote
  cases t.haveSkewEstimate with
  | false => exact iff_of_false (by rintro ⟨⟩) (by rintro ⟨⟩)
  | true =>
    rw [if_pos rfl, if_pos rfl]
    simp only [Option.map_eq_some_iff, Option.some.injEq, exists_eq_right]
    exact add?_iff_sub?

structure Estimates (windowSamples : UInt64) (t : MClockWindowedSkewTracker) (seen : List MClockObservation) :
    Prop where
  tracks : t.Tracks seen
  maxWindowSamples : t.maxWindowSamples = windowSamples.toNat
  fresh : t.haveLastObservation = false
  between : seen ≠ [] → t.Between seen

theorem Estimates.pushSince {windowSamples : UInt64} {ts : Int64 × Int64}
    {s' : MClockWindowedSkewTracker × List MClockObservation} (h : Estimates windowSamples t seen)
    (hwindow : 0 < windowSamples) (hfits : SumFits (t, seen) ts)
    (hpush : MClockWindowedSkewTracker.pushSince (t, seen) ts = some s') : Estimates windowSamples s'.1 s'.2 := by
  have hmax : 0 < t.maxWindowSamples := h.maxWindowSamples ▸ UInt64.lt_iff_toNat_lt.1 hwindow
  obtain ⟨obs, hinit, hpush⟩ := Option.bind_eq_some_iff.1 hpush
  obtain ⟨detected, hdetect, hpush⟩ := Option.bind_eq_some_iff.1 hpush
  obtain ⟨t', hobs, hpush⟩ := Option.bind_eq_some_iff.1 hpush
  cases hpush
  cases (detect_of_fresh h.fresh).symm.trans hdetect
  obtain ⟨u, hu, hmaxu, htracks⟩ := h.tracks.observe hmax (detect_of_fresh h.fresh)
  cases hu.symm.trans hobs
  exact ⟨htracks, hmaxu.trans h.maxWindowSamples, observe_fresh h.fresh hobs, fun _ =>
    observe_between h.tracks hmax (h.maxWindowSamples ▸ windowSamples.toNat_lt) h.fresh h.between hinit hfits hobs⟩

theorem alloc_estimates (windowSamples : UInt64) : Estimates windowSamples (alloc windowSamples) [] :=
  ⟨alloc_tracks _, rfl, rfl, fun hnil => absurd rfl hnil⟩

/-- As long as the weighted sums fit, the smoothed skew is between the skews that were observed; and the conversions
undo each other, of every tracker. -/
theorem estimates_between (windowSamples : UInt64) (hwindow : 0 < windowSamples) :
    (∀ pushes observations, pushes.mapM (fun ts => mClockObservationInit ts.1 ts.2) = some observations →
      Along MClockWindowedSkewTracker.pushSince SumFits (alloc windowSamples, []) pushes →
      ∃ t, Reaches push (alloc windowSamples) pushes t ∧ (observations ≠ [] → t.Between observations)) ∧
      ∀ (t : MClockWindowedSkewTracker) (remoteTs localTs : Int64),
        t.toLocal remoteTs = some (some localTs) ↔ t.toRemote localTs = some (some remoteTs) := by
  refine ⟨fun pushes observations hobs hfits => ?_, fun _ _ _ => toLocal_iff_toRemote⟩
  obtain ⟨t, hrun, hrunSince, -⟩ :=
    (alloc_tracks windowSamples).reaches (UInt64.lt_iff_toNat_lt.1 hwindow) rfl hobs
  rw [List.append_nil] at hrunSince
  have hestimates : Estimates windowSamples t observations.reverse :=
    inv_of_along (I := fun s => Estimates windowSamples s.1 s.2)
      (fun _ _ _ h hfits hpush => h.pushSince hwindow hfits hpush) (alloc_estimates windowSamples) hfits hrunSince
  refine ⟨t, hrun, fun hsome => ?_⟩
  obtain ⟨⟨below, hbelow, hle⟩, above, habove, hge⟩ := hestimates.between (by simpa using hsome)
  exact ⟨⟨below, List.mem_reverse.1 hbelow, hle⟩, above, List.mem_reverse.1 habove, hge⟩

/-- A remote clock that is behind. -/
theorem estimates_between_two :
    0 < (2 : UInt64) ∧ (∃ t, Reaches push (alloc 2) [(9, 4), (10, 8)] t ∧ t.Between [⟨9, 5⟩, ⟨10, 2⟩]) ∧
      ((alloc 2).toLocal 3 = some (some 7) ↔ (alloc 2).toRemote 7 = some (some 3)) := by
  have hbetween := estimates_between 2 (by decide)
  obtain ⟨t, hrun, hskew⟩ :=
    hbetween.1 [(9, 4), (10, 8)] [⟨9, 5⟩, ⟨10, 2⟩] (by decide +kernel) (by decide +kernel)
  exact ⟨by decide, ⟨t, hrun, hskew (List.cons_ne_nil _ _)⟩, hbetween.2 _ _ _⟩

/-- A remote clock that is ahead, by five both times. -/
theorem not_between_of_negative :
    ∃ t, Reaches push (alloc 2) [(0, 5), (0, 5)] t ∧ t.currentSkew = 9223372036854775803 ∧
      ¬ t.Between [⟨0, -5⟩, ⟨0, -5⟩] := by
  refine ⟨{ maxWindowSamples := 2, currentWindowSamples := 2, window := [⟨0, -5⟩, ⟨0, -5⟩], currentWindowPos := 0
            currentMinSkew := -5, currentMinSkewPos := 1, haveLastObservation := false, lastObservation := ⟨0, -5⟩
            clockResetTs := 0, haveSkewEstimate := true, currentLocalAnchor := 0
            currentSkew := 9223372036854775803 }, reaches_iff_foldlM.2 (by decide +kernel), rfl, by decide +kernel⟩

/-! ## Jumps -/

/-- The last of the observations has a skew that is far from that of the next. -/
def Jumps (history : List (Int64 × Int64)) (jump : Int64 × Int64) : Prop :=
  ∃ last ∈ history.getLast?,
    CLOCK_RESET_THRESHOLD.toInt ≤ |(last.1.toInt - last.2.toInt) - (jump.1.toInt - jump.2.toInt)|

/-- What a jump is to do: none of the observations, which do not overflow, gets into the window until the hold-off is
over, and the estimates after it are the same whatever was before the jump. -/
structure Restarts (windowSamples : UInt64) (history : List (Int64 × Int64)) (jump : Int64 × Int64) : Prop where
  holdOff : ∀ settling : List (Int64 × Int64),
    (∀ ts ∈ settling, mClockObservationInit ts.1 ts.2 ≠ none ∧ jump.1 ≤ ts.1 ∧
      ts.1.toInt - jump.1.toInt < CLOCK_RESET_HOLDOFF.toInt) →
      ∃ t, Reaches push (alloc windowSamples) (history ++ jump :: settling) t ∧
        ∀ ts ∈ jump :: settling, ∀ obs, mClockObservationInit ts.1 ts.2 = some obs → obs ∉ t.stored
  estimates : ∀ history', Jumps history' jump → ∀ (later : List (Int64 × Int64)),
    (∃ ts ∈ later, CLOCK_RESET_HOLDOFF.toInt ≤ ts.1.toInt - jump.1.toInt) →
      ∀ t t', Reaches push (alloc windowSamples) (history ++ jump :: later) t →
        Reaches push (alloc windowSamples) (history' ++ jump :: later) t' →
          t.toLocal = t'.toLocal ∧ t.toRemote = t'.toRemote

/-- No jump is noticed: the observation that jumps is a sample like the others. -/
theorem not_restarts (windowSamples : UInt64) (history : List (Int64 × Int64)) (jump : Int64 × Int64) :
    ¬ Restarts windowSamples history jump := by
  intro h
  obtain ⟨t, hrun, hout⟩ := h.holdOff [] (fun _ hts => absurd hts (List.not_mem_nil))
  obtain ⟨u, hhistory, hpush⟩ := reaches_snoc.1 hrun
  by_cases hwindow : windowSamples = 0
  · -- nothing can be pushed at all
    subst hwindow
    cases history with
    | nil =>
      cases hhistory
      rw [push_alloc_zero] at hpush
      cases hpush
    | cons ts history =>
      obtain ⟨v, hv, -⟩ := hhistory
      rw [push_alloc_zero] at hv
      cases hv
  · have hpos : 0 < windowSamples := UInt64.lt_iff_toNat_lt.2 (Nat.pos_of_ne_zero fun hzero => hwindow (by
      rw [← UInt64.toNat_inj, hzero]
      rfl))
    obtain ⟨obs, hinit, hmem⟩ := mem_stored_of_push hpos hhistory hpush
    exact hout jump List.mem_cons_self obs hinit hmem

/-- Two histories of one observation, a jump of half a second or more, and an observation after the hold-off. -/
theorem estimates_keep_history :
    Jumps [(0, 0)] (1000000000, 0) ∧ Jumps [(500000000, 0)] (1000000000, 0) ∧
      ([(0, 0), (1000000000, 0), (1100000000, 100000000)].foldlM push (alloc 2)).map (·.toLocal 0) =
        some (some (some 500000000)) ∧
      ([(500000000, 0), (1000000000, 0), (1100000000, 100000000)].foldlM push (alloc 2)).map (·.toLocal 0) =
        some (some (some 750000000)) ∧
      ¬ Restarts 2 [(0, 0)] (1000000000, 0) := by
  have hjumps : Jumps [(0, 0)] (1000000000, 0) := ⟨(0, 0), rfl, by decide⟩
  have hjumps' : Jumps [(500000000, 0)] (1000000000, 0) := ⟨(500000000, 0), rfl, by decide⟩
  have hlocal : ([(0, 0), (1000000000, 0), (1100000000, 100000000)].foldlM push (alloc 2)).map (·.toLocal 0) =
      some (some (some 500000000)) := by
    decide +kernel
  have hlocal' : ([(500000000, 0), (1000000000, 0), (1100000000, 100000000)].foldlM push (alloc 2)).map
      (·.toLocal 0) = some (some (some 750000000)) := by
    decide +kernel
  refine ⟨hjumps, hjumps', hlocal, hlocal', fun h => ?_⟩
  obtain ⟨t, hrun, ht⟩ := Option.map_eq_some_iff.1 hlocal
  obtain ⟨t', hrun', ht'⟩ := Option.map_eq_some_iff.1 hlocal'
  have hsame := (h.estimates [(500000000, 0)] hjumps' [(1100000000, 100000000)]
    ⟨_, List.mem_cons_self, by decide⟩ t t' (reaches_iff_foldlM.2 hrun) (reaches_iff_foldlM.2 hrun')).1
  rw [hsame, ht'] at ht
  exact absurd ht (by decide)

end MClockWindowedSkewTracker

end AugmentedInsanity.Math
