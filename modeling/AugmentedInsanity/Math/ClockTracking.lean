/-
The offset of two clocks, followed over a window of observations (`m_clock_tracking.c`). The window is a ring of which
the least skew and its position are kept up to date (`Tracks`, `pushes_track`). Of what is said to happen when the
skew jumps nothing does: a flag is needed for it that is only set there.
-/
import AugmentedInsanity.Lib.Checked64
import AugmentedInsanity.Lib.Extremes
import AugmentedInsanity.Lib.Runs

namespace AugmentedInsanity.Math

open Checked64 Runs

/-! ## The tracker -/

def CLOCK_RESET_THRESHOLD : Int64 := 100000000
def CLOCK_RESET_HOLDOFF : Int64 := 30000000

structure MClockObservation where
  localTs : Int64
  skew : Int64
  deriving DecidableEq

/-- `m_clock_observation_init`; `none` is an overflow, which is undefined. -/
def mClockObservationInit (localTs remoteTs : Int64) : Option MClockObservation :=
  (sub? localTs remoteTs).map (⟨localTs, ·⟩)

structure MClockWindowedSkewTracker where
  maxWindowSamples : ℕ
  currentWindowSamples : ℕ
  window : List MClockObservation
  currentWindowPos : ℕ
  currentMinSkew : Int64
  currentMinSkewPos : ℕ
  haveLastObservation : Bool
  lastObservation : MClockObservation
  clockResetTs : Int64
  haveSkewEstimate : Bool
  currentLocalAnchor : Int64
  currentSkew : Int64
  deriving DecidableEq

namespace MClockWindowedSkewTracker

/-- `m_clock_windowed_skew_tracker_alloc`. -/
def alloc (windowSamples : UInt64) : MClockWindowedSkewTracker where
  maxWindowSamples := windowSamples.toNat
  currentWindowSamples := 0
  window := List.replicate windowSamples.toNat ⟨0, 0⟩
  currentWindowPos := 0
  currentMinSkew := 0
  currentMinSkewPos := 0
  haveLastObservation := false
  lastObservation := ⟨0, 0⟩
  clockResetTs := 0
  haveSkewEstimate := false
  currentLocalAnchor := 0
  currentSkew := 0

inductive Detected where
  | discontinuity
  | holdOff
  | sample
  deriving DecidableEq

/-- The start of `m_clock_windowed_skew_tracker_push`. -/
def detect (t : MClockWindowedSkewTracker) (obs : MClockObservation) : Option Detected :=
  if t.haveLastObservation then do
    let skewDelta ← sub? t.lastObservation.skew obs.skew
    let negated ← neg? skewDelta
    if CLOCK_RESET_THRESHOLD ≤ negated ∨ CLOCK_RESET_THRESHOLD ≤ skewDelta then some .discontinuity
    else do
      let sinceReset ← sub? obs.localTs t.clockResetTs
      if sinceReset < CLOCK_RESET_HOLDOFF then some .holdOff else some .sample
  else some .sample

def stored (t : MClockWindowedSkewTracker) : List MClockObservation := t.window.take t.currentWindowSamples

/-- Writing to a slot; `none` is outside of the window. -/
def write (t : MClockWindowedSkewTracker) (i : ℕ) (obs : MClockObservation) : Option MClockWindowedSkewTracker :=
  if i < t.window.length then some { t with window := t.window.set i obs } else none

/-- The minimum of a window that is still being filled. -/
def noteMin (t : MClockWindowedSkewTracker) (obs : MClockObservation) : MClockWindowedSkewTracker :=
  -- First sample. Take it as-is
  if t.currentWindowPos = 0 then
    { t with
      currentMinSkew := obs.skew, currentSkew := obs.skew, currentLocalAnchor := obs.localTs, currentMinSkewPos := 0 }
  -- We found a new minimum. Take it
  else if obs.skew ≤ t.currentMinSkew then
    { t with currentMinSkew := obs.skew, currentLocalAnchor := obs.localTs, currentMinSkewPos := t.currentWindowPos }
  else t

def grow (t : MClockWindowedSkewTracker) (obs : MClockObservation) : Option MClockWindowedSkewTracker :=
  ((t.noteMin obs).write t.currentWindowSamples obs).map fun t =>
    { t with currentWindowSamples := t.currentWindowSamples + 1 }

/-- The loop that finds the new minimum. -/
def findMin (t : MClockWindowedSkewTracker) : MClockWindowedSkewTracker :=
  match t.stored with
  | [] => t
  | first :: rest =>
    let (newMinIndex, newMin) := lastLeast (·.skew.toInt) (0, first) 1 rest
    { t with currentLocalAnchor := newMin.localTs, currentMinSkew := newMin.skew, currentMinSkewPos := newMinIndex }

def replace (t : MClockWindowedSkewTracker) (obs : MClockObservation) : Option MClockWindowedSkewTracker :=
  if obs.skew ≤ t.currentMinSkew then
    (t.write t.currentWindowPos obs).map fun t =>
      { t with
        currentLocalAnchor := obs.localTs, currentMinSkew := obs.skew, currentMinSkewPos := t.currentWindowPos }
  -- Replacing the previous minimum skew. Find the new minimum
  else if t.currentWindowPos = t.currentMinSkewPos then (t.write t.currentWindowPos obs).map findMin
  -- Just insert the observation
  else t.write t.currentWindowPos obs

def store (t : MClockWindowedSkewTracker) (obs : MClockObservation) : Option MClockWindowedSkewTracker :=
  if t.currentWindowSamples < t.maxWindowSamples then t.grow obs else t.replace obs

/-- The smoothed skew: the sums and the quotient are those of `size_t`. -/
def movingAverage (currentMinSkew currentSkew : Int64) (w : UInt64) : Int64 :=
  ((currentMinSkew.toUInt64 + currentSkew.toUInt64 * (w - 1)) / w).toInt64

/-- The end of `m_clock_windowed_skew_tracker_push`. -/
def smooth (t : MClockWindowedSkewTracker) : MClockWindowedSkewTracker :=
  { t with
    currentWindowPos := (t.currentWindowPos + 1) % t.maxWindowSamples
    currentSkew := movingAverage t.currentMinSkew t.currentSkew (.ofNat t.currentWindowSamples)
    haveSkewEstimate := true }

/-- `m_clock_windowed_skew_tracker_push`, of an observation. -/
def observe (t : MClockWindowedSkewTracker) (obs : MClockObservation) : Option MClockWindowedSkewTracker := do
  match ← t.detect obs with
  | .discontinuity =>
    some { t with
      clockResetTs := obs.localTs
      currentWindowPos := 0
      currentWindowSamples := 0
      haveLastObservation := true
      lastObservation := obs }
  | .holdOff => some t
  | .sample =>
    let clockResetTs := if t.haveLastObservation then 0 else t.clockResetTs
    (store { t with clockResetTs, lastObservation := obs } obs).map smooth

/-- `m_clock_windowed_skew_tracker_push`, of the timestamps of both clocks. -/
def push (t : MClockWindowedSkewTracker) (ts : Int64 × Int64) : Option MClockWindowedSkewTracker :=
  (mClockObservationInit ts.1 ts.2).bind t.observe

/-- `m_clock_windowed_skew_tracker_to_local`; the outer `none` is an overflow. -/
def toLocal (t : MClockWindowedSkewTracker) (remoteTs : Int64) : Option (Option Int64) :=
  if t.haveSkewEstimate then (add? remoteTs t.currentSkew).map some else some none

def toRemote (t : MClockWindowedSkewTracker) (localTs : Int64) : Option (Option Int64) :=
  if t.haveSkewEstimate then (sub? localTs t.currentSkew).map some else some none

/-! ## The window -/

/-- The window has the last of the observations since the last reset, the oldest in the slot that is written next, and
its least skew is known. -/
structure Tracks (t : MClockWindowedSkewTracker) (since : List MClockObservation) : Prop where
  length_window : t.window.length = t.maxWindowSamples
  samples : t.currentWindowSamples = min since.length t.maxWindowSamples
  pos : t.currentWindowPos = since.length % t.maxWindowSamples
  stored : t.stored.rotate t.currentWindowPos = (since.take t.maxWindowSamples).reverse
  least : since ≠ [] → LeastAt (·.skew.toInt) t.stored t.currentMinSkewPos t.currentMinSkew.toInt

/-- The observations since the last reset, after one more. -/
def Detected.since (since : List MClockObservation) (obs : MClockObservation) : Detected → List MClockObservation
  | .discontinuity => []
  | .holdOff => since
  | .sample => obs :: since

variable {t t' : MClockWindowedSkewTracker} {since : List MClockObservation} {obs : MClockObservation}

theorem Tracks.length_stored (h : t.Tracks since) : t.stored.length = t.currentWindowSamples := by
  rw [MClockWindowedSkewTracker.stored, List.length_take, h.length_window, h.samples]
  omega

theorem Tracks.mem_stored (h : t.Tracks since) : obs ∈ t.stored ↔ obs ∈ since.take t.maxWindowSamples := by
  rw [← List.mem_rotate, h.stored, List.mem_reverse]

theorem write_eq {i : ℕ} (hi : i < t.window.length) : t.write i obs = some { t with window := t.window.set i obs } :=
  if_pos hi

theorem smooth_tracks (hlength : t.window.length = t.maxWindowSamples)
    (hsamples : t.currentWindowSamples = min (since.length + 1) t.maxWindowSamples)
    (hpos : t.currentWindowPos = since.length % t.maxWindowSamples)
    (hstored : t.stored.rotate (t.currentWindowPos + 1) = ((obs :: since).take t.maxWindowSamples).reverse)
    (hleast : LeastAt (·.skew.toInt) t.stored t.currentMinSkewPos t.currentMinSkew.toInt) :
    t.smooth.Tracks (obs :: since) := by
  refine ⟨hlength, hsamples, ?_, ?_, fun _ => hleast⟩
  · show (t.currentWindowPos + 1) % t.maxWindowSamples = (since.length + 1) % t.maxWindowSamples
    rw [hpos, Nat.mod_add_mod]
  · show t.stored.rotate ((t.currentWindowPos + 1) % t.maxWindowSamples) = _
    rw [← show t.smooth.maxWindowSamples = t.maxWindowSamples from rfl] at hstored
    rw [← hstored]
    by_cases hfull : since.length + 1 < t.maxWindowSamples
    · rw [hpos, Nat.mod_eq_of_lt (show since.length < t.maxWindowSamples by omega), Nat.mod_eq_of_lt hfull]
    · have hlast : t.stored.length = t.maxWindowSamples := by
        rw [MClockWindowedSkewTracker.stored, List.length_take, hlength, hsamples]
        omega
      rw [← hlast, List.rotate_mod]

/-! ### Filling it -/

theorem noteMin_frame (t : MClockWindowedSkewTracker) (obs : MClockObservation) :
    (t.noteMin obs).window = t.window ∧ (t.noteMin obs).currentWindowSamples = t.currentWindowSamples ∧
      (t.noteMin obs).maxWindowSamples = t.maxWindowSamples ∧
      (t.noteMin obs).currentWindowPos = t.currentWindowPos := by
  unfold noteMin
  split
  · exact ⟨rfl, rfl, rfl, rfl⟩
  · split <;> exact ⟨rfl, rfl, rfl, rfl⟩

theorem Tracks.stored_of_room (h : t.Tracks since) (hroom : t.currentWindowSamples < t.maxWindowSamples) :
    t.currentWindowSamples = since.length ∧ t.currentWindowPos = since.length ∧ t.stored = since.reverse := by
  have hsamples := h.samples
  have hlt : since.length < t.maxWindowSamples := by omega
  have hpos : t.currentWindowPos = since.length := h.pos.trans (Nat.mod_eq_of_lt hlt)
  have hstored := h.stored
  have hlength := h.length_stored
  refine ⟨by omega, hpos, ?_⟩
  rwa [show t.currentWindowPos = t.stored.length by omega, List.rotate_length,
    List.take_of_length_le (Nat.le_of_lt hlt)] at hstored

theorem Tracks.noteMin_least (h : t.Tracks since) (hroom : t.currentWindowSamples < t.maxWindowSamples) :
    LeastAt (·.skew.toInt) (t.stored ++ [obs]) (t.noteMin obs).currentMinSkewPos
      (t.noteMin obs).currentMinSkew.toInt := by
  obtain ⟨hsamples, hpos, hstored⟩ := h.stored_of_room hroom
  unfold noteMin
  split
  · rename_i hzero
    obtain rfl : since = [] := List.eq_nil_of_length_eq_zero (hpos.symm.trans hzero)
    rw [hstored]
    exact LeastAt.singleton
  · rename_i hne
    have hsome : since ≠ [] := by
      rintro rfl
      exact hne hpos
    have hleast := h.least hsome
    split
    · rename_i hle
      have happend := hleast.append_le (x := obs) (Int64.le_iff_toInt_le.1 hle)
      rwa [h.length_stored, hsamples, ← hpos] at happend
    · rename_i hgt
      exact hleast.append_lt (Int.le_of_lt (Int.not_le.1 (fun hle => hgt (Int64.le_iff_toInt_le.2 hle))))

theorem Tracks.grow (h : t.Tracks since) (hroom : t.currentWindowSamples < t.maxWindowSamples) :
    ∃ t', t.grow obs = some t' ∧ t'.smooth.Tracks (obs :: since) := by
  obtain ⟨hsamples, hpos, hstored⟩ := h.stored_of_room hroom
  obtain ⟨hwindow, hsamples', hmax, hpos'⟩ := noteMin_frame t obs
  have hin : t.currentWindowSamples < t.window.length := by
    rw [h.length_window]
    exact hroom
  have hstored' : (t.window.set t.currentWindowSamples obs).take (t.currentWindowSamples + 1) = t.stored ++ [obs] := by
    rw [List.take_add_one, List.getElem?_set_self hin, List.take_set_of_le (Nat.le_refl _)]
    rfl
  rw [MClockWindowedSkewTracker.grow, write_eq (by rwa [hwindow])]
  refine ⟨_, rfl, smooth_tracks ?_ ?_ ?_ ?_ ?_⟩
  · show ((t.noteMin obs).window.set _ obs).length = (t.noteMin obs).maxWindowSamples
    rw [List.length_set, hwindow, hmax, h.length_window]
  · show (t.noteMin obs).currentWindowSamples + 1 = min (since.length + 1) (t.noteMin obs).maxWindowSamples
    rw [hsamples', hmax]
    omega
  · show (t.noteMin obs).currentWindowPos = since.length % (t.noteMin obs).maxWindowSamples
    rw [hpos', hmax, h.pos]
  · show (((t.noteMin obs).window.set t.currentWindowSamples obs).take
      ((t.noteMin obs).currentWindowSamples + 1)).rotate ((t.noteMin obs).currentWindowPos + 1) =
        ((obs :: since).take (t.noteMin obs).maxWindowSamples).reverse
    rw [hwindow, hsamples', hpos', hmax, hstored', hstored,
      show t.currentWindowPos + 1 = (since.reverse ++ [obs]).length by simp [hpos], List.rotate_length,
      List.take_of_length_le (show (obs :: since).length ≤ t.maxWindowSamples by rw [List.length_cons]; omega),
      List.reverse_cons]
  · show LeastAt _ (((t.noteMin obs).window.set t.currentWindowSamples obs).take
      ((t.noteMin obs).currentWindowSamples + 1)) _ _
    rw [hwindow, hsamples', hstored']
    exact h.noteMin_least hroom

/-! ### Going round -/

theorem Tracks.stored_of_full (h : t.Tracks since) (hfull : ¬ t.currentWindowSamples < t.maxWindowSamples) :
    t.currentWindowSamples = t.maxWindowSamples ∧ t.maxWindowSamples ≤ since.length ∧ t.stored = t.window := by
  have hsamples := h.samples
  have hmax : t.currentWindowSamples = t.maxWindowSamples := by omega
  refine ⟨hmax, by omega, ?_⟩
  rw [MClockWindowedSkewTracker.stored, hmax, ← h.length_window, List.take_length]

theorem Tracks.smooth_of_full {u : MClockWindowedSkewTracker} (h : t.Tracks since) (hmax : 0 < t.maxWindowSamples)
    (hfull : ¬ t.currentWindowSamples < t.maxWindowSamples) (hwindow : u.window = t.window.set t.currentWindowPos obs)
    (hframe : u.maxWindowSamples = t.maxWindowSamples ∧ u.currentWindowSamples = t.currentWindowSamples ∧
      u.currentWindowPos = t.currentWindowPos)
    (hleast : LeastAt (·.skew.toInt) (t.window.set t.currentWindowPos obs) u.currentMinSkewPos
      u.currentMinSkew.toInt) : u.smooth.Tracks (obs :: since) := by
  obtain ⟨hframeMax, hframeSamples, hframePos⟩ := hframe
  obtain ⟨hsamples, hlength, hstored⟩ := h.stored_of_full hfull
  have hpos : t.currentWindowPos < t.window.length := by
    rw [h.pos, h.length_window]
    exact Nat.mod_lt _ hmax
  have hstored' : u.stored = t.window.set t.currentWindowPos obs := by
    rw [MClockWindowedSkewTracker.stored, hwindow, hframeSamples, hsamples, ← h.length_window]
    exact List.take_of_length_le (Nat.le_of_eq List.length_set)
  refine smooth_tracks ?_ ?_ ?_ ?_ (hstored' ▸ hleast)
  · rw [hwindow, List.length_set, hframeMax, h.length_window]
  · rw [hframeSamples, hframeMax]
    omega
  · rw [hframePos, hframeMax, h.pos]
  · rw [hstored', hframePos, hframeMax, rotate_set_succ hpos, ← hstored, h.stored, reverse_take_cons hmax hlength]

theorem findMin_least {first : MClockObservation} {rest : List MClockObservation} (h : t.stored = first :: rest) :
    LeastAt (·.skew.toInt) t.stored t.findMin.currentMinSkewPos t.findMin.currentMinSkew.toInt := by
  unfold findMin
  rw [h]
  exact leastAt_lastLeast first rest

theorem findMin_frame (t : MClockWindowedSkewTracker) :
    t.findMin.window = t.window ∧ t.findMin.maxWindowSamples = t.maxWindowSamples ∧
      t.findMin.currentWindowSamples = t.currentWindowSamples ∧ t.findMin.currentWindowPos = t.currentWindowPos := by
  unfold findMin
  split <;> exact ⟨rfl, rfl, rfl, rfl⟩

theorem Tracks.replace (h : t.Tracks since) (hmax : 0 < t.maxWindowSamples)
    (hfull : ¬ t.currentWindowSamples < t.maxWindowSamples) :
    ∃ t', t.replace obs = some t' ∧ t'.smooth.Tracks (obs :: since) := by
  obtain ⟨hsamples, hlength, hstored⟩ := h.stored_of_full hfull
  have hpos : t.currentWindowPos < t.window.length := by
    rw [h.pos, h.length_window]
    exact Nat.mod_lt _ hmax
  have hsome : since ≠ [] := List.ne_nil_of_length_pos (by omega)
  have hleast := h.least hsome
  rw [hstored] at hleast
  rw [MClockWindowedSkewTracker.replace, write_eq hpos]
  split
  · rename_i hle
    refine ⟨_, rfl, h.smooth_of_full hmax hfull rfl ⟨rfl, rfl, rfl⟩ ?_⟩
    exact hleast.set_le hpos (Int64.le_iff_toInt_le.1 hle)
  · rename_i hgt
    have hgt' : t.currentMinSkew.toInt ≤ obs.skew.toInt :=
      Int.le_of_lt (Int.not_le.1 fun hle => hgt (Int64.le_iff_toInt_le.2 hle))
    split
    · -- the least is written over
      rename_i hmin
      obtain ⟨hwindow, hframe⟩ := findMin_frame { t with window := t.window.set t.currentWindowPos obs }
      refine ⟨_, rfl, h.smooth_of_full hmax hfull hwindow hframe ?_⟩
      have hall : MClockWindowedSkewTracker.stored { t with window := t.window.set t.currentWindowPos obs } =
          t.window.set t.currentWindowPos obs := by
        show (t.window.set t.currentWindowPos obs).take t.currentWindowSamples = _
        rw [hsamples, ← h.length_window]
        exact List.take_of_length_le (Nat.le_of_eq List.length_set)
      cases hset : t.window.set t.currentWindowPos obs with
      | nil =>
        have hzero := congrArg List.length hset
        rw [List.length_set, List.length_nil] at hzero
        omega
      | cons first rest =>
        have hfound := findMin_least (hall.trans hset)
        rwa [hall, hset] at hfound
    · rename_i hmin
      exact ⟨_, rfl, h.smooth_of_full hmax hfull rfl ⟨rfl, rfl, rfl⟩ (hleast.set_lt hmin hgt')⟩

/-! ## Observations -/

theorem write_frame {i : ℕ} (h : t.write i obs = some t') :
    t'.maxWindowSamples = t.maxWindowSamples ∧ t'.haveLastObservation = t.haveLastObservation ∧
      t'.currentSkew = t.currentSkew := by
  unfold write at h
  split at h
  · cases h
    exact ⟨rfl, rfl, rfl⟩
  · cases h

def skewBefore (t : MClockWindowedSkewTracker) (obs : MClockObservation) : Int64 :=
  if t.currentWindowSamples < t.maxWindowSamples ∧ t.currentWindowPos = 0 then obs.skew else t.currentSkew

theorem store_frame (h : t.store obs = some t') :
    t'.maxWindowSamples = t.maxWindowSamples ∧ t'.haveLastObservation = t.haveLastObservation ∧
      t'.currentSkew = t.skewBefore obs := by
  unfold store at h
  split at h
  · rename_i hroom
    obtain ⟨u, hu, rfl⟩ := Option.map_eq_some_iff.1 h
    obtain ⟨hmax, hlast, hskew⟩ := write_frame hu
    have hnoted : (t.noteMin obs).maxWindowSamples = t.maxWindowSamples ∧
        (t.noteMin obs).haveLastObservation = t.haveLastObservation ∧
        (t.noteMin obs).currentSkew = t.skewBefore obs := by
      unfold noteMin
      by_cases hfirst : t.currentWindowPos = 0
      · rw [if_pos hfirst]
        exact ⟨rfl, rfl, (if_pos ⟨hroom, hfirst⟩).symm⟩
      · have hbefore : t.skewBefore obs = t.currentSkew := if_neg fun h => hfirst h.2
        rw [if_neg hfirst, hbefore]
        split <;> exact ⟨rfl, rfl, rfl⟩
    exact ⟨hmax.trans hnoted.1, hlast.trans hnoted.2.1, hskew.trans hnoted.2.2⟩
  · rename_i hfull
    have hbefore : t.skewBefore obs = t.currentSkew := if_neg fun h => hfull h.1
    rw [hbefore]
    unfold replace at h
    split at h
    · obtain ⟨u, hu, rfl⟩ := Option.map_eq_some_iff.1 h
      have hframe := write_frame hu
      exact hframe
    · split at h
      · obtain ⟨u, hu, rfl⟩ := Option.map_eq_some_iff.1 h
        have hframe := write_frame hu
        unfold findMin
        split <;> exact hframe
      · exact write_frame h

theorem Tracks.store (h : t.Tracks since) (obs : MClockObservation) (hmax : 0 < t.maxWindowSamples) :
    ∃ t', t.store obs = some t' ∧ t'.smooth.Tracks (obs :: since) := by
  unfold MClockWindowedSkewTracker.store
  split
  · rename_i hroom
    exact h.grow hroom
  · rename_i hfull
    exact h.replace hmax hfull

theorem tracks_nil (hlength : t.window.length = t.maxWindowSamples) (hsamples : t.currentWindowSamples = 0)
    (hpos : t.currentWindowPos = 0) : t.Tracks [] := by
  refine ⟨hlength, ?_, ?_, ?_, fun hnil => absurd rfl hnil⟩
  · rw [hsamples, List.length_nil, Nat.zero_min]
  · rw [hpos, List.length_nil, Nat.zero_mod]
  · rw [MClockWindowedSkewTracker.stored, hsamples, List.take_zero, List.rotate_nil, List.take_nil]
    rfl

theorem Tracks.observe {detected : Detected} (h : t.Tracks since) (hmax : 0 < t.maxWindowSamples)
    (hdetect : t.detect obs = some detected) :
    ∃ t', t.observe obs = some t' ∧ t'.maxWindowSamples = t.maxWindowSamples ∧
      t'.Tracks (detected.since since obs) := by
  rw [MClockWindowedSkewTracker.observe, hdetect]
  cases detected with
  | discontinuity => exact ⟨_, rfl, rfl, tracks_nil h.length_window rfl rfl⟩
  | holdOff => exact ⟨t, rfl, rfl, h⟩
  | sample =>
    have hnoted : Tracks { t with
        clockResetTs := if t.haveLastObservation then 0 else t.clockResetTs, lastObservation := obs } since :=
      ⟨h.length_window, h.samples, h.pos, h.stored, h.least⟩
    obtain ⟨t', hstore, htracks⟩ := hnoted.store obs hmax
    exact ⟨t'.smooth, congrArg (Option.map smooth) hstore, (store_frame hstore).1, htracks⟩

theorem alloc_tracks (windowSamples : UInt64) : (alloc windowSamples).Tracks [] :=
  tracks_nil List.length_replicate rfl rfl

/-! ## Runs -/

/-- A push, with the observations since the last reset. -/
def pushSince (s : MClockWindowedSkewTracker × List MClockObservation) (ts : Int64 × Int64) :
    Option (MClockWindowedSkewTracker × List MClockObservation) := do
  let obs ← mClockObservationInit ts.1 ts.2
  let detected ← s.1.detect obs
  let t ← s.1.observe obs
  some (t, detected.since s.2 obs)

variable {pushes : List (Int64 × Int64)}

theorem Tracks.run {since' : List MClockObservation} (h : t.Tracks since) (hmax : 0 < t.maxWindowSamples)
    (hrun : Reaches pushSince (t, since) pushes (t', since')) : t'.Tracks since' := by
  refine (inv_of_reaches (I := fun s => 0 < s.1.maxWindowSamples ∧ s.1.Tracks s.2) ?_ ⟨hmax, h⟩ hrun).2
  rintro ⟨t, since⟩ ts ⟨t', since'⟩ ⟨hmax, htracks⟩ hpush
  obtain ⟨obs, -, hpush⟩ := Option.bind_eq_some_iff.1 hpush
  obtain ⟨detected, hdetect, hpush⟩ := Option.bind_eq_some_iff.1 hpush
  obtain ⟨u, hu, hpush⟩ := Option.bind_eq_some_iff.1 hpush
  cases hpush
  obtain ⟨u', hu', hmax', htracks'⟩ := htracks.observe hmax hdetect
  rw [Option.some.inj (hu.symm.trans hu')]
  exact ⟨hmax' ▸ hmax, htracks'⟩

theorem detect_of_fresh (hfresh : t.haveLastObservation = false) : t.detect obs = some .sample :=
  if_neg (by rw [hfresh]; decide)

theorem observe_of_fresh (hfresh : t.haveLastObservation = false) :
    t.observe obs = (MClockWindowedSkewTracker.store { t with lastObservation := obs } obs).map smooth := by
  rw [observe, detect_of_fresh hfresh]
  show (MClockWindowedSkewTracker.store { t with
    clockResetTs := if t.haveLastObservation then 0 else t.clockResetTs, lastObservation := obs } obs).map smooth = _
  rw [if_neg (by rw [hfresh]; decide)]

theorem observe_fresh (hfresh : t.haveLastObservation = false) (h : t.observe obs = some t') :
    t'.haveLastObservation = false := by
  rw [observe_of_fresh hfresh] at h
  obtain ⟨u, hu, rfl⟩ := Option.map_eq_some_iff.1 h
  exact (store_frame hu).2.1.trans hfresh

theorem Tracks.reaches {observations : List MClockObservation} (h : t.Tracks since) (hmax : 0 < t.maxWindowSamples)
    (hfresh : t.haveLastObservation = false)
    (hobs : pushes.mapM (fun ts => mClockObservationInit ts.1 ts.2) = some observations) :
    ∃ t', Reaches push t pushes t' ∧ Reaches pushSince (t, since) pushes (t', observations.reverse ++ since) ∧
      t'.maxWindowSamples = t.maxWindowSamples ∧ t'.haveLastObservation = false := by
  induction pushes generalizing t since observations with
  | nil =>
    cases hobs
    exact ⟨t, rfl, rfl, rfl, hfresh⟩
  | cons ts pushes ih =>
    rw [List.mapM_cons] at hobs
    obtain ⟨obs, hinit, hobs⟩ := Option.bind_eq_some_iff.1 hobs
    obtain ⟨later, hlater, hobs⟩ := Option.bind_eq_some_iff.1 hobs
    cases hobs
    obtain ⟨t₁, ht₁, hmax₁, htracks₁⟩ := h.observe hmax (detect_of_fresh hfresh)
    have hpush : t.push ts = some t₁ := by
      rw [push, hinit]
      exact ht₁
    have hpushSince : pushSince (t, since) ts = some (t₁, obs :: since) := by
      rw [pushSince, hinit]
      show (t.detect obs).bind _ = _
      rw [detect_of_fresh hfresh]
      show (t.observe obs).bind _ = _
      rw [ht₁]
      rfl
    obtain ⟨t', hrun, hrunSince, hmax', hfresh'⟩ := ih htracks₁ (hmax₁ ▸ hmax) (observe_fresh hfresh ht₁) hlater
    refine ⟨t', ⟨t₁, hpush, hrun⟩, ⟨_, hpushSince, ?_⟩, hmax'.trans hmax₁, hfresh'⟩
    rwa [List.reverse_cons, List.append_assoc]

theorem reaches_tracks {windowSamples : UInt64} (hwindow : 0 < windowSamples)
    (hrun : Reaches push (alloc windowSamples) pushes t) :
    ∃ since, t.Tracks since ∧ t.maxWindowSamples = windowSamples.toNat ∧ t.haveLastObservation = false := by
  refine inv_of_reaches (I := fun t : MClockWindowedSkewTracker => ∃ since, t.Tracks since ∧
    t.maxWindowSamples = windowSamples.toNat ∧ t.haveLastObservation = false) ?_ ⟨[], alloc_tracks _, rfl, rfl⟩ hrun
  rintro t ts t' ⟨since, htracks, hmax, hfresh⟩ hpush
  obtain ⟨obs, -, hobs⟩ := Option.bind_eq_some_iff.1 hpush
  obtain ⟨u, hu, hmaxu, htracksu⟩ :=
    htracks.observe (hmax ▸ UInt64.lt_iff_toNat_lt.1 hwindow) (detect_of_fresh hfresh)
  cases hu.symm.trans hobs
  exact ⟨_, htracksu, hmaxu.trans hmax, observe_fresh hfresh hobs⟩

theorem mem_stored_of_push {windowSamples : UInt64} {ts : Int64 × Int64} (hwindow : 0 < windowSamples)
    (hrun : Reaches push (alloc windowSamples) pushes t) (hpush : t.push ts = some t') :
    ∃ obs, mClockObservationInit ts.1 ts.2 = some obs ∧ obs ∈ t'.stored := by
  have hpos : 0 < windowSamples.toNat := UInt64.lt_iff_toNat_lt.1 hwindow
  obtain ⟨since, htracks, hmax, hfresh⟩ := reaches_tracks hwindow hrun
  obtain ⟨obs, hinit, hobs⟩ := Option.bind_eq_some_iff.1 hpush
  obtain ⟨u, hu, hmaxu, htracksu⟩ := htracks.observe (hmax ▸ hpos) (detect_of_fresh hfresh)
  cases hu.symm.trans hobs
  refine ⟨obs, hinit, htracksu.mem_stored.2 ?_⟩
  obtain ⟨n, hn⟩ : ∃ n, t'.maxWindowSamples = n + 1 := ⟨t'.maxWindowSamples - 1, by omega⟩
  rw [hn]
  exact List.mem_cons_self

theorem store_eq_none (hwindow : t.window = []) (hmax : t.maxWindowSamples = 0) : t.store obs = none := by
  have hwrite : ∀ i, t.write i obs = none := fun i => if_neg (by rw [hwindow]; exact Nat.not_lt_zero i)
  unfold store
  rw [if_neg (by rw [hmax]; exact Nat.not_lt_zero _)]
  unfold replace
  rw [hwrite]
  split
  · rfl
  · split <;> rfl

theorem push_alloc_zero (ts : Int64 × Int64) : (alloc 0).push ts = none := by
  unfold push
  cases mClockObservationInit ts.1 ts.2 with
  | none => rfl
  | some obs =>
    show (alloc 0).observe obs = none
    rw [observe_of_fresh rfl, store_eq_none rfl rfl]
    rfl

/-- After any observations, whatever their skews, the window has the last of them and the minimum is theirs; and so it
stays from any such state on, however many resets come between. -/
theorem pushes_track (windowSamples : UInt64) (hwindow : 0 < windowSamples) :
    (∀ pushes observations, pushes.mapM (fun ts => mClockObservationInit ts.1 ts.2) = some observations →
      ∃ t, Reaches push (alloc windowSamples) pushes t ∧ t.Tracks observations.reverse) ∧
      ∀ t since pushes t' since', t.Tracks since → t.maxWindowSamples = windowSamples.toNat →
        Reaches pushSince (t, since) pushes (t', since') → t'.Tracks since' := by
  have hmax : 0 < windowSamples.toNat := UInt64.lt_iff_toNat_lt.1 hwindow
  constructor
  · intro pushes observations hobs
    obtain ⟨t, hrun, hrunSince, -⟩ := (alloc_tracks windowSamples).reaches hmax rfl hobs
    rw [List.append_nil] at hrunSince
    exact ⟨t, hrun, (alloc_tracks windowSamples).run hmax hrunSince⟩
  · intro t since pushes t' since' h hlength hrun
    exact h.run (hlength ▸ hmax) hrun

/-- Three observations of a remote clock that is ahead, in a window of two; and a tracker that sees a jump. -/
theorem pushes_track_two :
    0 < (2 : UInt64) ∧
      (∃ t, Reaches push (alloc 2) [(5, 8), (6, 10), (9, 10)] t ∧ t.Tracks [⟨9, -1⟩, ⟨6, -4⟩, ⟨5, -3⟩]) ∧
      ∃ t, Reaches pushSince ({ alloc 2 with haveLastObservation := true }, []) [(200000000, 0), (230000001, 30000000)]
        (t, [⟨230000001, 200000001⟩]) ∧ t.Tracks [⟨230000001, 200000001⟩] := by
  have htrack := pushes_track 2 (by decide)
  refine ⟨by decide, htrack.1 _ [⟨5, -3⟩, ⟨6, -4⟩, ⟨9, -1⟩] (by decide +kernel), ?_⟩
  have hrun : ∃ t, Reaches pushSince ({ alloc 2 with haveLastObservation := true }, [])
      [(200000000, 0), (230000001, 30000000)] (t, [⟨230000001, 200000001⟩]) :=
    ⟨{ maxWindowSamples := 2, currentWindowSamples := 1, window := [⟨230000001, 200000001⟩, ⟨0, 0⟩]
       currentWindowPos := 1, currentMinSkew := 200000001, currentMinSkewPos := 0, haveLastObservation := true
       lastObservation := ⟨230000001, 200000001⟩, clockResetTs := 0, haveSkewEstimate := true
       currentLocalAnchor := 230000001, currentSkew := 200000001 },
      reaches_iff_foldlM.2 (by decide +kernel)⟩
  obtain ⟨t, hrun⟩ := hrun
  exact ⟨t, hrun, htrack.2 _ _ _ _ _ (tracks_nil rfl rfl rfl) rfl hrun⟩

/-- A window of no samples is written outside of, and a difference can be too large for a skew. -/
theorem push_undefined :
    (¬ ∃ t, Reaches push (alloc 0) [(5, 3)] t) ∧ ¬ ∃ t, Reaches push (alloc 64) [(Int64.minValue, 1)] t := by
  constructor
  · rintro ⟨t, u, hu, -⟩
    have hnone : (alloc 0).push (5, 3) = none := by decide +kernel
    rw [hnone] at hu
    cases hu
  · rintro ⟨t, u, hu, -⟩
    have hnone : mClockObservationInit Int64.minValue 1 = none := by decide +kernel
    rw [push, hnone] at hu
    cases hu

end MClockWindowedSkewTracker

end AugmentedInsanity.Math
