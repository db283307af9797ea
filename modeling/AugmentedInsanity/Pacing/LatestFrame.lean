/-
The search of the compositor pacer for the latest frame that has got to a state. The ring holds the newest sixteen
frames, but the search begins with the one before the newest: it finds the right frame exactly when the newest has
not got to the state (`RingInv.searchRight_iff`).
-/
import AugmentedInsanity.Pacing.CompositorTimes

namespace AugmentedInsanity.Pacing

open Runs

variable {pc : PacingCompositor} {state : FrameState}

/-- A frame that was created is in the ring, and has got to the state. -/
structure InRing (pc : PacingCompositor) (state : FrameState) (frameId : ℤ) : Prop where
  created : 0 < frameId
  le : frameId ≤ pc.nextFrameId
  held : (pc.frames (getFrame frameId)).frameId = frameId
  reached : state.value ≤ (pc.frames (getFrame frameId)).state.value

/-- What the search is to find: the newest of the frames, or nothing when there are none. -/
structure SearchRight (pc : PacingCompositor) (state : FrameState) : Prop where
  newest : ∀ index, getLatestFrameWithStateAtLeast pc state = some index →
    ∃ frameId, InRing pc state frameId ∧ index = getFrame frameId ∧ ∀ other, InRing pc state other → other ≤ frameId
  nothing : getLatestFrameWithStateAtLeast pc state = none ↔ ∀ frameId, ¬ InRing pc state frameId

/-! ## The search -/

def Stops (pc : PacingCompositor) (state : FrameState) (frameId : ℤ) : Prop :=
  state.value ≤ (pc.frames (getFrame frameId)).state.value ∧ (pc.frames (getFrame frameId)).frameId = frameId

theorem latestFrame_some {rounds : ℕ} {index : Fin NUM_FRAMES} (h : latestFrame pc state rounds = some index) :
    ∃ count : ℤ, NUM_FRAMES - rounds ≤ count ∧ count < NUM_FRAMES ∧ count ≤ pc.nextFrameId ∧
      index = getFrame (pc.nextFrameId - count) ∧ Stops pc state (pc.nextFrameId - count) ∧
      ∀ c : ℤ, NUM_FRAMES - rounds ≤ c → c < count → ¬ Stops pc state (pc.nextFrameId - c) := by
  induction rounds with
  | zero => cases h
  | succ rounds ih =>
    simp only [latestFrame] at h
    split at h
    · rename_i hcount
      split at h
      · rename_i hstops
        refine ⟨_, ?_, ?_, hcount, (Option.some.inj h).symm, hstops, ?_⟩
        · simp only [Nat.cast_add, Nat.cast_one]
          omega
        · omega
        · intro c hle hlt
          simp only [Nat.cast_add, Nat.cast_one] at hle
          omega
      · rename_i hstops
        obtain ⟨count, hle, hlt, hnext, hindex, hfound, hbefore⟩ := ih h
        refine ⟨count, ?_, hlt, hnext, hindex, hfound, ?_⟩
        · simp only [Nat.cast_add, Nat.cast_one]
          omega
        · intro c hc hclt
          simp only [Nat.cast_add, Nat.cast_one] at hc
          rcases eq_or_lt_of_le hc with rfl | hc
          · exact hstops
          · exact hbefore c (by omega) hclt
    · cases h

theorem latestFrame_none {rounds : ℕ} (h : latestFrame pc state rounds = none) (count : ℤ)
    (hle : NUM_FRAMES - rounds ≤ count) (hlt : count < NUM_FRAMES) (hnext : count ≤ pc.nextFrameId) :
    ¬ Stops pc state (pc.nextFrameId - count) := by
  induction rounds with
  | zero =>
    simp only [Nat.cast_zero] at hle
    omega
  | succ rounds ih =>
    simp only [latestFrame] at h
    simp only [Nat.cast_add, Nat.cast_one] at hle
    split at h
    · split at h
      · cases h
      · rename_i hstops
        rcases eq_or_lt_of_le hle with rfl | hle
        · exact hstops
        · exact ih h (by omega)
    · omega

theorem RingInv.lt_of_held (h : RingInv pc) {frameId : ℤ} (hpos : 0 < frameId)
    (hheld : (pc.frames (getFrame frameId)).frameId = frameId) (hle : frameId ≤ pc.nextFrameId) :
    pc.nextFrameId < frameId + NUM_FRAMES := by
  by_contra hold
  have hdiff : 0 ≤ pc.nextFrameId - frameId := sub_nonneg.2 hle
  -- the slot has been taken by one of the newest frames
  let newer := pc.nextFrameId - (pc.nextFrameId - frameId) % NUM_FRAMES
  have hmod := Int.emod_nonneg (pc.nextFrameId - frameId) (by decide : (NUM_FRAMES : ℤ) ≠ 0)
  have hmodlt := Int.emod_lt_of_pos (pc.nextFrameId - frameId) (by decide : (0 : ℤ) < NUM_FRAMES)
  have hslot : getFrame newer = getFrame frameId := by
    apply Fin.ext
    simp only [getFrame, Fin.val_ofNat, newer, NUM_FRAMES, Nat.cast_ofNat] at hold hmod hmodlt ⊢
    omega
  have hnewer : 0 < newer ∧ newer ≤ pc.nextFrameId ∧ pc.nextFrameId < newer + NUM_FRAMES ∧ newer ≠ frameId := by
    simp only [newer, NUM_FRAMES, Nat.cast_ofNat] at hold hmod hmodlt ⊢
    omega
  have hid := (h.held newer hnewer.1 hnewer.2.1 hnewer.2.2.1).1
  rw [hslot, hheld] at hid
  exact hnewer.2.2.2 hid.symm

theorem cast_frames : ((NUM_FRAMES : ℕ) : ℤ) = 16 ∧ ((NUM_FRAMES - 1 : ℕ) : ℤ) = 15 := ⟨rfl, rfl⟩

theorem not_inRing_of_searchRight (h : SearchRight pc state) : ¬ InRing pc state pc.nextFrameId := by
  obtain ⟨hsixteen, hfifteen⟩ := cast_frames
  intro hin
  cases hfound : getLatestFrameWithStateAtLeast pc state with
  | none => exact h.nothing.1 hfound _ hin
  | some index =>
    obtain ⟨frameId, hframe, hindex, hmax⟩ := h.newest index hfound
    obtain ⟨count, hle, hlt, hnext, hslot, -⟩ := latestFrame_some hfound
    rw [hfifteen] at hle
    have hid : frameId = pc.nextFrameId := le_antisymm hframe.le (hmax _ hin)
    rw [hindex, hid] at hslot
    exact getFrame_ne (by omega) (by omega) (by omega) hslot.symm

theorem RingInv.count_lt (h : RingInv pc) (hnot : ¬ InRing pc state pc.nextFrameId) {frameId : ℤ}
    (hin : InRing pc state frameId) :
    0 < pc.nextFrameId - frameId ∧ pc.nextFrameId - frameId < 16 ∧
      Stops pc state (pc.nextFrameId - (pc.nextFrameId - frameId)) := by
  obtain ⟨hsixteen, -⟩ := cast_frames
  have hlt := h.lt_of_held hin.created hin.held hin.le
  have hne : frameId ≠ pc.nextFrameId := fun heq => hnot (heq ▸ hin)
  have hle := hin.le
  refine ⟨by omega, by omega, ?_⟩
  rw [sub_sub_cancel]
  exact ⟨hin.reached, hin.held⟩

theorem RingInv.inRing_of_stops (h : RingInv pc) (hnot : ¬ InRing pc state pc.nextFrameId) {count : ℤ}
    (hpos : 1 ≤ count) (hlt : count < 16) (hnext : count ≤ pc.nextFrameId)
    (hstop : Stops pc state (pc.nextFrameId - count)) :
    InRing pc state (pc.nextFrameId - count) := by
  obtain ⟨hsixteen, -⟩ := cast_frames
  refine ⟨?_, by omega, hstop.2, hstop.1⟩
  by_contra hzero
  have hid : pc.nextFrameId - count = 0 := by omega
  have hcleared := h.untouched (by omega)
  have hvalue := hstop.1
  rw [hid, hcleared] at hvalue
  obtain ⟨hheld, hone⟩ := h.held pc.nextFrameId (by omega) (le_refl _) (by omega)
  exact hnot ⟨by omega, le_refl _, hheld, le_trans hvalue (le_trans (by decide) hone)⟩

theorem RingInv.newest_of_found (h : RingInv pc) (hnot : ¬ InRing pc state pc.nextFrameId) {index : Fin NUM_FRAMES}
    (hfound : getLatestFrameWithStateAtLeast pc state = some index) :
    ∃ frameId, InRing pc state frameId ∧ index = getFrame frameId ∧
      ∀ other, InRing pc state other → other ≤ frameId := by
  obtain ⟨hsixteen, hfifteen⟩ := cast_frames
  obtain ⟨count, hle, hlt, hnext, hindex, hstop, hbefore⟩ := latestFrame_some hfound
  rw [hfifteen] at hle hbefore
  refine ⟨pc.nextFrameId - count, h.inRing_of_stops hnot (by omega) (by omega) hnext hstop, hindex, ?_⟩
  intro other hin
  by_contra hnewer
  obtain ⟨hpos, -, hother⟩ := h.count_lt hnot hin
  exact hbefore (pc.nextFrameId - other) (by omega) (by omega) hother

theorem RingInv.searchRight_iff (h : RingInv pc) (state : FrameState) :
    SearchRight pc state ↔ ¬ InRing pc state pc.nextFrameId := by
  obtain ⟨hsixteen, hfifteen⟩ := cast_frames
  constructor
  · exact not_inRing_of_searchRight
  · intro hnot
    refine ⟨fun index hfound => h.newest_of_found hnot hfound, ?_⟩
    constructor
    · intro hfound frameId hin
      obtain ⟨hpos, hlt, hstop⟩ := h.count_lt hnot hin
      have hcreated := hin.created
      refine latestFrame_none hfound (pc.nextFrameId - frameId) ?_ (by omega) (by omega) hstop
      rw [hfifteen]
      omega
    · intro hnone
      by_contra hsome
      obtain ⟨index, hfound⟩ := Option.ne_none_iff_exists'.1 hsome
      obtain ⟨frameId, hin, -⟩ := h.newest_of_found hnot hfound
      exact hnone frameId hin

/-! ## Runs -/

/-- In every state that a new pacer gets to, the search is right exactly when the newest frame has not got to the state,
or there is none. -/
theorem run_searchRight_iff {getPercentOfTime : ℤ → ℕ → ℤ} {periodNs : ℤ} {hperiod : 0 < periodNs}
    {config : DisplayTimingConfig} {calls : List CompositorPacerCall} {r : PacedCompositor}
    (hr : Reaches presentStep ⟨uPcDisplayTimingCreate getPercentOfTime periodNs hperiod config, none⟩ calls r)
    (state : FrameState) : SearchRight r.pc state ↔ ¬ InRing r.pc state r.pc.nextFrameId := by
  refine RingInv.searchRight_iff ?_ state
  refine inv_of_reaches (I := fun r => RingInv r.pc) (fun _ _ _ h hs => presentStep_ringInv h hs) ?_ hr
  exact ⟨le_rfl, fun frameId hpos hle _ => absurd hpos (not_lt.2 hle), fun _ => rfl⟩

def afterFirst : PacedCompositor := (presentStep ⟨atSixteenMs, none⟩ (.predict 0)).getD ⟨atSixteenMs, none⟩

theorem afterFirst_searchRight_iff :
    SearchRight afterFirst.pc .woke ↔ ¬ InRing afterFirst.pc .woke afterFirst.pc.nextFrameId :=
  run_searchRight_iff (show Reaches presentStep ⟨atSixteenMs, none⟩ [.predict 0] afterFirst from ⟨_, rfl, rfl⟩) .woke

/-- The one frame that was predicted is not found. -/
theorem afterFirst_not_searchRight :
    Reaches presentStep ⟨atSixteenMs, none⟩ [.predict 0] afterFirst ∧ ¬ SearchRight afterFirst.pc .predicted := by
  refine ⟨⟨afterFirst, rfl, rfl⟩, fun h => ?_⟩
  exact not_inRing_of_searchRight h ⟨by decide, le_refl _, rfl, by decide⟩

end AugmentedInsanity.Pacing
