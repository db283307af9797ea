/-
The controller of exposure and gain (`u_autoexpgain.c`). Its state machine brightens or darkens the image, and goes back to
idle after the image has been good for a number of frames, which it counts down. The count is tested for zero after it
went down, so that a delay of no frames is never over (`lawful_iff`).
-/
import Mathlib.Data.List.Basic
import Mathlib.Data.Int.Notation
import Mathlib.Data.List.Induction
import Mathlib.Data.Rat.Init

namespace AugmentedInsanity.Util

/-! ## Floats -/

/-- The operations on floats, left to the machine. -/
class FloatOps (F : Type) where
  /-- The float nearest to a number: a literal or an integer that is converted. -/
  ofRat : ℚ → F
  sub : F → F → F
  add : F → F → F
  mul : F → F → F
  div : F → F → F
  neg : F → F
  powf : F → F → F
  lt : F → F → Bool
  le : F → F → Bool
  eq : F → F → Bool

open FloatOps

variable {F : Type} [FloatOps F]

def fmin (a b : F) : F := if lt a b then a else b

/-- `MAX`; `A > B` compares the other way. -/
def fmax (a b : F) : F := if lt b a then a else b

def fclamp (x a b : F) : F := fmin (fmax x a) b

/-! ## The controller -/

abbrev LEVELS : ℕ := 256
abbrev INITIAL_BRIGHTNESS : ℚ := 1 / 2
abbrev INITIAL_MAX_BRIGHTNESS_STEP : ℚ := 1 / 10
abbrev INITIAL_THRESHOLD : ℚ := 1 / 10
abbrev GRID_COLS : UInt32 := 32

inductive UAegState
  | idle
  | brighten
  | stopBrighten
  | darken
  | stopDarken
  deriving DecidableEq

inductive UAegAction
  | good
  | dark
  | bright
  deriving DecidableEq

inductive UAegStrategy
  | tracking
  | dynamicRange
  deriving DecidableEq

/-- The part of `struct u_autoexpgain` that the state machine uses. -/
structure AegMachine where
  state : UAegState
  overshoots : ℤ
  wait : ℤ
  frameDelay : ℤ
  deriving DecidableEq

structure UAutoexpgain (F : Type) extends AegMachine where
  enable : Bool
  strategy : UAegStrategy
  histogram : List F
  brightness : F
  lastBrightness : F
  maxBrightnessStep : F
  currentScore : F
  threshold : F
  exposure : F
  gain : F

namespace AegMachine

/-- `aeg->overshoots++`. -/
def overshot (aeg : AegMachine) : AegMachine := { aeg with overshoots := aeg.overshoots + 1 }

/-- `aeg->wait--`. -/
def waited (aeg : AegMachine) : AegMachine := { aeg with wait := aeg.wait - 1 }

def leave (stop : UAegState) (aeg : AegMachine × UAegState) : AegMachine × UAegState :=
  if aeg.2 ≠ stop then ({ aeg.1 with wait := aeg.1.frameDelay }, aeg.2) else aeg

/-- The new state of `set_state`, with the counters as they are then. -/
def transition (aeg : AegMachine) (action : UAegAction) : AegMachine × UAegState :=
  match aeg.state, action with
  | .idle, .dark => (aeg, .brighten)
  | .idle, .bright => (aeg, .darken)
  | .idle, .good => (aeg, .idle)
  | .brighten, .dark => (aeg, .brighten)
  | .brighten, .bright => (aeg.overshot, .darken)
  | .brighten, .good => (aeg, .stopBrighten)
  | .stopBrighten, .dark => leave .stopBrighten (aeg, .brighten)
  | .stopBrighten, .bright => leave .stopBrighten (aeg.overshot, .darken)
  | .stopBrighten, .good => leave .stopBrighten (aeg.waited, if aeg.waited.wait = 0 then .idle else .stopBrighten)
  | .darken, .dark => (aeg.overshot, .brighten)
  | .darken, .bright => (aeg, .darken)
  | .darken, .good => (aeg, .stopDarken)
  | .stopDarken, .dark => leave .stopDarken (aeg.overshot, .brighten)
  | .stopDarken, .bright => leave .stopDarken (aeg, .darken)
  | .stopDarken, .good => leave .stopDarken (aeg.waited, if aeg.waited.wait = 0 then .idle else .stopDarken)

def setState (aeg : AegMachine) (action : UAegAction) : AegMachine :=
  let (aeg, newState) := aeg.transition action
  let aeg := if newState = .idle then { aeg with overshoots := 0 } else aeg
  { aeg with overshoots := min (max aeg.overshoots 0) 3, state := newState }

/-- The state machine of `u_autoexpgain_create`. -/
def create (frameDelay : ℤ) : AegMachine := ⟨.idle, 0, frameDelay, frameDelay⟩

def run (frameDelay : ℤ) (actions : List UAegAction) : AegMachine := actions.foldl setState (create frameDelay)

end AegMachine

namespace UAegState

def IsMoving (state : UAegState) : Prop := state = brighten ∨ state = darken

def IsStop (state : UAegState) : Prop := state = stopBrighten ∨ state = stopDarken

theorem cases (state : UAegState) : state = idle ∨ state.IsMoving ∨ state.IsStop := by
  cases state
  · exact .inl rfl
  · exact .inr (.inl (.inl rfl))
  · exact .inr (.inr (.inl rfl))
  · exact .inr (.inl (.inr rfl))
  · exact .inr (.inr (.inr rfl))

end UAegState

/-! ## Runs of good actions -/

open UAegAction

/-- The number of good actions since the last other one. -/
def goodRun (actions : List UAegAction) : ℕ := (actions.reverse.takeWhile fun action => action = good).length

@[simp] theorem goodRun_nil : goodRun [] = 0 := rfl

theorem goodRun_append (actions : List UAegAction) (action : UAegAction) :
    goodRun (actions ++ [action]) = if action = good then goodRun actions + 1 else 0 := by
  unfold goodRun
  rw [List.reverse_append, List.reverse_singleton, List.singleton_append, List.takeWhile_cons]
  by_cases hgood : action = good <;> simp [hgood]

namespace AegMachine

theorem run_append (frameDelay : ℤ) (actions : List UAegAction) (action : UAegAction) :
    run frameDelay (actions ++ [action]) = (run frameDelay actions).setState action := by
  rw [run, List.foldl_append]
  rfl

structure LawfulAt (d : ℕ) (actions : List UAegAction) : Prop where
  /-- A run of good actions longer than the delay ends in IDLE. -/
  settled : d < goodRun actions → (run d actions).state = .idle ∧ (run d actions).overshoots = 0
  /-- IDLE is not reached before. -/
  notEarly : ∀ earlier action, actions = earlier ++ [action] → (run d earlier).state ≠ .idle →
    (run d actions).state = .idle → d < goodRun actions
  /-- A STOP state that is left has refilled the counter. -/
  refilled : ∀ earlier action, actions = earlier ++ [action] → (run d earlier).state.IsStop →
    (run d actions).state ≠ (run d earlier).state → (run d actions).wait = d

/-! ## Steps -/

section Steps

variable {aeg : AegMachine} {action : UAegAction}

theorem leave_frameDelay (stop : UAegState) (result : AegMachine × UAegState) :
    (leave stop result).1.frameDelay = result.1.frameDelay := by
  unfold leave
  split_ifs <;> rfl

theorem transition_frameDelay (aeg : AegMachine) (action : UAegAction) :
    (aeg.transition action).1.frameDelay = aeg.frameDelay := by
  obtain ⟨state, overshoots, wait, frameDelay⟩ := aeg
  cases state <;> cases action
  case stopBrighten.good => exact leave_frameDelay _ _
  case stopDarken.good => exact leave_frameDelay _ _
  all_goals rfl

theorem setState_state (aeg : AegMachine) (action : UAegAction) :
    (aeg.setState action).state = (aeg.transition action).2 := rfl

theorem setState_wait (aeg : AegMachine) (action : UAegAction) :
    (aeg.setState action).wait = (aeg.transition action).1.wait := by
  unfold setState
  dsimp only
  split_ifs <;> rfl

theorem setState_frameDelay (aeg : AegMachine) (action : UAegAction) :
    (aeg.setState action).frameDelay = aeg.frameDelay := by
  rw [← transition_frameDelay aeg action]
  unfold setState
  dsimp only
  split_ifs <;> rfl

theorem setState_overshoots (hidle : (aeg.setState action).state = .idle) : (aeg.setState action).overshoots = 0 := by
  unfold setState at hidle ⊢
  dsimp only at hidle ⊢
  rw [if_pos hidle]
  rfl

theorem setState_moving (haction : action ≠ good) : (aeg.setState action).state.IsMoving ∧
    (aeg.state.IsStop → (aeg.setState action).wait = aeg.frameDelay) ∧
    (¬aeg.state.IsStop → (aeg.setState action).wait = aeg.wait) := by
  obtain ⟨state, overshoots, wait, frameDelay⟩ := aeg
  cases action with
  | good => exact absurd rfl haction
  | dark =>
    refine ⟨.inl (by cases state <;> rfl), ?_, ?_⟩
    · rintro (rfl | rfl) <;> rfl
    · intro hstop
      cases state
      case stopBrighten => exact absurd (.inl rfl) hstop
      case stopDarken => exact absurd (.inr rfl) hstop
      all_goals rfl
  | bright =>
    refine ⟨.inr (by cases state <;> rfl), ?_, ?_⟩
    · rintro (rfl | rfl) <;> rfl
    · intro hstop
      cases state
      case stopBrighten => exact absurd (.inl rfl) hstop
      case stopDarken => exact absurd (.inr rfl) hstop
      all_goals rfl

theorem setState_idle_good (hidle : aeg.state = .idle) :
    (aeg.setState good).state = .idle ∧ (aeg.setState good).wait = aeg.wait := by
  obtain ⟨state, overshoots, wait, frameDelay⟩ := aeg
  obtain rfl : state = .idle := hidle
  exact ⟨rfl, rfl⟩

theorem setState_moving_good (hmoving : aeg.state.IsMoving) :
    (aeg.setState good).state.IsStop ∧ (aeg.setState good).wait = aeg.wait := by
  obtain ⟨state, overshoots, wait, frameDelay⟩ := aeg
  rcases hmoving with h | h
  · obtain rfl : state = .brighten := h
    exact ⟨.inl rfl, rfl⟩
  · obtain rfl : state = .darken := h
    exact ⟨.inr rfl, rfl⟩

theorem setState_stop_last (hstop : aeg.state.IsStop) (hlast : aeg.wait = 1) :
    (aeg.setState good).state = .idle ∧ (aeg.setState good).wait = aeg.frameDelay := by
  obtain ⟨state, overshoots, wait, frameDelay⟩ := aeg
  obtain rfl : wait = 1 := hlast
  rcases hstop with h | h
  · obtain rfl : state = .stopBrighten := h
    exact ⟨rfl, rfl⟩
  · obtain rfl : state = .stopDarken := h
    exact ⟨rfl, rfl⟩

theorem setState_stop_good (hstop : aeg.state.IsStop) (hmore : aeg.wait ≠ 1) :
    (aeg.setState good).state = aeg.state ∧ (aeg.setState good).wait = aeg.wait - 1 := by
  have hwait : ¬aeg.waited.wait = 0 := fun hzero => hmore (Int.sub_eq_zero.mp hzero)
  have htransition : aeg.transition good = (aeg.waited, aeg.state) := by
    unfold transition
    rcases hstop with h | h
    all_goals
      rw [h]
      dsimp only
      rw [if_neg hwait]
      exact if_neg fun hne => hne rfl
  rw [setState_state, setState_wait, htransition]
  exact ⟨rfl, rfl⟩

end Steps

/-! ## A delay of some frames -/

structure Counts (d : ℕ) (aeg : AegMachine) (g : ℕ) : Prop where
  delay : aeg.frameDelay = d
  idle : aeg.state = .idle → aeg.overshoots = 0
  moving : aeg.state.IsMoving → g = 0
  stopped : aeg.state.IsStop → 1 ≤ g ∧ g ≤ d ∧ aeg.wait + g = d + 1
  full : ¬aeg.state.IsStop → aeg.wait = d

variable {d g : ℕ} {aeg : AegMachine} {action : UAegAction}

theorem not_isStop_of_idle (hidle : aeg.state = .idle) : ¬aeg.state.IsStop := by
  rw [hidle]
  rintro (h | h) <;> cases h

theorem not_isStop_of_moving (hmoving : aeg.state.IsMoving) : ¬aeg.state.IsStop := by
  rintro (hstop | hstop) <;> rcases hmoving with h | h <;> cases hstop.symm.trans h

theorem not_idle_of_moving (hmoving : aeg.state.IsMoving) : aeg.state ≠ .idle := by
  intro hidle
  rcases hmoving with h | h <;> cases hidle.symm.trans h

theorem Counts.create (d : ℕ) : Counts d (create d) 0 :=
  ⟨rfl, fun _ => rfl, fun _ => rfl, fun hstop => absurd hstop (not_isStop_of_idle rfl), fun _ => rfl⟩

theorem Counts.of_idle (hdelay : aeg.frameDelay = d) (hidle : aeg.state = .idle) (hovershoots : aeg.overshoots = 0)
    (hwait : aeg.wait = d) : Counts d aeg g :=
  ⟨hdelay, fun _ => hovershoots, fun hmoving => absurd hidle (not_idle_of_moving hmoving),
    fun hstop => absurd hstop (not_isStop_of_idle hidle), fun _ => hwait⟩

theorem Counts.step_other (h : Counts d aeg g) (haction : action ≠ good) : Counts d (aeg.setState action) 0 := by
  obtain ⟨hmoving, hleft, hsame⟩ : (aeg.setState action).state.IsMoving ∧ _ ∧ _ := setState_moving haction
  refine ⟨(setState_frameDelay aeg action).trans h.delay, fun hidle => absurd hidle (not_idle_of_moving hmoving),
    fun _ => rfl, fun hstop => absurd hstop (not_isStop_of_moving hmoving), fun _ => ?_⟩
  by_cases hstop : aeg.state.IsStop
  · rw [hleft hstop, h.delay]
  · rw [hsame hstop, h.full hstop]

theorem Counts.step_good (hd : 1 ≤ d) (h : Counts d aeg g) : Counts d (aeg.setState good) (g + 1) := by
  have hdelay := (setState_frameDelay aeg good).trans h.delay
  rcases aeg.state.cases with hidle | hmoving | hstop
  · obtain ⟨hstill, hwait⟩ := setState_idle_good hidle
    exact .of_idle hdelay hstill (setState_overshoots hstill) (hwait.trans (h.full (not_isStop_of_idle hidle)))
  · obtain ⟨hstopped, hwait⟩ := setState_moving_good hmoving
    refine ⟨hdelay, fun hidle => absurd hstopped (not_isStop_of_idle hidle),
      fun hmoving' => absurd hstopped (not_isStop_of_moving hmoving'), fun _ => ?_, fun hno => absurd hstopped hno⟩
    rw [hwait, h.full (not_isStop_of_moving hmoving), h.moving hmoving]
    exact ⟨Nat.le_refl 1, hd, rfl⟩
  · obtain ⟨hone, hle, hcount⟩ := h.stopped hstop
    by_cases hlast : aeg.wait = 1
    · obtain ⟨hidle, hwait⟩ := setState_stop_last hstop hlast
      exact .of_idle hdelay hidle (setState_overshoots hidle) (hwait.trans h.delay)
    · obtain ⟨hstill, hwait⟩ := setState_stop_good hstop hlast
      have hstopped : (aeg.setState good).state.IsStop := hstill ▸ hstop
      refine ⟨hdelay, fun hidle => absurd hstopped (not_isStop_of_idle hidle),
        fun hmoving => absurd hstopped (not_isStop_of_moving hmoving), fun _ => ?_, fun hno => absurd hstopped hno⟩
      rw [hwait]
      omega

theorem counts_run (hd : 1 ≤ d) (actions : List UAegAction) : Counts d (run d actions) (goodRun actions) := by
  induction actions using List.reverseRecOn with
  | nil => exact .create d
  | append_singleton actions action ih =>
    rw [run_append, goodRun_append]
    by_cases haction : action = good
    · rw [if_pos haction, haction]
      exact ih.step_good hd
    · rw [if_neg haction]
      exact ih.step_other haction

theorem refilled_of_counts (hdelay : aeg.frameDelay = d) (hstop : aeg.state.IsStop)
    (hleft : (aeg.setState action).state ≠ aeg.state) : (aeg.setState action).wait = d := by
  by_cases haction : action = good
  · subst haction
    by_cases hlast : aeg.wait = 1
    · rw [(setState_stop_last hstop hlast).2, hdelay]
    · exact absurd (setState_stop_good hstop hlast).1 hleft
  · rw [(setState_moving haction).2.1 hstop, hdelay]

theorem run_frameDelay (d : ℕ) (actions : List UAegAction) : (run d actions).frameDelay = d := by
  induction actions using List.reverseRecOn with
  | nil => rfl
  | append_singleton actions action ih => rw [run_append, setState_frameDelay, ih]

theorem lawfulAt_of_pos (hd : 1 ≤ d) (actions : List UAegAction) : LawfulAt d actions := by
  have hcounts := counts_run hd actions
  refine ⟨fun hlong => ?_, ?_, ?_⟩
  · have hidle : (run d actions).state = .idle := by
      rcases (run d actions).state.cases with hidle | hmoving | hstop
      · exact hidle
      · have hzero := hcounts.moving hmoving
        omega
      · have hle := (hcounts.stopped hstop).2.1
        omega
    exact ⟨hidle, hcounts.idle hidle⟩
  · rintro earlier action rfl hne hidle
    have hearlier := counts_run hd earlier
    rw [run_append] at hidle
    rw [goodRun_append]
    by_cases haction : action = good
    · subst haction
      rcases (run d earlier).state.cases with hidle' | hmoving | hstop
      · exact absurd hidle' hne
      · exact absurd (setState_moving_good hmoving).1 (not_isStop_of_idle hidle)
      · by_cases hlast : (run d earlier).wait = 1
        · have hcount := (hearlier.stopped hstop).2.2
          rw [if_pos rfl]
          omega
        · exact absurd ((setState_stop_good hstop hlast).1.symm.trans hidle) hne
    · exact absurd hidle (not_idle_of_moving (setState_moving haction).1)
  · rintro earlier action rfl hstop hleft
    rw [run_append] at hleft ⊢
    exact refilled_of_counts (run_frameDelay d earlier) hstop hleft

/-! ## A delay of no frames -/

def GoodFirst (actions : List UAegAction) : Prop := actions.Pairwise fun a b => a ≠ good → b ≠ good

variable {actions : List UAegAction}

theorem goodFirst_append :
    GoodFirst (actions ++ [action]) ↔ GoodFirst actions ∧ ∀ a ∈ actions, a ≠ good → action ≠ good := by
  unfold GoodFirst
  rw [List.pairwise_append]
  simp

theorem run_of_goodFirst (hgood : GoodFirst actions) :
    ((∀ a ∈ actions, a = good) ∧ (run 0 actions).state = .idle ∧ (run 0 actions).overshoots = 0) ∨
      ((∃ a ∈ actions, a ≠ good) ∧ (run 0 actions).state.IsMoving ∧ goodRun actions = 0) := by
  induction actions using List.reverseRecOn with
  | nil => exact .inl ⟨fun _ ha => absurd ha List.not_mem_nil, rfl, rfl⟩
  | append_singleton actions action ih =>
    obtain ⟨hinit, hlast⟩ := goodFirst_append.mp hgood
    rw [run_append, goodRun_append]
    by_cases haction : action = good
    · subst haction
      rcases ih hinit with ⟨hall, hidle, hovershoots⟩ | ⟨⟨a, ha, hne⟩, -, -⟩
      · have hstill := (setState_idle_good hidle).1
        refine .inl ⟨fun a ha => ?_, hstill, setState_overshoots hstill⟩
        rcases List.mem_append.mp ha with ha | ha
        · exact hall a ha
        · exact List.mem_singleton.mp ha
      · exact absurd rfl (hlast a ha hne)
    · exact .inr ⟨⟨action, List.mem_append_right _ (List.mem_singleton_self _), haction⟩,
        (setState_moving haction).1, if_neg haction⟩

theorem lawfulAt_of_goodFirst (hgood : GoodFirst actions) : LawfulAt 0 actions := by
  refine ⟨fun hlong => ?_, ?_, ?_⟩
  · rcases run_of_goodFirst hgood with ⟨-, hidle, hovershoots⟩ | ⟨-, -, hzero⟩
    · exact ⟨hidle, hovershoots⟩
    · omega
  · rintro earlier action rfl hne hidle
    rcases run_of_goodFirst (goodFirst_append.mp hgood).1 with ⟨-, hidle', -⟩ | ⟨⟨a, ha, hane⟩, -, -⟩
    · exact absurd hidle' hne
    · rw [run_append] at hidle
      have haction := (goodFirst_append.mp hgood).2 a ha hane
      exact absurd hidle (not_idle_of_moving (setState_moving haction).1)
  · rintro earlier action rfl hstop hleft
    rw [run_append] at hleft ⊢
    exact refilled_of_counts (run_frameDelay 0 earlier) hstop hleft

theorem goodFirst_of_lawful (hlawful : ∀ earlier, earlier <+: actions → LawfulAt 0 earlier) : GoodFirst actions := by
  induction actions using List.reverseRecOn with
  | nil => exact .nil
  | append_singleton actions action ih =>
    have hinit := ih fun earlier hle => hlawful earlier (hle.trans (List.prefix_append _ _))
    refine goodFirst_append.mpr ⟨hinit, fun a ha hne haction => ?_⟩
    rcases run_of_goodFirst hinit with ⟨hall, -, -⟩ | ⟨-, hmoving, hzero⟩
    · exact hne (hall a ha)
    · subst haction
      have hidle := ((hlawful _ List.prefix_rfl).settled (by rw [goodRun_append, if_pos rfl, hzero]; exact Nat.one_pos)).1
      rw [run_append] at hidle
      exact not_isStop_of_idle hidle (setState_moving_good hmoving).1

/-- The machine goes back to IDLE as it should in all of a run if frames are waited for, or if no good action comes after a
dark or bright one. -/
theorem lawful_iff (d : ℕ) (actions : List UAegAction) :
    (∀ earlier, earlier <+: actions → LawfulAt d earlier) ↔ 1 ≤ d ∨ GoodFirst actions := by
  constructor
  · intro hlawful
    rcases Nat.eq_zero_or_pos d with rfl | hd
    · exact .inr (goodFirst_of_lawful hlawful)
    · exact .inl hd
  · rintro (hd | hgood) earlier hprefix
    · exact lawfulAt_of_pos hd earlier
    · rcases Nat.eq_zero_or_pos d with rfl | hd
      · exact lawfulAt_of_goodFirst (hgood.sublist hprefix.sublist)
      · exact lawfulAt_of_pos hd earlier

/-- Without a delay, the machine stays in STOP_BRIGHTEN. -/
theorem not_lawfulAt_dark_good : ¬LawfulAt 0 [dark, good] := fun hlawful =>
  absurd (hlawful.settled (by decide)).1 (by decide)

end AegMachine

end AugmentedInsanity.Util
