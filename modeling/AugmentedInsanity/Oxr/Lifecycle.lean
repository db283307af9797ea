/-
The states that an application sees its session go through. An exit that is requested while the session does not run,
or again, is not looked at by `oxr_session_request_exit`, and gives changes that there are not in the life of a session;
but for these the changes follow it (`SessionRun.lifecycle_iff`).
-/
import AugmentedInsanity.Oxr.Session

namespace AugmentedInsanity.Oxr

open Xrt Runs

/-! ## The life of a session -/

def lifecycleEdge : XrSessionState → XrSessionState → Bool
  | _, .lossPending => true
  | .idle, .ready => true
  | .ready, .synchronized => true
  | .synchronized, .visible => true
  | .visible, .synchronized => true
  | .visible, .focused => true
  | .focused, .visible => true
  | .synchronized, .stopping => true
  | .stopping, .idle => true
  | .idle, .exiting => true
  | _, _ => false

/-- A change follows another: stopping is only for a session that runs. -/
def Follows (later earlier : StateChange) : Prop :=
  lifecycleEdge earlier.state later.state = true ∧ (later.state = .stopping → later.running = true)

/-- Each change follows the one before it; the newest is the first of the list. -/
def Lawful (changes : List StateChange) : Prop := changes.IsChain Follows

def SessionRun.Lives (r : SessionRun) (call : SessionCall) : Prop :=
  ∀ r', r.step call = some r' → Lawful r'.sess.changes

namespace OxrSession

/-- An exit can be requested: the session runs and will not be lost, and if it is stopping it has ended a frame, or so it
is held to have. -/
structure CanExit (s : OxrSession) : Prop where
  running : s.frameSync.running = true
  kept : s.state ≠ .lossPending
  stopping : s.state = .stopping → s.hasEndedOnce = true

instance (s : OxrSession) : Decidable s.CanExit :=
  decidable_of_iff (s.frameSync.running = true ∧ s.state ≠ .lossPending ∧ (s.state = .stopping → s.hasEndedOnce = true))
    ⟨fun ⟨h1, h2, h3⟩ => ⟨h1, h2, h3⟩, fun ⟨h1, h2, h3⟩ => ⟨h1, h2, h3⟩⟩

def eventStep (s : OxrSession) (event : SessionEvent) : Option OxrSession := some (s.dispatch event)

/-- An event that requests an exit comes when one can be requested. -/
def InTime (s : OxrSession) (event : SessionEvent) : Prop := event = .requestExit → s.CanExit

end OxrSession

/-- Exits are requested when they can be, by the application and by the compositor. -/
def SessionRun.ExitsInTime (r : SessionRun) : SessionCall → Prop
  | .requestExitSession => r.sess.hasLost = false → r.sess.frameSync.running = true → r.sess.CanExit
  | .pollEvent activity events _ =>
    Along OxrSession.eventStep OxrSession.InTime
      (if r.sess.android then r.sess.pollActivity activity else r.sess) events
  | _ => True

/-! ## What holds of a session -/

namespace OxrSession

def runs : XrSessionState → Bool
  | .ready | .synchronized | .visible | .focused | .stopping => true
  | _ => false

def rests : XrSessionState → Bool
  | .idle | .ready | .exiting => true
  | _ => false

structure Recorded (s : OxrSession) : Prop where
  lawful : Lawful s.changes
  newest : s.changes.head?.map (·.state) = some s.state

/-- The state tells whether the session runs, but for the loss of it, and a session that does not run, or has not ended
a frame, is not held to have. -/
structure Alive (s : OxrSession) : Prop extends Recorded s where
  running : s.frameSync.running = true → s.state = .lossPending ∨ runs s.state = true
  resting : s.frameSync.running = false → s.state = .lossPending ∨ rests s.state = true
  ended : s.frameSync.running = false ∨ s.state = .ready → s.hasEndedOnce = false

variable {s s' : OxrSession} {state : XrSessionState}

/-! ## Changing the state -/

theorem changeState_of_eq (h : s.state = state) : s.changeState state = s := if_pos h

theorem changes_of_ne (h : s.state ≠ state) :
    (s.changeState state).changes = ⟨state, s.frameSync.running⟩ :: s.changes := by
  rw [changeState, if_neg h]

@[simp] theorem state_changeState : (s.changeState state).state = state := by
  unfold changeState
  split
  · assumption
  · rfl

@[simp] theorem frameSync_changeState : (s.changeState state).frameSync = s.frameSync := by
  unfold changeState
  split <;> rfl

@[simp] theorem hasEndedOnce_changeState : (s.changeState state).hasEndedOnce = s.hasEndedOnce := by
  unfold changeState
  split <;> rfl

@[simp] theorem state_synchronizeOnce : s.synchronizeOnce.state = .synchronized := state_changeState

@[simp] theorem frameSync_synchronizeOnce : s.synchronizeOnce.frameSync = s.frameSync := frameSync_changeState

theorem Recorded.lawful_changeState_iff (h : s.Recorded) : Lawful (s.changeState state).changes ↔
    (s.state ≠ state → lifecycleEdge s.state state = true ∧ (state = .stopping → s.frameSync.running = true)) := by
  by_cases hstate : s.state = state
  · rw [changeState_of_eq hstate]
    exact iff_of_true h.lawful fun hne => absurd hstate hne
  · obtain ⟨newest, older, hchanges, hnewest⟩ : ∃ newest older, s.changes = newest :: older ∧ newest.state = s.state := by
      have hhead := h.newest
      cases hchanges : s.changes with
      | nil => simp [hchanges] at hhead
      | cons newest older => exact ⟨newest, older, rfl, by simpa [hchanges] using hhead⟩
    have hlawful := h.lawful
    rw [Lawful, hchanges] at hlawful
    rw [changes_of_ne hstate, hchanges, Lawful, List.isChain_cons_cons, Follows, hnewest]
    exact ⟨fun hfollows _ => hfollows.1, fun hfollows => ⟨hfollows hstate, hlawful⟩⟩

theorem Recorded.of_lawful (h : s.Recorded) (hlawful : Lawful (s.changeState state).changes) :
    (s.changeState state).Recorded := by
  refine ⟨hlawful, ?_⟩
  by_cases hstate : s.state = state
  · rw [changeState_of_eq hstate]
    exact h.newest
  · rw [changes_of_ne hstate, state_changeState]
    rfl

theorem Recorded.changeState (h : s.Recorded)
    (hedge : s.state ≠ state → lifecycleEdge s.state state = true ∧ (state = .stopping → s.frameSync.running = true)) :
    (s.changeState state).Recorded :=
  h.of_lawful (h.lawful_changeState_iff.2 hedge)

def Longer (s s' : OxrSession) : Prop := s.changes <:+ s'.changes

theorem Longer.lawful (h : Longer s s') (hlawful : Lawful s'.changes) : Lawful s.changes := hlawful.suffix h

theorem Longer.refl (s : OxrSession) : Longer s s := List.suffix_refl _

theorem Longer.trans {s'' : OxrSession} (h : Longer s s') (h' : Longer s' s'') : Longer s s'' :=
  List.IsSuffix.trans h h'

theorem longer_changeState : Longer s (s.changeState state) := by
  unfold Longer changeState
  split
  · exact List.suffix_refl _
  · exact List.suffix_cons _ _

theorem longer_synchronizeOnce : Longer s s.synchronizeOnce := @longer_changeState s .synchronized

theorem Longer.changeState (h : Longer s s') : Longer s (s'.changeState state) := h.trans longer_changeState

theorem Longer.ite (h : Longer s s') {P : Prop} [Decidable P] : Longer s (if P then s'.changeState state else s') := by
  split
  · exact h.changeState
  · exact h

structure SameLife (s s' : OxrSession) : Prop where
  state : s'.state = s.state
  running : s'.frameSync.running = s.frameSync.running
  hasEndedOnce : s'.hasEndedOnce = s.hasEndedOnce
  changes : s'.changes = s.changes

theorem SameLife.alive (h : SameLife s s') (halive : s.Alive) : s'.Alive := by
  obtain ⟨hstate, hrunning, hended, hchanges⟩ := h
  obtain ⟨⟨hlawful, hnewest⟩, hruns, hrests, hended'⟩ := halive
  refine ⟨⟨?_, ?_⟩, ?_, ?_, ?_⟩
  · rwa [hchanges]
  · rwa [hchanges, hstate]
  · rwa [hstate, hrunning]
  · rwa [hstate, hrunning]
  · rwa [hstate, hrunning, hended]

theorem SameLife.trans {s'' : OxrSession} (h : SameLife s s') (h' : SameLife s' s'') : SameLife s s'' :=
  ⟨h'.state.trans h.state, h'.running.trans h.running, h'.hasEndedOnce.trans h.hasEndedOnce, h'.changes.trans h.changes⟩

theorem Alive.running_of_state (h : s.Alive) (hstate : rests s.state = false) (hloss : s.state ≠ .lossPending) :
    s.frameSync.running = true := by
  cases hrunning : s.frameSync.running with
  | true => rfl
  | false =>
    rcases h.resting hrunning with hloss' | hrests
    · exact absurd hloss' hloss
    · rw [hstate] at hrests
      cases hrests

theorem Alive.move (h : s.Alive) (hrunning : s.frameSync.running = true)
    (hedge : s.state ≠ state → lifecycleEdge s.state state = true) (hruns : runs state = true) (hready : state ≠ .ready) :
    (s.changeState state).Alive := by
  refine ⟨h.toRecorded.changeState fun hne => ⟨hedge hne, fun _ => hrunning⟩, ?_, ?_, ?_⟩
  · intro _
    rw [state_changeState]
    exact Or.inr hruns
  · intro hnot
    rw [frameSync_changeState, hrunning] at hnot
    cases hnot
  · rw [frameSync_changeState, state_changeState, hrunning]
    rintro (hnot | hstate)
    · cases hnot
    · exact absurd hstate hready

theorem Alive.ite (h : s.Alive) {P : Prop} [Decidable P] {state' : XrSessionState} (hP : P → s.state = state)
    (hedge : lifecycleEdge state state' = true) (hrests : rests state = false) (hloss : state ≠ .lossPending)
    (hruns : runs state' = true) (hready : state' ≠ .ready) : (if P then s.changeState state' else s).Alive := by
  split
  · rename_i hp
    have hstate := hP hp
    subst hstate
    exact h.move (h.running_of_state hrests hloss) (fun _ => hedge) hruns hready
  · exact h

theorem Alive.synchronizeOnce (h : s.Alive) (hrunning : s.frameSync.running = true)
    (hedge : s.state ≠ .synchronized → lifecycleEdge s.state .synchronized = true) : s.synchronizeOnce.Alive := by
  have hmoved := h.move hrunning hedge rfl nofun
  refine ⟨⟨hmoved.lawful, hmoved.newest⟩, hmoved.running, hmoved.resting, ?_⟩
  rw [frameSync_synchronizeOnce, hrunning, state_synchronizeOnce]
  rintro (hnot | hnot) <;> cases hnot

theorem Alive.lossPending (h : s.Alive) : (s.changeState .lossPending).Alive := by
  refine ⟨h.toRecorded.changeState fun _ => ⟨by cases s.state <;> rfl, nofun⟩, ?_, ?_, ?_⟩
  · exact fun _ => Or.inl state_changeState
  · exact fun _ => Or.inl state_changeState
  · rw [frameSync_changeState, state_changeState, hasEndedOnce_changeState]
    rintro (hrunning | ⟨⟨⟩⟩)
    exact h.ended (Or.inl hrunning)

/-! ## Requests for an exit -/

theorem requestExit_of_not_ended (hfocused : s.state ≠ .focused) (hvisible : s.state ≠ .visible)
    (hsynchronized : s.state ≠ .synchronized) (hended : s.hasEndedOnce = false) :
    s.requestExit =
      { s.synchronizeOnce.changeState .stopping with exiting := true } := by
  simp [OxrSession.requestExit, hfocused, hvisible, hsynchronized, hended]

theorem requestExit_of_ended (hfocused : s.state ≠ .focused) (hvisible : s.state ≠ .visible)
    (hended : s.hasEndedOnce = true ∨ s.state = .synchronized) :
    s.requestExit = { s.changeState .stopping with exiting := true } := by
  rcases hended with hended | hstate
  · simp [OxrSession.requestExit, hfocused, hvisible, hended]
  · simp [OxrSession.requestExit, hstate]

theorem requestExit_of_visible (hvisible : s.state = .visible) :
    s.requestExit = { (s.changeState .synchronized).changeState .stopping with exiting := true } := by
  simp [OxrSession.requestExit, hvisible]

theorem requestExit_of_focused (hfocused : s.state = .focused) :
    s.requestExit =
      { ((s.changeState .visible).changeState .synchronized).changeState .stopping with exiting := true } := by
  simp [OxrSession.requestExit, hfocused]

theorem Alive.requestExit (h : s.Alive) (hexit : s.CanExit) : s.requestExit.Alive := by
  obtain ⟨hrunning, hkept, hstopping⟩ := hexit
  have hruns := (h.running hrunning).resolve_left hkept
  have hsame : ∀ t : OxrSession, t.Alive → { t with exiting := true }.Alive := fun t ht =>
    SameLife.alive (s := t) ⟨rfl, rfl, rfl, rfl⟩ ht
  cases hstate : s.state with
  | ready =>
    rw [requestExit_of_not_ended (by rw [hstate]; nofun) (by rw [hstate]; nofun) (by rw [hstate]; nofun)
      (h.ended (Or.inr hstate))]
    have hended := h.synchronizeOnce hrunning (fun _ => by rw [hstate]; rfl)
    refine hsame _ (hended.move ?_ (fun _ => ?_) rfl nofun)
    · rw [frameSync_synchronizeOnce, hrunning]
    · rw [state_synchronizeOnce]
      rfl
  | synchronized =>
    rw [requestExit_of_ended (by rw [hstate]; nofun) (by rw [hstate]; nofun) (Or.inr hstate)]
    exact hsame _ (h.move hrunning (fun _ => by rw [hstate]; rfl) rfl nofun)
  | visible =>
    rw [requestExit_of_visible hstate]
    have h1 : (s.changeState .synchronized).Alive := h.move hrunning (fun _ => by rw [hstate]; rfl) rfl nofun
    exact hsame _ (h1.move (by rwa [frameSync_changeState]) (fun _ => by rw [state_changeState]; rfl) rfl nofun)
  | focused =>
    rw [requestExit_of_focused hstate]
    have h1 : (s.changeState .visible).Alive := h.move hrunning (fun _ => by rw [hstate]; rfl) rfl nofun
    have h2 : ((s.changeState .visible).changeState .synchronized).Alive :=
      h1.move (by rwa [frameSync_changeState]) (fun _ => by rw [state_changeState]; rfl) rfl nofun
    refine hsame _ (h2.move ?_ (fun _ => by rw [state_changeState]; rfl) rfl nofun)
    rwa [frameSync_changeState, frameSync_changeState]
  | stopping =>
    rw [requestExit_of_ended (by rw [hstate]; nofun) (by rw [hstate]; nofun) (Or.inl (hstopping hstate))]
    exact hsame _ (h.move hrunning (fun hne => absurd hstate hne) rfl nofun)
  | unknown | idle | lossPending | exiting =>
    rw [hstate] at hruns
    cases hruns

theorem Alive.not_lawful_requestExit (h : s.Alive) (hexit : ¬ s.CanExit) : ¬ Lawful s.requestExit.changes := by
  -- where the end of a frame is made up, the session has to be synchronized lawfully, and to run when it stops
  have hnot_ended : s.hasEndedOnce = false → s.state ≠ .focused → s.state ≠ .visible → s.state ≠ .synchronized →
      Lawful s.requestExit.changes →
        lifecycleEdge s.state .synchronized = true ∧ s.frameSync.running = true := by
    intro hended hfocused hvisible hsynchronized hlawful
    rw [requestExit_of_not_ended hfocused hvisible hsynchronized hended] at hlawful
    have hshorter : Lawful (s.changeState .synchronized).changes :=
      (@longer_changeState s.synchronizeOnce .stopping).lawful hlawful
    have hbefore := h.toRecorded.of_lawful hshorter
    have hafter : s.synchronizeOnce.Recorded := ⟨hbefore.lawful, hbefore.newest⟩
    refine ⟨(h.toRecorded.lawful_changeState_iff.1 hbefore.lawful hsynchronized).1, ?_⟩
    have hrunning := (hafter.lawful_changeState_iff.1 hlawful (by rw [state_synchronizeOnce]; nofun)).2 rfl
    rwa [frameSync_synchronizeOnce] at hrunning
  intro hlawful
  cases hrunning : s.frameSync.running with
  | false =>
    have hended := h.ended (Or.inl hrunning)
    have hstate : s.state ≠ .focused ∧ s.state ≠ .visible ∧ s.state ≠ .synchronized := by
      rcases h.resting hrunning with hstate | hstate
      · rw [hstate]
        exact ⟨nofun, nofun, nofun⟩
      · refine ⟨?_, ?_, ?_⟩ <;> intro heq <;> rw [heq] at hstate <;> cases hstate
    have hnot := (hnot_ended hended hstate.1 hstate.2.1 hstate.2.2 hlawful).2
    rw [hrunning] at hnot
    cases hnot
  | true =>
    have hwrong : s.state = .lossPending ∨ s.state = .stopping ∧ s.hasEndedOnce = false := by
      by_contra hcontra
      rw [not_or, not_and, Bool.not_eq_false] at hcontra
      exact hexit ⟨hrunning, hcontra.1, hcontra.2⟩
    rcases hwrong with hstate | ⟨hstate, hended⟩
    · cases hended : s.hasEndedOnce with
      | false =>
        have hedge := (hnot_ended hended (by rw [hstate]; nofun) (by rw [hstate]; nofun) (by rw [hstate]; nofun) hlawful).1
        rw [hstate] at hedge
        cases hedge
      | true =>
        rw [requestExit_of_ended (by rw [hstate]; nofun) (by rw [hstate]; nofun) (Or.inl hended)] at hlawful
        have hedge := (h.toRecorded.lawful_changeState_iff.1 hlawful (by rw [hstate]; nofun)).1
        rw [hstate] at hedge
        cases hedge
    · have hedge := (hnot_ended hended (by rw [hstate]; nofun) (by rw [hstate]; nofun) (by rw [hstate]; nofun) hlawful).1
      rw [hstate] at hedge
      cases hedge

theorem longer_requestExit : Longer s s.requestExit := by
  unfold OxrSession.requestExit
  refine @Longer.changeState s _ .stopping ?_
  have hvisible : Longer s (if s.state = .focused then s.changeState .visible else s) := (Longer.refl s).ite
  generalize (if s.state = .focused then s.changeState .visible else s) = s₁ at hvisible ⊢
  have hsynchronized : Longer s (if s₁.state = .visible then s₁.changeState .synchronized else s₁) := hvisible.ite
  generalize (if s₁.state = .visible then s₁.changeState .synchronized else s₁) = s₂ at hsynchronized ⊢
  split
  · exact hsynchronized.trans longer_synchronizeOnce
  · exact hsynchronized

/-! ## Events -/

theorem Alive.pollActivity (h : s.Alive) (activity : Option ActivityEvent) : (s.pollActivity activity).Alive := by
  cases activity with
  | none => exact h
  | some activity =>
    cases activity with
    | onPause =>
      unfold OxrSession.pollActivity
      refine Alive.ite ?_ id rfl rfl nofun rfl nofun
      refine Alive.ite ?_ id rfl rfl nofun rfl nofun
      exact h.ite id rfl rfl nofun rfl nofun
    | onResume =>
      simp only [OxrSession.pollActivity]
      split
      · rename_i hstate
        have hrunning : s.frameSync.running = false := by
          cases hrunning : s.frameSync.running with
          | false => rfl
          | true =>
            have hruns := h.running hrunning
            rw [hstate] at hruns
            simp [runs] at hruns
        refine ⟨h.toRecorded.changeState fun _ => ⟨by rw [hstate]; rfl, nofun⟩, ?_, ?_, ?_⟩
        · intro hyes
          rw [frameSync_changeState, hrunning] at hyes
          cases hyes
        · exact fun _ => Or.inr (by rw [state_changeState]; rfl)
        · rw [hasEndedOnce_changeState]
          exact fun _ => h.ended (Or.inl hrunning)
      · exact h

theorem Alive.followCompositor (h : s.Alive) : s.followCompositor.Alive := by
  unfold OxrSession.followCompositor
  refine Alive.ite ?_ And.left rfl rfl nofun rfl nofun
  refine Alive.ite ?_ And.left rfl rfl nofun rfl nofun
  refine Alive.ite ?_ And.left rfl rfl nofun rfl nofun
  exact h.ite And.left rfl rfl nofun rfl nofun

theorem longer_followCompositor : Longer s s.followCompositor := by
  unfold OxrSession.followCompositor
  exact Longer.ite (Longer.ite (Longer.ite (Longer.ite (Longer.refl s))))

theorem longer_dispatch (event : SessionEvent) : Longer s (s.dispatch event) := by
  cases event with
  | requestExit => exact longer_requestExit
  | lossPending => exact longer_changeState
  | stateChange | lost | other => exact Longer.refl s

theorem longer_events (events : List SessionEvent) : Longer s (events.foldl dispatch s) := by
  induction events generalizing s with
  | nil => exact Longer.refl s
  | cons event events ih => exact (longer_dispatch event).trans ih

theorem Alive.dispatch_iff (h : s.Alive) (event : SessionEvent) :
    (s.InTime event → (s.dispatch event).Alive) ∧ (Lawful (s.dispatch event).changes → s.InTime event) := by
  cases event with
  | requestExit =>
    refine ⟨fun hexit => h.requestExit (hexit rfl), fun hlawful _ => ?_⟩
    by_contra hexit
    exact h.not_lawful_requestExit hexit hlawful
  | lossPending => exact ⟨fun _ => h.lossPending, fun _ => nofun⟩
  | stateChange | lost | other => exact ⟨fun _ => SameLife.alive (s := s) ⟨rfl, rfl, rfl, rfl⟩ h, fun _ => nofun⟩

theorem Alive.events_iff (h : s.Alive) (events : List SessionEvent) :
    (Along eventStep InTime s events → (events.foldl dispatch s).Alive) ∧
      (Lawful (events.foldl dispatch s).changes → Along eventStep InTime s events) := by
  induction events generalizing s with
  | nil => exact ⟨fun _ => h, fun _ => trivial⟩
  | cons event events ih =>
    obtain ⟨halive, hlawful⟩ := h.dispatch_iff event
    constructor
    · intro halong
      obtain ⟨hevent, hevents⟩ := along_cons.1 halong
      exact (ih (halive hevent)).1 (hevents _ rfl)
    · intro hchanges
      have hevent := hlawful ((longer_events events).lawful hchanges)
      refine along_cons.2 ⟨hevent, ?_⟩
      rintro _ ⟨⟩
      exact (ih (halive hevent)).2 hchanges

theorem sameLife_fail (xret : XrtResult) : SameLife s (s.fail xret).1 := ⟨rfl, rfl, rfl, rfl⟩

theorem Alive.poll_iff (h : s.Alive) (activity : Option ActivityEvent) (events : List SessionEvent) (last : XrtResult) :
    (Along eventStep InTime (if s.android then s.pollActivity activity else s) events →
        (s.poll activity events last).1.Alive) ∧
      (Lawful (s.poll activity events last).1.changes →
        Along eventStep InTime (if s.android then s.pollActivity activity else s) events) := by
  have hstart : (if s.android then s.pollActivity activity else s).Alive := by
    split
    · exact h.pollActivity activity
    · exact h
  unfold OxrSession.poll OxrSession.afterEvents
  generalize (if s.android then s.pollActivity activity else s) = t at hstart ⊢
  obtain ⟨halive, hlawful⟩ := hstart.events_iff events
  by_cases hlast : last ≠ .success
  · rw [if_pos hlast]
    exact ⟨fun halong => (sameLife_fail last).alive (halive halong), hlawful⟩
  · rw [if_neg hlast]
    exact ⟨fun halong => (halive halong).followCompositor,
      fun hchanges => hlawful (longer_followCompositor.lawful hchanges)⟩

/-! ## Beginning and ending -/

theorem Recorded.startFrameSync (h : s.Recorded) (hrunning : s.frameSync.running = false)
    (hruns : runs s.state = true) (hended : s.state = .ready → s.hasEndedOnce = false) : s.startFrameSync.1.Alive := by
  have hsync : s.frameSync.beginSession = some ⟨true, true⟩ := by
    rw [OxrFrameSync.beginSession, hrunning]
    rfl
  simp only [OxrSession.startFrameSync, hsync]
  exact ⟨⟨h.lawful, h.newest⟩, fun _ => Or.inr hruns, nofun, fun hor => hended (hor.resolve_left nofun)⟩

theorem Alive.sessionBegin (h : s.Alive) (hrunning : s.frameSync.running = false) (xret presence : XrtResult) :
    (s.sessionBegin xret presence).1.Alive := by
  unfold OxrSession.sessionBegin
  split
  · exact h
  · rename_i hready
    have hready : s.state = .ready := not_not.1 hready
    split
    · have hseen : Recorded { s with compositorVisible := true, compositorFocused := true } := ⟨h.lawful, h.newest⟩
      have hsynchronized := @Recorded.changeState _ .synchronized hseen fun _ => ⟨by simp only [hready]; rfl, nofun⟩
      have hvisible := @Recorded.changeState _ .visible hsynchronized fun _ => ⟨by rw [state_changeState]; rfl, nofun⟩
      have hfocused := @Recorded.changeState _ .focused hvisible fun _ => ⟨by rw [state_changeState]; rfl, nofun⟩
      refine hfocused.startFrameSync ?_ ?_ ?_
      · simpa only [frameSync_changeState] using hrunning
      · rw [state_changeState]
        rfl
      · rw [state_changeState]
        exact nofun
    · split
      · exact (sameLife_fail xret).alive h
      · split
        · exact (sameLife_fail presence).alive h
        · exact h.toRecorded.startFrameSync hrunning (by rw [hready]; rfl) fun hready => h.ended (Or.inr hready)

theorem Alive.stopFrameSync (h : s.Alive) (hrunning : s.frameSync.running = true) (hstate : s.state = .stopping) :
    s.stopFrameSync.1.Alive := by
  have hidle := @Recorded.changeState _ .idle h.toRecorded fun _ => ⟨by rw [hstate]; rfl, nofun⟩
  have hlast : ∃ t, t = (if (s.changeState .idle).exiting then (s.changeState .idle).changeState .exiting
      else if (s.changeState .idle).android then s.changeState .idle else (s.changeState .idle).changeState .ready) ∧
      t.Recorded ∧ t.frameSync = s.frameSync ∧ rests t.state = true := by
    refine ⟨_, rfl, ?_⟩
    split
    · refine ⟨hidle.changeState fun _ => ⟨by rw [state_changeState]; rfl, nofun⟩, ?_, ?_⟩
      · rw [frameSync_changeState, frameSync_changeState]
      · rw [state_changeState]
        rfl
    · split
      · refine ⟨hidle, frameSync_changeState, ?_⟩
        rw [state_changeState]
        rfl
      · refine ⟨hidle.changeState fun _ => ⟨by rw [state_changeState]; rfl, nofun⟩, ?_, ?_⟩
        · rw [frameSync_changeState, frameSync_changeState]
        · rw [state_changeState]
          rfl
  obtain ⟨t, ht, hrecorded, hsync, hrests⟩ := hlast
  have hend : t.frameSync.endSession = some { t.frameSync with running := false } := by
    rw [OxrFrameSync.endSession, hsync, hrunning]
    rfl
  simp only [OxrSession.stopFrameSync, ← ht, hend]
  exact ⟨⟨hrecorded.lawful, hrecorded.newest⟩, nofun, fun _ => Or.inr hrests, fun _ => rfl⟩

theorem sameLife_discardFrames (discardWaited discardBegun : XrtResult) :
    SameLife s (s.discardFrames discardWaited discardBegun) := by
  unfold OxrSession.discardFrames
  split <;> dsimp only <;> split <;> exact ⟨rfl, rfl, rfl, rfl⟩

theorem Alive.sessionEnd (h : s.Alive) (discardWaited discardBegun xret : XrtResult) :
    (s.sessionEnd discardWaited discardBegun xret).1.Alive := by
  unfold OxrSession.sessionEnd
  split
  · exact h
  · split
    · exact h
    · rename_i hrunning
      have hrunning : s.frameSync.running = true := by simpa using hrunning
      split
      · exact h
      · rename_i hstate
        have hstate : s.state = .stopping := not_not.1 hstate
        split
        · have hsame : SameLife s { s with compositorVisible := false, compositorFocused := false } := ⟨rfl, rfl, rfl, rfl⟩
          exact (hsame.alive h).stopFrameSync hrunning hstate
        · have hsame := sameLife_discardFrames (s := s) discardWaited discardBegun
          dsimp only
          split
          · exact (hsame.trans (sameLife_fail xret)).alive h
          · exact (hsame.alive h).stopFrameSync (hsame.running.trans hrunning) (hsame.state.trans hstate)

/-! ## Frames -/

theorem edge_synchronized : ∀ {state : XrSessionState}, runs state = true →
    state.value < XrSessionState.visible.value → state ≠ .synchronized → lifecycleEdge state .synchronized = true
  | .ready, _, _, _ => rfl
  | .synchronized, _, _, hne => absurd rfl hne
  | .visible, _, hlt, _ | .focused, _, hlt, _ | .stopping, _, hlt, _ => absurd hlt (by decide)

theorem Alive.doSynchronizeStateChange (h : s.Alive) (hrunning : s.frameSync.running = true) :
    s.doSynchronizeStateChange.Alive := by
  unfold OxrSession.doSynchronizeStateChange
  split
  · rename_i hbefore
    refine h.synchronizeOnce hrunning fun hne => ?_
    have hlt := hbefore.2
    rcases h.running hrunning with hstate | hruns
    · rw [hstate] at hlt
      exact absurd hlt (by decide)
    · exact edge_synchronized hruns hlt hne
  · exact h

theorem Alive.discardBegun (h : s.Alive) (hrunning : s.frameSync.running = true) (discard : XrtResult) :
    (s.discardBegun discard).1.Alive := by
  unfold OxrSession.discardBegun
  dsimp only
  split
  · exact SameLife.alive (s := s) ⟨rfl, rfl, rfl, rfl⟩ h
  · refine Alive.doSynchronizeStateChange (SameLife.alive (s := s) ?_ h) hrunning
    exact ⟨rfl, rfl, rfl, rfl⟩

theorem Alive.submitBegun (h : s.Alive) (hrunning : s.frameSync.running = true) (answers : FrameEndAnswers) :
    (s.submitBegun answers).1.Alive := by
  have hchanged := h.doSynchronizeStateChange hrunning
  unfold OxrSession.submitBegun
  dsimp only
  split
  · exact SameLife.alive (s := s.doSynchronizeStateChange) ⟨rfl, rfl, rfl, rfl⟩ hchanged
  · exact SameLife.alive (s := s.doSynchronizeStateChange) ⟨rfl, rfl, rfl, rfl⟩ hchanged

theorem Alive.frameEnd (h : s.Alive) (hrunning : s.frameSync.running = true) (frame : CheckedFrame)
    (answers : FrameEndAnswers) : (s.frameEnd frame answers).1.Alive := by
  unfold OxrSession.frameEnd
  split
  · exact h
  · split
    · exact h
    · split
      · have hsame : SameLife s { s with frameStarted := false, activeWaitFrames := s.activeWaitFrames - 1 } :=
          ⟨rfl, rfl, rfl, rfl⟩
        exact (hsame.alive h).doSynchronizeStateChange hrunning
      · split
        · exact h
        · split
          · exact h.discardBegun hrunning _
          · split
            · exact h
            · exact h.submitBegun hrunning answers

theorem release_running {ofs ofs' : OxrFrameSync} (h : ofs.release = some ofs') : ofs'.running = ofs.running := by
  unfold OxrFrameSync.release at h
  split at h
  · cases h
    rfl
  · cases h

theorem sameLife_releaseWait (ret : XrSuccess) : SameLife s (s.releaseWait ret).1 := by
  unfold OxrSession.releaseWait
  split
  · exact ⟨rfl, rfl, rfl, rfl⟩
  · rename_i hrelease
    exact ⟨rfl, release_running hrelease, rfl, rfl⟩

theorem sameLife_beginWaited (beginFrame : XrtResult) (ret : XrSuccess) : SameLife s (s.beginWaited beginFrame ret).1 := by
  unfold OxrSession.beginWaited
  split
  · exact sameLife_releaseWait ret
  · dsimp only
    split
    · exact ⟨rfl, rfl, rfl, rfl⟩
    · refine SameLife.trans ?_ (sameLife_releaseWait ret)
      exact ⟨rfl, rfl, rfl, rfl⟩

theorem sameLife_frameBegin (discard beginFrame : XrtResult) : SameLife s (s.frameBegin discard beginFrame).1 := by
  unfold OxrSession.frameBegin
  split
  · exact ⟨rfl, rfl, rfl, rfl⟩
  · split
    · split
      · exact ⟨rfl, rfl, rfl, rfl⟩
      · split
        · exact sameLife_beginWaited beginFrame _
        · dsimp only
          split
          · exact ⟨rfl, rfl, rfl, rfl⟩
          · refine SameLife.trans ?_ (sameLife_beginWaited beginFrame _)
            exact ⟨rfl, rfl, rfl, rfl⟩
    · refine SameLife.trans ?_ (sameLife_beginWaited beginFrame _)
      exact ⟨rfl, rfl, rfl, rfl⟩

theorem sameLife_doWaitFrameAndChecks (answer : WaitAnswer) : SameLife s (s.doWaitFrameAndChecks answer).1 := by
  unfold OxrSession.doWaitFrameAndChecks
  split
  · exact sameLife_fail _
  · split
    · exact ⟨rfl, rfl, rfl, rfl⟩
    · split
      · exact ⟨rfl, rfl, rfl, rfl⟩
      · split <;> exact ⟨rfl, rfl, rfl, rfl⟩

theorem sameLife_frameWait (answer : WaitAnswer) : SameLife s (s.frameWait answer).1 := by
  have hsame := sameLife_doWaitFrameAndChecks (s := s) answer
  unfold OxrSession.frameWait
  split
  · rename_i t e heq
    rw [heq] at hsame
    refine hsame.trans ⟨rfl, ?_, rfl, rfl⟩
    cases hrelease : t.frameSync.release with
    | none => rfl
    | some ofs => exact release_running hrelease
  · rename_i t frameId heq
    rw [heq] at hsame
    exact hsame.trans ⟨rfl, rfl, rfl, rfl⟩

end OxrSession

/-! ## Runs -/

namespace SessionRun

open OxrSession

variable {r r' : SessionRun}

theorem whileRunning_cases (s : OxrSession) (result : SessionResult) :
    (s.hasLost = false ∧ s.frameSync.running = true ∧ s.whileRunning result = result) ∨ (s.whileRunning result).1 = s := by
  unfold OxrSession.whileRunning
  split
  · exact Or.inr rfl
  · split
    · exact Or.inr rfl
    · rename_i hlost hrunning
      exact Or.inl ⟨by simpa using hlost, by simpa using hrunning, rfl⟩

theorem whileRunning_alive {s : OxrSession} {result : SessionResult} (h : s.Alive)
    (hresult : s.frameSync.running = true → result.1.Alive) : (s.whileRunning result).1.Alive := by
  rcases whileRunning_cases s result with ⟨-, hrunning, heq⟩ | heq
  · rw [heq]
    exact hresult hrunning
  · rw [heq]
    exact h

theorem xrBeginSession_alive {s : OxrSession} (h : s.Alive) (viewConfig : Except XrError Unit) (xret presence : XrtResult) :
    (s.xrBeginSession viewConfig xret presence).1.Alive := by
  unfold OxrSession.xrBeginSession
  split
  · exact h
  · split
    · exact h
    · split
      · exact h
      · rename_i hrunning
        exact h.sessionBegin (by simpa using hrunning) xret presence

theorem enterWait_alive (h : r.sess.Alive) (hwait : r.enterWait = some r') : r'.sess.Alive := by
  unfold enterWait at hwait
  split at hwait
  · cases hwait
  · split at hwait
    · cases hwait
      exact h
    · split at hwait
      · cases hwait
      · cases hwait
        exact h
      · rename_i ofs hofs
        cases hwait
        refine SameLife.alive (s := r.sess) ⟨rfl, ?_, rfl, rfl⟩ h
        unfold OxrFrameSync.waitFrame at hofs
        split at hofs
        · split at hofs <;> cases hofs
          rfl
        · cases hofs

theorem leaveWait_alive (h : r.sess.Alive) {answer : WaitAnswer} (hwait : r.leaveWait answer = some r') :
    r'.sess.Alive := by
  have hanswered := (sameLife_frameWait (s := r.sess) answer).alive h
  unfold leaveWait at hwait
  split at hwait
  · cases hwait
  · split at hwait
    · cases hwait
      exact hanswered
    · split at hwait
      · cases hwait
      · cases hwait
        exact hanswered

theorem step_alive (h : r.sess.Alive) (call : SessionCall) (hstep : r.step call = some r') (hexits : r.ExitsInTime call) :
    r'.sess.Alive := by
  cases call with
  | beginSession viewConfig xret presence =>
    have hbegin := xrBeginSession_alive h viewConfig xret presence
    simp only [step] at hstep
    split at hstep <;> rename_i heq <;> rw [heq] at hbegin <;> cases hstep <;> exact hbegin
  | endSession discardWaited discardBegun xret =>
    cases hstep
    exact whileRunning_alive h fun _ => h.sessionEnd discardWaited discardBegun xret
  | requestExitSession =>
    cases hstep
    rcases whileRunning_cases r.sess (r.sess.requestExit, .ok r.sess.requestExit.successResult) with
      ⟨hlost, hrunning, heq⟩ | heq
    · simp only [OxrSession.xrRequestExitSession, heq]
      exact h.requestExit (hexits hlost hrunning)
    · simp only [OxrSession.xrRequestExitSession, heq]
      exact h
  | waitFrame => exact enterWait_alive h hstep
  | waitReturns answer => exact leaveWait_alive h hstep
  | beginFrame discard beginFrame =>
    cases hstep
    exact whileRunning_alive h fun _ => (sameLife_frameBegin discard beginFrame).alive h
  | endFrame maxLayers frame answers =>
    cases hstep
    refine whileRunning_alive h fun hrunning => ?_
    split
    · exact h
    · exact h.frameEnd hrunning frame answers
  | pollEvent activity events last =>
    cases hstep
    exact (h.poll_iff activity events last).1 hexits

theorem lives_iff (h : r.sess.Alive) (call : SessionCall) : r.Lives call ↔ r.ExitsInTime call := by
  refine ⟨fun hlives => ?_, fun hexits r' hstep => (step_alive h call hstep hexits).lawful⟩
  cases call with
  | requestExitSession =>
    intro hlost hrunning
    by_contra hexit
    have hlawful := hlives _ rfl
    simp only [OxrSession.xrRequestExitSession, OxrSession.whileRunning, hlost, hrunning, Bool.not_true,
      Bool.false_eq_true, if_false] at hlawful
    exact h.not_lawful_requestExit hexit hlawful
  | pollEvent activity events last => exact (h.poll_iff activity events last).2 (hlives _ rfl)
  | _ => trivial

theorem create_alive (headless skipEndSession android : Bool) : (create headless skipEndSession android).sess.Alive := by
  refine ⟨⟨?_, rfl⟩, nofun, fun _ => Or.inr rfl, fun _ => rfl⟩
  exact List.isChain_pair.2 ⟨rfl, nofun⟩

/-- In every run the changes of the state follow the life of a session exactly if exits are requested only while the
session runs, is not about to be lost, and when it is stopping only if it is held to have ended a frame. -/
theorem lifecycle_iff (headless skipEndSession android : Bool) (calls : List SessionCall) :
    Along step Lives (create headless skipEndSession android) calls ↔
      Along step ExitsInTime (create headless skipEndSession android) calls :=
  along_iff (I := fun r => r.sess.Alive) (fun _ call h => lives_iff h call)
    (fun _ call _ h hexits hstep => step_alive h call hstep hexits)
    (create_alive headless skipEndSession android) calls

/-- A headless session that is asked to exit twice. -/
theorem exitTwice_not_lives :
    ¬ Along step Lives (create true false false)
      [.beginSession (.ok ()) .success .success, .requestExitSession, .requestExitSession] := by
  intro h
  obtain ⟨-, h⟩ := along_cons.1 h
  obtain ⟨-, h⟩ := along_cons.1 (h _ rfl)
  obtain ⟨hlives, -⟩ := along_cons.1 (h _ rfl)
  -- stopping, and after it synchronized
  obtain ⟨-, hlawful⟩ := List.isChain_cons_cons.1 (hlives _ rfl)
  obtain ⟨hfollows, -⟩ := List.isChain_cons_cons.1 hlawful
  cases hfollows.1

end SessionRun

end AugmentedInsanity.Oxr
