/-
What the states of actions say from one synchronization to the next: that a state has changed, and since when it has not. It
is right as long as no state is left active by calls that do not update it, and as binding anew, which resets the states and
marks them as active, does not show (`ActionRun.states_lawful`).
-/
import AugmentedInsanity.Oxr.ActionSync

namespace AugmentedInsanity.Oxr

open Xrt Runs

variable {F : Type} [Field F] [LinearOrder F] {act : OxrActionAttachment F}

/-! ## What is to be -/

/-- A state changes if it was and is active and has another value, keeps its time if it has the same, and is not active unless
something drives the action. -/
structure StateLaw (actionType : XrActionType) (driven : Prop) (before now : OxrActionState F) : Prop where
  changed : now.changed = true ↔
    before.active = true ∧ now.active = true ∧ before.value.part actionType ≠ now.value.part actionType
  timestamp : before.active = true → now.active = true → before.value.part actionType = now.value.part actionType →
    now.timestamp = before.timestamp
  inactive : ¬ driven → now.active = false

/-- All states of an action that has states for the application. -/
def OxrActionAttachment.Lawful (driven : OxrSubactionPath → Prop) (before now : OxrActionAttachment F) : Prop :=
  before.actionType ≠ .vibrationOutput →
    (∀ path ∈ OxrSubactionPath.valid,
      StateLaw before.actionType (driven path) (before.cache path).current (now.cache path).current) ∧
    StateLaw before.actionType (∃ path ∈ OxrSubactionPath.valid, driven path) before.anyState now.anyState

/-- An action set is to be synchronized for a subaction path. -/
def SyncCall.Requests (call : SyncCall F) (inst : OxrInstancePaths F) (set : OxrActionSetAttachment F)
    (path : OxrSubactionPath) : Prop :=
  ∃ requested ∈ call.actionSets, requested.actionSet = set.actSetKey ∧
    ∃ paths, oxrClassifySubactionPath inst.pathCache requested.subactionPath = some paths ∧
      (paths.has path || paths.any) = true

namespace OxrSessionActionContext

def actions (context : OxrSessionActionContext F) : List (List (OxrActionAttachment F)) :=
  context.sets.map (·.actAttachments)

/-- The set of an action is to be synchronized for a subaction path, where an active input is not suppressed. -/
def Driven (context : OxrSessionActionContext F) (inst : OxrInstancePaths F) (call : SyncCall F)
    (set : OxrActionSetAttachment F) (act : OxrActionAttachment F) (path : OxrSubactionPath) : Prop :=
  call.Requests inst set path ∧ ∃ input ∈ (act.cache path).inputs,
    (input.reading call.devices).active = true ∧ (context.actionSync call).supressed set path input = false

/-- A call that does not fail leaves the actions lawful, from what they were after the last such call; if it updates none,
nothing drives them. -/
def Lawful (inst : OxrInstancePaths F) (last : List (List (OxrActionAttachment F))) (context : OxrSessionActionContext F)
    (call : SyncCall F) : Prop :=
  match context.prepare inst call with
  | .failed _ _ => True
  | .unsynced _ context =>
    List.Forall₂ (List.Forall₂ fun before now => before.Lawful (fun _ => False) now) last context.actions
  | .synced context =>
    List.Forall₂ (fun acts set =>
      List.Forall₂ (fun before act => before.Lawful (context.Driven inst call set act) (context.updateAction call set act))
        acts set.actAttachments) last context.sets

end OxrSessionActionContext

/-! ## What calls may do -/

/-- A state that is reset and marked as active will be followed as if it had not been reset. -/
def HidesReset (actionType : XrActionType) (before : OxrActionState F) (value : XrtInputValue F) : Prop :=
  (value.part actionType ≠ XrtInputValue.zero ↔
    before.active = true ∧ before.value.part actionType ≠ value.part actionType) ∧
  (before.active = true → before.value.part actionType = value.part actionType → before.timestamp = 0)

/-- The states of an action that has any for the application are the same. -/
def OxrActionAttachment.SameStates (before now : OxrActionAttachment F) : Prop :=
  now.actionType = before.actionType ∧ (before.actionType ≠ .vibrationOutput →
    (∀ path ∈ OxrSubactionPath.valid, (now.cache path).current = (before.cache path).current) ∧
      now.anyState = before.anyState)

/-- An action that has states for the application is not active. -/
def OxrActionAttachment.Inactive (act : OxrActionAttachment F) : Prop :=
  act.actionType ≠ .vibrationOutput →
    (∀ path ∈ OxrSubactionPath.valid, (act.cache path).current.active = false) ∧ act.anyState.active = false

namespace OxrSessionActionContext

/-- On each path that is synchronized an action without inputs is not active, and one that has been bound anew and is driven
hides that it has been reset. -/
def MayUpdate (context : OxrSessionActionContext F) (call : SyncCall F) (boundAnew : Bool) (set : OxrActionSetAttachment F)
    (before act : OxrActionAttachment F) : Prop :=
  act.actionType ≠ .vibrationOutput → ∀ path ∈ OxrSubactionPath.valid,
    (set.requestedSubactionPaths.has path || set.requestedSubactionPaths.any) = true →
      let supressed := (context.actionSync call).supressed set path
      ((act.cache path).inputs = [] → (act.cache path).current.active = false) ∧
      (boundAnew = true → before.bindsPath path = true →
        drivingInputs call.devices supressed (act.cache path).inputs ≠ [] →
          HidesReset act.actionType (before.cache path).current ((act.cache path).combined call.devices supressed).value)

/-- A call that fails leaves the states as they are, one that does not update them finds them inactive, and one that updates
them may do so. -/
def Careful (inst : OxrInstancePaths F) (context : OxrSessionActionContext F) (call : SyncCall F) : Prop :=
  match context.prepare inst call with
  | .failed _ after => List.Forall₂ (List.Forall₂ OxrActionAttachment.SameStates) context.actions after.actions
  | .unsynced _ after => ∀ acts ∈ after.actions, ∀ act ∈ acts, act.Inactive
  | .synced after =>
    List.Forall₂ (fun acts set =>
      List.Forall₂ (after.MayUpdate call (call.roles.any context.bindsAnew) set) acts set.actAttachments)
        context.actions after.sets

end OxrSessionActionContext

/-! ## Following inputs -/

structure StartsFrom (actionType : XrActionType) (before current : OxrActionState F) (value : XrtInputValue F) : Prop where
  changes : (current.active = true ∧ current.value.part actionType ≠ value.part actionType) ↔
    (before.active = true ∧ before.value.part actionType ≠ value.part actionType)
  keeps : before.active = true → before.value.part actionType = value.part actionType →
    current.active = true ∧ current.timestamp = before.timestamp

/-! ## The law of a state -/

section
variable {actionType : XrActionType} {driven : Prop} {before now last : OxrActionState F}

omit [LinearOrder F] in
theorem StateLaw.of_inactive (hactive : now.active = false) (hchanged : now.changed = false) :
    StateLaw actionType driven before now := by
  refine ⟨iff_of_false ?_ ?_, fun _ h => ?_, fun _ => hactive⟩
  · simp [hchanged]
  · simp [hactive]
  · rw [hactive] at h
    cases h

omit [LinearOrder F] in
theorem StateLaw.zero : StateLaw actionType driven before (OxrActionState.zero : OxrActionState F) :=
  .of_inactive rfl rfl

theorem StateLaw.follow {combined : CombinedInput F} (htype : isIdentity combined.type actionType = true)
    (hpose : actionType = .poseInput → last.changed = false) (hstarts : StartsFrom actionType before last combined.value)
    (hdriven : driven) : StateLaw actionType driven before (last.follow combined) := by
  obtain ⟨hvalue, hchanged, htimestamp⟩ := OxrActionState.follow_spec htype hpose
  refine ⟨?_, ?_, fun h => absurd hdriven h⟩
  · rw [hchanged, hvalue, hstarts.changes]
    simp
  · intro hbefore _ hsame
    rw [hvalue] at hsame
    obtain ⟨hlast, heq⟩ := hstarts.keeps hbefore hsame
    rw [← heq]
    apply htimestamp hlast
    by_contra hdiffers
    exact (hstarts.changes.1 ⟨hlast, hdiffers⟩).2 hsame

variable {value : XrtInputValue F}

omit [LinearOrder F] in
theorem StateLaw.followAny {active differs : Bool} {timestamp : ℤ}
    (hdiffers : differs = true ↔ last.value.part actionType ≠ value.part actionType)
    (hdriven : active = true → driven) :
    StateLaw actionType driven last (last.followAny active timestamp value differs) := by
  refine ⟨?_, ?_, ?_⟩
  · simp [OxrActionState.followAny, hdiffers]
  · rintro hlast hactive hsame
    have hno : differs = false := by
      rw [← Bool.not_eq_true, hdiffers]
      exact not_not_intro hsame
    have hactive : active = true := hactive
    simp [OxrActionState.followAny, hlast, hactive, hno]
  · intro hnot
    by_contra hactive
    exact hnot (hdriven (by simpa [OxrActionState.followAny] using hactive))

omit [LinearOrder F] in
theorem StartsFrom.refl : StartsFrom actionType before before value :=
  ⟨Iff.rfl, fun h _ => ⟨h, rfl⟩⟩

omit [LinearOrder F] in
theorem StartsFrom.of_hidesReset (h : HidesReset actionType before value) :
    StartsFrom actionType before { (OxrActionState.zero : OxrActionState F) with active := true } value := by
  have hzero : (XrtInputValue.zero : XrtInputValue F).part actionType = XrtInputValue.zero := by
    cases actionType <;> rfl
  refine ⟨?_, fun hactive hsame => ⟨rfl, (h.2 hactive hsame).symm⟩⟩
  rw [← h.1, OxrActionState.zero, hzero]
  simp [eq_comm]

end

/-! ## Updating an action -/

section
variable {actionType : XrActionType} {cache : OxrActionCache F} {devices : Devices F} {supressed : OxrActionInput F → Bool}
  {isFocused selected : Bool} {time : ℤ}

theorem OxrActionCache.update_current (hbound : cache.Bound actionType) :
    (cache.update devices isFocused supressed time selected).current = OxrActionState.zero ∨
      (cache.update devices isFocused supressed time selected).current = cache.current ∨
      (actionType = .vibrationOutput ∧
        (cache.update devices isFocused supressed time selected).current = { cache.current with active := true }) ∨
      (drivingInputs devices supressed cache.inputs ≠ [] ∧
        (cache.update devices isFocused supressed time selected).current =
          cache.current.follow (cache.combined devices supressed)) := by
  cases selected with
  | false => exact Or.inl update_unselected
  | true =>
    by_cases houtputs : cache.outputs = []
    · by_cases hinputs : cache.inputs = []
      · rw [update_idle hinputs houtputs]
        exact Or.inr (Or.inl rfl)
      · rw [update_inputs hbound hinputs houtputs]
        split
        · exact Or.inr (Or.inr (Or.inr ⟨And.right ‹_›, rfl⟩))
        · exact Or.inl rfl
    · refine Or.inr (Or.inr (Or.inl ⟨by_contra fun h => houtputs (hbound.outputs h), ?_⟩))
      simp only [update, Bool.not_true, Bool.false_eq_true, if_false, if_pos houtputs]
      split <;> rfl

theorem OxrActionCache.update_lawful {before : OxrActionState F} {driven : Prop} (hbound : cache.Bound actionType)
    (haction : actionType ≠ .vibrationOutput)
    (hcleared : cache.current.active = false → cache.current.changed = false)
    (hpose : actionType = .poseInput → cache.current.changed = false)
    (hstuck : selected = true → cache.inputs = [] → cache.current.active = false)
    (hstarts : selected = true → drivingInputs devices supressed cache.inputs ≠ [] →
      StartsFrom actionType before cache.current (cache.combined devices supressed).value)
    (hdriven : selected = true → drivingInputs devices supressed cache.inputs ≠ [] → driven) :
    StateLaw actionType driven before (cache.update devices true supressed time selected).current := by
  cases selected with
  | false =>
    rw [update_unselected]
    exact .zero
  | true =>
    have houtputs := hbound.outputs haction
    by_cases hinputs : cache.inputs = []
    · rw [update_idle hinputs houtputs]
      exact .of_inactive (hstuck rfl hinputs) (hcleared (hstuck rfl hinputs))
    · rw [update_inputs hbound hinputs houtputs]
      by_cases hdriving : drivingInputs devices supressed cache.inputs = []
      · rw [if_neg fun h => h.2 hdriving]
        exact .zero
      · rw [if_pos ⟨rfl, hdriving⟩]
        exact .follow (combined_type hbound hdriving) hpose (hstarts rfl hdriving) (hdriven rfl hdriving)

end

namespace OxrActionAttachment

variable {act before last : OxrActionAttachment F} {timestamp : ℤ}

structure Settled (act : OxrActionAttachment F) : Prop where
  bound : act.Bound
  cleared : ∀ path, (act.cache path).current.active = false → (act.cache path).current.changed = false
  pose : act.actionType = .poseInput → ∀ path, (act.cache path).current.changed = false
  any : act.anyState.active = false → act.anyState.changed = false

theorem updateAny_lawful {driven : OxrSubactionPath → Prop}
    (h : ∀ path ∈ OxrSubactionPath.valid, (act.cache path).current.active = true → driven path) :
    StateLaw act.actionType (∃ path ∈ OxrSubactionPath.valid, driven path) act.anyState (act.updateAny timestamp) := by
  have hstates : act.states.any (·.active) = true → ∃ path ∈ OxrSubactionPath.valid, driven path := by
    rw [states, List.any_map, List.any_eq_true]
    rintro ⟨path, hpath, hactive⟩
    exact ⟨path, hpath, h path hpath hactive⟩
  unfold updateAny
  cases haction : act.actionType with
  | booleanInput =>
    refine .followAny (by simp [XrtInputValue.part]) fun hactive => hstates ?_
    rwa [(foldl_updateBool _ _).1, Bool.false_or] at hactive
  | floatInput =>
    refine .followAny (by simp [XrtInputValue.part]) fun hactive => hstates ?_
    rwa [(foldl_updateVec1 _ _).1, Bool.false_or] at hactive
  | vector2fInput =>
    refine .followAny (by simp [XrtInputValue.part, Prod.ext_iff, imp_iff_not_or]) fun hactive => hstates ?_
    rwa [(foldl_updateVec2 _ _).1, Bool.false_or] at hactive
  | poseInput | vibrationOutput => exact .zero

omit [Field F] [LinearOrder F] in
theorem followAny_cleared {last : OxrActionState F} {active differs : Bool} {value : XrtInputValue F}
    (h : (last.followAny active timestamp value differs).active = false) :
    (last.followAny active timestamp value differs).changed = false := by
  have hactive : active = false := h
  simp [OxrActionState.followAny, hactive]

theorem updateAny_cleared (h : (act.updateAny timestamp).active = false) :
    (act.updateAny timestamp).changed = false := by
  unfold updateAny at h ⊢
  cases haction : act.actionType with
  | booleanInput | floatInput | vector2fInput =>
    rw [haction] at h
    exact followAny_cleared h
  | poseInput | vibrationOutput => rfl

theorem Settled.update (h : act.Settled) (devices : Devices F) (isFocused : Bool)
    (supressed : OxrSubactionPath → OxrActionInput F → Bool) (time timestamp : ℤ) (subactionPaths : OxrSubactionPaths) :
    (act.update devices isFocused supressed time timestamp subactionPaths).Settled := by
  have hcache : ∀ path,
      (act.update devices isFocused supressed time timestamp subactionPaths).cache path = act.cache path ∨
        (act.update devices isFocused supressed time timestamp subactionPaths).cache path =
          (act.cache path).update devices isFocused (supressed path) time
            (subactionPaths.has path || subactionPaths.any) := by
    intro path
    by_cases hpath : path ∈ OxrSubactionPath.valid
    · exact Or.inr (if_pos hpath)
    · exact Or.inl (if_neg hpath)
  constructor
  · intro path
    rcases hcache path with heq | heq <;> rw [heq]
    · exact h.bound path
    · exact (OxrActionCache.update_bound (h.bound path) _).1
  · intro path
    rcases hcache path with heq | heq <;> rw [heq]
    · exact h.cleared path
    · rcases OxrActionCache.update_current (h.bound path) with heq | heq | ⟨-, heq⟩ | ⟨-, heq⟩ <;> rw [heq]
      · exact fun _ => rfl
      · exact h.cleared path
      · nofun
      · intro hactive
        rw [OxrActionState.follow_active] at hactive
        cases hactive
  · intro hpose path
    have hpose : act.actionType = .poseInput := hpose
    rcases hcache path with heq | heq <;> rw [heq]
    · exact h.pose hpose path
    · rcases OxrActionCache.update_current (h.bound path) with heq | heq | ⟨haction, -⟩ | ⟨hdriving, heq⟩
      · rw [heq]
        rfl
      · rw [heq]
        exact h.pose hpose path
      · rw [hpose] at haction
        cases haction
      · -- the part of a value that a pose has is always the same
        have htype := OxrActionCache.combined_type (h.bound path) hdriving
        rw [hpose] at htype
        rw [heq, ← Bool.not_eq_true, (OxrActionState.follow_spec htype fun _ => h.pose hpose path).2.1]
        exact fun hdiffers => hdiffers.2 rfl
  · exact updateAny_cleared

structure ReboundFrom (boundAnew : Bool) (before act : OxrActionAttachment F) : Prop where
  actionType : act.actionType = before.actionType
  anyState : act.anyState = before.anyState
  kept : ∀ path, ¬ (boundAnew = true ∧ before.bindsPath path = true) → act.cache path = before.cache path
  reset : ∀ path, boundAnew = true → before.bindsPath path = true →
    (act.cache path).current = { (OxrActionState.zero : OxrActionState F) with active := (act.cache path).current.active } ∧
      ((act.cache path).inputs ≠ [] → (act.cache path).current.active = true)

omit [LinearOrder F] in
theorem ReboundFrom.refl : act.ReboundFrom false act := ⟨rfl, rfl, fun _ _ => rfl, nofun⟩

omit [LinearOrder F] in
theorem oxrActionBindIo_bound {inst : OxrInstancePaths F} {roles : OxrRoles F} {actKey actSetKey : ℕ}
    {actionType : XrActionType} {path : OxrSubactionPath} :
    (oxrActionBindIo inst roles actKey actionType actSetKey path).Bound actionType := by
  refine ⟨fun input hinput => boundInputs_delivers hinput, fun haction => ?_, fun _ _ => rfl⟩
  simp only [oxrActionBindIo, getBinding]
  split
  · split
    · rfl
    · rfl
  · rfl

omit [LinearOrder F] in
theorem bind_reboundFrom (inst : OxrInstancePaths F) (roles : OxrRoles F) (actSetKey : ℕ) :
    act.ReboundFrom true (act.bind inst roles actSetKey) := by
  refine ⟨rfl, rfl, fun path hpath => if_neg fun hbinds => hpath ⟨rfl, hbinds⟩, fun path _ hbinds => ?_⟩
  have hcache : (act.bind inst roles actSetKey).cache path =
      oxrActionBindIo inst roles act.actKey act.actionType actSetKey path := if_pos hbinds
  rw [hcache]
  refine ⟨rfl, fun hinputs => ?_⟩
  simp only [oxrActionBindIo] at hinputs ⊢
  cases hfound : (getBinding (F := F) (roles.device path) (roles.profile path) act.actKey act.actionType path).1 with
  | nil => simp [hfound, boundInputs] at hinputs
  | cons input inputs => rfl

omit [LinearOrder F] in
theorem Settled.bind (h : act.Settled) (inst : OxrInstancePaths F) (roles : OxrRoles F) (actSetKey : ℕ) :
    (act.bind inst roles actSetKey).Settled := by
  have hbound := @bind_reboundFrom _ _ act inst roles actSetKey
  have hchanged : ∀ path, act.bindsPath path = true →
      ((act.bind inst roles actSetKey).cache path).current.changed = false := by
    intro path hbinds
    rw [(hbound.reset path rfl hbinds).1]
    rfl
  constructor
  · intro path
    by_cases hbinds : act.bindsPath path = true
    · have hcache : (act.bind inst roles actSetKey).cache path =
          oxrActionBindIo inst roles act.actKey act.actionType actSetKey path := if_pos hbinds
      rw [hcache]
      exact oxrActionBindIo_bound
    · rw [hbound.kept path fun h => hbinds h.2]
      exact h.bound path
  · intro path
    by_cases hbinds : act.bindsPath path = true
    · exact fun _ => hchanged path hbinds
    · rw [hbound.kept path fun h => hbinds h.2]
      exact h.cleared path
  · intro hpose path
    by_cases hbinds : act.bindsPath path = true
    · exact hchanged path hbinds
    · rw [hbound.kept path fun h => hbinds h.2]
      exact h.pose hpose path
  · exact h.any

theorem update_lawful {context : OxrSessionActionContext F} {inst : OxrInstancePaths F} {call : SyncCall F} {boundAnew : Bool}
    {set : OxrActionSetAttachment F} (hfocused : call.isFocused = true) (hlast : last.SameStates before)
    (hrebound : ReboundFrom boundAnew before act) (hsettled : act.Settled)
    (hmay : context.MayUpdate call boundAnew set before act)
    (hrequests : ∀ path, (set.requestedSubactionPaths.has path || set.requestedSubactionPaths.any) = true →
      call.Requests inst set path) :
    last.Lawful (context.Driven inst call set act) (context.updateAction call set act) := by
  obtain ⟨htype, hsame⟩ := hlast
  have haction : act.actionType = last.actionType := hrebound.actionType.trans htype
  intro hvibration
  obtain ⟨hcurrent, hany⟩ := hsame hvibration
  have hcache : ∀ path ∈ OxrSubactionPath.valid, StateLaw act.actionType (context.Driven inst call set act path)
      (last.cache path).current ((context.updateAction call set act).cache path).current := by
    intro path hpath
    have heq : (context.updateAction call set act).cache path =
        (act.cache path).update call.devices true ((context.actionSync call).supressed set path) call.time
          (set.requestedSubactionPaths.has path || set.requestedSubactionPaths.any) := by
      rw [← hfocused]
      exact if_pos hpath
    rw [heq]
    have hmay := hmay (haction ▸ hvibration) path hpath
    refine OxrActionCache.update_lawful (hsettled.bound path) (haction ▸ hvibration) (hsettled.cleared path)
      (fun hpose => hsettled.pose hpose path) (fun hselected => (hmay hselected).1) ?_ ?_
    · intro hselected hdriving
      by_cases hbinds : boundAnew = true ∧ before.bindsPath path = true
      · obtain ⟨hreset, hactive⟩ := hrebound.reset path hbinds.1 hbinds.2
        rw [hreset, hactive fun hnil => hdriving (by rw [hnil]; rfl), ← hcurrent path hpath]
        exact .of_hidesReset ((hmay hselected).2 hbinds.1 hbinds.2 hdriving)
      · rw [hrebound.kept path hbinds, hcurrent path hpath]
        exact .refl
    · intro hselected hdriving
      rw [Ne, drivingInputs_eq_nil_iff (hsettled.bound path).delivers] at hdriving
      push Not at hdriving
      obtain ⟨input, hinput, hactive, hkept⟩ := hdriving
      exact ⟨hrequests path hselected, input, hinput, hactive, by simpa using hkept⟩
  rw [← haction]
  refine ⟨hcache, ?_⟩
  rw [← hany, ← hrebound.anyState]
  -- a state that is active is driven, so the state for any subaction path is
  refine @updateAny_lawful _ _ _ { act with cache := (context.updateAction call set act).cache } _ _
    fun path hpath hactive => ?_
  by_contra hnot
  rw [(hcache path hpath).inactive hnot] at hactive
  cases hactive

end OxrActionAttachment

/-! ## Calls -/

section
variable {α β γ : Type} {R : α → β → Prop} {S : β → γ → Prop} {T : α → γ → Prop}

theorem forall₂_comp (h : ∀ a b c, R a b → S b c → T a c) {l : List α} {m : List β} {n : List γ}
    (hlm : List.Forall₂ R l m) (hmn : List.Forall₂ S m n) : List.Forall₂ T l n := by
  induction hlm generalizing n with
  | nil => exact List.forall₂_nil_left_iff.2 (List.forall₂_nil_left_iff.1 hmn)
  | cons hr _ ih =>
    obtain ⟨c, rest, hs, hrest, rfl⟩ := List.forall₂_cons_left_iff.1 hmn
    exact .cons (h _ _ _ hr hs) (ih hrest)

theorem forall₂_comp₂ (h : ∀ a b c, R a b → S b c → T a c) {l : List (List α)} {m : List (List β)} {n : List (List γ)}
    (hlm : List.Forall₂ (List.Forall₂ R) l m) (hmn : List.Forall₂ (List.Forall₂ S) m n) :
    List.Forall₂ (List.Forall₂ T) l n := by
  refine forall₂_comp ?_ hlm hmn
  exact fun _ _ _ hr hs => forall₂_comp h hr hs

theorem forall₂_right {P : β → Prop} (h : ∀ a b, R a b → P b) {l : List α} {m : List β} (hlm : List.Forall₂ R l m) :
    ∀ b ∈ m, P b := by
  induction hlm with
  | nil => exact nofun
  | cons hr _ ih => exact List.forall_mem_cons.2 ⟨h _ _ hr, ih⟩

end

omit [Field F] [LinearOrder F] in
theorem OxrActionAttachment.SameStates.refl : act.SameStates act :=
  ⟨rfl, fun _ => ⟨fun _ _ => rfl, rfl⟩⟩

omit [Field F] [LinearOrder F] in
theorem OxrActionAttachment.SameStates.trans {a b c : OxrActionAttachment F} (hab : a.SameStates b) (hbc : b.SameStates c) :
    a.SameStates c := by
  refine ⟨hbc.1.trans hab.1, fun h => ?_⟩
  obtain ⟨hpaths, hany⟩ := hab.2 h
  obtain ⟨hpaths', hany'⟩ := hbc.2 (hab.1 ▸ h)
  exact ⟨fun path hpath => (hpaths' path hpath).trans (hpaths path hpath), hany'.trans hany⟩

namespace OxrSessionActionContext

variable {context after : OxrSessionActionContext F} {inst : OxrInstancePaths F} {call : SyncCall F}

def Rebound (boundAnew : Bool) (before after : List (List (OxrActionAttachment F))) : Prop :=
  List.Forall₂ (List.Forall₂ fun before act => OxrActionAttachment.ReboundFrom boundAnew before act ∧
    (before.Settled → act.Settled)) before after

omit [LinearOrder F] in
theorem Rebound.refl {actions : List (List (OxrActionAttachment F))} : Rebound false actions actions :=
  List.forall₂_same.2 fun _ _ => List.forall₂_same.2 fun _ _ => ⟨.refl, id⟩

omit [LinearOrder F] in
theorem updateActionBindings_rebound (roles : OxrRoles F) :
    Rebound (context.bindsAnew roles) context.actions (context.updateActionBindings inst roles).actions := by
  unfold updateActionBindings
  cases context.bindsAnew roles with
  | false => exact .refl
  | true =>
    rw [if_pos rfl, Rebound, actions, actions, List.map_map, List.forall₂_map_left_iff, List.forall₂_map_right_iff]
    refine List.forall₂_same.2 fun set _ => List.forall₂_map_right_iff.2 (List.forall₂_same.2 fun act _ => ?_)
    exact ⟨act.bind_reboundFrom inst roles set.actSetKey, fun h => h.bind inst roles set.actSetKey⟩

def PreparedFrom (inst : OxrInstancePaths F) (call : SyncCall F) (context : OxrSessionActionContext F) :
    Prepared F → Prop
  | .failed _ after | .unsynced _ after => ∃ boundAnew, Rebound boundAnew context.actions after.actions
  | .synced after => call.isFocused = true ∧ Rebound (call.roles.any context.bindsAnew) context.actions after.actions ∧
      ∀ set ∈ after.sets, ∀ path,
        (set.requestedSubactionPaths.has path || set.requestedSubactionPaths.any) = true → call.Requests inst set path

omit [LinearOrder F] in
theorem prepare_from : PreparedFrom inst call context (context.prepare inst call) := by
  unfold prepare
  split
  · exact ⟨false, .refl⟩
  · split
    · exact ⟨false, .refl⟩
    · rename_i hfocused
      split
      · exact ⟨false, .refl⟩
      · rename_i roles hroles
        have hrebound := @updateActionBindings_rebound _ _ context inst roles
        have hrequests : ∀ set ∈ (requestSubactionPaths inst.pathCache call.actionSets
            ((context.updateActionBindings inst roles).sets.map resetRequested)).1, ∀ path,
            (set.requestedSubactionPaths.has path || set.requestedSubactionPaths.any) = true →
              call.Requests inst set path := by
          intro set hset path
          refine @requestSubactionPaths_requests _ _ _ _ (fun key path => ∃ requested ∈ call.actionSets,
            requested.actionSet = key ∧ ∃ paths,
              oxrClassifySubactionPath inst.pathCache requested.subactionPath = some paths ∧
                (paths.has path || paths.any) = true) path ?_ ?_ set hset
          · intro set hset hselected
            obtain ⟨set, -, rfl⟩ := List.mem_map.1 hset
            cases hselected
          · exact fun requested hmem paths hpaths hselected => ⟨requested, hmem, rfl, paths, hpaths, hselected⟩
        have hactions : ((requestSubactionPaths inst.pathCache call.actionSets
            ((context.updateActionBindings inst roles).sets.map resetRequested)).1.map (·.actAttachments)) =
              (context.updateActionBindings inst roles).actions := by
          rw [requestSubactionPaths_actions, List.map_map]
          rfl
        rw [← hactions] at hrebound
        dsimp only
        split
        · rw [hactions] at hrebound
          exact ⟨_, hrebound⟩
        · split
          · rw [hactions] at hrebound
            exact ⟨_, hrebound⟩
          · split
            · exact ⟨_, hrebound⟩
            · refine ⟨by simpa using hfocused, ?_, hrequests⟩
              rw [hroles]
              exact hrebound

/-- The states of the actions are those that they had before, and the actions are settled. -/
def Follows (last : List (List (OxrActionAttachment F))) (context : OxrSessionActionContext F) : Prop :=
  List.Forall₂ (List.Forall₂ fun before act => before.SameStates act ∧ act.Settled) last context.actions

variable {last : List (List (OxrActionAttachment F))}

omit [LinearOrder F] in
theorem Follows.rebound (h : Follows last context) {boundAnew : Bool} (hrebound : Rebound boundAnew context.actions after.actions) :
    List.Forall₂ (List.Forall₂ fun before act => act.actionType = before.actionType ∧ act.Settled) last after.actions :=
  forall₂_comp₂ (fun _ _ _ hsame hbound => ⟨hbound.1.actionType.trans hsame.1.1, hbound.2 hsame.2⟩) h hrebound

omit [LinearOrder F] in
theorem Follows.settled (h : Follows last context) {boundAnew : Bool} (hrebound : Rebound boundAnew context.actions after.actions) :
    ∀ acts ∈ after.actions, ∀ act ∈ acts, act.Settled := by
  refine forall₂_right (fun _ acts hacts => ?_) (h.rebound hrebound)
  exact forall₂_right (fun _ _ h => h.2) hacts

omit [LinearOrder F] in
theorem follows_of_settled (h : ∀ acts ∈ context.actions, ∀ act ∈ acts, act.Settled) : Follows context.actions context :=
  List.forall₂_same.2 fun acts hacts => List.forall₂_same.2 fun act hact => ⟨.refl, h acts hacts act hact⟩

theorem lawful_of_careful (h : Follows last context) (hcareful : context.Careful inst call) :
    context.Lawful inst last call := by
  have hprepared := @prepare_from _ _ context inst call
  unfold Lawful
  unfold Careful at hcareful
  cases hprepare : context.prepare inst call with
  | failed error after => trivial
  | unsynced result after =>
    rw [hprepare] at hprepared hcareful
    obtain ⟨boundAnew, hrebound⟩ := hprepared
    have hinactive : List.Forall₂ (List.Forall₂ fun act same => act = same ∧ same.Inactive) after.actions after.actions :=
      List.forall₂_same.2 fun acts hacts => List.forall₂_same.2 fun act hact => ⟨rfl, hcareful acts hacts act hact⟩
    refine forall₂_comp₂ ?_ (h.rebound hrebound) hinactive
    rintro before act _ ⟨htype, hsettled⟩ ⟨rfl, hinactive⟩ hvibration
    obtain ⟨hpaths, hany⟩ := hinactive (htype ▸ hvibration)
    exact ⟨fun path hpath => .of_inactive (hpaths path hpath) (hsettled.cleared path (hpaths path hpath)),
      .of_inactive hany (hsettled.any hany)⟩
  | synced after =>
    rw [hprepare] at hprepared hcareful
    obtain ⟨hfocused, hrebound, hrequests⟩ := hprepared
    have hlisted : List.Forall₂ (fun set same => set = same ∧ ∀ path,
        (same.requestedSubactionPaths.has path || same.requestedSubactionPaths.any) = true →
          call.Requests inst same path) after.sets after.sets :=
      List.forall₂_same.2 fun set hset => ⟨rfl, hrequests set hset⟩
    have hupdates := List.Forall₂.mp (fun _ _ => List.Forall₂.mp fun _ _ => And.intro)
      (List.forall₂_map_right_iff.1 hrebound) hcareful
    -- the last states, those before the call, and those that are updated
    have hstates := forall₂_comp (T := fun acts set => ∃ befores, List.Forall₂ _ acts befores ∧ List.Forall₂ _ befores _)
      (fun _ befores _ hsame hbefores => ⟨befores, hsame, hbefores⟩) h hupdates
    refine forall₂_comp ?_ hstates hlisted
    rintro acts set _ ⟨befores, hsame, hbefores⟩ ⟨rfl, hrequests⟩
    refine forall₂_comp ?_ hsame hbefores
    rintro last before act ⟨hsame, hsettled⟩ ⟨⟨hrebound, hkeeps⟩, hmay⟩
    exact OxrActionAttachment.update_lawful hfocused hsame hrebound (hkeeps hsettled) hmay hrequests

theorem updateActions_settled (h : ∀ acts ∈ context.actions, ∀ act ∈ acts, act.Settled) :
    ∀ acts ∈ (context.updateActions call).actions, ∀ act ∈ acts, act.Settled := by
  intro acts hacts act hact
  rw [actions, updateActions, List.map_map] at hacts
  obtain ⟨set, hset, rfl⟩ := List.mem_map.1 hacts
  obtain ⟨before, hbefore, rfl⟩ := List.mem_map.1 hact
  exact (h _ (List.mem_map_of_mem hset) before hbefore).update _ _ _ _ _ _

theorem follows_of_careful (h : Follows last context) (hcareful : context.Careful inst call) :
    match context.oxrActionSyncData inst call with
    | (.error _, after) => Follows last after
    | (.ok _, after) => Follows after.actions after := by
  have hprepared := @prepare_from _ _ context inst call
  unfold Careful at hcareful
  unfold oxrActionSyncData
  cases hprepare : context.prepare inst call with
  | failed error after =>
    rw [hprepare] at hprepared hcareful
    obtain ⟨boundAnew, hrebound⟩ := hprepared
    have hsame := List.Forall₂.mp (fun _ _ => List.Forall₂.mp fun _ _ => And.intro) hrebound hcareful
    exact forall₂_comp₂ (fun _ _ _ hfollows hsame => ⟨hfollows.1.trans hsame.2, hsame.1.2 hfollows.2⟩) h hsame
  | unsynced result after =>
    rw [hprepare] at hprepared
    obtain ⟨boundAnew, hrebound⟩ := hprepared
    exact follows_of_settled (h.settled hrebound)
  | synced after =>
    rw [hprepare] at hprepared
    exact follows_of_settled (updateActions_settled (h.settled hprepared.2.1))

theorem Lawful.actions (h : context.Lawful inst last call)
    (hok : (context.oxrActionSyncData inst call).1.isOk = true) :
    List.Forall₂ (List.Forall₂ fun before now => ∃ driven, before.Lawful driven now) last
      (context.oxrActionSyncData inst call).2.actions := by
  unfold Lawful at h
  unfold oxrActionSyncData at hok ⊢
  cases hprepare : context.prepare inst call with
  | failed error after =>
    rw [hprepare] at hok
    cases hok
  | unsynced result after =>
    rw [hprepare] at h
    exact h.imp fun _ _ hacts => hacts.imp fun _ _ hlawful => ⟨_, hlawful⟩
  | synced after =>
    rw [hprepare] at h
    dsimp only
    rw [OxrSessionActionContext.actions, updateActions, List.map_map, List.forall₂_map_right_iff]
    exact h.imp fun _ _ hacts => List.forall₂_map_right_iff.2 (hacts.imp fun _ _ hlawful => ⟨_, hlawful⟩)

end OxrSessionActionContext

/-! ## Runs -/

/-- A session with action sets, and the actions after the last call that has not failed. -/
structure ActionRun (F : Type) where
  context : OxrSessionActionContext F
  last : List (List (OxrActionAttachment F))

namespace ActionRun

def step (inst : OxrInstancePaths F) (run : ActionRun F) (call : SyncCall F) : Option (ActionRun F) :=
  match run.context.oxrActionSyncData inst call with
  | (.error _, context) => some ⟨context, run.last⟩
  | (.ok _, context) => some ⟨context, context.actions⟩

/-- Nothing has been bound yet, after the action sets have been attached. -/
def start (context : OxrSessionActionContext F) : ActionRun F := ⟨context, context.actions⟩

end ActionRun

def OxrActionAttachment.Attached (act : OxrActionAttachment F) : Prop :=
  act.anyState = OxrActionState.zero ∧ ∀ path, act.cache path = OxrActionCache.zero

omit [LinearOrder F] in
theorem OxrActionAttachment.Attached.settled (h : act.Attached) : act.Settled := by
  obtain ⟨hany, hcache⟩ := h
  constructor
  · intro path
    rw [hcache path]
    exact ⟨nofun, fun _ => rfl, fun _ _ => rfl⟩
  · intro path
    rw [hcache path]
    exact fun _ => rfl
  · intro _ path
    rw [hcache path]
    rfl
  · rw [hany]
    exact fun _ => rfl

namespace ActionRun

/-- However actions are synchronized, devices change their roles and the session its focus, as long as all calls are careful
each that does not fail leaves the actions lawful. -/
theorem states_lawful (inst : OxrInstancePaths F) {context : OxrSessionActionContext F}
    (hattached : ∀ acts ∈ context.actions, ∀ act ∈ acts, act.Attached) {calls : List (SyncCall F)}
    (hcareful : Along (step inst) (fun run call => run.context.Careful inst call) (start context) calls) :
    Along (step inst) (fun run call => run.context.Lawful inst run.last call) (start context) calls := by
  refine along_of_inv (I := fun run => OxrSessionActionContext.Follows run.last run.context) ?_ ?_ ?_ hcareful
  · exact fun run call hfollows hcall => OxrSessionActionContext.lawful_of_careful hfollows hcall
  · intro run call after hfollows hcall hstep
    have hnext := OxrSessionActionContext.follows_of_careful hfollows hcall
    unfold step at hstep
    split at hstep
    all_goals
      rename_i hsync
      rw [hsync] at hnext
      cases hstep
      exact hnext
  · exact OxrSessionActionContext.follows_of_settled fun acts hacts act hact => (hattached acts hacts act hact).settled

end ActionRun

/-! ## Pulling a trigger -/

def pullAction : OxrActionAttachment ℚ where
  actKey := 1
  actionType := .floatInput
  subactionPaths := .anyOnly
  anyPoseSubactionPath := .zero
  anyState := OxrActionState.zero
  cache _ := OxrActionCache.zero

def pullContext : OxrSessionActionContext ℚ where
  sets := [⟨1, 0, .zero, [pullAction]⟩]
  dynamicRolesGenerationId := 0

def pullRoles : OxrRoles ℚ where
  generationId := 1
  device := fun
    | .left => some triggerDevice
    | _ => none
  profile := fun
    | .left => some triggerProfile
    | _ => none

/-- The action is synchronized while the trigger is pulled that far. -/
def pull (value : ℚ) : SyncCall ℚ where
  actionSets := [⟨1, 0⟩]
  activePriorities := []
  isFocused := true
  roles := some pullRoles
  updateError := none
  devices := ⟨fun _ _ => ⟨true, 3, { (XrtInputValue.zero : XrtInputValue ℚ) with vec1 := value }⟩, fun _ _ => 0⟩
  time := 5
  timestamp := 5

def pullPaths : OxrInstancePaths ℚ := ⟨0, triggerString, fun path => path.ctorIdx + 1⟩

namespace ActionRun

/-- The trigger is pulled already when it is bound: it seems to have been active before. -/
theorem pulled_not_lawful : ¬ Along (step pullPaths) (fun run call => run.context.Lawful pullPaths run.last call)
    (start pullContext) [pull 1] := by
  intro h
  have hlawful : List.Forall₂ (List.Forall₂ fun before now => ∃ driven, before.Lawful driven now) [[pullAction]]
      (pullContext.oxrActionSyncData pullPaths (pull 1)).2.actions := (along_cons.1 h).1.actions (by decide +kernel)
  have hchanged : (pullContext.oxrActionSyncData pullPaths (pull 1)).2.actions.map
      (·.map fun act => (act.cache .left).current.changed) = [[true]] := by decide +kernel
  obtain ⟨acts, rest, hacts, -, hactions⟩ := List.forall₂_cons_left_iff.1 hlawful
  obtain ⟨now, others, ⟨driven, hnow⟩, -, rfl⟩ := List.forall₂_cons_left_iff.1 hacts
  rw [hactions] at hchanged
  have hchanged : (now.cache .left).current.changed = true := by simpa using (List.cons.inj (List.cons.inj hchanged).1).1
  have hbefore := (((hnow nofun).1 .left (by decide)).changed.1 hchanged).1
  cases hbefore

/-- If it is pulled only later nothing is seen of that, and then the state has changed. -/
theorem released_lawful : Along (step pullPaths) (fun run call => run.context.Lawful pullPaths run.last call)
    (start pullContext) [pull 0, pull 1] := by
  apply states_lawful pullPaths
  · intro acts hacts act hact
    rw [List.mem_singleton.1 hacts] at hact
    rw [List.mem_singleton.1 hact]
    exact ⟨rfl, fun _ => rfl⟩
  · refine along_cons.2 ⟨?_, fun run hrun => along_cons.2 ⟨?_, fun _ _ => trivial⟩⟩
    · refine List.Forall₂.cons (List.Forall₂.cons (fun _ path hpath _ => ?_) .nil) .nil
      cases path with
      | left =>
        refine ⟨fun hnil => ?_, fun _ _ _ => ⟨iff_of_false (not_not_intro ?_) nofun, nofun⟩⟩
        · cases hnil
        · decide +kernel
      | right | head | gamepad | eyes | user => exact ⟨fun _ => rfl, fun _ _ hdriving => absurd rfl hdriving⟩
    · cases hrun
      refine List.Forall₂.cons (List.Forall₂.cons (fun _ path hpath _ => ⟨fun hnil => ?_, nofun⟩) .nil) .nil
      cases path with
      | left => cases hnil
      | right | head | gamepad | eyes | user => rfl

end ActionRun

end AugmentedInsanity.Oxr
