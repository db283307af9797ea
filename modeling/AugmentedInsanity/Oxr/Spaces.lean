/-
The spaces of a session (`oxr_space.c`). An action space caches the pose space of the input it is bound to, under
the device and the name of the input, and remembers whether it uses eye tracking. The cache and the counts of uses
come out right exactly in runs where no call fails that they depend on and no space is found unbound while it is in
use for an eye gaze (`usesHold_iff`).
-/
import AugmentedInsanity.Base.SpaceOverseer
import AugmentedInsanity.Lib.Runs

namespace AugmentedInsanity.Oxr

open Xrt Base Runs

/-! ## Spaces -/

inductive XrReferenceSpaceType
  | view
  | localSpace
  | stage
  | localFloorExt
  | unboundedMsft
  | combinedEyeVarjo
  | localizationMapMl
  | unboundedAndroid
  deriving DecidableEq

inductive OxrSpaceType
  | referenceView
  | referenceLocal
  | referenceLocalFloor
  | referenceStage
  | referenceUnboundedMsft
  | referenceCombinedEyeVarjo
  | referenceLocalizationMapMl
  | referenceUnboundedAndroid
  | action
  | xdevPose
  deriving DecidableEq

def xrRefSpaceToOxr : XrReferenceSpaceType → OxrSpaceType
  | .view => .referenceView
  | .localSpace => .referenceLocal
  | .localFloorExt => .referenceLocalFloor
  | .stage => .referenceStage
  | .unboundedMsft => .referenceUnboundedMsft
  | .combinedEyeVarjo => .referenceCombinedEyeVarjo
  | .localizationMapMl => .referenceLocalizationMapMl
  | .unboundedAndroid => .referenceUnboundedAndroid

/-- `oxr_ref_space_to_xrt`; `none` is `XRT_SPACE_REFERENCE_TYPE_INVALID`. -/
def oxrRefSpaceToXrt : OxrSpaceType → Option XrtReferenceSpaceType
  | .referenceView => some .view
  | .referenceLocal => some .localSpace
  | .referenceLocalFloor => some .localFloor
  | .referenceStage => some .stage
  | .referenceUnboundedMsft => some .unbounded
  | _ => none

abbrev XRT_INPUT_GENERIC_EYE_GAZE_POSE : XrtInputName := 0x0805

/-- The pose input that `oxr_action_get_pose_input` finds. -/
structure PoseInput where
  xdev : ℕ
  name : XrtInputName
  xdev_ne : xdev ≠ 0
  name_ne : name ≠ 0
  deriving DecidableEq

def PoseInput.isEyeGaze (input : PoseInput) : Bool := input.name = XRT_INPUT_GENERIC_EYE_GAZE_POSE

/-- `oxr_space::action`; a device of 0 is `NULL`. -/
structure ActionSpace where
  xs : Option SpaceId
  xdev : ℕ
  name : XrtInputName
  featureEyeTracking : Bool

structure OxrSpace (P : Type) where
  spaceType : OxrSpaceType
  pose : P
  action : ActionSpace
  xdevPose : Option SpaceId

variable {O P ε : Type}

/-- A space as it is allocated, with its type and pose. -/
def OxrSpace.new (spaceType : OxrSpaceType) (pose : P) : OxrSpace P := ⟨spaceType, pose, ⟨none, 0, 0, false⟩, none⟩

/-- `xrt_system_devices_feature_inc` and `_dec` of `XRT_DEVICE_FEATURE_EYE_TRACKING`. -/
inductive FeatureCall
  | inc
  | dec

/-- What resolving an action space leaves: the overseer, the space, the feature calls made and `*out_xspace`. -/
structure Resolved (O P : Type) where
  overseer : O
  spc : OxrSpace P
  calls : List FeatureCall
  xspace : Option SpaceId

def ActionSpace.releaseCalls (action : ActionSpace) : List FeatureCall := if action.featureEyeTracking then [.dec] else []

/-- `get_xrt_space_action`, of the input the action is bound to. The overseer's `create_pose_space` gives no space
where it fails; what the feature calls answer is not looked at. -/
def getXrtSpaceAction (createPoseSpace : O → ℕ → XrtInputName → Except ε (Option SpaceId × O)) (o : O)
    (spc : OxrSpace P) : Option PoseInput → Except ε (Resolved O P)
  -- the cache is cleared, but not what says that eye tracking is used
  | none => .ok ⟨o, { spc with action := { spc.action with xs := none, xdev := 0, name := 0 } }, [], none⟩
  | some input =>
    if input.xdev ≠ spc.action.xdev ∨ input.name ≠ spc.action.name then
      match createPoseSpace o input.xdev input.name with
      | .error e => .error e
      | .ok (none, o) =>
        -- the device and the name of the space before stay
        .ok ⟨o, { spc with action := { spc.action with xs := none, featureEyeTracking := false } },
          spc.action.releaseCalls, none⟩
      | .ok (some xs, o) =>
        .ok ⟨o, { spc with action := ⟨some xs, input.xdev, input.name, input.isEyeGaze⟩ },
          spc.action.releaseCalls ++ (if input.isEyeGaze then [.inc] else []), some xs⟩
    else .ok ⟨o, spc, [], spc.action.xs⟩

section
variable {createPoseSpace : O → ℕ → XrtInputName → Except ε (Option SpaceId × O)} {o o' : O} {spc : OxrSpace P}
  {input : PoseInput}

theorem getXrtSpaceAction_same (h : ¬ (input.xdev ≠ spc.action.xdev ∨ input.name ≠ spc.action.name)) :
    getXrtSpaceAction createPoseSpace o spc (some input) = .ok ⟨o, spc, [], spc.action.xs⟩ := by
  rw [getXrtSpaceAction, if_neg h]

theorem getXrtSpaceAction_failed (h : input.xdev ≠ spc.action.xdev ∨ input.name ≠ spc.action.name)
    (hcreate : createPoseSpace o input.xdev input.name = .ok (none, o')) :
    getXrtSpaceAction createPoseSpace o spc (some input) =
      .ok ⟨o', { spc with action := { spc.action with xs := none, featureEyeTracking := false } },
        spc.action.releaseCalls, none⟩ := by
  rw [getXrtSpaceAction, if_pos h, hcreate]

theorem getXrtSpaceAction_created (h : input.xdev ≠ spc.action.xdev ∨ input.name ≠ spc.action.name) {xs : SpaceId}
    (hcreate : createPoseSpace o input.xdev input.name = .ok (some xs, o')) :
    getXrtSpaceAction createPoseSpace o spc (some input) =
      .ok ⟨o', { spc with action := ⟨some xs, input.xdev, input.name, input.isEyeGaze⟩ },
        spc.action.releaseCalls ++ (if input.isEyeGaze then [.inc] else []), some xs⟩ := by
  rw [getXrtSpaceAction, if_pos h, hcreate]

end

/-! ## Sessions -/

/-- The calls of a session on one count of uses that succeeded. -/
structure Uses where
  incremented : ℕ
  decremented : ℕ

def Uses.inc (u : Uses) (ok : Bool) : Uses := if ok then { u with incremented := u.incremented + 1 } else u

def Uses.dec (u : Uses) (ok : Bool) : Uses := if ok then { u with decremented := u.decremented + 1 } else u

/-- The session contributes `n` to the count, and never took away more than it gave. -/
def Uses.Hold (u : Uses) (n : ℕ) : Prop := u.decremented ≤ u.incremented ∧ u.incremented - u.decremented = n

/-- A space of the session, with the input it was found bound to when it was last located. -/
structure TrackedSpace (P : Type) where
  spc : OxrSpace P
  bound : Option PoseInput

/-- A session: its spaces in the order they were created, `none` when destroyed, the devices and inputs that pose
spaces were created for, and the counts of uses. -/
structure SessionSpaces (P : Type) where
  spaces : List (Option (TrackedSpace P))
  poseSpaces : List (ℕ × XrtInputName)
  eyeTracking : Uses
  refSpace : XrtReferenceSpaceType → Uses

def SessionSpaces.start : SessionSpaces P := ⟨[], [], ⟨0, 0⟩, fun _ => ⟨0, 0⟩⟩

/-- Which of the calls that a locate can make would succeed. -/
structure Answers where
  createPoseSpace : Bool
  featureInc : Bool
  featureDec : Bool

def answerCall (answers : Answers) (u : Uses) : FeatureCall → Uses
  | .inc => u.inc answers.featureInc
  | .dec => u.dec answers.featureDec

/-- An overseer that names pose spaces by the order they are created in. -/
def createPoseSpaceAnswering (ok : Bool) (created : List (ℕ × XrtInputName)) (xdev : ℕ) (name : XrtInputName) :
    Except Empty (Option SpaceId × List (ℕ × XrtInputName)) :=
  if ok then .ok (some created.length, created ++ [(xdev, name)]) else .ok (none, created)

/-- The calls on the spaces of a session. A locate resolves one space; `input` is what it finds an action space
bound to. -/
inductive SpaceCall (P : Type)
  | actionCreate (pose : P)
  | referenceCreate (type : XrReferenceSpaceType) (pose : P) (refSpaceInc : Bool)
  | xdevPoseCreate (xdev : ℕ) (name : XrtInputName) (pose : P) (createPoseSpace : Bool)
  | locate (space : ℕ) (input : Option PoseInput) (answers : Answers)
  | destroy (space : ℕ) (featureDec : Bool)

def SessionSpaces.add (s : SessionSpaces P) (spc : OxrSpace P) : SessionSpaces P :=
  { s with spaces := s.spaces ++ [some ⟨spc, none⟩] }

def referenceCreate (s : SessionSpaces P) (type : XrReferenceSpaceType) (pose : P) (refSpaceInc : Bool) :
    SessionSpaces P :=
  let s' := s.add (.new (xrRefSpaceToOxr type) pose)
  match oxrRefSpaceToXrt (xrRefSpaceToOxr type) with
  | none => s'
  | some xtype => { s' with refSpace := Function.update s.refSpace xtype ((s.refSpace xtype).inc refSpaceInc) }

def xdevPoseCreate (s : SessionSpaces P) (xdev : ℕ) (name : XrtInputName) (pose : P) (ok : Bool) : SessionSpaces P :=
  if ok then
    { s.add { OxrSpace.new .xdevPose pose with xdevPose := some s.poseSpaces.length } with
      poseSpaces := s.poseSpaces ++ [(xdev, name)] }
  else s

/-- `get_xrt_space` of one space; of the other types nothing changes. -/
def locateSpaceOf (s : SessionSpaces P) (space : ℕ) (t : TrackedSpace P) (input : Option PoseInput)
    (answers : Answers) : SessionSpaces P :=
  if t.spc.spaceType = .action then
    match getXrtSpaceAction (createPoseSpaceAnswering answers.createPoseSpace) s.poseSpaces t.spc input with
    | .error e => e.elim
    | .ok r =>
      { s with
        spaces := s.spaces.set space (some ⟨r.spc, input⟩)
        poseSpaces := r.overseer
        eyeTracking := r.calls.foldl (answerCall answers) s.eyeTracking }
  else s

/-- `oxr_space_destroy`. -/
def destroySpace (s : SessionSpaces P) (space : ℕ) (t : TrackedSpace P) (featureDec : Bool) : SessionSpaces P :=
  { s with
    spaces := s.spaces.set space none
    refSpace := match oxrRefSpaceToXrt t.spc.spaceType with
      | none => s.refSpace
      | some xtype => Function.update s.refSpace xtype ((s.refSpace xtype).dec true)
    eyeTracking := if t.spc.action.featureEyeTracking then s.eyeTracking.dec featureDec else s.eyeTracking }

def stepSpaces (s : SessionSpaces P) : SpaceCall P → Option (SessionSpaces P)
  | .actionCreate pose => some (s.add (.new .action pose))
  | .referenceCreate type pose ok => some (referenceCreate s type pose ok)
  | .xdevPoseCreate xdev name pose ok => some (xdevPoseCreate s xdev name pose ok)
  | .locate space input answers =>
    match s.spaces[space]? with
    | some (some t) => some (locateSpaceOf s space t input answers)
    | _ => none
  | .destroy space featureDec =>
    match s.spaces[space]? with
    | some (some t) => some (destroySpace s space t featureDec)
    | _ => none

/-! ## What is asked -/

def TrackedSpace.isEyeGaze (t : TrackedSpace P) : Bool :=
  decide (t.spc.spaceType = .action) && t.bound.any PoseInput.isEyeGaze

def TrackedSpace.isOf (xtype : XrtReferenceSpaceType) (t : TrackedSpace P) : Bool :=
  decide (oxrRefSpaceToXrt t.spc.spaceType = some xtype)

def SessionSpaces.count (s : SessionSpaces P) (kind : TrackedSpace P → Bool) : ℕ := s.spaces.countP (Option.any kind)

/-- The cached space is the pose space of the input the space is bound to, none when it is unbound. -/
def TrackedSpace.Cached (t : TrackedSpace P) (poseSpaces : List (ℕ × XrtInputName)) : Prop :=
  match t.bound with
  | none => t.spc.action.xs = none
  | some input => ∃ xs, t.spc.action.xs = some xs ∧ poseSpaces[xs]? = some (input.xdev, input.name)

/-- The caches are right, and the session contributes to each count what it uses. -/
structure UsesHold (s : SessionSpaces P) : Prop where
  cached : ∀ (space : ℕ) (t : TrackedSpace P), s.spaces[space]? = some (some t) → t.spc.spaceType = .action →
    t.Cached s.poseSpaces
  eyeTracking : s.eyeTracking.Hold (s.count TrackedSpace.isEyeGaze)
  refSpace : ∀ xtype, (s.refSpace xtype).Hold (s.count (TrackedSpace.isOf xtype))

/-- A locate that gets the cache and the count right. Unbound, the space must not be in use for an eye gaze. Bound
to another input than the cached one, the pose space must be created, and of the feature calls that are made an
increment fails exactly when a decrement does. -/
def LocateSound (action : ActionSpace) (answers : Answers) : Option PoseInput → Prop
  | none => action.featureEyeTracking = false
  | some input =>
    input.xdev ≠ action.xdev ∨ input.name ≠ action.name →
      answers.createPoseSpace = true ∧
        ((input.isEyeGaze = true ∧ answers.featureInc = false) ↔
          (action.featureEyeTracking = true ∧ answers.featureDec = false))

def CallSound (s : SessionSpaces P) : SpaceCall P → Prop
  | .actionCreate _ => True
  | .referenceCreate type _ ok => oxrRefSpaceToXrt (xrRefSpaceToOxr type) ≠ none → ok = true
  | .xdevPoseCreate _ _ _ _ => True
  | .locate space input answers =>
    ∀ t, s.spaces[space]? = some (some t) → t.spc.spaceType = .action → LocateSound t.spc.action answers input
  | .destroy space featureDec =>
    ∀ t, s.spaces[space]? = some (some t) → t.spc.action.featureEyeTracking = true → featureDec = true

/-! ## Counting -/

theorem Uses.hold_iff {u : Uses} {n : ℕ} : u.Hold n ↔ u.incremented = u.decremented + n := by
  unfold Uses.Hold
  omega

theorem Uses.inc_eq (u : Uses) (ok : Bool) : u.inc ok = ⟨u.incremented + ok.toNat, u.decremented⟩ := by
  cases ok <;> rfl

theorem Uses.dec_eq (u : Uses) (ok : Bool) : u.dec ok = ⟨u.incremented, u.decremented + ok.toNat⟩ := by
  cases ok <;> rfl

theorem countP_set_add {α : Type} {l : List α} {i : ℕ} {a : α} (h : l[i]? = some a) (b : α) (p : α → Bool) :
    (l.set i b).countP p + (p a).toNat = l.countP p + (p b).toNat := by
  induction l generalizing i with
  | nil => cases h
  | cons c l ih =>
    cases i with
    | zero =>
      cases h
      rw [List.set_cons_zero, List.countP_cons, List.countP_cons]
      cases p a <;> cases p b <;> simp
    | succ i =>
      have hrest := ih (List.getElem?_cons_succ ▸ h)
      rw [List.set_cons_succ, List.countP_cons, List.countP_cons]
      omega

theorem count_add (s : SessionSpaces P) (spc : OxrSpace P) (kind : TrackedSpace P → Bool) :
    (s.add spc).count kind = s.count kind + (kind ⟨spc, none⟩).toNat := by
  unfold SessionSpaces.count SessionSpaces.add
  rw [List.countP_append]
  cases h : kind ⟨spc, none⟩ <;> simp [h]

/-! ## The invariant -/

structure TrackedSpace.Keyed (t : TrackedSpace P) : Prop where
  xdev : t.spc.spaceType = .action → t.spc.action.xdev = (t.bound.map PoseInput.xdev).getD 0
  name : t.spc.spaceType = .action → t.spc.action.name = (t.bound.map PoseInput.name).getD 0
  feature : t.spc.action.featureEyeTracking = t.isEyeGaze

structure SpacesSound (s : SessionSpaces P) : Prop extends UsesHold s where
  keyed : ∀ (space : ℕ) (t : TrackedSpace P), s.spaces[space]? = some (some t) → t.Keyed

theorem TrackedSpace.Cached.append {t : TrackedSpace P} {poseSpaces : List (ℕ × XrtInputName)} (h : t.Cached poseSpaces)
    (more : List (ℕ × XrtInputName)) : t.Cached (poseSpaces ++ more) := by
  unfold TrackedSpace.Cached at h ⊢
  cases hbound : t.bound with
  | none => simpa [hbound] using h
  | some input =>
    rw [hbound] at h
    obtain ⟨xs, hxs, hcreated⟩ := h
    obtain ⟨hlt, -⟩ := List.getElem?_eq_some_iff.mp hcreated
    exact ⟨xs, hxs, by rw [List.getElem?_append_left hlt, hcreated]⟩

theorem getElem?_snoc {α : Type} {l : List α} {i : ℕ} {a b : α} (h : (l ++ [b])[i]? = some a) : l[i]? = some a ∨ a = b := by
  rcases Nat.lt_trichotomy i l.length with hlt | heq | hgt
  · exact .inl (by rwa [List.getElem?_append_left hlt] at h)
  · rw [heq, List.getElem?_concat_length] at h
    exact .inr (Option.some.inj h).symm
  · rw [List.getElem?_eq_none (by rw [List.length_append, List.length_singleton]; omega)] at h
    cases h

theorem getElem?_of_set {α : Type} {l : List α} {i j : ℕ} {a b : α} (h : (l.set i b)[j]? = some a) :
    l[j]? = some a ∨ a = b := by
  by_cases hij : i = j
  · subst hij
    rw [List.getElem?_set] at h
    simp only [if_true] at h
    split at h
    · exact .inr (Option.some.inj h).symm
    · cases h
  · rw [List.getElem?_set_ne hij] at h
    exact .inl h

section
variable {s : SessionSpaces P} {space : ℕ} {t : TrackedSpace P} {input : PoseInput}

theorem usesHold_set (hs : SpacesSound s) (ht : s.spaces[space]? = some (some t)) (htype : t.spc.spaceType = .action)
    {t' : TrackedSpace P} (htype' : t'.spc.spaceType = .action) (more : List (ℕ × XrtInputName)) (u : Uses) :
    let s' : SessionSpaces P := ⟨s.spaces.set space (some t'), s.poseSpaces ++ more, u, s.refSpace⟩
    (UsesHold s' ↔ t'.Cached (s.poseSpaces ++ more) ∧
        u.incremented + t.isEyeGaze.toNat = u.decremented + s.count TrackedSpace.isEyeGaze + t'.isEyeGaze.toNat) ∧
      (UsesHold s' → t'.Keyed → SpacesSound s') := by
  intro s'
  obtain ⟨hlt, -⟩ := List.getElem?_eq_some_iff.mp ht
  have hnew : s'.spaces[space]? = some (some t') := by
    show (s.spaces.set space (some t'))[space]? = _
    rw [List.getElem?_set_self hlt]
  have hgaze := countP_set_add ht (some t') (Option.any TrackedSpace.isEyeGaze)
  have hof : ∀ xtype, s'.count (TrackedSpace.isOf xtype) = s.count (TrackedSpace.isOf xtype) := by
    intro xtype
    have hcount := countP_set_add ht (some t') (Option.any (TrackedSpace.isOf xtype))
    have hsame : Option.any (TrackedSpace.isOf xtype) (some t') = Option.any (TrackedSpace.isOf xtype) (some t) := by
      simp [TrackedSpace.isOf, htype, htype']
    rw [hsame] at hcount
    exact Nat.add_right_cancel hcount
  refine ⟨⟨fun h => ⟨h.cached space t' hnew htype', ?_⟩, fun ⟨hcached, hu⟩ => ⟨?_, ?_, fun xtype => ?_⟩⟩,
    fun h hkeyed => ⟨h, fun space' t'' ht'' => ?_⟩⟩
  · have hu := Uses.hold_iff.mp h.eyeTracking
    have hcount : s'.count TrackedSpace.isEyeGaze + t.isEyeGaze.toNat =
        s.count TrackedSpace.isEyeGaze + t'.isEyeGaze.toNat := hgaze
    have hs' : s'.eyeTracking = u := rfl
    rw [hs'] at hu
    omega
  · intro space' t'' ht'' haction
    rcases getElem?_of_set ht'' with hold | hsame
    · exact (hs.cached space' t'' hold haction).append more
    · cases hsame
      exact hcached
  · have hcount : s'.count TrackedSpace.isEyeGaze + t.isEyeGaze.toNat =
        s.count TrackedSpace.isEyeGaze + t'.isEyeGaze.toNat := hgaze
    refine Uses.hold_iff.mpr ?_
    show u.incremented = u.decremented + _
    omega
  · rw [hof]
    exact hs.refSpace xtype
  · rcases getElem?_of_set ht'' with hold | hsame
    · exact hs.keyed space' t'' hold
    · cases hsame
      exact hkeyed

/-! ## One call -/

theorem foldl_answerCall (action : ActionSpace) (gaze : Bool) (answers : Answers) (u : Uses) :
    (action.releaseCalls ++ (if gaze then [FeatureCall.inc] else [])).foldl (answerCall answers) u =
      ⟨u.incremented + (gaze && answers.featureInc).toNat,
        u.decremented + (action.featureEyeTracking && answers.featureDec).toNat⟩ := by
  unfold ActionSpace.releaseCalls
  cases action.featureEyeTracking <;> cases gaze <;> simp [answerCall, Uses.inc_eq, Uses.dec_eq]

theorem bound_of_keyed (hkeyed : t.Keyed) (htype : t.spc.spaceType = .action) (hxdev : input.xdev = t.spc.action.xdev)
    (hname : input.name = t.spc.action.name) : t.bound = some input := by
  rw [hkeyed.xdev htype] at hxdev
  rw [hkeyed.name htype] at hname
  cases hbound : t.bound with
  | none =>
    rw [hbound] at hxdev
    exact (input.xdev_ne hxdev).elim
  | some other =>
    rw [hbound] at hxdev hname
    cases input
    cases other
    cases hxdev
    cases hname
    rfl

def TrackedSpace.cleared (t : TrackedSpace P) : TrackedSpace P :=
  ⟨{ t.spc with action := { t.spc.action with xs := none, xdev := 0, name := 0 } }, none⟩

/-- The space with a pose space in its cache, or none where it could not be created. -/
def TrackedSpace.rebound (t : TrackedSpace P) (input : PoseInput) : Option SpaceId → TrackedSpace P
  | none => ⟨{ t.spc with action := { t.spc.action with xs := none, featureEyeTracking := false } }, some input⟩
  | some xs => ⟨{ t.spc with action := ⟨some xs, input.xdev, input.name, input.isEyeGaze⟩ }, some input⟩

theorem locate_none (hs : SpacesSound s) (ht : s.spaces[space]? = some (some t)) (htype : t.spc.spaceType = .action)
    (answers : Answers) :
    (LocateSound t.spc.action answers none → SpacesSound (locateSpaceOf s space t none answers)) ∧
      (UsesHold (locateSpaceOf s space t none answers) → LocateSound t.spc.action answers none) := by
  have hs' : locateSpaceOf s space t none answers =
      ⟨s.spaces.set space (some t.cleared), s.poseSpaces ++ [], s.eyeTracking, s.refSpace⟩ := by
    unfold locateSpaceOf
    rw [if_pos htype, List.append_nil]
    rfl
  have htype' : t.cleared.spc.spaceType = .action := htype
  obtain ⟨hiff, hsound⟩ := usesHold_set hs ht htype htype' [] s.eyeTracking
  have hfeature := (hs.keyed space t ht).feature
  have hu := Uses.hold_iff.mp hs.eyeTracking
  have hgaze : t.cleared.isEyeGaze = false := Bool.and_false _
  rw [hgaze] at hiff
  rw [hs']
  unfold LocateSound
  constructor
  · intro hoff
    have hold := hiff.mpr ⟨rfl, by rw [hu, ← hfeature, hoff]⟩
    exact hsound hold ⟨fun _ => rfl, fun _ => rfl, hoff.trans hgaze.symm⟩
  · intro hold
    have heq := (hiff.mp hold).2
    rw [hfeature]
    cases hwas : t.isEyeGaze with
    | false => rfl
    | true =>
      rw [hwas] at heq
      dsimp only [Bool.toNat_true, Bool.toNat_false] at heq
      omega

theorem locate_same (hs : SpacesSound s) (ht : s.spaces[space]? = some (some t)) (htype : t.spc.spaceType = .action)
    (hsame : ¬ (input.xdev ≠ t.spc.action.xdev ∨ input.name ≠ t.spc.action.name)) (answers : Answers) :
    SpacesSound (locateSpaceOf s space t (some input) answers) := by
  push Not at hsame
  have hbound := bound_of_keyed (hs.keyed space t ht) htype hsame.1 hsame.2
  have hunchanged : locateSpaceOf s space t (some input) answers = s := by
    obtain ⟨hlt, hentry⟩ := List.getElem?_eq_some_iff.mp ht
    unfold locateSpaceOf
    rw [if_pos htype, getXrtSpaceAction_same (by simp [hsame])]
    simp only [← hbound, List.foldl_nil]
    have hset : s.spaces.set space (some t) = s.spaces := by rw [← hentry, List.set_getElem_self]
    exact congrArg (fun spaces => ({ s with spaces := spaces } : SessionSpaces P)) hset
  rw [hunchanged]
  exact hs

theorem locate_other (hs : SpacesSound s) (ht : s.spaces[space]? = some (some t)) (htype : t.spc.spaceType = .action)
    (hother : input.xdev ≠ t.spc.action.xdev ∨ input.name ≠ t.spc.action.name) (answers : Answers) :
    (LocateSound t.spc.action answers (some input) → SpacesSound (locateSpaceOf s space t (some input) answers)) ∧
      (UsesHold (locateSpaceOf s space t (some input) answers) → LocateSound t.spc.action answers (some input)) := by
  have hcalls := foldl_answerCall t.spc.action input.isEyeGaze answers s.eyeTracking
  have hfeature := (hs.keyed space t ht).feature
  have hu := Uses.hold_iff.mp hs.eyeTracking
  cases hcreate : answers.createPoseSpace with
  | false =>
    -- no pose space, so the cache is empty although the space is bound
    have htype' : (t.rebound input none).spc.spaceType = .action := htype
    have hs' : ∃ u, locateSpaceOf s space t (some input) answers =
        ⟨s.spaces.set space (some (t.rebound input none)), s.poseSpaces ++ [], u, s.refSpace⟩ := by
      refine ⟨t.spc.action.releaseCalls.foldl (answerCall answers) s.eyeTracking, ?_⟩
      have hfails : createPoseSpaceAnswering answers.createPoseSpace s.poseSpaces input.xdev input.name =
          .ok (none, s.poseSpaces) := by
        rw [hcreate]
        rfl
      unfold locateSpaceOf
      rw [if_pos htype, List.append_nil, getXrtSpaceAction_failed hother hfails]
      rfl
    obtain ⟨u, hs'⟩ := hs'
    rw [hs']
    constructor
    · intro hsound
      rw [(hsound hother).1] at hcreate
      cases hcreate
    · intro hold
      obtain ⟨xs, hxs, -⟩ := ((usesHold_set hs ht htype htype' [] u).1.mp hold).1
      cases hxs
  | true =>
    have htype' : (t.rebound input (some s.poseSpaces.length)).spc.spaceType = .action := htype
    have hs' : locateSpaceOf s space t (some input) answers =
        ⟨s.spaces.set space (some (t.rebound input (some s.poseSpaces.length))),
          s.poseSpaces ++ [(input.xdev, input.name)],
          ⟨s.eyeTracking.incremented + (input.isEyeGaze && answers.featureInc).toNat,
            s.eyeTracking.decremented + (t.spc.action.featureEyeTracking && answers.featureDec).toNat⟩,
          s.refSpace⟩ := by
      rw [← hcalls]
      have hcreates : createPoseSpaceAnswering answers.createPoseSpace s.poseSpaces input.xdev input.name =
          .ok (some s.poseSpaces.length, s.poseSpaces ++ [(input.xdev, input.name)]) := by
        rw [hcreate]
        rfl
      unfold locateSpaceOf
      rw [if_pos htype, getXrtSpaceAction_created hother hcreates]
      rfl
    obtain ⟨hiff, hsound⟩ := usesHold_set hs ht htype htype' [(input.xdev, input.name)]
      ⟨s.eyeTracking.incremented + (input.isEyeGaze && answers.featureInc).toNat,
        s.eyeTracking.decremented + (t.spc.action.featureEyeTracking && answers.featureDec).toNat⟩
    have hcached : (t.rebound input (some s.poseSpaces.length)).Cached (s.poseSpaces ++ [(input.xdev, input.name)]) :=
      ⟨s.poseSpaces.length, rfl, List.getElem?_concat_length⟩
    have hgaze : (t.rebound input (some s.poseSpaces.length)).isEyeGaze = input.isEyeGaze := by
      simp [TrackedSpace.isEyeGaze, TrackedSpace.rebound, htype]
    rw [and_iff_right hcached, hgaze, ← hfeature] at hiff
    have hcount : LocateSound t.spc.action answers (some input) ↔
        (input.isEyeGaze = true ∧ answers.featureInc = false ↔
          t.spc.action.featureEyeTracking = true ∧ answers.featureDec = false) := by
      unfold LocateSound
      simp only [hother, hcreate, forall_const, true_and]
    have hbalance : (input.isEyeGaze = true ∧ answers.featureInc = false ↔
          t.spc.action.featureEyeTracking = true ∧ answers.featureDec = false) ↔
        (input.isEyeGaze && answers.featureInc).toNat + t.spc.action.featureEyeTracking.toNat =
          (t.spc.action.featureEyeTracking && answers.featureDec).toNat + input.isEyeGaze.toNat := by
      cases input.isEyeGaze <;> cases t.spc.action.featureEyeTracking <;> cases answers.featureInc <;>
        cases answers.featureDec <;> decide
    rw [hcount, hbalance, hs']
    dsimp only at hiff
    constructor
    · intro heq
      refine hsound (hiff.mpr (by omega)) ⟨fun _ => rfl, fun _ => rfl, hgaze.symm⟩
    · intro hold
      have heq := hiff.mp hold
      omega

theorem locate_sound (hs : SpacesSound s) (ht : s.spaces[space]? = some (some t)) (input : Option PoseInput)
    (answers : Answers) :
    ((t.spc.spaceType = .action → LocateSound t.spc.action answers input) →
        SpacesSound (locateSpaceOf s space t input answers)) ∧
      (UsesHold (locateSpaceOf s space t input answers) →
        t.spc.spaceType = .action → LocateSound t.spc.action answers input) := by
  by_cases htype : t.spc.spaceType = .action
  · simp only [htype, forall_const]
    cases input with
    | none => exact locate_none hs ht htype answers
    | some input =>
      by_cases hother : input.xdev ≠ t.spc.action.xdev ∨ input.name ≠ t.spc.action.name
      · exact locate_other hs ht htype hother answers
      · exact ⟨fun _ => locate_same hs ht htype hother answers, fun _ h => (hother h).elim⟩
  · have hunchanged : locateSpaceOf s space t input answers = s := by
      unfold locateSpaceOf
      rw [if_neg htype]
    rw [hunchanged]
    exact ⟨fun _ => hs, fun _ h => (htype h).elim⟩

theorem destroy_sound (hs : SpacesSound s) (ht : s.spaces[space]? = some (some t)) (featureDec : Bool) :
    ((t.spc.action.featureEyeTracking = true → featureDec = true) →
        SpacesSound (destroySpace s space t featureDec)) ∧
      (UsesHold (destroySpace s space t featureDec) →
        t.spc.action.featureEyeTracking = true → featureDec = true) := by
  have hentry : ∀ (space' : ℕ) (t' : TrackedSpace P), (s.spaces.set space none)[space']? = some (some t') →
      s.spaces[space']? = some (some t') := by
    intro space' t' ht'
    rcases getElem?_of_set ht' with hold | hnone
    · exact hold
    · cases hnone
  have hfeature := (hs.keyed space t ht).feature
  have hgaze := countP_set_add ht none (Option.any TrackedSpace.isEyeGaze)
  have hu := Uses.hold_iff.mp hs.eyeTracking
  have hcount : (destroySpace s space t featureDec).count TrackedSpace.isEyeGaze +
      t.spc.action.featureEyeTracking.toNat = s.count TrackedSpace.isEyeGaze := by
    rw [hfeature]
    exact hgaze
  have heye : (destroySpace s space t featureDec).eyeTracking =
      ⟨s.eyeTracking.incremented,
        s.eyeTracking.decremented + (t.spc.action.featureEyeTracking && featureDec).toNat⟩ := by
    show (if t.spc.action.featureEyeTracking then s.eyeTracking.dec featureDec else s.eyeTracking) = _
    cases t.spc.action.featureEyeTracking <;> simp [Uses.dec_eq]
  constructor
  · intro hdec
    refine ⟨⟨fun space' t' ht' => hs.cached space' t' (hentry space' t' ht'), ?_, fun xtype => ?_⟩,
      fun space' t' ht' => hs.keyed space' t' (hentry space' t' ht')⟩
    · rw [Uses.hold_iff, heye]
      have hall : (t.spc.action.featureEyeTracking && featureDec) = t.spc.action.featureEyeTracking := by
        cases hflag : t.spc.action.featureEyeTracking with
        | false => rfl
        | true => exact hdec hflag
      rw [hall]
      dsimp only
      omega
    · have hof := countP_set_add ht none (Option.any (TrackedSpace.isOf xtype))
      have hold := Uses.hold_iff.mp (hs.refSpace xtype)
      have hofCount : (destroySpace s space t featureDec).count (TrackedSpace.isOf xtype) +
          (t.isOf xtype).toNat = s.count (TrackedSpace.isOf xtype) := hof
      have href : (destroySpace s space t featureDec).refSpace xtype =
          ⟨(s.refSpace xtype).incremented, (s.refSpace xtype).decremented + (t.isOf xtype).toNat⟩ := by
        unfold destroySpace TrackedSpace.isOf
        cases htype : oxrRefSpaceToXrt t.spc.spaceType with
        | none => simp
        | some own =>
          by_cases hown : xtype = own
          · subst hown
            simp [Uses.dec_eq]
          · simp [Function.update_of_ne hown, Ne.symm hown]
      rw [Uses.hold_iff, href]
      dsimp only
      omega
  · intro hold hflag
    have heq := Uses.hold_iff.mp hold.eyeTracking
    rw [heye] at heq
    rw [hflag] at heq hcount
    cases featureDec with
    | true => rfl
    | false =>
      simp only [Bool.and_false, Bool.toNat_false, Bool.toNat_true] at heq hcount
      omega

theorem usesHold_add (hs : SpacesSound s) {spc : OxrSpace P} (hspc : spc.action = ⟨none, 0, 0, false⟩)
    (more : List (ℕ × XrtInputName)) (r : XrtReferenceSpaceType → Uses) :
    let s' : SessionSpaces P := ⟨s.spaces ++ [some ⟨spc, none⟩], s.poseSpaces ++ more, s.eyeTracking, r⟩
    (UsesHold s' ↔ ∀ xtype, (r xtype).Hold
        (s.count (TrackedSpace.isOf xtype) + (TrackedSpace.isOf xtype ⟨spc, none⟩).toNat)) ∧
      (UsesHold s' → SpacesSound s') := by
  intro s'
  have hgaze : (⟨spc, none⟩ : TrackedSpace P).isEyeGaze = false := Bool.and_false _
  have hcount : ∀ kind, s'.count kind = s.count kind + (kind ⟨spc, none⟩).toNat := count_add s spc
  refine ⟨⟨fun h xtype => hcount _ ▸ h.refSpace xtype, fun h => ⟨fun space' t' ht' haction => ?_, ?_, fun xtype => ?_⟩⟩,
    fun h => ⟨h, fun space' t' ht' => ?_⟩⟩
  · rcases getElem?_snoc ht' with hold | hnew
    · exact (hs.cached space' t' hold haction).append more
    · cases hnew
      show spc.action.xs = none
      rw [hspc]
  · rw [hcount, hgaze]
    exact hs.eyeTracking
  · rw [hcount]
    exact h xtype
  · rcases getElem?_snoc ht' with hold | hnew
    · exact hs.keyed space' t' hold
    · cases hnew
      have hkeys : spc.action.xdev = 0 ∧ spc.action.name = 0 ∧ spc.action.featureEyeTracking = false := by simp [hspc]
      exact ⟨fun _ => hkeys.1, fun _ => hkeys.2.1, hkeys.2.2.trans hgaze.symm⟩

theorem sound_add (hs : SpacesSound s) {spc : OxrSpace P} (hspc : spc.action = ⟨none, 0, 0, false⟩)
    (htype : oxrRefSpaceToXrt spc.spaceType = none) (more : List (ℕ × XrtInputName)) :
    SpacesSound (⟨s.spaces ++ [some ⟨spc, none⟩], s.poseSpaces ++ more, s.eyeTracking, s.refSpace⟩ :
      SessionSpaces P) := by
  obtain ⟨hiff, hsound⟩ := usesHold_add hs hspc more s.refSpace
  refine hsound (hiff.mpr fun xtype => ?_)
  have hof : TrackedSpace.isOf xtype (⟨spc, none⟩ : TrackedSpace P) = false := by simp [TrackedSpace.isOf, htype]
  rw [hof]
  exact hs.refSpace xtype

theorem referenceCreate_sound (hs : SpacesSound s) (type : XrReferenceSpaceType) (pose : P) (ok : Bool) :
    ((oxrRefSpaceToXrt (xrRefSpaceToOxr type) ≠ none → ok = true) → SpacesSound (referenceCreate s type pose ok)) ∧
      (UsesHold (referenceCreate s type pose ok) → oxrRefSpaceToXrt (xrRefSpaceToOxr type) ≠ none → ok = true) := by
  cases htype : oxrRefSpaceToXrt (xrRefSpaceToOxr type) with
  | none =>
    have hnew : (OxrSpace.new (xrRefSpaceToOxr type) pose).action = ⟨none, 0, 0, false⟩ := rfl
    have hs' := sound_add hs hnew htype []
    rw [List.append_nil] at hs'
    refine ⟨fun _ => ?_, fun _ h => (h rfl).elim⟩
    unfold referenceCreate
    rw [htype]
    exact hs'
  | some xtype =>
    have hs' : referenceCreate s type pose ok =
        ⟨s.spaces ++ [some ⟨OxrSpace.new (xrRefSpaceToOxr type) pose, none⟩], s.poseSpaces ++ [], s.eyeTracking,
          Function.update s.refSpace xtype ((s.refSpace xtype).inc ok)⟩ := by
      unfold referenceCreate
      rw [htype, List.append_nil]
      rfl
    have hnew : (OxrSpace.new (xrRefSpaceToOxr type) pose).action = ⟨none, 0, 0, false⟩ := rfl
    obtain ⟨hiff, hsound⟩ := usesHold_add hs hnew [] (Function.update s.refSpace xtype ((s.refSpace xtype).inc ok))
    have hof : ∀ other, TrackedSpace.isOf other (⟨OxrSpace.new (xrRefSpaceToOxr type) pose, none⟩ : TrackedSpace P) =
        decide (xtype = other) := by
      intro other
      simp [TrackedSpace.isOf, OxrSpace.new, htype]
    rw [hs']
    constructor
    · intro hok
      refine hsound (hiff.mpr fun other => ?_)
      have hu := Uses.hold_iff.mp (hs.refSpace other)
      rw [Uses.hold_iff, hof]
      by_cases hsame : other = xtype
      · subst hsame
        rw [Function.update_self, Uses.inc_eq, hok (by simp)]
        simp only [decide_true, Bool.toNat_true]
        omega
      · rw [Function.update_of_ne hsame, decide_eq_false (Ne.symm hsame)]
        exact hu
    · intro hold _
      have hu := Uses.hold_iff.mp (hs.refSpace xtype)
      have heq := Uses.hold_iff.mp (hiff.mp hold xtype)
      rw [Function.update_self, Uses.inc_eq, hof, decide_eq_true rfl] at heq
      cases ok with
      | true => rfl
      | false =>
        dsimp only [Bool.toNat_true, Bool.toNat_false] at heq
        omega

end

/-! ## Runs -/

theorem stepSpaces_sound {s s' : SessionSpaces P} {call : SpaceCall P} (hs : SpacesSound s)
    (hstep : stepSpaces s call = some s') :
    (CallSound s call → SpacesSound s') ∧ (UsesHold s' → CallSound s call) := by
  cases call with
  | actionCreate pose =>
    cases hstep
    have hnew : (OxrSpace.new .action pose).action = ⟨none, 0, 0, false⟩ := rfl
    have hs' := sound_add hs hnew rfl []
    rw [List.append_nil] at hs'
    exact ⟨fun _ => hs', fun _ => trivial⟩
  | referenceCreate type pose ok =>
    cases hstep
    exact referenceCreate_sound hs type pose ok
  | xdevPoseCreate xdev name pose ok =>
    cases hstep
    refine ⟨fun _ => ?_, fun _ => trivial⟩
    unfold xdevPoseCreate
    split
    · exact sound_add hs rfl rfl [(xdev, name)]
    · exact hs
  | locate space input answers =>
    rw [stepSpaces] at hstep
    split at hstep
    · next t ht =>
      cases hstep
      obtain ⟨hsound, hneeded⟩ := locate_sound hs ht input answers
      refine ⟨fun h => hsound (h t ht), fun h t' ht' => ?_⟩
      rw [ht] at ht'
      cases ht'
      exact hneeded h
    · cases hstep
  | destroy space featureDec =>
    rw [stepSpaces] at hstep
    split at hstep
    · next t ht =>
      cases hstep
      obtain ⟨hsound, hneeded⟩ := destroy_sound hs ht featureDec
      refine ⟨fun h => hsound (h t ht), fun h t' ht' => ?_⟩
      rw [ht] at ht'
      cases ht'
      exact hneeded h
    · cases hstep

theorem callSound_of_stuck {s : SessionSpaces P} {call : SpaceCall P} (h : stepSpaces s call = none) :
    CallSound s call := by
  cases call with
  | locate space input answers =>
    intro t ht
    rw [stepSpaces, ht] at h
    cases h
  | destroy space featureDec =>
    intro t ht
    rw [stepSpaces, ht] at h
    cases h
  | _ => cases h

theorem spacesSound_start : SpacesSound (SessionSpaces.start : SessionSpaces P) := by
  have hno : ∀ (space : ℕ) (t : TrackedSpace P), (SessionSpaces.start : SessionSpaces P).spaces[space]? ≠ some (some t) := by
    rintro space t ⟨⟩
  exact ⟨⟨fun space t ht => (hno space t ht).elim, Uses.hold_iff.mpr rfl, fun _ => Uses.hold_iff.mpr rfl⟩,
    fun space t ht => (hno space t ht).elim⟩

/-- The caches and counts are right after every call of a run exactly when every call of it is sound. -/
theorem usesHold_iff (calls : List (SpaceCall P)) :
    Along stepSpaces (fun s call => ∀ s', stepSpaces s call = some s' → UsesHold s') .start calls ↔
      Along stepSpaces CallSound .start calls := by
  refine along_iff (fun s call hs => ?_) (fun s call s' hs hsound hstep => ?_) spacesSound_start calls
  · constructor
    · intro h
      cases hstep : stepSpaces s call with
      | none => exact callSound_of_stuck hstep
      | some s' => exact (stepSpaces_sound hs hstep).2 (h s' hstep)
    · intro hsound s' hstep
      exact ((stepSpaces_sound hs hstep).1 hsound).toUsesHold
  · exact (stepSpaces_sound hs hstep).1 hsound

def gazeThenUnbound : List (SpaceCall Unit) :=
  [.actionCreate (), .locate 0 (some ⟨1, XRT_INPUT_GENERIC_EYE_GAZE_POSE, by decide, by decide⟩) ⟨true, true, true⟩,
    .locate 0 none ⟨true, true, true⟩]

/-- The session goes on using eye tracking. -/
theorem gazeThenUnbound_not_held :
    ¬ Along stepSpaces (fun s call => ∀ s', stepSpaces s call = some s' → UsesHold s') .start gazeThenUnbound := by
  intro h
  have hlast := (along_cons.mp ((along_cons.mp ((along_cons.mp h).2 _ rfl)).2 _ rfl)).1 _ rfl
  have hcount := hlast.eyeTracking.2
  revert hcount
  decide

end AugmentedInsanity.Oxr
