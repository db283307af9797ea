/-
Locating the spaces of a session (`oxr_space.c`), one by one and as a list. At each place the list gives what the
space there gives alone, exactly when an absent base does not meet a space that is there, and no space without an
internal one stands among others (`locatesAlike_iff`).
-/
import Mathlib.Data.List.Forall2
import AugmentedInsanity.Base.LocateSpaces
import AugmentedInsanity.Oxr.Errors
import AugmentedInsanity.Oxr.Spaces

namespace AugmentedInsanity.Oxr

open Xrt Base Reuse

variable {Q V : Type} [MathApi Q V]

/-! ## Locations -/

abbrev XrSpaceLocationFlags := UInt64

abbrev XR_SPACE_LOCATION_ORIENTATION_VALID_BIT : XrSpaceLocationFlags := 1
abbrev XR_SPACE_LOCATION_POSITION_VALID_BIT : XrSpaceLocationFlags := 2
abbrev XR_SPACE_LOCATION_ORIENTATION_TRACKED_BIT : XrSpaceLocationFlags := 4
abbrev XR_SPACE_LOCATION_POSITION_TRACKED_BIT : XrSpaceLocationFlags := 8

abbrev XrSpaceVelocityFlags := UInt64

abbrev XR_SPACE_VELOCITY_LINEAR_VALID_BIT : XrSpaceVelocityFlags := 1
abbrev XR_SPACE_VELOCITY_ANGULAR_VALID_BIT : XrSpaceVelocityFlags := 2

structure XrSpaceVelocity (V : Type) where
  velocityFlags : XrSpaceVelocityFlags
  linearVelocity : V
  angularVelocity : V
  deriving DecidableEq

/-- `XrSpaceLocation`, with the velocity that is written where the application has chained room for it. -/
structure XrSpaceLocation (Q V : Type) where
  locationFlags : XrSpaceLocationFlags
  pose : Pose Q V
  velocity : XrSpaceVelocity V
  deriving DecidableEq

/-- `xrt_to_xr_space_location_flags`; the bits of velocities are those of poses. -/
def xrtToXrSpaceLocationFlags (flags : RelationFlags) : XrSpaceLocationFlags :=
  (if flags.hasOrientation then XR_SPACE_LOCATION_ORIENTATION_VALID_BIT else 0) |||
  (if flags.hasTrackedOrientation then XR_SPACE_LOCATION_ORIENTATION_TRACKED_BIT else 0) |||
  (if flags.hasPosition then XR_SPACE_LOCATION_POSITION_VALID_BIT else 0) |||
  (if flags.hasTrackedPosition then XR_SPACE_LOCATION_POSITION_TRACKED_BIT else 0) |||
  (if flags.hasLinearVelocity then XR_SPACE_VELOCITY_LINEAR_VALID_BIT else 0) |||
  (if flags.hasAngularVelocity then XR_SPACE_VELOCITY_ANGULAR_VALID_BIT else 0)

def validateResult (result : SpaceRelation Q V) : XrSpaceLocation Q V :=
  let zero : V := XRT_POSE_IDENTITY.position (Q := Q)
  if result.relationFlags = .none then ⟨0, XRT_POSE_IDENTITY, ⟨0, zero, zero⟩⟩
  else
    ⟨xrtToXrSpaceLocationFlags result.relationFlags, result.pose,
      ⟨(if result.relationFlags.hasLinearVelocity then XR_SPACE_VELOCITY_LINEAR_VALID_BIT else 0) |||
        (if result.relationFlags.hasAngularVelocity then XR_SPACE_VELOCITY_ANGULAR_VALID_BIT else 0),
        if result.relationFlags.hasLinearVelocity then result.linearVelocity else zero,
        if result.relationFlags.hasAngularVelocity then result.angularVelocity else zero⟩⟩

/-! ## Underlying spaces -/

/-- The space overseer, and the spaces of the session by their handles. -/
structure LocateState (Q V : Type) where
  uso : BSpaceOverseer (Pose Q V)
  spc : ℕ → OxrSpace (Pose Q V)

/-- What does not change while spaces are located: what action spaces are bound to, the settings, the devices, the
arithmetic that compares poses, and the clock. -/
structure LocateEnv (Q V : Type) where
  poseInput : ℕ → Option PoseInput
  mapStageToLocalFloor : Bool
  devices : TrackedPoses Q V
  fuel : ℕ
  poseApprox : Pose Q V → Pose Q V → Bool
  tsToMonotonicNs : Int64 → Int64

variable (env : LocateEnv Q V)

/-- The overseer's `create_pose_space`, which does nothing but assert and create. -/
def createPose (uso : BSpaceOverseer (Pose Q V)) (xdev : ℕ) (name : XrtInputName) :
    Except LocateError (Option SpaceId × BSpaceOverseer (Pose Q V)) :=
  match createPoseSpace uso xdev name with
  | none => .error (.traverse .assertion)
  | some (xs, uso) => .ok (some xs, uso)

/-- The space that `get_xrt_space` finds for a space that is no action space. -/
def internalSpace (uso : BSpaceOverseer (Pose Q V)) (spc : OxrSpace (Pose Q V)) : Option SpaceId :=
  match spc.spaceType with
  | .action => none
  | .xdevPose => spc.xdevPose
  | .referenceView => uso.semantic .view
  | .referenceLocal => uso.semantic .localSpace
  | .referenceLocalFloor => uso.semantic .localFloor
  | .referenceStage => uso.semantic (if env.mapStageToLocalFloor then .localFloor else .stage)
  | .referenceUnboundedMsft => uso.semantic .unbounded
  | .referenceCombinedEyeVarjo => none
  | .referenceLocalizationMapMl => none
  | .referenceUnboundedAndroid => none

/-- `get_xrt_space`: an error of the interface, or a space, which may be `NULL`. -/
def getXrtSpace (st : LocateState Q V) (space : ℕ) :
    Except LocateError (Except XrError (Option SpaceId) × LocateState Q V) :=
  if (st.spc space).spaceType = .action then
    match getXrtSpaceAction createPose st.uso (st.spc space) (env.poseInput space) with
    | .error e => .error e
    | .ok r => .ok (.ok r.xspace, ⟨r.overseer, Function.update st.spc space r.spc⟩)
  else
    match internalSpace env st.uso (st.spc space) with
    | none => .ok (.error .runtimeFailure, st)
    | some xs => .ok (.ok (some xs), st)

/-! ## Locating -/

/-- What `oxr_space_locate` returns and writes; `none` is success, also the qualified one. -/
structure SpaceReply (Q V : Type) where
  ret : Option XrError
  location : XrSpaceLocation Q V
  deriving DecidableEq

/-- The relation of `oxr_space_locate`; the overseer is asked only when both spaces are there. -/
def relationOf (st : LocateState Q V) (xtarget xbase : Option SpaceId) (baseOffset : Pose Q V) (time : Int64)
    (offset : Pose Q V) : Except LocateError (SpaceRelation Q V) :=
  match xtarget, xbase with
  | some target, some base =>
    match locateSpace st.uso env.devices env.fuel base baseOffset (env.tsToMonotonicNs time) target offset with
    | .error e => .error (.traverse e)
    | .ok relation => .ok relation
  | _, _ => .ok XRT_SPACE_RELATION_ZERO

def oxrSpaceLocate (st : LocateState Q V) (spc baseSpc : ℕ) (time : Int64) :
    Except LocateError (SpaceReply Q V × LocateState Q V) :=
  match getXrtSpace env st spc with
  | .error e => .error e
  | .ok (.error e, st) => .ok (⟨some e, validateResult XRT_SPACE_RELATION_ZERO⟩, st)
  | .ok (.ok xtarget, st) =>
    match getXrtSpace env st baseSpc with
    | .error e => .error e
    | .ok (.error e, st) => .ok (⟨some e, validateResult XRT_SPACE_RELATION_ZERO⟩, st)
    | .ok (.ok xbase, st) =>
      match relationOf env st xtarget xbase (st.spc baseSpc).pose time (st.spc spc).pose with
      | .error e => .error e
      | .ok result => .ok (⟨none, validateResult result⟩, st)

/-- What `oxr_spaces_locate` returns and writes. -/
structure SpacesReply (Q V : Type) where
  ret : Option XrError
  locations : List (XrSpaceLocation Q V)
  deriving DecidableEq

/-- The first loop of `oxr_spaces_locate`: the spaces with their offsets, up to the first error. -/
def getXrtSpaces : List ℕ → LocateState Q V →
    Except LocateError (Except XrError (List (Option SpaceId × Pose Q V)) × LocateState Q V)
  | [], st => .ok (.ok [], st)
  | spc :: spcs, st =>
    match getXrtSpace env st spc with
    | .error e => .error e
    | .ok (.error e, st) => .ok (.error e, st)
    | .ok (.ok xt, st) =>
      match getXrtSpaces spcs st with
      | .error e => .error e
      | .ok (.error e, st) => .ok (.error e, st)
      | .ok (.ok xspcs, st') => .ok (.ok ((xt, (st.spc spc).pose) :: xspcs), st')

/-- After an error all the relations are those of zeroed memory. -/
def failedReply (spcs : List ℕ) (e : XrError) : SpacesReply Q V :=
  ⟨some e, spcs.map fun _ => validateResult XRT_SPACE_RELATION_ZERO⟩

def oxrSpacesLocate (st : LocateState Q V) (spcs : List ℕ) (baseSpc : ℕ) (time : Int64) :
    Except LocateError (SpacesReply Q V × LocateState Q V) :=
  match getXrtSpaces env spcs st with
  | .error e => .error e
  | .ok (.error e, st) => .ok (failedReply spcs e, st)
  | .ok (.ok xspcs, st) =>
    match getXrtSpace env st baseSpc with
    | .error e => .error e
    | .ok (.error e, st) => .ok (failedReply spcs e, st)
    | .ok (.ok xbase, st) =>
      -- of what the overseer can answer, this one gives only success
      match locateSpaces st.uso env.devices env.fuel env.poseApprox xbase (st.spc baseSpc).pose
          (env.tsToMonotonicNs time) xspcs with
      | .error e => .error e
      | .ok results => .ok (⟨none, results.map validateResult⟩, st)

/-! ## What is asked -/

/-- What a space stands for before anything is located. -/
inductive Resolution
  /-- There is no internal space. -/
  | failed
  /-- The underlying space is `NULL`. -/
  | absent
  | existing (xs : SpaceId)
  /-- A pose space will be created for it. -/
  | created (space : ℕ)
  deriving DecidableEq

def Resolution.isPresent : Resolution → Bool
  | .failed => false
  | .absent => false
  | .existing _ => true
  | .created _ => true

def resolution (st : LocateState Q V) (space : ℕ) : Resolution :=
  if (st.spc space).spaceType = .action then
    match env.poseInput space with
    | none => .absent
    | some input =>
      if input.xdev ≠ (st.spc space).action.xdev ∨ input.name ≠ (st.spc space).action.name then .created space
      else ((st.spc space).action.xs.map Resolution.existing).getD .absent
  else ((internalSpace env st.uso (st.spc space)).map Resolution.existing).getD .failed

/-- The spaces are the same underneath, and their offsets approximately so. -/
def nearDuplicate (st : LocateState Q V) (a b : ℕ) : Bool :=
  (resolution env st a).isPresent && decide (resolution env st a = resolution env st b) &&
    env.poseApprox (st.spc a).pose (st.spc b).pose

/-- What a call replies, without the state it leaves. -/
def reply {ρ : Type} (call : Except LocateError (ρ × LocateState Q V)) : Except LocateError ρ := call.map Prod.fst

def Unbound (st : LocateState Q V) (space : ℕ) : Prop :=
  (st.spc space).spaceType = .action ∧ env.poseInput space = none

/-- The list gives at each place what the space there gives alone, or what a near duplicate before it gives. -/
structure LocatesAlike (st : LocateState Q V) (spcs : List ℕ) (baseSpc : ℕ) (time : Int64) : Prop where
  present : oxrSpacesLocate env st spcs baseSpc time ≠ .error .absentSpace ∧
    ∀ spc, oxrSpaceLocate env st spc baseSpc time ≠ .error .absentSpace
  stops : ∀ e, oxrSpacesLocate env st spcs baseSpc time = .error e →
    ∃ spc ∈ spcs, oxrSpaceLocate env st spc baseSpc time = .error e
  located : ∀ answer, reply (oxrSpacesLocate env st spcs baseSpc time) = .ok answer →
    answer.locations.length = spcs.length ∧ ∀ (i : ℕ) (spc : ℕ) (location : XrSpaceLocation Q V),
      spcs[i]? = some spc → answer.locations[i]? = some location →
        ∃ (j : ℕ) (spc' : ℕ), spcs[j]? = some spc' ∧ Reuse.Linked (nearDuplicate env st) spcs j i ∧
          reply (oxrSpaceLocate env st spc' baseSpc time) = .ok ⟨answer.ret, location⟩
  unbound : ∀ answer, reply (oxrSpacesLocate env st spcs baseSpc time) = .ok answer →
    ∀ (i : ℕ) (spc : ℕ) (location : XrSpaceLocation Q V), spcs[i]? = some spc → answer.locations[i]? = some location →
      Unbound env st spc ∨ Unbound env st baseSpc → location.locationFlags = 0

/-- An absent base meets only absent spaces, and either all spaces of the list have internal spaces or none. A base
without an internal space fails everything alike. -/
def ListSound (st : LocateState Q V) (spcs : List ℕ) (baseSpc : ℕ) : Prop :=
  resolution env st baseSpc = .failed ∨ (∀ spc ∈ spcs, resolution env st spc = .failed) ∨
    ((∀ spc ∈ spcs, resolution env st spc ≠ .failed) ∧
      (resolution env st baseSpc = .absent → ∀ spc ∈ spcs, resolution env st spc = .absent))

/-- The overseer's graph is closed, what the spaces point to exists, and the devices of bound inputs have been added
to the overseer. -/
structure WellFormed (st : LocateState Q V) : Prop where
  closed : Closed st.uso
  cached : ∀ space xs, (st.spc space).action.xs = some xs → st.uso.spaces xs ≠ none
  xdevPose : ∀ space xs, (st.spc space).xdevPose = some xs → st.uso.spaces xs ≠ none
  bound : ∀ space input, env.poseInput space = some input → st.uso.xdevMap input.xdev ≠ none

/-! ## Resolving spaces -/

variable {env} {st₀ st : LocateState Q V} {space : ℕ} {id : SpaceId}

section
omit [MathApi Q V]

structure Made (env : LocateEnv Q V) (st₀ st : LocateState Q V) (space : ℕ) (id : SpaceId) : Prop where
  fresh : st₀.uso.spaces id = none
  xs : (st.spc space).action.xs = some id
  created : resolution env st₀ space = .created space
  input : ∃ input parent, env.poseInput space = some input ∧ (st.spc space).action.xdev = input.xdev ∧
    (st.spc space).action.name = input.name ∧ st₀.uso.xdevMap input.xdev = some parent ∧
    st.uso.spaces id = some ⟨some parent, .pose input.xdev input.name⟩

/-- `st` comes from `st₀` by resolving spaces. -/
structure Since (env : LocateEnv Q V) (st₀ st : LocateState Q V) : Prop where
  keeps : KeepsSpaces st₀.uso st.uso
  semantic : st.uso.semantic = st₀.uso.semantic
  xdevMap : st.uso.xdevMap = st₀.uso.xdevMap
  fresh : ∀ id, st.uso.count ≤ id → st.uso.spaces id = none
  spaceType : ∀ space, (st.spc space).spaceType = (st₀.spc space).spaceType
  pose : ∀ space, (st.spc space).pose = (st₀.spc space).pose
  xdevPose : ∀ space, (st.spc space).xdevPose = (st₀.spc space).xdevPose
  action : ∀ space, env.poseInput space = none ∨ (st.spc space).action = (st₀.spc space).action ∨
    ∃ id, Made env st₀ st space id
  own : ∀ space space' id, Made env st₀ st space id → Made env st₀ st space' id → space = space'

/-- The space that a resolution gives is `NULL`, the one there was, or the one that was made. -/
def Denotes (env : LocateEnv Q V) (st₀ st : LocateState Q V) : Resolution → Option SpaceId → Prop
  | .failed, _ => False
  | .absent, xs => xs = none
  | .existing id, xs => xs = some id ∧ st₀.uso.spaces id ≠ none
  | .created space, xs => ∃ id, xs = some id ∧ Made env st₀ st space id

theorem Since.refl (h : WellFormed env st₀) : Since env st₀ st₀ where
  keeps := .refl _
  semantic := rfl
  xdevMap := rfl
  fresh := h.closed.fresh
  spaceType := fun _ => rfl
  pose := fun _ => rfl
  xdevPose := fun _ => rfl
  action := fun _ => .inr (.inl rfl)
  own := fun space _ id hmade _ => (h.cached space id hmade.xs hmade.fresh).elim

theorem Since.denotes_inj (h : Since env st₀ st) {r r' : Resolution} (hr : Denotes env st₀ st r (some id))
    (hr' : Denotes env st₀ st r' (some id)) : r = r' := by
  cases r with
  | failed => exact hr.elim
  | absent => cases hr
  | existing id₁ =>
    obtain ⟨hid, hold⟩ := hr
    cases hid
    cases r' with
    | failed => exact hr'.elim
    | absent => cases hr'
    | existing id₂ =>
      cases hr'.1
      rfl
    | created space =>
      obtain ⟨id', hid, hmade⟩ := hr'
      cases hid
      exact absurd hmade.fresh hold
  | created space =>
    obtain ⟨id₁, hid, hmade⟩ := hr
    cases hid
    cases r' with
    | failed => exact hr'.elim
    | absent => cases hr'
    | existing id₂ =>
      obtain ⟨hid, hold⟩ := hr'
      cases hid
      exact absurd hmade.fresh hold
    | created space' =>
      obtain ⟨id₂, hid, hmade'⟩ := hr'
      cases hid
      rw [h.own space space' _ hmade hmade']

theorem createPose_eq {uso : BSpaceOverseer (Pose Q V)} {xdev : ℕ} {parent : SpaceId} (hmap : uso.xdevMap xdev = some parent)
    (hparent : uso.spaces parent ≠ none) (name : XrtInputName) :
    createPose uso xdev name = .ok (some uso.count,
      { uso with
        spaces := Function.update uso.spaces uso.count (some ⟨some parent, .pose xdev name⟩)
        count := uso.count + 1 }) := by
  obtain ⟨us, hus⟩ := Option.ne_none_iff_exists'.1 hparent
  unfold createPose createPoseSpace
  rw [hmap, Option.bind_some]
  unfold createSpace
  rw [hus]

/-- What resolving one space gives: an error of the interface, or what the space stands for. -/
def Resolves (env : LocateEnv Q V) (st₀ st : LocateState Q V) (space : ℕ) : Prop :=
  (resolution env st₀ space = .failed ∧ getXrtSpace env st space = .ok (.error .runtimeFailure, st)) ∨
    ∃ xs st', getXrtSpace env st space = .ok (.ok xs, st') ∧ Since env st₀ st' ∧
      Denotes env st₀ st' (resolution env st₀ space) xs ∧
      ∀ r xs', Denotes env st₀ st r xs' → Denotes env st₀ st' r xs'

theorem resolves_internal (hwf : WellFormed env st₀) (h : Since env st₀ st) (htype : (st₀.spc space).spaceType ≠ .action) :
    Resolves env st₀ st space := by
  have htype' : (st.spc space).spaceType ≠ .action := by rwa [h.spaceType]
  have hinternal : internalSpace env st.uso (st.spc space) = internalSpace env st₀.uso (st₀.spc space) := by
    unfold internalSpace
    rw [h.spaceType, h.semantic, h.xdevPose]
  have hget : getXrtSpace env st space = match internalSpace env st₀.uso (st₀.spc space) with
      | none => .ok (.error .runtimeFailure, st)
      | some xs => .ok (.ok (some xs), st) := by
    unfold getXrtSpace
    rw [if_neg htype', hinternal]
  have hresolution : resolution env st₀ space =
      ((internalSpace env st₀.uso (st₀.spc space)).map Resolution.existing).getD .failed := by
    unfold resolution
    rw [if_neg htype]
  cases hfound : internalSpace env st₀.uso (st₀.spc space) with
  | none =>
    rw [hfound] at hget hresolution
    exact .inl ⟨hresolution, hget⟩
  | some xs =>
    rw [hfound] at hget hresolution
    refine .inr ⟨some xs, st, hget, h, ?_, fun _ _ hr => hr⟩
    rw [hresolution]
    refine ⟨rfl, ?_⟩
    -- semantic spaces and those of the devices exist
    unfold internalSpace at hfound
    split at hfound
    all_goals first
      | cases hfound
      | exact hwf.xdevPose space xs hfound
      | exact hwf.closed.semantic _ xs hfound

theorem Made.bound (h : Made env st₀ st space id) : env.poseInput space ≠ none := by
  obtain ⟨input, -, hinput, -⟩ := h.input
  rw [hinput]
  rintro ⟨⟩

/-- What a call changes that resolves one space: the action of the space, and the overseer by the space it makes. -/
structure ResolveStep (env : LocateEnv Q V) (st₀ st st' : LocateState Q V) (space : ℕ) : Prop where
  keeps : KeepsSpaces st.uso st'.uso
  semantic : st'.uso.semantic = st.uso.semantic
  xdevMap : st'.uso.xdevMap = st.uso.xdevMap
  fresh : ∀ id, st'.uso.count ≤ id → st'.uso.spaces id = none
  spaceType : ∀ space', (st'.spc space').spaceType = (st.spc space').spaceType
  pose : ∀ space', (st'.spc space').pose = (st.spc space').pose
  xdevPose : ∀ space', (st'.spc space').xdevPose = (st.spc space').xdevPose
  action : ∀ space', space' ≠ space → (st'.spc space').action = (st.spc space').action
  new : env.poseInput space = none ∨
    (∀ id, ¬ Made env st₀ st space id) ∧ ∃ id, st.uso.spaces id = none ∧ Made env st₀ st' space id

section
variable {st' : LocateState Q V} (hwf : WellFormed env st₀) (h : Since env st₀ st) (hstep : ResolveStep env st₀ st st' space)
include hstep

theorem ResolveStep.made {space' : ℕ} (hmade : Made env st₀ st space' id) : Made env st₀ st' space' id := by
  have hne : space' ≠ space := by
    rintro rfl
    rcases hstep.new with hnone | ⟨hnot, -⟩
    · exact hmade.bound hnone
    · exact hnot id hmade
  obtain ⟨input, parent, hinput, hxdev, hname, hmap, hspace⟩ := hmade.input
  have haction := hstep.action space' hne
  have hkept : st'.uso.spaces id = st.uso.spaces id := hstep.keeps id (by rw [hspace]; rintro ⟨⟩)
  refine ⟨hmade.fresh, by rw [haction, hmade.xs], hmade.created, input, parent, hinput, ?_, ?_, hmap, ?_⟩
  · rw [haction, hxdev]
  · rw [haction, hname]
  · rw [hkept, hspace]

include hwf h in
theorem ResolveStep.made_other {space' : ℕ} (hne : space' ≠ space) (hmade : Made env st₀ st' space' id) :
    Made env st₀ st space' id := by
  have hxs := hmade.xs
  rw [hstep.action space' hne] at hxs
  rcases h.action space' with hnone | hsame | ⟨id', hid'⟩
  · exact absurd hnone hmade.bound
  · rw [hsame] at hxs
    exact (hwf.cached space' id hxs hmade.fresh).elim
  · have heq := hid'.xs.symm.trans hxs
    cases heq
    exact hid'

include hwf h in
theorem ResolveStep.since : Since env st₀ st' where
  keeps := h.keeps.trans hstep.keeps
  semantic := hstep.semantic.trans h.semantic
  xdevMap := hstep.xdevMap.trans h.xdevMap
  fresh := hstep.fresh
  spaceType := fun space' => (hstep.spaceType space').trans (h.spaceType space')
  pose := fun space' => (hstep.pose space').trans (h.pose space')
  xdevPose := fun space' => (hstep.xdevPose space').trans (h.xdevPose space')
  action := fun space' => by
    by_cases heq : space' = space
    · subst heq
      rcases hstep.new with hnone | ⟨-, id, -, hid⟩
      · exact .inl hnone
      · exact .inr (.inr ⟨id, hid⟩)
    · rcases h.action space' with hnone | hsame | ⟨id, hid⟩
      · exact .inl hnone
      · exact .inr (.inl ((hstep.action space' heq).trans hsame))
      · exact .inr (.inr ⟨id, hstep.made hid⟩)
  own := fun a b id ha hb => by
    -- what is made by the call is a space that was not there
    have hnew : ∀ c, c ≠ space → Made env st₀ st' c id → Made env st₀ st' space id → False := by
      intro c hc hmade hspace
      obtain ⟨input, parent, -, -, -, -, hthere⟩ := (hstep.made_other hwf h hc hmade).input
      rcases hstep.new with hnone | ⟨-, id', hfresh, hid'⟩
      · exact hspace.bound hnone
      · have heq := hid'.xs.symm.trans hspace.xs
        cases heq
        rw [hfresh] at hthere
        cases hthere
    by_cases hane : a = space
    · by_cases hbne : b = space
      · rw [hane, hbne]
      · exact (hnew b hbne hb (hane ▸ ha)).elim
    · by_cases hbne : b = space
      · exact (hnew a hane ha (hbne ▸ hb)).elim
      · exact h.own a b id (hstep.made_other hwf h hane ha) (hstep.made_other hwf h hbne hb)

theorem ResolveStep.denotes {r : Resolution} {xs : Option SpaceId} (hr : Denotes env st₀ st r xs) :
    Denotes env st₀ st' r xs := by
  cases r with
  | created space' =>
    obtain ⟨id, hid, hmade⟩ := hr
    exact ⟨id, hid, hstep.made hmade⟩
  | _ => exact hr

end

theorem update_kept {γ : Type} (g : OxrSpace (Pose Q V) → γ) {spc : OxrSpace (Pose Q V)} (hg : g spc = g (st.spc space))
    (space' : ℕ) : g (Function.update st.spc space spc space') = g (st.spc space') := by
  by_cases heq : space' = space
  · subst heq
    rw [Function.update_self, hg]
  · rw [Function.update_of_ne heq]

theorem resolves_unbound (hwf : WellFormed env st₀) (h : Since env st₀ st) (htype : (st₀.spc space).spaceType = .action)
    (hinput : env.poseInput space = none) : Resolves env st₀ st space := by
  have htype' : (st.spc space).spaceType = .action := by rwa [h.spaceType]
  have hresolution : resolution env st₀ space = .absent := by
    unfold resolution
    rw [if_pos htype, hinput]
  let spc := { st.spc space with action := { (st.spc space).action with xs := none, xdev := 0, name := 0 } }
  have hget : getXrtSpace env st space = .ok (.ok none, ⟨st.uso, Function.update st.spc space spc⟩) := by
    unfold getXrtSpace
    rw [if_pos htype', hinput]
    rfl
  have hstep : ResolveStep env st₀ st ⟨st.uso, Function.update st.spc space spc⟩ space := {
    keeps := .refl _
    semantic := rfl
    xdevMap := rfl
    fresh := h.fresh
    spaceType := fun space' => update_kept OxrSpace.spaceType (rfl : spc.spaceType = _) space'
    pose := fun space' => update_kept OxrSpace.pose (rfl : spc.pose = _) space'
    xdevPose := fun space' => update_kept OxrSpace.xdevPose (rfl : spc.xdevPose = _) space'
    action := fun space' hne => congrArg OxrSpace.action (Function.update_of_ne hne _ _)
    new := .inl hinput }
  refine .inr ⟨none, _, hget, hstep.since hwf h, ?_, fun _ _ hr => hstep.denotes hr⟩
  rw [hresolution]
  exact rfl

theorem resolves_cached (hwf : WellFormed env st₀) (h : Since env st₀ st) (htype : (st₀.spc space).spaceType = .action)
    {input : PoseInput} (hinput : env.poseInput space = some input)
    (hsame : ¬ (input.xdev ≠ (st.spc space).action.xdev ∨ input.name ≠ (st.spc space).action.name)) :
    Resolves env st₀ st space := by
  have htype' : (st.spc space).spaceType = .action := by rwa [h.spaceType]
  have hget : getXrtSpace env st space = .ok (.ok (st.spc space).action.xs, st) := by
    unfold getXrtSpace
    rw [if_pos htype', hinput, getXrtSpaceAction_same hsame]
    dsimp only
    rw [Function.update_eq_self]
  refine .inr ⟨_, st, hget, h, ?_, fun _ _ hr => hr⟩
  rcases h.action space with hnone | haction | ⟨id, hmade⟩
  · rw [hinput] at hnone
    cases hnone
  · rw [haction] at hsame ⊢
    have hresolution : resolution env st₀ space = ((st₀.spc space).action.xs.map Resolution.existing).getD .absent := by
      unfold resolution
      rw [if_pos htype, hinput]
      dsimp only
      rw [if_neg hsame]
    rw [hresolution]
    cases hxs : (st₀.spc space).action.xs with
    | none => exact rfl
    | some xs => exact ⟨rfl, hwf.cached space xs hxs⟩
  · rw [hmade.created]
    exact ⟨id, hmade.xs, hmade⟩

theorem resolves_rebound (hwf : WellFormed env st₀) (h : Since env st₀ st) (htype : (st₀.spc space).spaceType = .action)
    {input : PoseInput} (hinput : env.poseInput space = some input)
    (hother : input.xdev ≠ (st.spc space).action.xdev ∨ input.name ≠ (st.spc space).action.name) :
    Resolves env st₀ st space := by
  have htype' : (st.spc space).spaceType = .action := by rwa [h.spaceType]
  have hnot : ∀ id, ¬ Made env st₀ st space id := by
    intro id hmade
    obtain ⟨input', -, hinput', hxdev, hname, -⟩ := hmade.input
    rw [hinput] at hinput'
    cases hinput'
    rcases hother with hne | hne
    · exact hne hxdev.symm
    · exact hne hname.symm
  have hresolution : resolution env st₀ space = .created space := by
    rcases h.action space with hnone | haction | ⟨id, hmade⟩
    · rw [hinput] at hnone
      cases hnone
    · rw [haction] at hother
      unfold resolution
      rw [if_pos htype, hinput]
      dsimp only
      rw [if_pos hother]
    · exact absurd hmade (hnot id)
  obtain ⟨parent, hmap⟩ := Option.ne_none_iff_exists'.1 (hwf.bound space input hinput)
  have hparent := hwf.closed.xdevMap input.xdev parent hmap
  have hmap' : st.uso.xdevMap input.xdev = some parent := by rw [h.xdevMap, hmap]
  have hparent' : st.uso.spaces parent ≠ none := by rwa [h.keeps parent hparent]
  have hcreate := createPose_eq hmap' hparent' input.name
  let us : USpace (Pose Q V) := ⟨some parent, .pose input.xdev input.name⟩
  let uso := { st.uso with
    spaces := Function.update st.uso.spaces st.uso.count (some us), count := st.uso.count + 1 }
  let spc := { st.spc space with action := ⟨some st.uso.count, input.xdev, input.name, input.isEyeGaze⟩ }
  have hget : getXrtSpace env st space = .ok (.ok (some st.uso.count), ⟨uso, Function.update st.spc space spc⟩) := by
    unfold getXrtSpace
    rw [if_pos htype', hinput, getXrtSpaceAction_created hother hcreate]
  have hnew := h.fresh st.uso.count (Nat.le_refl _)
  have hmade : Made env st₀ ⟨uso, Function.update st.spc space spc⟩ space st.uso.count := by
    refine ⟨?_, ?_, hresolution, input, parent, hinput, ?_, ?_, hmap, ?_⟩
    · by_contra hthere
      exact hthere (h.keeps _ hthere ▸ hnew)
    · simp [spc]
    · simp [spc]
    · simp [spc]
    · simp [uso, us]
  have hstep : ResolveStep env st₀ st ⟨uso, Function.update st.spc space spc⟩ space := {
    keeps := fun id hid => Function.update_of_ne (by rintro rfl; exact hid hnew) _ _
    semantic := rfl
    xdevMap := rfl
    fresh := fun id hid => by
      have hne : id ≠ st.uso.count := Nat.ne_of_gt hid
      show Function.update st.uso.spaces st.uso.count (some us) id = none
      rw [Function.update_of_ne hne]
      exact h.fresh id (Nat.le_of_succ_le hid)
    spaceType := fun space' => update_kept OxrSpace.spaceType (rfl : spc.spaceType = _) space'
    pose := fun space' => update_kept OxrSpace.pose (rfl : spc.pose = _) space'
    xdevPose := fun space' => update_kept OxrSpace.xdevPose (rfl : spc.xdevPose = _) space'
    action := fun space' hne => congrArg OxrSpace.action (Function.update_of_ne hne _ _)
    new := .inr ⟨hnot, st.uso.count, hnew, hmade⟩ }
  refine .inr ⟨_, _, hget, hstep.since hwf h, ?_, fun _ _ hr => hstep.denotes hr⟩
  rw [hresolution]
  exact ⟨st.uso.count, rfl, hmade⟩

theorem Since.resolves (hwf : WellFormed env st₀) (h : Since env st₀ st) (space : ℕ) : Resolves env st₀ st space := by
  by_cases htype : (st₀.spc space).spaceType = .action
  · cases hinput : env.poseInput space with
    | none => exact resolves_unbound hwf h htype hinput
    | some input =>
      by_cases hother : input.xdev ≠ (st.spc space).action.xdev ∨ input.name ≠ (st.spc space).action.name
      · exact resolves_rebound hwf h htype hinput hother
      · exact resolves_cached hwf h htype hinput hother
  · exact resolves_internal hwf h htype

def Stands (env : LocateEnv Q V) (st₀ st : LocateState Q V) (spc : ℕ) (p : Option SpaceId × Pose Q V) : Prop :=
  Denotes env st₀ st (resolution env st₀ spc) p.1 ∧ p.2 = (st₀.spc spc).pose

variable {r : Resolution} {xs xs' : Option SpaceId}

theorem Denotes.ne_failed {xs : Option SpaceId} (h : Denotes env st₀ st r xs) : r ≠ .failed := by
  rintro rfl
  exact h

theorem getXrtSpaces_cases (hwf : WellFormed env st₀) (h : Since env st₀ st) (spcs : List ℕ) :
    ((∃ spc ∈ spcs, resolution env st₀ spc = .failed) ∧
        ∃ st', getXrtSpaces env spcs st = .ok (.error .runtimeFailure, st')) ∨
      ((∀ spc ∈ spcs, resolution env st₀ spc ≠ .failed) ∧
        ∃ xspcs st', getXrtSpaces env spcs st = .ok (.ok xspcs, st') ∧ Since env st₀ st' ∧
          List.Forall₂ (Stands env st₀ st') spcs xspcs ∧
          ∀ r xs, Denotes env st₀ st r xs → Denotes env st₀ st' r xs) := by
  induction spcs generalizing st with
  | nil => exact .inr ⟨by rintro spc ⟨⟩, [], st, rfl, h, .nil, fun _ _ hr => hr⟩
  | cons spc spcs ih =>
    rcases h.resolves hwf spc with ⟨hfailed, hget⟩ | ⟨xt, st₁, hget, h₁, hxt, hmono⟩
    · refine .inl ⟨⟨spc, List.mem_cons_self, hfailed⟩, st, ?_⟩
      rw [getXrtSpaces, hget]
    · rcases ih h₁ with ⟨⟨spc', hspc', hfailed⟩, st', hrest⟩ | ⟨hresolved, xspcs, st', hrest, h', hstands, hmono'⟩
      · refine .inl ⟨⟨spc', List.mem_cons_of_mem spc hspc', hfailed⟩, st', ?_⟩
        rw [getXrtSpaces, hget]
        dsimp only
        rw [hrest]
      · refine .inr ⟨?_, (xt, (st₁.spc spc).pose) :: xspcs, st', ?_, h',
          .cons ⟨hmono' _ _ hxt, h₁.pose spc⟩ hstands, fun r xs hr => hmono' r xs (hmono r xs hr)⟩
        · intro spc' hspc'
          rcases List.mem_cons.1 hspc' with rfl | hspc'
          · exact hxt.ne_failed
          · exact hresolved spc' hspc'
        · rw [getXrtSpaces, hget]
          dsimp only
          rw [hrest]

/-! ## One space against another

The same spaces are resolved in a list and alone, and are then located alike. -/

theorem Denotes.unique (h : Denotes env st₀ st r xs) (h' : Denotes env st₀ st r xs') : xs = xs' := by
  cases r with
  | failed => exact h.elim
  | absent => exact Eq.trans h (Eq.symm h')
  | existing id => rw [h.1, h'.1]
  | created space =>
    obtain ⟨id, rfl, hmade⟩ := h
    obtain ⟨id', rfl, hmade'⟩ := h'
    exact hmade.xs.symm.trans hmade'.xs

theorem Denotes.alike {st' : LocateState Q V} (hwf : WellFormed env st₀) (h : Denotes env st₀ st r xs)
    (h' : Denotes env st₀ st' r xs') :
    (xs = none ∧ xs' = none) ∨
      ∃ id id', xs = some id ∧ xs' = some id' ∧ Alike st₀.uso st.uso st'.uso id id' := by
  cases r with
  | failed => exact h.elim
  | absent => exact .inl ⟨h, h'⟩
  | existing id => exact .inr ⟨id, id, h.1, h'.1, .old h.2⟩
  | created space =>
    obtain ⟨id, hid, hmade⟩ := h
    obtain ⟨id', hid', hmade'⟩ := h'
    obtain ⟨input, parent, hinput, -, -, hmap, hspace⟩ := hmade.input
    obtain ⟨input', parent', hinput', -, -, hmap', hspace'⟩ := hmade'.input
    rw [hinput] at hinput'
    cases hinput'
    rw [hmap] at hmap'
    cases hmap'
    exact .inr ⟨id, id', hid, hid', .new hspace hspace' (hwf.closed.xdevMap _ _ hmap)⟩

theorem reply_error {ρ : Type} {call : Except LocateError (ρ × LocateState Q V)} {e : LocateError} :
    reply call = .error e ↔ call = .error e := by
  cases call with
  | error e' =>
    constructor
    · rintro ⟨⟩
      rfl
    · rintro ⟨⟩
      rfl
  | ok answer =>
    constructor
    · rintro ⟨⟩
    · rintro ⟨⟩

end

section
variable (hwf : WellFormed env st) (spc baseSpc : ℕ) (time : Int64)
include hwf

theorem oxrSpaceLocate_eq (hspc : resolution env st spc ≠ .failed) (hbase : resolution env st baseSpc ≠ .failed) :
    ∃ st' xtarget xbase, Since env st st' ∧ Denotes env st st' (resolution env st spc) xtarget ∧
      Denotes env st st' (resolution env st baseSpc) xbase ∧
      reply (oxrSpaceLocate env st spc baseSpc time) =
        (relationOf env st' xtarget xbase (st.spc baseSpc).pose time (st.spc spc).pose).map
          fun result => ⟨none, validateResult result⟩ := by
  rcases (Since.refl hwf).resolves hwf spc with ⟨hfailed, -⟩ | ⟨xt, st₁, hget, h₁, hxt, -⟩
  · exact absurd hfailed hspc
  · rcases h₁.resolves hwf baseSpc with ⟨hfailed, -⟩ | ⟨xb, st₂, hget', h₂, hxb, hmono⟩
    · exact absurd hfailed hbase
    · refine ⟨st₂, xt, xb, h₂, hmono _ _ hxt, hxb, ?_⟩
      unfold oxrSpaceLocate
      rw [hget]
      dsimp only
      rw [hget']
      dsimp only
      rw [h₂.pose, h₂.pose]
      cases relationOf env st₂ xt xb (st.spc baseSpc).pose time (st.spc spc).pose <;> rfl

theorem reply_failed (h : resolution env st spc = .failed ∨ resolution env st baseSpc = .failed) :
    reply (oxrSpaceLocate env st spc baseSpc time) =
      .ok ⟨some .runtimeFailure, validateResult XRT_SPACE_RELATION_ZERO⟩ := by
  unfold oxrSpaceLocate
  rcases (Since.refl hwf).resolves hwf spc with ⟨-, hget⟩ | ⟨xt, st₁, hget, h₁, hxt, -⟩
  · rw [hget]
    rfl
  · rcases h₁.resolves hwf baseSpc with ⟨-, hget'⟩ | ⟨xb, st₂, -, -, hxb, -⟩
    · rw [hget]
      dsimp only
      rw [hget']
      rfl
    · rcases h with hfailed | hfailed
      · exact absurd hfailed hxt.ne_failed
      · exact absurd hfailed hxb.ne_failed

theorem reply_absent (hspc : resolution env st spc ≠ .failed) (hbase : resolution env st baseSpc ≠ .failed)
    (h : resolution env st spc = .absent ∨ resolution env st baseSpc = .absent) :
    reply (oxrSpaceLocate env st spc baseSpc time) = .ok ⟨none, validateResult XRT_SPACE_RELATION_ZERO⟩ := by
  obtain ⟨st', xt, xb, -, hxt, hxb, hreply⟩ := oxrSpaceLocate_eq hwf spc baseSpc time hspc hbase
  have hzero : ∀ baseOffset offset, relationOf env st' xt xb baseOffset time offset = .ok XRT_SPACE_RELATION_ZERO := by
    intro baseOffset offset
    rcases h with habsent | habsent
    · rw [habsent] at hxt
      cases (hxt : xt = none)
      rfl
    · rw [habsent] at hxb
      cases (hxb : xb = none)
      cases xt <;> rfl
  rw [hreply, hzero]
  rfl

theorem oxrSpaceLocate_present : oxrSpaceLocate env st spc baseSpc time ≠ .error .absentSpace := by
  intro herror
  have hreply := reply_error.mpr herror
  by_cases hfailed : resolution env st spc = .failed ∨ resolution env st baseSpc = .failed
  · rw [reply_failed hwf spc baseSpc time hfailed] at hreply
    cases hreply
  · rw [not_or] at hfailed
    obtain ⟨st', xt, xb, -, -, -, heq⟩ := oxrSpaceLocate_eq hwf spc baseSpc time hfailed.1 hfailed.2
    rw [heq] at hreply
    unfold relationOf at hreply
    repeat' split at hreply
    all_goals cases hreply

theorem reply_locateListed {st' : LocateState Q V} (h : Since env st st') {p : Option SpaceId × Pose Q V}
    {xbase : Option SpaceId} (hp : Stands env st st' spc p) (hxbase : Denotes env st st' (resolution env st baseSpc) xbase)
    (hread : xbase = none → p.1 = none) :
    reply (oxrSpaceLocate env st spc baseSpc time) =
      (locateListed st'.uso env.devices env.fuel xbase (st.spc baseSpc).pose (env.tsToMonotonicNs time) p).map
        fun result => ⟨none, validateResult result⟩ := by
  obtain ⟨xspc, offset⟩ := p
  obtain ⟨hxspc, hoffset⟩ := hp
  dsimp only at hxspc hoffset hread
  subst hoffset
  obtain ⟨st₁, xt, xb, h₁, hxt, hxb, hreply⟩ :=
    oxrSpaceLocate_eq hwf spc baseSpc time hxspc.ne_failed hxbase.ne_failed
  rw [hreply]
  congr 1
  rcases hxt.alike hwf hxspc with ⟨rfl, rfl⟩ | ⟨id, id', rfl, rfl, halike⟩
  · rfl
  · rcases hxb.alike hwf hxbase with ⟨rfl, rfl⟩ | ⟨base, base', rfl, rfl, hbaseAlike⟩
    · cases hread rfl
    · -- the two are the same space when they are resolved in the same way
      have hsame : id = base ↔ id' = base' := by
        constructor
        · rintro rfl
          have hr := h₁.denotes_inj hxt hxb
          rw [hr] at hxspc
          exact Option.some.inj (hxspc.unique hxbase)
        · rintro rfl
          have hr := h.denotes_inj hxspc hxbase
          rw [hr] at hxt
          exact Option.some.inj (hxt.unique hxb)
      unfold relationOf locateListed
      dsimp only
      rewrite [locateSpace_alike hwf.closed h₁.keeps h.keeps hbaseAlike halike hsame]
      cases locateSpace st'.uso env.devices env.fuel base' (st.spc baseSpc).pose (env.tsToMonotonicNs time) id'
        (st.spc spc).pose <;> rfl

end

/-! ## Lists -/

section
variable (hwf : WellFormed env st) (spcs : List ℕ) (baseSpc : ℕ) (time : Int64)
include hwf

theorem reply_list_failed
    (h : (∃ spc ∈ spcs, resolution env st spc = .failed) ∨ resolution env st baseSpc = .failed) :
    reply (oxrSpacesLocate env st spcs baseSpc time) = .ok (failedReply spcs .runtimeFailure) := by
  unfold oxrSpacesLocate
  rcases getXrtSpaces_cases hwf (.refl hwf) spcs with ⟨-, st', hget⟩ | ⟨hresolved, xspcs, st₁, hget, h₁, -, -⟩
  · rw [hget]
    rfl
  · rcases h with ⟨spc, hspc, hfailed⟩ | hfailed
    · exact absurd hfailed (hresolved spc hspc)
    · rcases h₁.resolves hwf baseSpc with ⟨-, hget'⟩ | ⟨xb, st₂, -, -, hxb, -⟩
      · rw [hget]
        dsimp only
        rw [hget']
        rfl
      · exact absurd hfailed hxb.ne_failed

theorem oxrSpacesLocate_eq (hspcs : ∀ spc ∈ spcs, resolution env st spc ≠ .failed)
    (hbase : resolution env st baseSpc ≠ .failed) :
    ∃ st' xspcs xbase, Since env st st' ∧ List.Forall₂ (Stands env st st') spcs xspcs ∧
      Denotes env st st' (resolution env st baseSpc) xbase ∧
      reply (oxrSpacesLocate env st spcs baseSpc time) =
        (locateSpaces st'.uso env.devices env.fuel env.poseApprox xbase (st.spc baseSpc).pose
          (env.tsToMonotonicNs time) xspcs).map fun results => ⟨none, results.map validateResult⟩ := by
  rcases getXrtSpaces_cases hwf (.refl hwf) spcs with
    ⟨⟨spc, hspc, hfailed⟩, -⟩ | ⟨-, xspcs, st₁, hget, h₁, hstands, -⟩
  · exact absurd hfailed (hspcs spc hspc)
  · rcases h₁.resolves hwf baseSpc with ⟨hfailed, -⟩ | ⟨xb, st₂, hget', h₂, hxb, hmono⟩
    · exact absurd hfailed hbase
    · refine ⟨st₂, xspcs, xb, h₂, ?_, hxb, ?_⟩
      · exact List.Forall₂.imp (fun _ _ hp => ⟨hmono _ _ hp.1, hp.2⟩) hstands
      · unfold oxrSpacesLocate
        rw [hget]
        dsimp only
        rw [hget']
        dsimp only
        rw [h₂.pose]
        cases locateSpaces st₂.uso env.devices env.fuel env.poseApprox xb (st.spc baseSpc).pose
          (env.tsToMonotonicNs time) xspcs <;> rfl

end

theorem getElem?_of_forall₂ {α β : Type} {R : α → β → Prop} {l : List α} {l' : List β} (h : List.Forall₂ R l l')
    {i : ℕ} {b : β} (hb : l'[i]? = some b) : ∃ a, l[i]? = some a ∧ R a b := by
  induction h generalizing i with
  | nil => cases hb
  | @cons c d l l' hcd _ ih =>
    cases i with
    | zero =>
      cases hb
      exact ⟨c, rfl, hcd⟩
    | succ i =>
      rw [List.getElem?_cons_succ] at hb ⊢
      exact ih hb

omit [MathApi Q V] in
theorem nearDuplicate_of_linked {st' : LocateState Q V} (h : Since env st st') {spcs : List ℕ}
    {xspcs : List (Option SpaceId × Pose Q V)} (hstands : List.Forall₂ (Stands env st st') spcs xspcs) {j i : ℕ}
    (hlinked : Reuse.Linked (sameSpace env.poseApprox) xspcs j i) : Reuse.Linked (nearDuplicate env st) spcs j i := by
  have hstep : ∀ k i, Earlier (sameSpace env.poseApprox) xspcs k i → Earlier (nearDuplicate env st) spcs k i := by
    rintro k i ⟨hlt, p, q, hp, hq, hclose⟩
    obtain ⟨a, ha, hap⟩ := getElem?_of_forall₂ hstands hp
    obtain ⟨b, hb, hbq⟩ := getElem?_of_forall₂ hstands hq
    refine ⟨hlt, a, b, ha, hb, ?_⟩
    obtain ⟨x, offset⟩ := p
    obtain ⟨y, offset'⟩ := q
    obtain ⟨hx, rfl⟩ := hap
    obtain ⟨hy, rfl⟩ := hbq
    unfold sameSpace at hclose
    simp only [Bool.and_eq_true, decide_eq_true_eq] at hclose
    obtain ⟨⟨hsome, rfl⟩, happrox⟩ := hclose
    obtain ⟨id, rfl⟩ := Option.isSome_iff_exists.1 hsome
    have hr := h.denotes_inj hx hy
    have hpresent : (resolution env st a).isPresent = true := by
      cases hra : resolution env st a with
      | failed => exact absurd hra hx.ne_failed
      | absent =>
        rw [hra] at hx
        cases hx
      | existing _ => rfl
      | created _ => rfl
    unfold nearDuplicate
    rw [hpresent, decide_eq_true hr, happrox]
    rfl
  exact Relation.ReflTransGen.mono hstep j i hlinked

omit [MathApi Q V] in
theorem nearDuplicate_resolution (a b : ℕ) (h : nearDuplicate env st a b = true) :
    resolution env st a = resolution env st b := by
  unfold nearDuplicate at h
  simp only [Bool.and_eq_true, decide_eq_true_eq] at h
  exact h.1.2

omit [MathApi Q V] in
theorem Unbound.absent (h : Unbound env st space) : resolution env st space = .absent := by
  unfold resolution
  rw [if_pos h.1, h.2]

omit [MathApi Q V] in
theorem ok_of_reply {ρ : Type} {call : Except LocateError (ρ × LocateState Q V)} {answer : ρ} {e : LocateError}
    (h : reply call = .ok answer) : call ≠ .error e := by
  intro herror
  rw [reply_error.mpr herror] at h
  cases h

section
variable (hwf : WellFormed env st) {spcs : List ℕ} {baseSpc : ℕ} (time : Int64)
include hwf

theorem locatesAlike_of_failed
    (hany : (∃ spc ∈ spcs, resolution env st spc = .failed) ∨ resolution env st baseSpc = .failed)
    (hall : ∀ spc ∈ spcs, resolution env st spc = .failed ∨ resolution env st baseSpc = .failed) :
    LocatesAlike env st spcs baseSpc time := by
  have hreply := reply_list_failed hwf spcs baseSpc time hany
  refine ⟨⟨ok_of_reply hreply, fun spc => oxrSpaceLocate_present hwf spc baseSpc time⟩,
    fun e he => absurd he (ok_of_reply hreply), fun answer hanswer => ?_, fun answer hanswer => ?_⟩
  · rw [hreply] at hanswer
    cases hanswer
    refine ⟨List.length_map _, fun i spc location hspc hlocation => ?_⟩
    have hfailed := reply_failed hwf spc baseSpc time (hall spc (List.mem_of_getElem? hspc))
    rw [failedReply, List.getElem?_map, hspc] at hlocation
    cases hlocation
    exact ⟨i, spc, hspc, .refl, hfailed⟩
  · rw [hreply] at hanswer
    cases hanswer
    intro i spc location hspc hlocation _
    rw [failedReply, List.getElem?_map, hspc] at hlocation
    cases hlocation
    rfl

theorem locatesAlike_of_resolved (hspcs : ∀ spc ∈ spcs, resolution env st spc ≠ .failed)
    (hbase : resolution env st baseSpc ≠ .failed)
    (hread : resolution env st baseSpc = .absent → ∀ spc ∈ spcs, resolution env st spc = .absent) :
    LocatesAlike env st spcs baseSpc time := by
  obtain ⟨st', xspcs, xbase, h, hstands, hxbase, hreply⟩ := oxrSpacesLocate_eq hwf spcs baseSpc time hspcs hbase
  have habsent : xbase = none → ∀ spc ∈ spcs, ∀ p, Stands env st st' spc p → p.1 = none := by
    rintro rfl spc hspc p hp
    have hnone : resolution env st baseSpc = .absent := by
      cases hr : resolution env st baseSpc with
      | failed => exact absurd hr hbase
      | absent => rfl
      | existing id =>
        rw [hr] at hxbase
        cases hxbase.1
      | created space =>
        rw [hr] at hxbase
        obtain ⟨id, hid, -⟩ := hxbase
        cases hid
    have hxspc := hp.1
    rw [hread hnone spc hspc] at hxspc
    exact hxspc
  -- each space of the list is located there as it is alone
  have halone : ∀ {j : ℕ} {p}, xspcs[j]? = some p → ∃ spc, spcs[j]? = some spc ∧ spc ∈ spcs ∧
      (xbase = none → p.1 = none) ∧
      reply (oxrSpaceLocate env st spc baseSpc time) =
        (locateListed st'.uso env.devices env.fuel xbase (st.spc baseSpc).pose (env.tsToMonotonicNs time) p).map
          fun result => ⟨none, validateResult result⟩ := by
    intro j p hp
    obtain ⟨spc, hspc, hsp⟩ := getElem?_of_forall₂ hstands hp
    have hmem := List.mem_of_getElem? hspc
    have hnone : xbase = none → p.1 = none := fun hx => habsent hx spc hmem p hsp
    exact ⟨spc, hspc, hmem, hnone, reply_locateListed hwf spc baseSpc time h hsp hxbase hnone⟩
  have hstops : ∀ e, oxrSpacesLocate env st spcs baseSpc time = .error e →
      e ≠ .absentSpace ∧ ∃ spc ∈ spcs, oxrSpaceLocate env st spc baseSpc time = .error e := by
    intro e he
    rw [← reply_error, hreply] at he
    cases hout : locateSpaces st'.uso env.devices env.fuel env.poseApprox xbase (st.spc baseSpc).pose
        (env.tsToMonotonicNs time) xspcs with
    | ok out =>
      rw [hout] at he
      cases he
    | error e' =>
      rw [hout] at he
      cases he
      obtain ⟨p, hp, hlisted⟩ := reusing_error hout
      obtain ⟨j, hj⟩ := List.getElem?_of_mem hp
      obtain ⟨spc, -, hmem, hnone, hspc⟩ := halone hj
      rw [hlisted] at hspc
      refine ⟨?_, spc, hmem, reply_error.mp hspc⟩
      rintro rfl
      exact locateListed_ne_absent hnone hlisted
  have hlocated : ∀ answer, reply (oxrSpacesLocate env st spcs baseSpc time) = .ok answer →
      answer.locations.length = spcs.length ∧ ∀ (i : ℕ) (spc : ℕ) (location : XrSpaceLocation Q V),
        spcs[i]? = some spc → answer.locations[i]? = some location →
          ∃ (j : ℕ) (spc' : ℕ), spcs[j]? = some spc' ∧ Reuse.Linked (nearDuplicate env st) spcs j i ∧
            reply (oxrSpaceLocate env st spc' baseSpc time) = .ok ⟨answer.ret, location⟩ := by
    intro answer hanswer
    rw [hreply] at hanswer
    cases hout : locateSpaces st'.uso env.devices env.fuel env.poseApprox xbase (st.spc baseSpc).pose
        (env.tsToMonotonicNs time) xspcs with
    | error e =>
      rw [hout] at hanswer
      cases hanswer
    | ok out =>
      rw [hout] at hanswer
      cases hanswer
      obtain ⟨hlen, hspec⟩ := reusing_spec hout
      refine ⟨by rw [List.length_map, hlen, hstands.length_eq], fun i spc location hspc hlocation => ?_⟩
      rw [List.getElem?_map] at hlocation
      obtain ⟨result, hresult, rfl⟩ := Option.map_eq_some_iff.1 hlocation
      have hlt : i < xspcs.length := hlen ▸ (List.getElem?_eq_some_iff.mp hresult).1
      obtain ⟨j, p, hj, hlinked, hp⟩ := hspec i xspcs[i] result (List.getElem?_eq_getElem hlt) hresult
      obtain ⟨spc', hspc', -, -, halone'⟩ := halone hj
      rw [hp] at halone'
      exact ⟨j, spc', hspc', nearDuplicate_of_linked h hstands hlinked, halone'⟩
  refine ⟨⟨fun he => (hstops _ he).1 rfl, fun spc => oxrSpaceLocate_present hwf spc baseSpc time⟩,
    fun e he => (hstops e he).2, hlocated, fun answer hanswer i spc location hspc hlocation hunbound => ?_⟩
  obtain ⟨j, spc', hspc', hlinked, halone'⟩ := (hlocated answer hanswer).2 i spc location hspc hlocation
  have hshared := hlinked.shared nearDuplicate_resolution hspc' hspc
  have hzero := reply_absent hwf spc' baseSpc time (hspcs spc' (List.mem_of_getElem? hspc')) hbase
    (hunbound.imp (fun hu => hshared.trans hu.absent) Unbound.absent)
  rw [hzero] at halone'
  have hzeroed : validateResult XRT_SPACE_RELATION_ZERO = location := congrArg SpaceReply.location (Except.ok.inj halone')
  rw [← hzeroed]
  rfl

theorem listSound_of_locatesAlike (h : LocatesAlike env st spcs baseSpc time) : ListSound env st spcs baseSpc := by
  by_cases hbase : resolution env st baseSpc = .failed
  · exact .inl hbase
  by_cases hall : ∀ spc ∈ spcs, resolution env st spc = .failed
  · exact .inr (.inl hall)
  refine .inr (.inr ?_)
  by_cases hany : ∃ spc ∈ spcs, resolution env st spc = .failed
  · -- the list fails, a space of it does not
    exfalso
    simp only [not_forall] at hall
    obtain ⟨spc, hmem, hspc⟩ := hall
    obtain ⟨i, hi⟩ := List.getElem?_of_mem hmem
    have hreply := reply_list_failed hwf spcs baseSpc time (.inl hany)
    have hlocation : (failedReply spcs .runtimeFailure : SpacesReply Q V).locations[i]? =
        some (validateResult XRT_SPACE_RELATION_ZERO) := by
      rw [failedReply, List.getElem?_map, hi]
      rfl
    obtain ⟨j, spc', hspc', hlinked, halone⟩ := (h.located _ hreply).2 i spc _ hi hlocation
    have hshared := hlinked.shared nearDuplicate_resolution hspc' hi
    obtain ⟨st', xt, xb, -, -, -, heq⟩ := oxrSpaceLocate_eq hwf spc' baseSpc time (hshared ▸ hspc) hbase
    rw [heq] at halone
    cases hrelation : relationOf env st' xt xb (st.spc baseSpc).pose time (st.spc spc').pose with
    | error e =>
      rw [hrelation] at halone
      cases halone
    | ok result =>
      rw [hrelation] at halone
      cases halone
  · have hspcs : ∀ spc ∈ spcs, resolution env st spc ≠ .failed := fun spc hmem hspc => hany ⟨spc, hmem, hspc⟩
    refine ⟨hspcs, fun habsent spc hmem => ?_⟩
    by_contra hpresent
    obtain ⟨st', xspcs, xbase, -, hstands, hxbase, hreply⟩ := oxrSpacesLocate_eq hwf spcs baseSpc time hspcs hbase
    rw [habsent] at hxbase
    cases (hxbase : xbase = none)
    obtain ⟨i, hi⟩ := List.getElem?_of_mem hmem
    obtain ⟨p, hp, hstand⟩ := getElem?_of_forall₂ hstands.flip hi
    have hthere : p.1 ≠ none := by
      intro hnone
      have hxspc := hstand.1
      rw [hnone] at hxspc
      cases hr : resolution env st spc with
      | failed => exact hspcs spc hmem hr
      | absent => exact hpresent hr
      | existing id =>
        rw [hr] at hxspc
        cases hxspc.1
      | created space =>
        rw [hr] at hxspc
        obtain ⟨id, hid, -⟩ := hxspc
        cases hid
    obtain ⟨e, he⟩ := locateSpaces_absent (List.mem_of_getElem? hp) hthere
    rw [he] at hreply
    -- alone, nothing is read
    obtain ⟨spc', hmem', hspc'⟩ := h.stops e (reply_error.mp hreply)
    have halone := reply_absent hwf spc' baseSpc time (hspcs spc' hmem') hbase (.inr habsent)
    exact ok_of_reply halone hspc'

/-- The list gives at each place what the space there gives alone, exactly when the list is sound. -/
theorem locatesAlike_iff : LocatesAlike env st spcs baseSpc time ↔ ListSound env st spcs baseSpc := by
  refine ⟨listSound_of_locatesAlike hwf time, fun h => ?_⟩
  by_cases hbase : resolution env st baseSpc = .failed
  · exact locatesAlike_of_failed hwf time (.inr hbase) fun _ _ => .inr hbase
  by_cases hany : ∃ spc ∈ spcs, resolution env st spc = .failed
  · obtain ⟨spc, hmem, hspc⟩ := hany
    rcases h with hfailed | hall | ⟨hnone, -⟩
    · exact absurd hfailed hbase
    · exact locatesAlike_of_failed hwf time (.inl ⟨spc, hmem, hspc⟩) fun spc' hspc' => .inl (hall spc' hspc')
    · exact absurd hspc (hnone spc hmem)
  · have hspcs : ∀ spc ∈ spcs, resolution env st spc ≠ .failed := fun spc hmem hspc => hany ⟨spc, hmem, hspc⟩
    refine locatesAlike_of_resolved hwf time hspcs hbase fun habsent spc hmem => ?_
    rcases h with hfailed | hall | ⟨-, hread⟩
    · exact absurd hfailed hbase
    · exact absurd (hall spc hmem) (hspcs spc hmem)
    · exact hread habsent spc hmem

end

/-! ## Running it -/

def deviceInRoot : BSpaceOverseer (Pose (UnitQuat ℚ) (Vec3 ℚ)) :=
  { bSpaceOverseerCreate with
    xdevMap := Function.update (fun _ => none) 1 (some 0)
    semantic := Function.update (fun _ => none) .localSpace (some 0) }

theorem deviceInRoot_closed : Closed deviceInRoot := by
  have hroot : (bSpaceOverseerCreate : BSpaceOverseer (Pose (UnitQuat ℚ) (Vec3 ℚ))).spaces 0 ≠ none := by
    rintro ⟨⟩
  have hgrows : Grows bSpaceOverseerCreate deviceInRoot := by
    refine grows_maps rfl rfl rfl (fun _ _ h => .inl h) fun xdev us hus => .inr ?_
    by_cases heq : xdev = 1
    · subst heq
      cases hus
      exact hroot
    · have hnone : deviceInRoot.xdevMap xdev = none := by
        show Function.update (fun _ => none) 1 (some 0) xdev = none
        rw [Function.update_of_ne heq]
      rw [hnone] at hus
      cases hus
  refine Rooted.closed (hgrows rooted_create).1 fun type xs hxs => ?_
  cases type with
  | localSpace =>
    cases hxs
    exact hroot
  | _ => cases hxs

def localAndActions : LocateState (UnitQuat ℚ) (Vec3 ℚ) where
  uso := deviceInRoot
  spc := fun space => if space = 0 then .new .referenceLocal XRT_POSE_IDENTITY else .new .action XRT_POSE_IDENTITY

theorem eyeGaze_ne_zero : XRT_INPUT_GENERIC_EYE_GAZE_POSE ≠ 0 := by decide

def oneBound : LocateEnv (UnitQuat ℚ) (Vec3 ℚ) where
  poseInput := fun space =>
    if space = 1 then some ⟨1, XRT_INPUT_GENERIC_EYE_GAZE_POSE, Nat.one_ne_zero, eyeGaze_ne_zero⟩ else none
  mapStageToLocalFloor := false
  devices := fun _ _ _ => XRT_SPACE_RELATION_ZERO
  fuel := 2
  poseApprox := fun a b => decide (a = b)
  tsToMonotonicNs := fun time => time

theorem localAndActions_wellFormed : WellFormed oneBound localAndActions where
  closed := deviceInRoot_closed
  cached := fun space xs hxs => by
    have hnone : (localAndActions.spc space).action.xs = none := by
      unfold localAndActions
      dsimp only
      split <;> rfl
    rw [hnone] at hxs
    cases hxs
  xdevPose := fun space xs hxs => by
    have hnone : (localAndActions.spc space).xdevPose = none := by
      unfold localAndActions
      dsimp only
      split <;> rfl
    rw [hnone] at hxs
    cases hxs
  bound := fun space input hinput => by
    unfold oneBound at hinput
    dsimp only at hinput
    split at hinput
    · cases hinput
      rintro ⟨⟩
    · cases hinput

/-- The local space and a bound and an unbound action space are located in the local space. -/
theorem boundAndUnbound_locatesAlike : LocatesAlike oneBound localAndActions [0, 1, 2] 0 5 := by
  refine (locatesAlike_iff localAndActions_wellFormed 5).mpr (.inr (.inr ⟨?_, ?_⟩))
  · decide
  · decide

/-- In an unbound action space, the local space is not: the list reads the absent base. -/
theorem localInUnbound_not_locatesAlike : ¬ LocatesAlike oneBound localAndActions [0] 2 5 := by
  intro h
  exact h.present.1 rfl

end AugmentedInsanity.Oxr
