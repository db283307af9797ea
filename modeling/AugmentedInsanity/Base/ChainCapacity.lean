/-
More pushes than a relation chain has room for. What does not fit is dropped without a word, so a chain resolves to
less than was pushed onto it exactly when it overflows and none of the steps that fit is without a pose
(`composesAll_iff`). Spaces that are nested deeply enough are located so.
-/
import AugmentedInsanity.Base.Locate

namespace AugmentedInsanity.Base

open Xrt

variable {Q V : Type} [MathApi Q V]

/-! ## Pushes -/

/-- The ways to add a step; what is reserved is filled by the caller. -/
inductive Push (Q V : Type)
  | reserve (relation : SpaceRelation Q V)
  | relation (relation : SpaceRelation Q V)
  | invertedRelation (relation : SpaceRelation Q V)
  | pose (pose : Pose Q V)
  | poseIfNotIdentity (pose : Pose Q V)
  | invertedPoseIfNotIdentity (pose : Pose Q V)

omit [MathApi Q V] in
/-- `m_relation_chain_reserve`, and what the caller puts there; a full chain gives NULL. -/
def RelationChain.reserve (xrc : RelationChain Q V) (relation : SpaceRelation Q V) : Option (RelationChain Q V) :=
  if xrc.steps.length < XRT_RELATION_CHAIN_CAPACITY then some (xrc.pushRelation relation) else none

/-- A chain, with all the steps that were pushed onto it. -/
structure ChainRun (Q V : Type) where
  xrc : RelationChain Q V
  pushed : List (SpaceRelation Q V)

namespace ChainRun

def push (s : ChainRun Q V) : Push Q V → ChainRun Q V
  | .reserve relation =>
    match s.xrc.reserve relation with
    | some xrc => ⟨xrc, s.pushed ++ [relation]⟩
    | none => s
  | .relation relation => ⟨s.xrc.pushRelation relation, s.pushed ++ [relation]⟩
  | .invertedRelation relation => ⟨s.xrc.pushInvertedRelation relation, s.pushed ++ [mSpaceRelationInvert relation]⟩
  | .pose pose => ⟨s.xrc.pushPose pose, s.pushed ++ [mSpaceRelationFromPose pose]⟩
  | .poseIfNotIdentity pose =>
    ⟨s.xrc.pushPoseIfNotIdentity pose,
      if PoseParts.isIdentity pose then s.pushed else s.pushed ++ [mSpaceRelationFromPose pose]⟩
  | .invertedPoseIfNotIdentity pose =>
    ⟨s.xrc.pushInvertedPoseIfNotIdentity pose,
      if PoseParts.isIdentity pose then s.pushed
      else s.pushed ++ [mSpaceRelationFromPose (MathApi.poseInvert pose)]⟩

def run (pushes : List (Push Q V)) : ChainRun Q V := pushes.foldl push ⟨.empty, []⟩

def Holds (s : ChainRun Q V) : Prop := s.xrc.steps = s.pushed.take XRT_RELATION_CHAIN_CAPACITY

omit [MathApi Q V] in
theorem Holds.pushRelation {s : ChainRun Q V} (h : s.Holds) (relation : SpaceRelation Q V) :
    Holds ⟨s.xrc.pushRelation relation, s.pushed ++ [relation]⟩ := by
  unfold Holds at *
  dsimp only
  rw [steps_pushRelation, h, take_take_append]

theorem Holds.push {s : ChainRun Q V} (h : s.Holds) (push : Push Q V) : (s.push push).Holds := by
  cases push with
  | reserve relation =>
    by_cases hroom : s.xrc.steps.length < XRT_RELATION_CHAIN_CAPACITY
    · simp only [ChainRun.push, RelationChain.reserve, if_pos hroom]
      exact h.pushRelation relation
    · simp only [ChainRun.push, RelationChain.reserve, if_neg hroom]
      exact h
  | relation relation => exact h.pushRelation relation
  | invertedRelation relation => exact h.pushRelation _
  | pose pose => exact h.pushRelation _
  | poseIfNotIdentity pose =>
    simp only [ChainRun.push, RelationChain.pushPoseIfNotIdentity]
    split
    · exact h
    · exact h.pushRelation _
  | invertedPoseIfNotIdentity pose =>
    simp only [ChainRun.push, RelationChain.pushInvertedPoseIfNotIdentity]
    split
    · exact h
    · exact h.pushRelation _

theorem holds_run (pushes : List (Push Q V)) : (run pushes).Holds := by
  have hfold : ∀ (pushes : List (Push Q V)) (s : ChainRun Q V), s.Holds → (pushes.foldl push s).Holds := by
    intro pushes
    induction pushes with
    | nil => exact fun _ h => h
    | cons p pushes ih => exact fun s h => ih (s.push p) (h.push p)
  exact hfold pushes _ rfl

end ChainRun

/-! ## Resolving what fits -/

omit [MathApi Q V] in
structure NothingValid (r : SpaceRelation Q V) : Prop where
  orientation : r.relationFlags.hasOrientation = false
  position : r.relationFlags.hasPosition = false
  linearVelocity : r.relationFlags.hasLinearVelocity = false
  angularVelocity : r.relationFlags.hasAngularVelocity = false

/-- All steps fit, or one of those that fit is without a pose. -/
def Fits (steps : List (SpaceRelation Q V)) : Prop :=
  steps.length ≤ XRT_RELATION_CHAIN_CAPACITY ∨ hasStepWithNoPose (steps.take XRT_RELATION_CHAIN_CAPACITY) = true

variable {steps : List (SpaceRelation Q V)}

omit [MathApi Q V] in
theorem hasPose_of_mem (h : hasStepWithNoPose steps = false) {r : SpaceRelation Q V} (hr : r ∈ steps) :
    r.relationFlags.withPosition.hasPosition = true := by
  have hany := List.any_eq_false.1 h r hr
  simp only [RelationFlags.withPosition]
  cases hposition : r.relationFlags.hasPosition <;> cases horientation : r.relationFlags.hasOrientation <;>
    simp_all

theorem hasPose_foldl {first : SpaceRelation Q V} {rest : List (SpaceRelation Q V)}
    (hfirst : first.relationFlags.withPosition.hasPosition = true)
    (hrest : ∀ r ∈ rest, r.relationFlags.withPosition.hasPosition = true) :
    (rest.foldl applyRelation first).relationFlags.withPosition.hasPosition = true := by
  induction rest generalizing first with
  | nil => exact hfirst
  | cons b rest ih =>
    refine ih ?_ fun r hr => hrest r (List.mem_cons_of_mem _ hr)
    have hb := hrest b (List.mem_cons_self ..)
    have hposition : (applyRelation first b).relationFlags.hasPosition = true :=
      Bool.and_eq_true_iff.2 ⟨hfirst, hb⟩
    simp only [RelationFlags.withPosition, hposition, Bool.true_or]

theorem nothingValid_resolve_iff (hne : steps ≠ []) :
    NothingValid (mRelationChainResolve steps) ↔ hasStepWithNoPose steps = true := by
  cases steps with
  | nil => exact absurd rfl hne
  | cons first rest =>
    constructor
    · intro h
      by_contra hpose
      have hmem := fun r => hasPose_of_mem (r := r) (Bool.eq_false_iff.2 hpose)
      have hposition := hasPose_foldl (hmem first (List.mem_cons_self ..)) fun r hr =>
        hmem r (List.mem_cons_of_mem _ hr)
      rw [mRelationChainResolve, if_neg hpose] at h
      have hnone : (rest.foldl applyRelation first).relationFlags.withPosition.hasPosition = false :=
        Bool.or_eq_false_iff.2 ⟨h.position, h.orientation⟩
      rw [hnone] at hposition
      cases hposition
    · intro h
      rw [mRelationChainResolve, if_pos h]
      exact ⟨rfl, rfl, rfl, rfl⟩

/-- A relation is resolved from all the steps, or nothing of it is valid. -/
def FromAll (resolve : RelationChain Q V → SpaceRelation Q V) (steps : List (SpaceRelation Q V)) (r : SpaceRelation Q V) :
    Prop :=
  (∃ xrc : RelationChain Q V, xrc.steps = steps ∧ r = resolve xrc) ∨ NothingValid r

theorem fromAll_iff {resolve : RelationChain Q V → SpaceRelation Q V}
    (hresolve : ∀ xrc, xrc.steps ≠ [] → resolve xrc = mRelationChainResolve xrc.steps) {xrc : RelationChain Q V}
    (hsteps : xrc.steps = steps.take XRT_RELATION_CHAIN_CAPACITY) :
    FromAll resolve steps (resolve xrc) ↔ Fits steps := by
  by_cases hle : steps.length ≤ XRT_RELATION_CHAIN_CAPACITY
  · rw [List.take_of_length_le hle] at hsteps
    exact iff_of_true (.inl ⟨xrc, hsteps, rfl⟩) (.inl hle)
  · have hne : xrc.steps ≠ [] := by
      have hlength : xrc.steps.length = XRT_RELATION_CHAIN_CAPACITY := by
        rw [hsteps]
        exact List.length_take_of_le (Nat.le_of_not_le hle)
      intro hnil
      rw [hnil] at hlength
      cases hlength
    unfold FromAll Fits
    rw [hresolve xrc hne, nothingValid_resolve_iff hne, hsteps, or_iff_right hle, or_iff_right]
    rintro ⟨xrc', rfl, -⟩
    exact hle xrc'.stepCount_le

/-! ## Chains and located spaces -/

/-- What is located is resolved from all the steps, or nothing of it is valid. -/
def LocatedFromAll (steps : List (SpaceRelation Q V)) (located : Except TraverseError (SpaceRelation Q V)) : Prop :=
  ∃ r, located = .ok r ∧ FromAll specialResolve steps r

theorem specialResolve_of_ne_nil (xrc : RelationChain Q V) (h : xrc.steps ≠ []) :
    specialResolve xrc = mRelationChainResolve xrc.steps := by
  unfold specialResolve
  split
  · rename_i hnil
    exact absurd hnil h
  · rfl

theorem locatedFromAll_pushAll_iff (steps : List (SpaceRelation Q V)) :
    LocatedFromAll steps (.ok (specialResolve (RelationChain.empty.pushAll steps))) ↔ Fits steps := by
  unfold LocatedFromAll
  simp only [Except.ok.injEq, exists_eq_left']
  refine fromAll_iff specialResolve_of_ne_nil ?_
  rw [steps_pushAll]
  rfl

/-- The steps that are pushed to locate a space; of a space in itself, the offsets. -/
def spaceSteps (devices : TrackedPoses Q V) (atTimestamp : Int64) (baseSpace : SpaceId)
    (basePath : List (USpaceType (Pose Q V))) (baseOffset : Pose Q V) (space : SpaceId)
    (path : List (USpaceType (Pose Q V))) (offset : Pose Q V) : List (SpaceRelation Q V) :=
  if space = baseSpace then chainSteps devices atTimestamp [] baseOffset [] offset
  else chainSteps devices atTimestamp basePath baseOffset path offset

/-- The steps that are pushed to locate a device, which has no offset. -/
def deviceSteps (devices : TrackedPoses Q V) (atTimestamp : Int64) (basePath : List (USpaceType (Pose Q V)))
    (baseOffset : Pose Q V) (path : List (USpaceType (Pose Q V))) : List (SpaceRelation Q V) :=
  path.flatMap (pushed (nodeRelation devices atTimestamp)) ++
    ((USpaceType.offset baseOffset) :: basePath).reverse.flatMap (pushed (inverseRelation devices atTimestamp))

section Located

variable {uso : BSpaceOverseer (Pose Q V)} {baseSpace space : SpaceId} {basePath path : List (USpaceType (Pose Q V))}
  {fuel : ℕ} (hbase : Path uso baseSpace basePath) (hspace : Path uso space path)
  (hnamed : ∀ type ∈ basePath ++ path, NamedSpace type) (hfuel : basePath.length + path.length < fuel)

include hbase hspace hnamed hfuel

theorem locateSpace_fromAll_iff (devices : TrackedPoses Q V) (atTimestamp : Int64) (baseOffset offset : Pose Q V) :
    LocatedFromAll (spaceSteps devices atTimestamp baseSpace basePath baseOffset space path offset)
        (locateSpace uso devices fuel baseSpace baseOffset atTimestamp space offset) ↔
      Fits (spaceSteps devices atTimestamp baseSpace basePath baseOffset space path offset) := by
  unfold spaceSteps
  by_cases heq : space = baseSpace
  · rw [if_pos heq, heq, locateSpace_self_eq]
    exact locatedFromAll_pushAll_iff _
  · rw [if_neg heq, locateSpace_eq devices atTimestamp heq hbase hspace hnamed hfuel]
    exact locatedFromAll_pushAll_iff _

theorem locateDevice_fromAll_iff {xdev : ℕ} (hxdev : uso.xdevMap xdev = some space) (devices : TrackedPoses Q V)
    (atTimestamp : Int64) (baseOffset : Pose Q V) :
    LocatedFromAll (deviceSteps devices atTimestamp basePath baseOffset path)
        (locateDevice uso devices fuel baseSpace baseOffset atTimestamp xdev) ↔
      Fits (deviceSteps devices atTimestamp basePath baseOffset path) := by
  have hlocate : locateDevice uso devices fuel baseSpace baseOffset atTimestamp xdev =
      .ok (specialResolve
        (RelationChain.empty.pushAll (deviceSteps devices atTimestamp basePath baseOffset path))) := by
    simp only [locateDevice, hxdev, buildRelationChain_eq hbase hspace hnamed hfuel,
      pushInvertedPoseIfNotIdentity_eq devices atTimestamp, ← pushAll_append, deviceSteps, List.reverse_cons,
      List.flatMap_append, List.flatMap_cons, List.flatMap_nil, List.append_nil, List.append_assoc]
  rw [hlocate]
  exact locatedFromAll_pushAll_iff _

end Located

/-- A relation chain resolves to all that was pushed, or to nothing valid, exactly if what was pushed fits, and so does
a space, or a device, that is located in a space. -/
theorem composesAll_iff :
    (∀ pushes : List (Push Q V),
      FromAll (fun xrc => mRelationChainResolve xrc.steps) (ChainRun.run pushes).pushed
          (mRelationChainResolve (ChainRun.run pushes).xrc.steps) ↔
        Fits (ChainRun.run pushes).pushed) ∧
    ∀ (uso : BSpaceOverseer (Pose Q V)) (baseSpace space : SpaceId) (basePath path : List (USpaceType (Pose Q V))),
      Path uso baseSpace basePath → Path uso space path → (∀ type ∈ basePath ++ path, NamedSpace type) →
      ∀ fuel, basePath.length + path.length < fuel →
      ∀ (devices : TrackedPoses Q V) (atTimestamp : Int64) (baseOffset offset : Pose Q V),
        (LocatedFromAll (spaceSteps devices atTimestamp baseSpace basePath baseOffset space path offset)
            (locateSpace uso devices fuel baseSpace baseOffset atTimestamp space offset) ↔
          Fits (spaceSteps devices atTimestamp baseSpace basePath baseOffset space path offset)) ∧
        ∀ xdev, uso.xdevMap xdev = some space →
          (LocatedFromAll (deviceSteps devices atTimestamp basePath baseOffset path)
              (locateDevice uso devices fuel baseSpace baseOffset atTimestamp xdev) ↔
            Fits (deviceSteps devices atTimestamp basePath baseOffset path)) := by
  constructor
  · intro pushes
    exact fromAll_iff (fun _ _ => rfl) (ChainRun.holds_run pushes)
  · intro uso baseSpace space basePath path hbase hspace hnamed fuel hfuel devices atTimestamp baseOffset offset
    constructor
    · exact locateSpace_fromAll_iff hbase hspace hnamed hfuel devices atTimestamp baseOffset offset
    · intro xdev hxdev
      exact locateDevice_fromAll_iff hbase hspace hnamed hfuel hxdev devices atTimestamp baseOffset

def oneAside : Pose (UnitQuat ℚ) (Vec3 ℚ) := ⟨.one, ⟨1, 0, 0⟩⟩

def nineAside : ChainRun (UnitQuat ℚ) (Vec3 ℚ) := .run (List.replicate 9 (.pose oneAside))

/-- Of nine offsets of one each, eight are resolved, and the result says that it is valid. -/
theorem nineAside_partial :
    ¬ FromAll (fun xrc => mRelationChainResolve xrc.steps) nineAside.pushed (mRelationChainResolve nineAside.xrc.steps) ∧
      (mRelationChainResolve nineAside.xrc.steps).relationFlags = RelationFlags.all ∧
      (mRelationChainResolve nineAside.xrc.steps).pose = ⟨.one, ⟨8, 0, 0⟩⟩ ∧
      (mRelationChainResolve nineAside.pushed).pose = ⟨.one, ⟨9, 0, 0⟩⟩ := by
  have hflags : (mRelationChainResolve nineAside.xrc.steps).relationFlags = RelationFlags.all := by decide +kernel
  refine ⟨?_, hflags, by decide +kernel, by decide +kernel⟩
  rintro (⟨xrc, hsteps, -⟩ | hnothing)
  · have hlength : nineAside.pushed.length = 9 := by decide +kernel
    have hle := xrc.stepCount_le
    rw [hsteps, hlength] at hle
    exact absurd hle (by decide)
  · have horientation := hnothing.orientation
    rw [hflags] at horientation
    cases horientation

/-- A head, in the space above it. -/
theorem composesAll_iff_head :
    LocatedFromAll
      (spaceSteps (movingHead ⟨0, 0, 0⟩ ⟨0, 0, 1⟩) 0 2 [.pose 1 XRT_INPUT_GENERIC_HEAD_POSE, .null] oneAside 3
        [.offset ⟨.one, ⟨0, 1, 0⟩⟩] oneAside)
      (locateSpace headSpaces (movingHead ⟨0, 0, 0⟩ ⟨0, 0, 1⟩) 4 2 oneAside 0 3 oneAside) :=
  (composesAll_iff.2 headSpaces 2 3 _ _ path_head path_above
    (fun type htype => (validSpace_movingHead ⟨0, 0, 0⟩ ⟨0, 0, 1⟩ type htype).named) 4 (by decide) _ 0 oneAside
    oneAside).1.2 (.inl (by decide))

end AugmentedInsanity.Base
