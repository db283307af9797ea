/-
Space relations and the chains they are resolved in (`m_space.h`, `m_space.cpp`). The arithmetic on vectors and
quaternions is a parameter, single precision in the running program; poses and relations here are over it, where
the ones of the interface headers are bits that are only copied.
-/
import AugmentedInsanity.Base.SpaceOverseer

namespace AugmentedInsanity.Base

/-! ## Poses and relations -/

/-- `struct xrt_pose`. -/
structure Pose (Q V : Type) where
  orientation : Q
  position : V
  deriving DecidableEq

/-- `enum xrt_space_relation_flags`, bit by bit as in `struct flags`. -/
structure RelationFlags where
  hasOrientation : Bool
  hasPosition : Bool
  hasLinearVelocity : Bool
  hasAngularVelocity : Bool
  hasTrackedOrientation : Bool
  hasTrackedPosition : Bool
  deriving DecidableEq

/-- `XRT_SPACE_RELATION_BITMASK_ALL`. -/
def RelationFlags.all : RelationFlags := ⟨true, true, true, true, true, true⟩

/-- `XRT_SPACE_RELATION_BITMASK_NONE`. -/
def RelationFlags.none : RelationFlags := ⟨false, false, false, false, false, false⟩

structure SpaceRelation (Q V : Type) where
  relationFlags : RelationFlags
  pose : Pose Q V
  linearVelocity : V
  angularVelocity : V
  deriving DecidableEq

/-- What chains use of `m_api.h` and `m_vec3.h`; Eigen computes most of it. -/
class MathApi (Q V : Type) extends PoseParts (Pose Q V) where
  vec3Add : V → V → V
  /-- `m_vec3_mul_scalar` by −1. -/
  vec3Neg : V → V
  vec3Cross : V → V → V
  quatMul : Q → Q → Q
  quatNormalize : Q → Q
  quatRotateVec3 : Q → V → V
  quatRotateDerivative : Q → V → V
  poseInvert : Pose Q V → Pose Q V

variable {Q V : Type} [MathApi Q V] {steps : List (SpaceRelation Q V)}

def XRT_POSE_IDENTITY : Pose Q V := PoseParts.identity
def XRT_SPACE_RELATION_ZERO : SpaceRelation Q V :=
  ⟨.none, XRT_POSE_IDENTITY, XRT_POSE_IDENTITY.position (Q := Q), XRT_POSE_IDENTITY.position (Q := Q)⟩

/-- `transform_pose`. -/
def mathPoseTransform (transform pose : Pose Q V) : Pose Q V where
  orientation := MathApi.quatMul V transform.orientation pose.orientation
  position :=
    MathApi.vec3Add Q (MathApi.quatRotateVec3 transform.orientation pose.position) transform.position

/-- `m_space_relation_from_pose` with `set_tracked`. -/
def mSpaceRelationFromPose (pose : Pose Q V) : SpaceRelation Q V :=
  ⟨.all, pose, XRT_POSE_IDENTITY.position (Q := Q), XRT_POSE_IDENTITY.position (Q := Q)⟩

def mSpaceRelationInvert (relation : SpaceRelation Q V) : SpaceRelation Q V where
  relationFlags := relation.relationFlags
  pose := MathApi.poseInvert relation.pose
  linearVelocity := MathApi.vec3Neg Q relation.linearVelocity
  angularVelocity := MathApi.vec3Neg Q relation.angularVelocity

/-! ## Applying a relation to a relation -/

def makeValidPose (flags : RelationFlags) (pose : Pose Q V) : Pose Q V where
  orientation := if flags.hasOrientation then pose.orientation else XRT_POSE_IDENTITY.orientation (V := V)
  position := if flags.hasPosition then pose.position else XRT_POSE_IDENTITY.position (Q := Q)

/-- The band aid of `apply_relation`: a relation with only an orientation is given a position. -/
def RelationFlags.withPosition (flags : RelationFlags) : RelationFlags :=
  { flags with hasPosition := flags.hasPosition || flags.hasOrientation }

def RelationFlags.inter (af bf : RelationFlags) : RelationFlags where
  hasOrientation := af.hasOrientation && bf.hasOrientation
  hasPosition := af.hasPosition && bf.hasPosition
  hasLinearVelocity := af.hasLinearVelocity && bf.hasLinearVelocity
  hasAngularVelocity := af.hasAngularVelocity && bf.hasAngularVelocity
  hasTrackedOrientation := af.hasTrackedOrientation && bf.hasTrackedOrientation
  hasTrackedPosition := af.hasTrackedPosition && bf.hasTrackedPosition

def applyRelation (a b : SpaceRelation Q V) : SpaceRelation Q V :=
  let bodyPose := makeValidPose a.relationFlags a.pose
  let basePose := makeValidPose b.relationFlags b.pose
  let nf := a.relationFlags.withPosition.inter b.relationFlags.withPosition
  let zero : V := XRT_POSE_IDENTITY.position (Q := Q)
  -- velocities that are not passed on are zero
  let linearVelocity :=
    if nf.hasLinearVelocity then
      MathApi.vec3Add Q (MathApi.vec3Add Q zero (MathApi.quatRotateVec3 basePose.orientation a.linearVelocity))
        b.linearVelocity
    else zero
  let angularVelocity :=
    if nf.hasAngularVelocity then
      MathApi.vec3Add Q (MathApi.vec3Add Q zero (MathApi.quatRotateDerivative basePose.orientation a.angularVelocity))
        b.angularVelocity
    else zero
  -- the lever arm is added whether the linear velocity is valid or not
  let linearVelocity :=
    if nf.hasAngularVelocity then
      MathApi.vec3Add Q linearVelocity
        (MathApi.vec3Cross Q b.angularVelocity (MathApi.quatRotateVec3 basePose.orientation bodyPose.position))
    else linearVelocity
  ⟨nf, mathPoseTransform basePose bodyPose, linearVelocity, angularVelocity⟩

/-! ## Chains -/

abbrev XRT_RELATION_CHAIN_CAPACITY : ℕ := 8

structure RelationChain (Q V : Type) where
  steps : List (SpaceRelation Q V)
  stepCount_le : steps.length ≤ XRT_RELATION_CHAIN_CAPACITY

/-- `{0}`. -/
def RelationChain.empty : RelationChain Q V := ⟨[], Nat.zero_le _⟩

omit [MathApi Q V] in
theorem length_snoc_le {relation : SpaceRelation Q V} (h : steps.length < XRT_RELATION_CHAIN_CAPACITY) :
    (steps ++ [relation]).length ≤ XRT_RELATION_CHAIN_CAPACITY := by
  rw [List.length_append, List.length_singleton]
  exact h

/-- `m_relation_chain_push_relation`; what does not fit is dropped. -/
def RelationChain.pushRelation (xrc : RelationChain Q V) (relation : SpaceRelation Q V) : RelationChain Q V :=
  if h : xrc.steps.length < XRT_RELATION_CHAIN_CAPACITY then ⟨xrc.steps ++ [relation], length_snoc_le h⟩ else xrc

def RelationChain.pushInvertedRelation (xrc : RelationChain Q V) (relation : SpaceRelation Q V) :
    RelationChain Q V :=
  xrc.pushRelation (mSpaceRelationInvert relation)

def RelationChain.pushPose (xrc : RelationChain Q V) (pose : Pose Q V) : RelationChain Q V :=
  xrc.pushRelation (mSpaceRelationFromPose pose)

def RelationChain.pushPoseIfNotIdentity (xrc : RelationChain Q V) (pose : Pose Q V) : RelationChain Q V :=
  if PoseParts.isIdentity pose then xrc else xrc.pushPose pose

def RelationChain.pushInvertedPoseIfNotIdentity (xrc : RelationChain Q V) (pose : Pose Q V) : RelationChain Q V :=
  if PoseParts.isIdentity pose then xrc else xrc.pushPose (MathApi.poseInvert pose)

def hasStepWithNoPose (steps : List (SpaceRelation Q V)) : Bool :=
  steps.any fun r => !r.relationFlags.hasPosition && !r.relationFlags.hasOrientation

/-- `m_relation_chain_resolve`, of the steps of a chain. -/
def mRelationChainResolve (steps : List (SpaceRelation Q V)) : SpaceRelation Q V :=
  match steps with
  | [] => XRT_SPACE_RELATION_ZERO
  | first :: rest =>
    if hasStepWithNoPose steps then XRT_SPACE_RELATION_ZERO
    else
      let r := rest.foldl applyRelation first
      { r with pose := { r.pose with orientation := MathApi.quatNormalize V r.pose.orientation } }

omit [MathApi Q V] in
theorem steps_pushRelation (xrc : RelationChain Q V) (relation : SpaceRelation Q V) :
    (xrc.pushRelation relation).steps = (xrc.steps ++ [relation]).take XRT_RELATION_CHAIN_CAPACITY := by
  unfold RelationChain.pushRelation
  split
  · rename_i h
    exact (List.take_of_length_le (length_snoc_le h)).symm
  · rename_i h
    have hfull : xrc.steps.length = XRT_RELATION_CHAIN_CAPACITY := Nat.le_antisymm xrc.stepCount_le (Nat.not_lt.1 h)
    rw [← hfull, List.take_left]

omit [MathApi Q V] in
theorem take_take_append (n : ℕ) (l l' : List (SpaceRelation Q V)) :
    (l.take n ++ l').take n = (l ++ l').take n := by
  rw [List.take_append, List.take_append, List.take_take, Nat.min_self, List.length_take]
  congr 2
  omega

def RelationChain.pushAll (xrc : RelationChain Q V) (steps : List (SpaceRelation Q V)) : RelationChain Q V :=
  steps.foldl RelationChain.pushRelation xrc

omit [MathApi Q V] in
theorem pushAll_append (xrc : RelationChain Q V) (steps steps' : List (SpaceRelation Q V)) :
    xrc.pushAll (steps ++ steps') = (xrc.pushAll steps).pushAll steps' :=
  List.foldl_append

omit [MathApi Q V] in
theorem steps_pushAll (xrc : RelationChain Q V) (steps : List (SpaceRelation Q V)) :
    (xrc.pushAll steps).steps = (xrc.steps ++ steps).take XRT_RELATION_CHAIN_CAPACITY := by
  induction steps generalizing xrc with
  | nil =>
    rw [List.append_nil, List.take_of_length_le xrc.stepCount_le]
    rfl
  | cons r steps ih =>
    rw [RelationChain.pushAll, List.foldl_cons, ← RelationChain.pushAll, ih, steps_pushRelation, take_take_append,
      ← List.append_cons]

omit [MathApi Q V] in
theorem steps_pushAll_empty (h : steps.length ≤ XRT_RELATION_CHAIN_CAPACITY) :
    (RelationChain.empty.pushAll steps).steps = steps := by
  rw [steps_pushAll]
  exact List.take_of_length_le h

end AugmentedInsanity.Base
