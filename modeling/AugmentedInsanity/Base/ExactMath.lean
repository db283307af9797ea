/-
Relations over exact arithmetic. What Eigen computes is known by the rotation that a quaternion stands for, which
does not tell a quaternion from its negative; a valid relation then is a motion, and resolving a chain composes the
motions of its steps.
-/
import AugmentedInsanity.Lib.Motion
import AugmentedInsanity.Base.RelationChain

namespace AugmentedInsanity.Base

open Motions

/-- The arithmetic is exact: vectors are added and multiplied as vectors, quaternions act as rotations. -/
class ExactMath (Q V : Type) [MathApi Q V] [CrossProduct V] where
  rotation : Q → Rotation V
  rotation_identity : rotation (PoseParts.identity : Pose Q V).orientation = 1
  position_identity : (PoseParts.identity : Pose Q V).position = 0
  isIdentity_identity : PoseParts.isIdentity (PoseParts.identity : Pose Q V) = true
  of_isIdentity : ∀ pose : Pose Q V, PoseParts.isIdentity pose = true →
    rotation pose.orientation = 1 ∧ pose.position = 0
  vec3Add : ∀ a b : V, MathApi.vec3Add Q a b = a + b
  vec3Neg : ∀ a : V, MathApi.vec3Neg Q a = -a
  vec3Cross : ∀ a b : V, MathApi.vec3Cross Q a b = cross a b
  rotation_quatMul : ∀ a b, rotation (MathApi.quatMul V a b) = rotation a * rotation b
  rotation_quatNormalize : ∀ q, rotation (MathApi.quatNormalize V q) = rotation q
  quatRotateVec3 : ∀ q (v : V), MathApi.quatRotateVec3 q v = rotation q • v
  quatRotateDerivative : ∀ q (v : V), MathApi.quatRotateDerivative q v = rotation q • v
  rotation_poseInvert : ∀ pose : Pose Q V,
    rotation (MathApi.poseInvert pose).orientation = (rotation pose.orientation)⁻¹
  position_poseInvert : ∀ pose : Pose Q V,
    (MathApi.poseInvert pose).position = -((rotation pose.orientation)⁻¹ • pose.position)

open ExactMath

variable {Q V : Type} [MathApi Q V] [CrossProduct V] [ExactMath Q V]

/-! ## Relations as motions -/

def SpaceRelation.motion (r : SpaceRelation Q V) : Motion V :=
  ⟨rotation r.pose.orientation, r.pose.position, r.linearVelocity, r.angularVelocity⟩

def Pose.motion (pose : Pose Q V) : Motion V := Motion.pose (rotation pose.orientation) pose.position

omit [MathApi Q V] [CrossProduct V] [ExactMath Q V] in
/-- Pose and velocities are valid; they may be tracked or not. -/
structure SpaceRelation.Valid (r : SpaceRelation Q V) : Prop where
  orientation : r.relationFlags.hasOrientation = true
  position : r.relationFlags.hasPosition = true
  linearVelocity : r.relationFlags.hasLinearVelocity = true
  angularVelocity : r.relationFlags.hasAngularVelocity = true

theorem motion_identity : (XRT_POSE_IDENTITY : Pose Q V).motion = 1 := by
  simp only [Pose.motion, XRT_POSE_IDENTITY, rotation_identity, position_identity]
  rfl

theorem motion_of_isIdentity {pose : Pose Q V} (h : PoseParts.isIdentity pose = true) : pose.motion = 1 := by
  obtain ⟨hrotation, hposition⟩ := of_isIdentity pose h
  rw [Pose.motion, hrotation, hposition]
  rfl

theorem motion_poseInvert (pose : Pose Q V) : (MathApi.poseInvert pose).motion = pose.motion⁻¹ := by
  rw [Pose.motion, Pose.motion, Motion.pose_inv, rotation_poseInvert, position_poseInvert]

theorem motion_fromPose (pose : Pose Q V) : (mSpaceRelationFromPose pose).motion = pose.motion := by
  simp only [SpaceRelation.motion, mSpaceRelationFromPose, XRT_POSE_IDENTITY, position_identity]
  rfl

theorem motion_invert (r : SpaceRelation Q V) : (mSpaceRelationInvert r).motion = r.motion.turned := by
  simp only [SpaceRelation.motion, mSpaceRelationInvert, Motion.turned, rotation_poseInvert, position_poseInvert,
    vec3Neg]

omit [CrossProduct V] [ExactMath Q V] in
theorem valid_fromPose (pose : Pose Q V) : (mSpaceRelationFromPose pose).Valid := ⟨rfl, rfl, rfl, rfl⟩

omit [CrossProduct V] [ExactMath Q V] in
theorem SpaceRelation.Valid.invert {r : SpaceRelation Q V} (h : r.Valid) : (mSpaceRelationInvert r).Valid :=
  ⟨h.orientation, h.position, h.linearVelocity, h.angularVelocity⟩

/-! ## Applying relations -/

variable {a b : SpaceRelation Q V} {steps : List (SpaceRelation Q V)}

omit [CrossProduct V] [ExactMath Q V] in
theorem relationFlags_applyRelation (ha : a.Valid) (hb : b.Valid) :
    (applyRelation a b).relationFlags = a.relationFlags.inter b.relationFlags := by
  simp only [applyRelation, RelationFlags.withPosition, RelationFlags.inter, ha.orientation, ha.position,
    hb.orientation, hb.position, Bool.or_self]

omit [CrossProduct V] [ExactMath Q V] in
theorem valid_applyRelation (ha : a.Valid) (hb : b.Valid) : (applyRelation a b).Valid := by
  constructor <;> rw [relationFlags_applyRelation ha hb]
  · simp only [RelationFlags.inter, ha.orientation, hb.orientation, Bool.and_self]
  · simp only [RelationFlags.inter, ha.position, hb.position, Bool.and_self]
  · simp only [RelationFlags.inter, ha.linearVelocity, hb.linearVelocity, Bool.and_self]
  · simp only [RelationFlags.inter, ha.angularVelocity, hb.angularVelocity, Bool.and_self]

theorem motion_applyRelation (ha : a.Valid) (hb : b.Valid) : (applyRelation a b).motion = b.motion * a.motion := by
  have hbody : makeValidPose a.relationFlags a.pose = a.pose := by
    simp only [makeValidPose, ha.orientation, ha.position, if_true]
  have hbase : makeValidPose b.relationFlags b.pose = b.pose := by
    simp only [makeValidPose, hb.orientation, hb.position, if_true]
  have hlinear : (a.relationFlags.withPosition.inter b.relationFlags.withPosition).hasLinearVelocity = true := by
    simp only [RelationFlags.inter, RelationFlags.withPosition, ha.linearVelocity, hb.linearVelocity, Bool.and_self]
  have hangular : (a.relationFlags.withPosition.inter b.relationFlags.withPosition).hasAngularVelocity = true := by
    simp only [RelationFlags.inter, RelationFlags.withPosition, ha.angularVelocity, hb.angularVelocity, Bool.and_self]
  simp only [SpaceRelation.motion, applyRelation, hbody, hbase, hlinear, hangular, if_true, mathPoseTransform,
    XRT_POSE_IDENTITY, position_identity, rotation_quatMul, vec3Add, vec3Cross, quatRotateVec3, quatRotateDerivative,
    zero_add, Motion.mul_def]

/-! ## Resolving chains -/

def commonFlags (steps : List (SpaceRelation Q V)) : RelationFlags where
  hasOrientation := steps.all fun r => r.relationFlags.hasOrientation
  hasPosition := steps.all fun r => r.relationFlags.hasPosition
  hasLinearVelocity := steps.all fun r => r.relationFlags.hasLinearVelocity
  hasAngularVelocity := steps.all fun r => r.relationFlags.hasAngularVelocity
  hasTrackedOrientation := steps.all fun r => r.relationFlags.hasTrackedOrientation
  hasTrackedPosition := steps.all fun r => r.relationFlags.hasTrackedPosition

theorem foldl_applyRelation {first : SpaceRelation Q V} {rest : List (SpaceRelation Q V)} (hfirst : first.Valid)
    (hrest : ∀ r ∈ rest, r.Valid) :
    (rest.foldl applyRelation first).motion = along ((first :: rest).map SpaceRelation.motion) ∧
      (rest.foldl applyRelation first).relationFlags = commonFlags (first :: rest) := by
  induction rest generalizing first with
  | nil =>
    refine ⟨(along_singleton _).symm, ?_⟩
    simp only [commonFlags, List.all_cons, List.all_nil, Bool.and_true, List.foldl_nil]
  | cons b rest ih =>
    have hb := hrest b (List.mem_cons_self ..)
    obtain ⟨hmotion, hflags⟩ := ih (valid_applyRelation hfirst hb) fun r hr => hrest r (List.mem_cons_of_mem _ hr)
    rw [List.foldl_cons, hmotion, hflags]
    refine ⟨?_, ?_⟩
    · simp only [List.map_cons, along, motion_applyRelation hfirst hb, mul_assoc]
    · simp only [commonFlags, List.all_cons, relationFlags_applyRelation hfirst hb, RelationFlags.inter,
        Bool.and_assoc]

omit [MathApi Q V] [CrossProduct V] [ExactMath Q V] in
theorem not_hasStepWithNoPose (h : ∀ r ∈ steps, r.Valid) : hasStepWithNoPose steps = false := by
  unfold hasStepWithNoPose
  rw [List.any_eq_false]
  intro r hr
  rw [(h r hr).position]
  rintro ⟨⟩

theorem mRelationChainResolve_spec (hne : steps ≠ []) (h : ∀ r ∈ steps, r.Valid) :
    (mRelationChainResolve steps).motion = along (steps.map SpaceRelation.motion) ∧
      (mRelationChainResolve steps).relationFlags = commonFlags steps := by
  cases steps with
  | nil => exact absurd rfl hne
  | cons first rest =>
    have hfirst := h first (List.mem_cons_self ..)
    obtain ⟨hmotion, hflags⟩ := foldl_applyRelation hfirst fun r hr => h r (List.mem_cons_of_mem _ hr)
    simp only [mRelationChainResolve, not_hasStepWithNoPose h]
    refine ⟨?_, ?_⟩
    · rw [← hmotion]
      simp only [SpaceRelation.motion, rotation_quatNormalize, Bool.false_eq_true, if_false]
    · simp only [Bool.false_eq_true, if_false, hflags]

end AugmentedInsanity.Base
