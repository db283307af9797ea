/-
Identity pose steps in a relation chain. What the flags of a relation tell of it is a motion of which parts may be
missing (`Told`), applying relations multiplies what is told, and an identity pose tells the one. So such steps do not
show in what a chain resolves to (`identitySteps_neutral`), as long as some steps are combined at all: a chain with
nothing in it, or with only one step, is resolved without (`identitySteps_show`).
-/
import AugmentedInsanity.Lib.Padding
import AugmentedInsanity.Base.UnitQuaternions

namespace AugmentedInsanity.Base

open Motions Padding ExactMath

/-! ## Motions of which parts are missing -/

/-- What flags tell of a motion: parts that are missing are those of a motion that goes nowhere, and whatever has an
orientation has a position. -/
@[ext]
structure Told (V : Type) [CrossProduct V] where
  flags : RelationFlags
  rotation : Rotation V
  position : V
  linear : V
  angular : V
  withPosition : flags.hasOrientation = true → flags.hasPosition = true
  rotation_eq : flags.hasOrientation = false → rotation = 1
  position_eq : flags.hasPosition = false → position = 0
  linear_eq : flags.hasLinearVelocity = false → linear = 0
  angular_eq : flags.hasAngularVelocity = false → angular = 0

namespace Told

variable {V : Type} [CrossProduct V]

/-- The motion that goes nowhere, all of it told. -/
instance : One (Told V) where
  one := ⟨.all, 1, 0, 0, 0, fun _ => rfl, fun _ => rfl, fun _ => rfl, fun _ => rfl, fun _ => rfl⟩

/-- Motions are composed of the parts that both have. -/
instance : Mul (Told V) where
  mul b a :=
    let flags := a.flags.inter b.flags
    { flags := flags
      rotation := if flags.hasOrientation then b.rotation * a.rotation else 1
      position := if flags.hasPosition then b.rotation • a.position + b.position else 0
      linear :=
        if flags.hasLinearVelocity then
          b.rotation • a.linear + b.linear +
            if flags.hasAngularVelocity then cross b.angular (b.rotation • a.position) else 0
        else 0
      angular := if flags.hasAngularVelocity then b.rotation • a.angular + b.angular else 0
      withPosition := fun h => by
        obtain ⟨ha, hb⟩ := Bool.and_eq_true_iff.1 h
        exact Bool.and_eq_true_iff.2 ⟨a.withPosition ha, b.withPosition hb⟩
      rotation_eq := fun h => if_neg (Bool.eq_false_iff.1 h)
      position_eq := fun h => if_neg (Bool.eq_false_iff.1 h)
      linear_eq := fun h => if_neg (Bool.eq_false_iff.1 h)
      angular_eq := fun h => if_neg (Bool.eq_false_iff.1 h) }

theorem rotation_mul (b a : Told V) :
    (b * a).rotation = if (a.flags.inter b.flags).hasOrientation then b.rotation * a.rotation else 1 := rfl
theorem position_mul (b a : Told V) :
    (b * a).position = if (a.flags.inter b.flags).hasPosition then b.rotation • a.position + b.position else 0 := rfl
theorem linear_mul (b a : Told V) :
    (b * a).linear =
      if (a.flags.inter b.flags).hasLinearVelocity then
        b.rotation • a.linear + b.linear +
          if (a.flags.inter b.flags).hasAngularVelocity then cross b.angular (b.rotation • a.position) else 0
      else 0 := rfl
theorem angular_mul (b a : Told V) :
    (b * a).angular = if (a.flags.inter b.flags).hasAngularVelocity then b.rotation • a.angular + b.angular else 0 := rfl

theorem if_told {α : Type} {told : Bool} {x missing : α} (h : told = false → x = missing) :
    (if told = true then x else missing) = x := by
  cases told with
  | true => rfl
  | false => exact (h rfl).symm

theorem inter_all (flags : RelationFlags) : flags.inter .all = flags := by
  simp only [RelationFlags.inter, RelationFlags.all, Bool.and_true]

theorem all_inter (flags : RelationFlags) : RelationFlags.inter .all flags = flags := by
  simp only [RelationFlags.inter, RelationFlags.all, Bool.true_and]

/-- Composing with the motion that goes nowhere changes nothing, on either side. -/
instance : MulOneClass (Told V) where
  one_mul a := by
    have hflags : a.flags.inter (1 : Told V).flags = a.flags := inter_all a.flags
    ext1
    · exact hflags
    · rw [rotation_mul, hflags, show (1 : Told V).rotation = 1 from rfl, one_mul]
      exact if_told a.rotation_eq
    · rw [position_mul, hflags, show (1 : Told V).rotation = 1 from rfl, one_smul,
        show (1 : Told V).position = 0 from rfl, add_zero]
      exact if_told a.position_eq
    · rw [linear_mul, hflags, show (1 : Told V).rotation = 1 from rfl, show (1 : Told V).linear = 0 from rfl,
        show (1 : Told V).angular = 0 from rfl, zero_cross, ite_self, one_smul, add_zero, add_zero]
      exact if_told a.linear_eq
    · rw [angular_mul, hflags, show (1 : Told V).rotation = 1 from rfl, show (1 : Told V).angular = 0 from rfl,
        one_smul, add_zero]
      exact if_told a.angular_eq
  mul_one b := by
    have hflags : (1 : Told V).flags.inter b.flags = b.flags := all_inter b.flags
    ext1
    · exact hflags
    · rw [rotation_mul, hflags, show (1 : Told V).rotation = 1 from rfl, mul_one]
      exact if_told b.rotation_eq
    · rw [position_mul, hflags, show (1 : Told V).position = 0 from rfl, smul_zero, zero_add]
      exact if_told b.position_eq
    · rw [linear_mul, hflags, show (1 : Told V).position = 0 from rfl, show (1 : Told V).linear = 0 from rfl,
        smul_zero, cross_zero, ite_self, zero_add, add_zero]
      exact if_told b.linear_eq
    · rw [angular_mul, hflags, show (1 : Told V).angular = 0 from rfl, smul_zero, zero_add]
      exact if_told b.angular_eq

end Told

/-! ## What a relation tells -/

variable {Q V : Type} [MathApi Q V] [CrossProduct V] [ExactMath Q V]

omit [MathApi Q V] [CrossProduct V] [ExactMath Q V] in
theorem hasPosition_withPosition {flags : RelationFlags} (h : flags.withPosition.hasOrientation = true) :
    flags.withPosition.hasPosition = true := by
  simp only [RelationFlags.withPosition] at h ⊢
  rw [h, Bool.or_true]

/-- The parts of a relation that its flags say are valid. The band aid of `apply_relation` is in the flags. -/
def SpaceRelation.told (r : SpaceRelation Q V) : Told V where
  flags := r.relationFlags.withPosition
  rotation := if r.relationFlags.hasOrientation then rotation r.pose.orientation else 1
  position := if r.relationFlags.hasPosition then r.pose.position else 0
  linear := if r.relationFlags.hasLinearVelocity then r.linearVelocity else 0
  angular := if r.relationFlags.hasAngularVelocity then r.angularVelocity else 0
  withPosition := hasPosition_withPosition
  rotation_eq h := if_neg (Bool.eq_false_iff.1 h)
  position_eq h := if_neg (Bool.eq_false_iff.1 (Bool.or_eq_false_iff.1 h).1)
  linear_eq h := if_neg (Bool.eq_false_iff.1 h)
  angular_eq h := if_neg (Bool.eq_false_iff.1 h)

theorem told_fromPose {pose : Pose Q V} (h : PoseParts.isIdentity pose = true) :
    (mSpaceRelationFromPose pose).told = 1 := by
  obtain ⟨hrotation, hposition⟩ := of_isIdentity pose h
  have hzero : (PoseParts.identity : Pose Q V).position = 0 := position_identity
  ext1
  · rfl
  · exact hrotation
  · exact hposition
  · exact hzero
  · exact hzero

theorem rotation_makeValidPose (r : SpaceRelation Q V) :
    rotation (makeValidPose r.relationFlags r.pose).orientation = r.told.rotation := by
  simp only [makeValidPose, SpaceRelation.told, apply_ite (rotation (V := V)), XRT_POSE_IDENTITY, rotation_identity]

theorem position_makeValidPose (r : SpaceRelation Q V) :
    (makeValidPose r.relationFlags r.pose).position = r.told.position := by
  simp only [makeValidPose, SpaceRelation.told, XRT_POSE_IDENTITY, position_identity]

omit [MathApi Q V] [CrossProduct V] [ExactMath Q V] in
theorem withPosition_inter (af bf : RelationFlags) :
    (af.withPosition.inter bf.withPosition).withPosition = af.withPosition.inter bf.withPosition := by
  obtain ⟨aOrientation, aPosition, -, -, -, -⟩ := af
  obtain ⟨bOrientation, bPosition, -, -, -, -⟩ := bf
  cases aOrientation <;> cases aPosition <;> cases bOrientation <;> cases bPosition <;> rfl

theorem linear_of_told {r : SpaceRelation Q V} (h : r.relationFlags.hasLinearVelocity = true) :
    r.told.linear = r.linearVelocity := if_pos h

theorem angular_of_told {r : SpaceRelation Q V} (h : r.relationFlags.hasAngularVelocity = true) :
    r.told.angular = r.angularVelocity := if_pos h

theorem angularVelocity_applyRelation (a b : SpaceRelation Q V) :
    (applyRelation a b).angularVelocity = (b.told * a.told).angular := by
  rw [Told.angular_mul]
  simp only [applyRelation, XRT_POSE_IDENTITY, position_identity, vec3Add, quatRotateDerivative, zero_add,
    rotation_makeValidPose]
  refine ite_congr rfl (fun h => ?_) fun _ => rfl
  obtain ⟨ha, hb⟩ := Bool.and_eq_true_iff.1 h
  rw [angular_of_told ha, angular_of_told hb]

theorem linearVelocity_applyRelation (a b : SpaceRelation Q V)
    (h : (applyRelation a b).relationFlags.hasLinearVelocity = true) :
    (applyRelation a b).linearVelocity = (b.told * a.told).linear := by
  obtain ⟨ha, hb⟩ := Bool.and_eq_true_iff.1 h
  have hmul : (a.told.flags.inter b.told.flags).hasLinearVelocity = true := h
  rw [Told.linear_mul, if_pos hmul, linear_of_told ha, linear_of_told hb]
  simp only [applyRelation, XRT_POSE_IDENTITY, position_identity, vec3Add, vec3Cross, quatRotateVec3, zero_add,
    rotation_makeValidPose, position_makeValidPose]
  have hlinear : (a.relationFlags.withPosition.inter b.relationFlags.withPosition).hasLinearVelocity = true := h
  rw [if_pos hlinear]
  cases hangular : (a.relationFlags.withPosition.inter b.relationFlags.withPosition).hasAngularVelocity with
  | false =>
    have hmul : (a.told.flags.inter b.told.flags).hasAngularVelocity = false := hangular
    simp only [hmul, Bool.false_eq_true, if_false, add_zero]
  | true =>
    have hmul : (a.told.flags.inter b.told.flags).hasAngularVelocity = true := hangular
    rw [if_pos rfl, if_pos hmul, angular_of_told (Bool.and_eq_true_iff.1 hangular).2]

theorem told_applyRelation (a b : SpaceRelation Q V) : (applyRelation a b).told = b.told * a.told := by
  ext1
  · exact withPosition_inter a.relationFlags b.relationFlags
  · rw [Told.rotation_mul, ← rotation_makeValidPose a, ← rotation_makeValidPose b, ← rotation_quatMul]
    rfl
  · rw [Told.position_mul, ← position_makeValidPose a, ← position_makeValidPose b, ← rotation_makeValidPose b,
      ← quatRotateVec3, ← vec3Add (Q := Q)]
    rfl
  · rw [SpaceRelation.told]
    dsimp only
    split
    · rename_i h
      exact linearVelocity_applyRelation a b h
    · rename_i h
      exact ((b.told * a.told).linear_eq (Bool.eq_false_iff.2 h)).symm
  · rw [SpaceRelation.told]
    dsimp only
    split
    · exact angularVelocity_applyRelation a b
    · rename_i h
      exact ((b.told * a.told).angular_eq (Bool.eq_false_iff.2 h)).symm

/-! ## What a chain tells -/

theorem told_foldl (first : SpaceRelation Q V) (rest : List (SpaceRelation Q V)) :
    (rest.foldl applyRelation first).told = rest.foldl (fun m r => r.told * m) first.told := by
  induction rest generalizing first with
  | nil => rfl
  | cons b rest ih =>
    rw [List.foldl_cons, ih, told_applyRelation]
    rfl

variable {steps : List (SpaceRelation Q V)}

omit [CrossProduct V] [ExactMath Q V] in
theorem resolve_noPose (h : hasStepWithNoPose steps = true) :
    mRelationChainResolve steps = XRT_SPACE_RELATION_ZERO := by
  cases steps with
  | nil => rfl
  | cons first rest => rw [mRelationChainResolve, if_pos h]

theorem told_resolve (hne : steps ≠ []) (h : hasStepWithNoPose steps = false) :
    (mRelationChainResolve steps).told = steps.foldl (fun m r => r.told * m) 1 := by
  cases steps with
  | nil => exact absurd rfl hne
  | cons first rest =>
    rw [List.foldl_cons, mul_one, ← told_foldl, mRelationChainResolve, if_neg (Bool.eq_false_iff.1 h)]
    simp only [SpaceRelation.told, rotation_quatNormalize]

omit [CrossProduct V] [ExactMath Q V] in
theorem withPosition_foldl {first : SpaceRelation Q V} (h : first.relationFlags.withPosition = first.relationFlags)
    (rest : List (SpaceRelation Q V)) :
    (rest.foldl applyRelation first).relationFlags.withPosition = (rest.foldl applyRelation first).relationFlags := by
  induction rest generalizing first with
  | nil => exact h
  | cons b rest ih => exact ih (withPosition_inter first.relationFlags b.relationFlags)

/-- The chain has a step without a pose, or it combines steps, or its only step has a position. -/
def Combined (steps : List (SpaceRelation Q V)) : Prop :=
  hasStepWithNoPose steps = true ∨ 2 ≤ steps.length ∨ ∃ r, steps = [r] ∧ r.relationFlags.hasPosition = true

omit [CrossProduct V] [ExactMath Q V] in
theorem Combined.withPosition (h : Combined steps) (hpose : hasStepWithNoPose steps = false) :
    (mRelationChainResolve steps).relationFlags.withPosition = (mRelationChainResolve steps).relationFlags := by
  rcases h with h | h | ⟨r, rfl, hposition⟩
  · rw [hpose] at h
    cases h
  · rcases steps with _ | ⟨first, _ | ⟨second, rest⟩⟩
    · exact absurd h (by simp)
    · exact absurd h (by simp)
    · rw [mRelationChainResolve, if_neg (Bool.eq_false_iff.1 hpose)]
      exact withPosition_foldl (withPosition_inter first.relationFlags second.relationFlags) rest
  · rw [mRelationChainResolve, if_neg (Bool.eq_false_iff.1 hpose)]
    simp only [List.foldl_nil, RelationFlags.withPosition, hposition, Bool.true_or]
    rw [← hposition]

/-! ## Identity pose steps -/

/-- The same flags, and the same values of what they say is valid. A quaternion and its negative are the same
orientation. -/
structure Reports (r s : SpaceRelation Q V) : Prop where
  flags : r.relationFlags = s.relationFlags
  orientation : s.relationFlags.hasOrientation = true →
    (rotation r.pose.orientation : Rotation V) = rotation s.pose.orientation
  position : s.relationFlags.hasPosition = true → r.pose.position = s.pose.position
  linearVelocity : s.relationFlags.hasLinearVelocity = true → r.linearVelocity = s.linearVelocity
  angularVelocity : s.relationFlags.hasAngularVelocity = true → r.angularVelocity = s.angularVelocity

theorem reports_of_told {r s : SpaceRelation Q V} (hflags : r.relationFlags = s.relationFlags) (h : r.told = s.told) :
    Reports r s := by
  obtain ⟨-, hrotation, hposition, hlinear, hangular⟩ := Told.ext_iff.1 h
  simp only [SpaceRelation.told, hflags] at hrotation hposition hlinear hangular
  constructor
  · exact hflags
  · intro hvalid
    rwa [if_pos hvalid, if_pos hvalid] at hrotation
  · intro hvalid
    rwa [if_pos hvalid, if_pos hvalid] at hposition
  · intro hvalid
    rwa [if_pos hvalid, if_pos hvalid] at hlinear
  · intro hvalid
    rwa [if_pos hvalid, if_pos hvalid] at hangular

def IdentityStep (r : SpaceRelation Q V) : Prop :=
  ∃ pose : Pose Q V, PoseParts.isIdentity pose = true ∧ r = mSpaceRelationFromPose pose

variable {steps' : List (SpaceRelation Q V)}

omit [CrossProduct V] [ExactMath Q V] in
theorem hasStepWithNoPose_padded (h : Padded IdentityStep steps steps') :
    hasStepWithNoPose steps' = hasStepWithNoPose steps := by
  refine h.any_eq fun r hr => ?_
  obtain ⟨pose, -, rfl⟩ := hr
  rfl

omit [CrossProduct V] [ExactMath Q V] in
theorem Combined.padded (h : Combined steps) (hpad : Padded IdentityStep steps steps') : Combined steps' := by
  by_cases hle : steps'.length ≤ steps.length
  · rw [hpad.eq_of_length_le hle]
    exact h
  · rcases h with h | h | ⟨r, rfl, -⟩
    · exact .inl ((hasStepWithNoPose_padded hpad).trans h)
    · exact .inr (.inl (by omega))
    · rw [List.length_singleton] at hle
      exact .inr (.inl (by omega))

theorem Combined.reports (h : Combined steps) (hpad : Padded IdentityStep steps steps') :
    Reports (mRelationChainResolve steps') (mRelationChainResolve steps) := by
  have hsame := hasStepWithNoPose_padded hpad
  cases hpose : hasStepWithNoPose steps with
  | true =>
    rw [resolve_noPose hpose, resolve_noPose (hsame.trans hpose)]
    exact reports_of_told rfl rfl
  | false =>
    have hne : steps ≠ [] := by
      rintro rfl
      rcases h with h | h | ⟨r, h, -⟩ <;> cases h
    have hne' : steps' ≠ [] := by
      rintro rfl
      exact hne (List.length_eq_zero_iff.1 (Nat.le_zero.1 hpad.length_le))
    have htold : (mRelationChainResolve steps').told = (mRelationChainResolve steps).told := by
      rw [told_resolve hne hpose, told_resolve hne' (hsame.trans hpose)]
      refine hpad.foldl_eq (fun m r hr => ?_) 1
      obtain ⟨pose, hidentity, rfl⟩ := hr
      rw [told_fromPose hidentity, one_mul]
    -- both are given a position, so the flags are the same as well
    have hflags : (mRelationChainResolve steps').relationFlags = (mRelationChainResolve steps).relationFlags := by
      rw [← h.withPosition hpose, ← (h.padded hpad).withPosition (hsame.trans hpose)]
      exact congrArg Told.flags htold
    exact reports_of_told hflags htold

/-- Identity pose steps can be put in or left out anywhere, and so `m_relation_chain_push_pose` and
`m_relation_chain_push_pose_if_not_identity` are as good as each other, while there is room. -/
structure IdentityNeutral (steps : List (SpaceRelation Q V)) : Prop where
  insert : ∀ steps', Padded IdentityStep steps steps' →
    Reports (mRelationChainResolve steps') (mRelationChainResolve steps)
  push : ∀ (xrc : RelationChain Q V) (pose : Pose Q V) (rest : List (SpaceRelation Q V)), xrc.steps ++ rest = steps →
    steps.length < XRT_RELATION_CHAIN_CAPACITY →
    Reports (mRelationChainResolve ((xrc.pushPose pose).pushAll rest).steps)
      (mRelationChainResolve ((xrc.pushPoseIfNotIdentity pose).pushAll rest).steps)

theorem identitySteps_neutral {steps : List (SpaceRelation Q V)} (h : Combined steps) : IdentityNeutral steps := by
  constructor
  · exact fun steps' hpad => h.reports hpad
  · rintro xrc pose rest rfl hroom
    unfold RelationChain.pushPoseIfNotIdentity
    split
    · rename_i hidentity
      have hroom' := hroom
      rw [List.length_append] at hroom
      have hpush : ((xrc.pushPose pose).pushAll rest).steps = xrc.steps ++ mSpaceRelationFromPose pose :: rest := by
        rw [steps_pushAll, RelationChain.pushPose, steps_pushRelation, take_take_append, List.append_assoc]
        refine List.take_of_length_le ?_
        simp only [List.length_append, List.length_cons, List.length_nil]
        omega
      have hskip : (xrc.pushAll rest).steps = xrc.steps ++ rest := by
        rw [steps_pushAll]
        exact List.take_of_length_le (Nat.le_of_lt hroom')
      rw [hpush, hskip]
      exact h.reports (.insert ⟨pose, hidentity, rfl⟩ xrc.steps rest)
    · exact reports_of_told rfl rfl

/-! ## Steps that show -/

def onlyOrientation : SpaceRelation (UnitQuat ℚ) (Vec3 ℚ) :=
  ⟨{ RelationFlags.none with hasOrientation := true }, ⟨⟨0, 0, 1, 0, by decide +kernel⟩, ⟨0, 0, 0⟩⟩, ⟨0, 0, 0⟩, ⟨0, 0, 0⟩⟩

def onlyTurns (position : Vec3 ℚ) : SpaceRelation (UnitQuat ℚ) (Vec3 ℚ) :=
  ⟨{ RelationFlags.all with hasLinearVelocity := false }, ⟨.one, position⟩, ⟨0, 0, 0⟩, ⟨0, 0, 1⟩⟩

def identityStep : SpaceRelation (UnitQuat ℚ) (Vec3 ℚ) := mSpaceRelationFromPose XRT_POSE_IDENTITY

theorem identityStep_spec : IdentityStep identityStep := ⟨_, isIdentity_identity, rfl⟩

/-- A chain of nothing has nothing valid, one step alone is not given a position, and what is not valid of more steps
changes when they are followed by the identity. -/
theorem identitySteps_show :
    ¬ IdentityNeutral ([] : List (SpaceRelation (UnitQuat ℚ) (Vec3 ℚ))) ∧ ¬ IdentityNeutral [onlyOrientation] ∧
      (mRelationChainResolve [onlyTurns ⟨1, 0, 0⟩, onlyTurns ⟨0, 0, 0⟩, identityStep]).linearVelocity ≠
        (mRelationChainResolve [onlyTurns ⟨1, 0, 0⟩, onlyTurns ⟨0, 0, 0⟩]).linearVelocity := by
  refine ⟨fun h => ?_, fun h => ?_, by decide +kernel⟩
  · have hflags := (h.insert [identityStep] (.pad identityStep_spec .nil)).flags
    revert hflags
    decide
  · have hflags := (h.insert [onlyOrientation, identityStep] (.keep _ (.pad identityStep_spec .nil))).flags
    revert hflags
    decide

/-- Followed by anything, the turn has a position. -/
theorem onlyOrientation_neutral : IdentityNeutral [onlyOrientation, onlyTurns ⟨1, 0, 0⟩] :=
  identitySteps_neutral (.inr (.inl (by decide)))

end AugmentedInsanity.Base
