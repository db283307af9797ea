/-
A relation and its inverse in one chain. `m_space_relation_invert` negates the velocities and does not carry them to
the other space, so the two cancel exactly when that makes no difference (`cancels_iff`).
-/
import AugmentedInsanity.Base.UnitQuaternions

namespace AugmentedInsanity.Base

open Motions

variable {Q V : Type} [MathApi Q V] [CrossProduct V] [ExactMath Q V] {r : SpaceRelation Q V}

/-! ## Chains of two -/

def relationThenInverse (r : SpaceRelation Q V) : RelationChain Q V :=
  (RelationChain.empty.pushRelation r).pushInvertedRelation r

def inverseThenRelation (r : SpaceRelation Q V) : RelationChain Q V :=
  (RelationChain.empty.pushInvertedRelation r).pushRelation r

/-- The identity pose at rest, with all of it valid. A quaternion and its negative are the same orientation. -/
structure SpaceRelation.AtIdentity (r : SpaceRelation Q V) : Prop where
  valid : r.Valid
  orientation : ExactMath.rotation r.pose.orientation = (1 : Rotation V)
  position : r.pose.position = 0
  linearVelocity : r.linearVelocity = 0
  angularVelocity : r.angularVelocity = 0

theorem atIdentity_iff : r.AtIdentity ↔ r.Valid ∧ r.motion = 1 := by
  constructor
  · rintro ⟨hvalid, horientation, hposition, hlinear, hangular⟩
    refine ⟨hvalid, ?_⟩
    rw [SpaceRelation.motion, horientation, hposition, hlinear, hangular]
    rfl
  · rintro ⟨hvalid, hmotion⟩
    rw [SpaceRelation.motion, Motion.one_def, Motion.mk.injEq] at hmotion
    obtain ⟨horientation, hposition, hlinear, hangular⟩ := hmotion
    exact ⟨hvalid, horientation, hposition, hlinear, hangular⟩

/-! ## Both orders -/

theorem resolve_pair {a b : SpaceRelation Q V} (ha : a.Valid) (hb : b.Valid) :
    (mRelationChainResolve [a, b]).Valid ∧ (mRelationChainResolve [a, b]).motion = b.motion * a.motion := by
  have hsteps : ∀ r ∈ [a, b], r.Valid := by
    intro r hr
    rcases List.mem_pair.1 hr with rfl | rfl
    · exact ha
    · exact hb
  obtain ⟨hmotion, hflags⟩ := mRelationChainResolve_spec (by simp) hsteps
  refine ⟨?_, ?_⟩
  · constructor <;> rw [hflags] <;>
      simp only [commonFlags, List.all_cons, List.all_nil, ha.orientation, ha.position, ha.linearVelocity,
        ha.angularVelocity, hb.orientation, hb.position, hb.linearVelocity, hb.angularVelocity, Bool.and_self]
  · rw [hmotion]
    simp only [List.map_cons, List.map_nil, along, one_mul]

theorem relationThenInverse_atIdentity_iff (h : r.Valid) :
    (mRelationChainResolve (relationThenInverse r).steps).AtIdentity ↔ r.motion.turned = r.motion⁻¹ := by
  obtain ⟨hvalid, hmotion⟩ := resolve_pair h h.invert
  have hsteps : (relationThenInverse r).steps = [r, mSpaceRelationInvert r] := rfl
  rw [hsteps, atIdentity_iff, hmotion, motion_invert, ← eq_inv_iff_mul_eq_one]
  exact and_iff_right hvalid

theorem inverseThenRelation_atIdentity_iff (h : r.Valid) :
    (mRelationChainResolve (inverseThenRelation r).steps).AtIdentity ↔ r.motion.turned = r.motion⁻¹ := by
  obtain ⟨hvalid, hmotion⟩ := resolve_pair h.invert h
  have hsteps : (inverseThenRelation r).steps = [mSpaceRelationInvert r, r] := rfl
  rw [hsteps, atIdentity_iff, hmotion, motion_invert, ← inv_eq_iff_mul_eq_one, eq_comm (a := r.motion⁻¹)]
  exact and_iff_right hvalid

/-- A relation and its inverse cancel, in either order. -/
def CancelsWithInverse (r : SpaceRelation Q V) : Prop :=
  (mRelationChainResolve (relationThenInverse r).steps).AtIdentity ∧
    (mRelationChainResolve (inverseThenRelation r).steps).AtIdentity

/-- They cancel exactly when the rotation leaves the angular velocity as it is, and the linear velocity is the rotated
one and the lever arm together. -/
theorem cancels_iff {r : SpaceRelation Q V} (h : r.Valid) :
    CancelsWithInverse r ↔
      (ExactMath.rotation r.pose.orientation : Rotation V) • r.angularVelocity = r.angularVelocity ∧
        r.linearVelocity =
          (ExactMath.rotation r.pose.orientation : Rotation V) • r.linearVelocity +
            cross r.angularVelocity r.pose.position := by
  unfold CancelsWithInverse
  rw [relationThenInverse_atIdentity_iff h, inverseThenRelation_atIdentity_iff h, and_self, Motion.turned_eq_inv_iff]
  rfl

/-! ## A thing that turns -/

/-- What is not turned, and turns about its third axis. -/
def turning (position : Vec3 ℚ) : SpaceRelation (UnitQuat ℚ) (Vec3 ℚ) :=
  ⟨.all, ⟨.one, position⟩, ⟨1, 2, 3⟩, ⟨0, 0, 1⟩⟩

theorem valid_turning (position : Vec3 ℚ) : (turning position).Valid := ⟨rfl, rfl, rfl, rfl⟩

/-- Away from the origin it has the velocity of the lever arm left over. -/
theorem turningAway_not_cancels : ¬ CancelsWithInverse (turning ⟨1, 0, 0⟩) := by
  intro h
  have hlinear := h.1.linearVelocity
  revert hlinear
  decide +kernel

/-- At the origin there is no lever arm. -/
theorem cancels_iff_turning : CancelsWithInverse (turning ⟨0, 0, 0⟩) :=
  (cancels_iff (valid_turning ⟨0, 0, 0⟩)).2 ⟨by decide +kernel, by decide +kernel⟩

end AugmentedInsanity.Base
