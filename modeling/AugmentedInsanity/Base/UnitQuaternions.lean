/-
Exact arithmetic with quaternions of length one over a commutative ring: the formulas of `m_base.cpp` and of Eigen,
without rounding. Such quaternions need no normalising.
-/
import Mathlib.Tactic.LinearCombination
import Mathlib.Tactic.Ring
import AugmentedInsanity.Base.ExactMath

namespace AugmentedInsanity.Base

open Motions

/-- `struct xrt_vec3`. -/
@[ext]
structure Vec3 (K : Type) where
  x : K
  y : K
  z : K
  deriving DecidableEq

/-- `struct xrt_quat` of length one. -/
@[ext]
structure UnitQuat (K : Type) [CommRing K] where
  x : K
  y : K
  z : K
  w : K
  unit : x * x + y * y + z * z + w * w = 1
  deriving DecidableEq

variable {K : Type} [CommRing K]

namespace Vec3

instance : Add (Vec3 K) := ⟨fun a b => ⟨a.x + b.x, a.y + b.y, a.z + b.z⟩⟩
instance : Neg (Vec3 K) := ⟨fun a => ⟨-a.x, -a.y, -a.z⟩⟩
instance : Zero (Vec3 K) := ⟨⟨0, 0, 0⟩⟩

theorem add_def (a b : Vec3 K) : a + b = ⟨a.x + b.x, a.y + b.y, a.z + b.z⟩ := rfl
theorem neg_def (a : Vec3 K) : -a = ⟨-a.x, -a.y, -a.z⟩ := rfl
theorem zero_def : (0 : Vec3 K) = ⟨0, 0, 0⟩ := rfl

instance : AddCommGroup (Vec3 K) where
  add_assoc a b c := by simp only [add_def, add_assoc]
  zero_add a := by simp only [add_def, zero_def, zero_add]
  add_zero a := by simp only [add_def, zero_def, add_zero]
  neg_add_cancel a := by simp only [add_def, neg_def, zero_def, neg_add_cancel]
  add_comm a b := by simp only [add_def, add_comm]
  nsmul := nsmulRec
  zsmul := zsmulRec

instance : CrossProduct (Vec3 K) where
  cross a b := ⟨a.y * b.z - a.z * b.y, a.z * b.x - a.x * b.z, a.x * b.y - a.y * b.x⟩
  add_cross a b c := by simp only [add_def, Vec3.mk.injEq]; refine ⟨?_, ?_, ?_⟩ <;> ring
  cross_add a b c := by simp only [add_def, Vec3.mk.injEq]; refine ⟨?_, ?_, ?_⟩ <;> ring

theorem cross_def (a b : Vec3 K) :
    cross a b = ⟨a.y * b.z - a.z * b.y, a.z * b.x - a.x * b.z, a.x * b.y - a.y * b.x⟩ := rfl

end Vec3

namespace UnitQuat

theorem unit_mul (p q : UnitQuat K) :
    (p.w * q.x + p.x * q.w + p.y * q.z - p.z * q.y) * (p.w * q.x + p.x * q.w + p.y * q.z - p.z * q.y) +
      (p.w * q.y - p.x * q.z + p.y * q.w + p.z * q.x) * (p.w * q.y - p.x * q.z + p.y * q.w + p.z * q.x) +
      (p.w * q.z + p.x * q.y - p.y * q.x + p.z * q.w) * (p.w * q.z + p.x * q.y - p.y * q.x + p.z * q.w) +
      (p.w * q.w - p.x * q.x - p.y * q.y - p.z * q.z) * (p.w * q.w - p.x * q.x - p.y * q.y - p.z * q.z) = 1 := by
  linear_combination (q.x * q.x + q.y * q.y + q.z * q.z + q.w * q.w) * p.unit + q.unit

theorem unit_one : (0 : K) * 0 + 0 * 0 + 0 * 0 + 1 * 1 = 1 := by ring

theorem unit_conj (q : UnitQuat K) : -q.x * -q.x + -q.y * -q.y + -q.z * -q.z + q.w * q.w = 1 := by
  linear_combination q.unit

def mul (p q : UnitQuat K) : UnitQuat K where
  x := p.w * q.x + p.x * q.w + p.y * q.z - p.z * q.y
  y := p.w * q.y - p.x * q.z + p.y * q.w + p.z * q.x
  z := p.w * q.z + p.x * q.y - p.y * q.x + p.z * q.w
  w := p.w * q.w - p.x * q.x - p.y * q.y - p.z * q.z
  unit := unit_mul p q

def one : UnitQuat K := ⟨0, 0, 0, 1, unit_one⟩

/-- `math_quat_invert`. -/
def conj (q : UnitQuat K) : UnitQuat K := ⟨-q.x, -q.y, -q.z, q.w, unit_conj q⟩

/-- The vector part of `q v q*`. -/
def rotate (q : UnitQuat K) (v : Vec3 K) : Vec3 K where
  x := (q.w * q.w + q.x * q.x - q.y * q.y - q.z * q.z) * v.x + 2 * (q.x * q.y - q.w * q.z) * v.y +
    2 * (q.x * q.z + q.w * q.y) * v.z
  y := 2 * (q.x * q.y + q.w * q.z) * v.x + (q.w * q.w - q.x * q.x + q.y * q.y - q.z * q.z) * v.y +
    2 * (q.y * q.z - q.w * q.x) * v.z
  z := 2 * (q.x * q.z - q.w * q.y) * v.x + 2 * (q.y * q.z + q.w * q.x) * v.y +
    (q.w * q.w - q.x * q.x - q.y * q.y + q.z * q.z) * v.z

theorem rotate_mul (p q : UnitQuat K) (v : Vec3 K) : (p.mul q).rotate v = p.rotate (q.rotate v) := by
  simp only [rotate, mul, Vec3.mk.injEq]
  refine ⟨?_, ?_, ?_⟩ <;> ring

theorem rotate_add (q : UnitQuat K) (a b : Vec3 K) : q.rotate (a + b) = q.rotate a + q.rotate b := by
  simp only [rotate, Vec3.add_def, Vec3.mk.injEq]
  refine ⟨?_, ?_, ?_⟩ <;> ring

theorem rotate_conj_rotate (q : UnitQuat K) (v : Vec3 K) : q.conj.rotate (q.rotate v) = v := by
  have hunit := q.unit
  ext
  · simp only [rotate, conj]
    linear_combination (q.x * q.x + q.y * q.y + q.z * q.z + q.w * q.w + 1) * v.x * hunit
  · simp only [rotate, conj]
    linear_combination (q.x * q.x + q.y * q.y + q.z * q.z + q.w * q.w + 1) * v.y * hunit
  · simp only [rotate, conj]
    linear_combination (q.x * q.x + q.y * q.y + q.z * q.z + q.w * q.w + 1) * v.z * hunit

theorem rotate_cross (q : UnitQuat K) (a b : Vec3 K) : q.rotate (cross a b) = cross (q.rotate a) (q.rotate b) := by
  have hscaled : cross (q.rotate a) (q.rotate b) =
      ⟨(q.x * q.x + q.y * q.y + q.z * q.z + q.w * q.w) * (q.rotate (cross a b)).x,
        (q.x * q.x + q.y * q.y + q.z * q.z + q.w * q.w) * (q.rotate (cross a b)).y,
        (q.x * q.x + q.y * q.y + q.z * q.z + q.w * q.w) * (q.rotate (cross a b)).z⟩ := by
    simp only [rotate, Vec3.cross_def, Vec3.mk.injEq]
    refine ⟨?_, ?_, ?_⟩ <;> ring
  simp only [hscaled, q.unit, one_mul]

theorem conj_conj (q : UnitQuat K) : q.conj.conj = q := by
  simp only [conj, neg_neg]

def rotation (q : UnitQuat K) : Rotation (Vec3 K) :=
  ⟨⟨q.rotate, q.conj.rotate, rotate_conj_rotate q, fun v => (congrArg (fun r => r.rotate (q.conj.rotate v))
    (conj_conj q)).symm.trans (rotate_conj_rotate q.conj v)⟩, rotate_add q, rotate_cross q⟩

theorem rotation_mul (p q : UnitQuat K) : (p.mul q).rotation = p.rotation * q.rotation := by
  refine Subtype.ext (Equiv.ext fun v => ?_)
  exact rotate_mul p q v

theorem rotation_one : (one : UnitQuat K).rotation = 1 := by
  refine Subtype.ext (Equiv.ext fun v => ?_)
  show one.rotate v = v
  ext <;> simp only [rotate, one] <;> ring

theorem rotation_conj (q : UnitQuat K) : q.conj.rotation = q.rotation⁻¹ := by
  refine Subtype.ext (Equiv.ext fun v => ?_)
  rfl

end UnitQuat

/-! ## The arithmetic -/

/-- `m_pose_is_identity`: both quaternions of no rotation are taken. -/
def isIdentity [DecidableEq K] (pose : Pose (UnitQuat K) (Vec3 K)) : Bool :=
  pose.position == ⟨0, 0, 0⟩ && pose.orientation.x == 0 && pose.orientation.y == 0 && pose.orientation.z == 0 &&
    (pose.orientation.w == 1 || pose.orientation.w == -1)

instance [DecidableEq K] : MathApi (UnitQuat K) (Vec3 K) where
  identity := ⟨.one, ⟨0, 0, 0⟩⟩
  isIdentity := isIdentity
  withHeightOf pose other := ⟨pose.orientation, ⟨pose.position.x, other.position.y, pose.position.z⟩⟩
  withPlaceOf pose other := ⟨other.orientation, ⟨other.position.x, pose.position.y, other.position.z⟩⟩
  vec3Add a b := a + b
  vec3Neg a := -a
  vec3Cross a b := cross a b
  quatMul := UnitQuat.mul
  quatNormalize q := q
  quatRotateVec3 := UnitQuat.rotate
  quatRotateDerivative := UnitQuat.rotate
  poseInvert pose := ⟨pose.orientation.conj, -pose.orientation.conj.rotate pose.position⟩

theorem isIdentity_one [DecidableEq K] : isIdentity (⟨.one, ⟨0, 0, 0⟩⟩ : Pose (UnitQuat K) (Vec3 K)) = true := by
  simp only [isIdentity, UnitQuat.one, beq_self_eq_true, Bool.true_or, Bool.and_self]

theorem rotation_of_isIdentity [DecidableEq K] (pose : Pose (UnitQuat K) (Vec3 K)) (h : isIdentity pose = true) :
    pose.orientation.rotation = 1 ∧ pose.position = 0 := by
  simp only [isIdentity, Bool.and_eq_true, Bool.or_eq_true, beq_iff_eq] at h
  obtain ⟨⟨⟨⟨hposition, hx⟩, hy⟩, hz⟩, hw⟩ := h
  refine ⟨Subtype.ext (Equiv.ext fun v => ?_), hposition⟩
  show pose.orientation.rotate v = v
  rcases hw with hw | hw <;> ext <;> simp only [UnitQuat.rotate, hx, hy, hz, hw] <;> ring

instance [DecidableEq K] : ExactMath (UnitQuat K) (Vec3 K) where
  rotation := UnitQuat.rotation
  rotation_identity := UnitQuat.rotation_one
  position_identity := rfl
  isIdentity_identity := isIdentity_one
  of_isIdentity := rotation_of_isIdentity
  vec3Add _ _ := rfl
  vec3Neg _ := rfl
  vec3Cross _ _ := rfl
  rotation_quatMul := UnitQuat.rotation_mul
  rotation_quatNormalize _ := rfl
  quatRotateVec3 _ _ := rfl
  quatRotateDerivative _ _ := rfl
  rotation_poseInvert pose := UnitQuat.rotation_conj pose.orientation
  position_poseInvert _ := rfl

end AugmentedInsanity.Base
