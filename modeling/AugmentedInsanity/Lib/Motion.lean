/-
Rigid motions with velocities. A motion is a rotation, a position and the linear and angular velocity of what is
placed so; motions compose as frames in frames do and form a group. Chains of motions are composed from the inside
to the outside, and inverting every motion of a chain by only negating its velocities gives the inverse of the
chain exactly when what this leaves over, `spin` and `slip`, cancels along the chain.
-/
import Mathlib.Algebra.Group.Action.End
import Mathlib.Algebra.Group.MinimalAxioms
import Mathlib.Algebra.Group.Subgroup.Actions
import Mathlib.Tactic.Abel

namespace AugmentedInsanity.Motions

/-! ## Rotations -/

/-- Vectors with a cross product. -/
class CrossProduct (V : Type*) extends AddCommGroup V where
  cross : V → V → V
  add_cross : ∀ a b c, cross (a + b) c = cross a c + cross b c
  cross_add : ∀ a b c, cross a (b + c) = cross a b + cross a c

export CrossProduct (cross add_cross cross_add)

variable {V : Type*} [CrossProduct V]

/-- Addition of cross products on the left, as a homomorphism. -/
def crossLeft (c : V) : V →+ V := AddMonoidHom.mk' (fun a => cross a c) fun a b => add_cross a b c

/-- And on the right. -/
def crossRight (a : V) : V →+ V := AddMonoidHom.mk' (fun b => cross a b) fun b c => cross_add a b c

@[simp] theorem cross_zero (a : V) : cross a 0 = 0 := (crossRight a).map_zero
@[simp] theorem zero_cross (a : V) : cross 0 a = 0 := (crossLeft a).map_zero
@[simp] theorem neg_cross (a b : V) : cross (-a) b = -cross a b := (crossLeft b).map_neg a

/-- The rotations: bijections that respect addition and the cross product. -/
def Rotation (V : Type*) [CrossProduct V] : Subgroup (Equiv.Perm V) where
  carrier := { f | (∀ a b, f (a + b) = f a + f b) ∧ ∀ a b, f (cross a b) = cross (f a) (f b) }
  one_mem' := ⟨fun _ _ => rfl, fun _ _ => rfl⟩
  mul_mem' {f g} hf hg := by
    refine ⟨fun a b => ?_, fun a b => ?_⟩
    · simp only [Equiv.Perm.mul_apply, hg.1, hf.1]
    · simp only [Equiv.Perm.mul_apply, hg.2, hf.2]
  inv_mem' {f} hf := by
    refine ⟨fun a b => f.injective ?_, fun a b => f.injective ?_⟩
    · rw [hf.1]
      exact (f.apply_symm_apply _).trans (congrArg₂ _ (f.apply_symm_apply a) (f.apply_symm_apply b)).symm
    · rw [hf.2]
      exact (f.apply_symm_apply _).trans (congrArg₂ _ (f.apply_symm_apply a) (f.apply_symm_apply b)).symm

instance : DistribMulAction (Rotation V) V where
  smul_zero r := by
    have h : r • (0 + 0 : V) = r • (0 : V) + r • (0 : V) := r.2.1 0 0
    rwa [add_zero, left_eq_add] at h
  smul_add r := r.2.1

theorem smul_cross (r : Rotation V) (a b : V) : r • cross a b = cross (r • a) (r • b) := r.2.2 a b

/-! ## Motions -/

@[ext]
structure Motion (V : Type*) [CrossProduct V] where
  rotation : Rotation V
  position : V
  linear : V
  angular : V

namespace Motion

/-- The motion of what moves by `a` in a frame that moves by `b`; the frame carries it around by its angular
velocity. -/
instance : Mul (Motion V) where
  mul b a :=
    ⟨b.rotation * a.rotation, b.rotation • a.position + b.position,
      b.rotation • a.linear + b.linear + cross b.angular (b.rotation • a.position),
      b.rotation • a.angular + b.angular⟩

instance : One (Motion V) where
  one := ⟨1, 0, 0, 0⟩

instance : Inv (Motion V) where
  inv m :=
    ⟨m.rotation⁻¹, -(m.rotation⁻¹ • m.position), -(m.rotation⁻¹ • (m.linear - cross m.angular m.position)),
      -(m.rotation⁻¹ • m.angular)⟩

theorem mul_def (b a : Motion V) : b * a =
    ⟨b.rotation * a.rotation, b.rotation • a.position + b.position,
      b.rotation • a.linear + b.linear + cross b.angular (b.rotation • a.position),
      b.rotation • a.angular + b.angular⟩ := rfl

theorem one_def : (1 : Motion V) = ⟨1, 0, 0, 0⟩ := rfl

theorem inv_def (m : Motion V) : m⁻¹ =
    ⟨m.rotation⁻¹, -(m.rotation⁻¹ • m.position), -(m.rotation⁻¹ • (m.linear - cross m.angular m.position)),
      -(m.rotation⁻¹ • m.angular)⟩ := rfl

instance : Group (Motion V) :=
  .ofLeftAxioms
    (fun a b c => by
      simp only [mul_def, mul_assoc, mul_smul, smul_add, smul_cross, add_cross, cross_add, Motion.mk.injEq, true_and]
      refine ⟨?_, ?_, ?_⟩ <;> abel)
    (fun a => by simp only [mul_def, one_def, one_mul, one_smul, add_zero, zero_cross])
    (fun a => by
      simp only [mul_def, one_def, inv_def, inv_mul_cancel, neg_cross, ← smul_cross, smul_sub, Motion.mk.injEq,
        true_and, add_neg_cancel]
      abel_nf
      simp)

/-- A motion at rest. -/
def pose (rotation : Rotation V) (position : V) : Motion V := ⟨rotation, position, 0, 0⟩

theorem pose_inv (rotation : Rotation V) (position : V) :
    (pose rotation position)⁻¹ = pose rotation⁻¹ (-(rotation⁻¹ • position)) := by
  simp only [pose, inv_def, zero_cross, sub_zero, smul_zero, neg_zero]

/-- The motion turned round, its velocities only negated. -/
def turned (m : Motion V) : Motion V :=
  ⟨m.rotation⁻¹, -(m.rotation⁻¹ • m.position), -m.linear, -m.angular⟩

theorem turned_pose (rotation : Rotation V) (position : V) :
    turned (pose rotation position) = (pose rotation position)⁻¹ := by
  rw [pose_inv]
  simp only [turned, pose, neg_zero]

theorem turned_one : turned (1 : Motion V) = 1 := (turned_pose 1 0).trans inv_one

end Motion

/-- Only negating the velocities inverts a motion exactly when the rotation does not turn its angular velocity, and
its linear velocity is what the frame of the inverse sees of it. -/
theorem Motion.turned_eq_inv_iff (m : Motion V) :
    turned m = m⁻¹ ↔
      m.rotation • m.angular = m.angular ∧ m.linear = m.rotation • m.linear + cross m.angular m.position := by
  simp only [turned, inv_def, Motion.mk.injEq, true_and, neg_inj, eq_inv_smul_iff, eq_sub_iff_add_eq]
  rw [and_comm, eq_comm (a := m.rotation • m.linear + _)]

/-! ## Chains of motions -/

open Motion

/-- The motions of a chain composed, the innermost one first in the list. -/
def along : List (Motion V) → Motion V
  | [] => 1
  | m :: l => along l * m

theorem along_append (l l' : List (Motion V)) : along (l ++ l') = along l' * along l := by
  induction l with
  | nil => exact (mul_one _).symm
  | cons m l ih => simp only [List.cons_append, along, ih, mul_assoc]

theorem along_singleton (m : Motion V) : along [m] = m := one_mul m

/-- A chain of chains. -/
theorem along_flatMap {α : Type*} {f : α → List (Motion V)} {g : α → Motion V} {l : List α}
    (h : ∀ a ∈ l, along (f a) = g a) : along (l.flatMap f) = along (l.map g) := by
  induction l with
  | nil => rfl
  | cons a l ih =>
    rw [List.flatMap_cons, along_append, h a (List.mem_cons_self ..), ih fun b hb => h b (List.mem_cons_of_mem _ hb)]
    rfl

/-- The angular velocity that is left over when a chain is composed with all its motions turned round. -/
def spin : List (Motion V) → V
  | [] => 0
  | m :: l => m.rotation⁻¹ • (m.angular + spin l) - m.angular

/-- The linear velocity that is left over. -/
def slip : List (Motion V) → V
  | [] => 0
  | m :: l =>
    m.rotation⁻¹ • (m.linear + slip l + cross (spin l) m.position) - m.linear -
      cross m.angular (m.rotation⁻¹ • m.position)

/-- What is left over has a rotation and a position of nothing. -/
theorem along_turned_mul_along (l : List (Motion V)) :
    along (l.map turned).reverse * along l = ⟨1, 0, slip l, spin l⟩ := by
  induction l with
  | nil => exact one_mul _
  | cons m l ih =>
    -- the innermost motion is outside on both sides of what is left over further up
    have hsplit : along ((m :: l).map turned).reverse * along (m :: l) =
        turned m * (along (l.map turned).reverse * along l) * m := by
      simp only [List.map_cons, List.reverse_cons, along_append, along, one_mul, mul_assoc]
    rw [hsplit, ih]
    simp only [mul_def, turned, slip, spin, mul_one, smul_zero, inv_mul_cancel, zero_add, add_zero, smul_add,
      smul_cross, add_cross, neg_cross, cross_zero, Motion.mk.injEq, true_and, add_neg_cancel]
    refine ⟨?_, ?_⟩ <;> abel

/-- Turning round every motion of a chain inverts the chain exactly when nothing is left over. -/
theorem along_turned_eq_inv_iff (l : List (Motion V)) :
    along (l.map turned).reverse = (along l)⁻¹ ↔ spin l = 0 ∧ slip l = 0 := by
  rw [eq_inv_iff_mul_eq_one, along_turned_mul_along, one_def, Motion.mk.injEq]
  constructor
  · rintro ⟨-, -, hslip, hspin⟩
    exact ⟨hspin, hslip⟩
  · rintro ⟨hspin, hslip⟩
    exact ⟨rfl, rfl, hslip, hspin⟩

end AugmentedInsanity.Motions
