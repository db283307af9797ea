/-
What `locate_space` gives, over exact arithmetic and relations that are valid. The space is located by the motion
of its path and offset, taken back along the path of the base and its offset; as `m_space_relation_invert` only
negates velocities, this holds exactly when what inverting leaves over along the path of the base cancels.
-/
import AugmentedInsanity.Base.Traverse
import AugmentedInsanity.Base.UnitQuaternions

namespace AugmentedInsanity.Base

open Xrt Motions

/-! ## Paths as motions -/

section
variable {Q V : Type} [MathApi Q V]

def nodeRelation (devices : TrackedPoses Q V) (atTimestamp : Int64) : USpaceType (Pose Q V) → SpaceRelation Q V
  | .pose xdev xname => devices xdev xname atTimestamp
  | .offset pose => mSpaceRelationFromPose pose
  | _ => mSpaceRelationFromPose XRT_POSE_IDENTITY

def inverseRelation (devices : TrackedPoses Q V) (atTimestamp : Int64) : USpaceType (Pose Q V) → SpaceRelation Q V
  | .pose xdev xname => mSpaceRelationInvert (devices xdev xname atTimestamp)
  | .offset pose => mSpaceRelationFromPose (MathApi.poseInvert pose)
  | _ => mSpaceRelationFromPose XRT_POSE_IDENTITY

/-- The steps of the full traversal: every space of both paths and both offsets, however many. -/
def fullSteps (devices : TrackedPoses Q V) (atTimestamp : Int64) (basePath : List (USpaceType (Pose Q V)))
    (baseOffset : Pose Q V) (path : List (USpaceType (Pose Q V))) (offset : Pose Q V) : List (SpaceRelation Q V) :=
  ((USpaceType.offset offset) :: path).map (nodeRelation devices atTimestamp) ++
    ((USpaceType.offset baseOffset) :: basePath).reverse.map (inverseRelation devices atTimestamp)

def fullTraversal (devices : TrackedPoses Q V) (atTimestamp : Int64) (basePath : List (USpaceType (Pose Q V)))
    (baseOffset : Pose Q V) (path : List (USpaceType (Pose Q V))) (offset : Pose Q V) : SpaceRelation Q V :=
  mRelationChainResolve (fullSteps devices atTimestamp basePath baseOffset path offset)

def skipped : USpaceType (Pose Q V) → Bool
  | .pose _ _ => false
  | .offset pose => PoseParts.isIdentity pose
  | _ => true

/-- What is pushed of a space, if it has the relation. -/
def pushed (relation : USpaceType (Pose Q V) → SpaceRelation Q V) (type : USpaceType (Pose Q V)) :
    List (SpaceRelation Q V) :=
  if skipped type then [] else [relation type]

/-- The steps that `locate_space` pushes of the offset, the two paths and the offset of the base. -/
def chainSteps (devices : TrackedPoses Q V) (atTimestamp : Int64) (basePath : List (USpaceType (Pose Q V)))
    (baseOffset : Pose Q V) (path : List (USpaceType (Pose Q V))) (offset : Pose Q V) : List (SpaceRelation Q V) :=
  ((USpaceType.offset offset) :: path).flatMap (pushed (nodeRelation devices atTimestamp)) ++
    ((USpaceType.offset baseOffset) :: basePath).reverse.flatMap (pushed (inverseRelation devices atTimestamp))

/-- A space of a device has a device and a name, and the device a valid relation. -/
def ValidSpace (devices : TrackedPoses Q V) (atTimestamp : Int64) : USpaceType (Pose Q V) → Prop
  | .pose xdev xname => xdev ≠ 0 ∧ xname ≠ 0 ∧ (devices xdev xname atTimestamp).Valid
  | _ => True

/-- A space of a device has a device and a name, as the traversals assert. -/
def NamedSpace : USpaceType (Pose Q V) → Prop
  | .pose xdev xname => xdev ≠ 0 ∧ xname ≠ 0
  | _ => True

variable {type : USpaceType (Pose Q V)} {devices : TrackedPoses Q V} {atTimestamp : Int64}

omit [MathApi Q V] in
theorem ValidSpace.named (h : ValidSpace devices atTimestamp type) : NamedSpace type := by
  cases type with
  | pose xdev xname => exact ⟨h.1, h.2.1⟩
  | null | offset _ | root | attachable => trivial

omit [MathApi Q V] in
theorem validSpace_offset_cons {path : List (USpaceType (Pose Q V))}
    (h : ∀ type ∈ path, ValidSpace devices atTimestamp type) (offset : Pose Q V) :
    ∀ type ∈ (USpaceType.offset offset) :: path, ValidSpace devices atTimestamp type :=
  List.forall_mem_cons.2 ⟨trivial, h⟩

theorem valid_nodeRelation (h : ValidSpace devices atTimestamp type) :
    (nodeRelation devices atTimestamp type).Valid := by
  cases type with
  | pose xdev xname => exact h.2.2
  | null | offset _ | root | attachable => exact valid_fromPose _

theorem valid_inverseRelation (h : ValidSpace devices atTimestamp type) :
    (inverseRelation devices atTimestamp type).Valid := by
  cases type with
  | pose xdev xname => exact h.2.2.invert
  | null | offset _ | root | attachable => exact valid_fromPose _

variable {basePath path : List (USpaceType (Pose Q V))} {relation : USpaceType (Pose Q V) → SpaceRelation Q V}
  {uso : BSpaceOverseer (Pose Q V)} {bit : RelationFlags → Bool} {baseSpace space : SpaceId}

theorem valid_fullSteps (hvalid : ∀ type ∈ basePath ++ path, ValidSpace devices atTimestamp type)
    (baseOffset offset : Pose Q V) : ∀ r ∈ fullSteps devices atTimestamp basePath baseOffset path offset, r.Valid := by
  obtain ⟨hbase, hspace⟩ := List.forall_mem_append.1 hvalid
  refine List.forall_mem_append.2 ⟨fun r hr => ?_, fun r hr => ?_⟩
  · obtain ⟨type, htype, rfl⟩ := List.mem_map.1 hr
    exact valid_nodeRelation (validSpace_offset_cons hspace offset type htype)
  · obtain ⟨type, htype, rfl⟩ := List.mem_map.1 hr
    exact valid_inverseRelation (validSpace_offset_cons hbase baseOffset type (List.mem_reverse.1 htype))

theorem mem_pushed {r : SpaceRelation Q V} (h : r ∈ pushed relation type) : r = relation type := by
  unfold pushed at h
  split at h
  · cases h
  · exact List.mem_singleton.1 h

theorem length_pushed_le (relation : USpaceType (Pose Q V) → SpaceRelation Q V) (type : USpaceType (Pose Q V)) :
    (pushed relation type).length ≤ 1 := by
  unfold pushed
  split
  · exact Nat.zero_le 1
  · exact Nat.le_refl 1

/-! ## Pushing -/

theorem pushPoseIfNotIdentity_eq (devices : TrackedPoses Q V) (atTimestamp : Int64) (xrc : RelationChain Q V)
    (pose : Pose Q V) :
    xrc.pushPoseIfNotIdentity pose = xrc.pushAll (pushed (nodeRelation devices atTimestamp) (.offset pose)) := by
  by_cases h : PoseParts.isIdentity pose = true
  · simp only [pushed, skipped, RelationChain.pushPoseIfNotIdentity, h, if_true]
    rfl
  · simp only [pushed, skipped, RelationChain.pushPoseIfNotIdentity, h]
    rfl

theorem pushInvertedPoseIfNotIdentity_eq (devices : TrackedPoses Q V) (atTimestamp : Int64) (xrc : RelationChain Q V)
    (pose : Pose Q V) :
    xrc.pushInvertedPoseIfNotIdentity pose =
      xrc.pushAll (pushed (inverseRelation devices atTimestamp) (.offset pose)) := by
  by_cases h : PoseParts.isIdentity pose = true
  · simp only [pushed, skipped, RelationChain.pushInvertedPoseIfNotIdentity, h, if_true]
    rfl
  · simp only [pushed, skipped, RelationChain.pushInvertedPoseIfNotIdentity, h]
    rfl

theorem pushSpace_eq (devices : TrackedPoses Q V) (atTimestamp : Int64) (h : NamedSpace type)
    (xrc : RelationChain Q V) :
    pushSpace devices atTimestamp xrc type = .ok (xrc.pushAll (pushed (nodeRelation devices atTimestamp) type)) := by
  cases type with
  | null | root | attachable => rfl
  | pose xdev xname =>
    simp only [pushSpace, h.1, h.2, or_self, if_false]
    rfl
  | offset pose => exact congrArg Except.ok (pushPoseIfNotIdentity_eq devices atTimestamp xrc pose)

theorem pushInverseSpace_eq (devices : TrackedPoses Q V) (atTimestamp : Int64) (h : NamedSpace type)
    (hroot : type ≠ .root) (xrc : RelationChain Q V) :
    pushInverseSpace devices atTimestamp xrc type =
      .ok (xrc.pushAll (pushed (inverseRelation devices atTimestamp) type)) := by
  cases type with
  | root => exact absurd rfl hroot
  | null | attachable => rfl
  | pose xdev xname =>
    simp only [pushInverseSpace, h.1, h.2, or_self, if_false]
    rfl
  | offset pose => exact congrArg Except.ok (pushInvertedPoseIfNotIdentity_eq devices atTimestamp xrc pose)

omit [MathApi Q V] in
theorem foldlM_push {push : RelationChain Q V → USpaceType (Pose Q V) → Except TraverseError (RelationChain Q V)}
    {steps : USpaceType (Pose Q V) → List (SpaceRelation Q V)} {l : List (USpaceType (Pose Q V))}
    (h : ∀ type ∈ l, ∀ xrc, push xrc type = .ok (xrc.pushAll (steps type))) (xrc : RelationChain Q V) :
    l.foldlM push xrc = .ok (xrc.pushAll (l.flatMap steps)) := by
  induction l generalizing xrc with
  | nil => rfl
  | cons type l ih =>
    rw [List.foldlM_cons, h type (List.mem_cons_self ..)]
    refine (ih (fun type' htype' => h type' (List.mem_cons_of_mem _ htype')) _).trans ?_
    rw [List.flatMap_cons, pushAll_append]

theorem length_offsets_le (devices : TrackedPoses Q V) (atTimestamp : Int64) (baseOffset offset : Pose Q V) :
    (chainSteps devices atTimestamp [] baseOffset [] offset).length ≤ XRT_RELATION_CHAIN_CAPACITY := by
  have hoffset := length_pushed_le (nodeRelation devices atTimestamp) (.offset offset)
  have hbaseOffset := length_pushed_le (inverseRelation devices atTimestamp) (.offset baseOffset)
  simp only [chainSteps, List.flatMap_cons, List.flatMap_nil, List.reverse_cons, List.reverse_nil, List.nil_append,
    List.append_nil, List.length_append]
  exact (Nat.add_le_add hoffset hbaseOffset).trans (by decide)

theorem valid_chainSteps (hvalid : ∀ type ∈ basePath ++ path, ValidSpace devices atTimestamp type)
    (baseOffset offset : Pose Q V) : ∀ r ∈ chainSteps devices atTimestamp basePath baseOffset path offset, r.Valid := by
  obtain ⟨hbase, hspace⟩ := List.forall_mem_append.1 hvalid
  refine List.forall_mem_append.2 ⟨fun r hr => ?_, fun r hr => ?_⟩
  · obtain ⟨type, htype, hr⟩ := List.mem_flatMap.1 hr
    rw [mem_pushed hr]
    exact valid_nodeRelation (validSpace_offset_cons hspace offset type htype)
  · obtain ⟨type, htype, hr⟩ := List.mem_flatMap.1 hr
    rw [mem_pushed hr]
    exact valid_inverseRelation (validSpace_offset_cons hbase baseOffset type (List.mem_reverse.1 htype))

theorem buildRelationChain_eq (hbase : Path uso baseSpace basePath) (hspace : Path uso space path)
    (hnamed : ∀ type ∈ basePath ++ path, NamedSpace type) {fuel : ℕ} (hfuel : basePath.length + path.length < fuel)
    (xrc : RelationChain Q V) :
    buildRelationChain uso devices fuel xrc baseSpace space atTimestamp =
      .ok (xrc.pushAll (path.flatMap (pushed (nodeRelation devices atTimestamp)) ++
        basePath.reverse.flatMap (pushed (inverseRelation devices atTimestamp)))) := by
  obtain ⟨hnamedBase, hnamedSpace⟩ := List.forall_mem_append.1 hnamed
  have hpush := fun xrc => foldlM_push (l := path) (fun type htype =>
    pushSpace_eq devices atTimestamp (hnamedSpace type htype)) xrc
  have hinverse := fun xrc => foldlM_push (l := basePath.reverse) (fun type htype =>
    have hmem := List.mem_reverse.1 htype
    pushInverseSpace_eq devices atTimestamp (hnamedBase type hmem) (hbase.ne_root type hmem)) xrc
  simp only [buildRelationChain, pushThenTraverse_eq hspace (Nat.lt_of_le_of_lt (Nat.le_add_left _ _) hfuel), hpush,
    traverseThenPushInverse_eq hbase (Nat.lt_of_le_of_lt (Nat.le_add_right _ _) hfuel), hinverse, pushAll_append]

theorem locateSpace_eq (devices : TrackedPoses Q V) (atTimestamp : Int64) (hne : space ≠ baseSpace)
    (hbase : Path uso baseSpace basePath) (hspace : Path uso space path)
    (hnamed : ∀ type ∈ basePath ++ path, NamedSpace type) {fuel : ℕ} (hfuel : basePath.length + path.length < fuel)
    (baseOffset offset : Pose Q V) :
    locateSpace uso devices fuel baseSpace baseOffset atTimestamp space offset =
      .ok (specialResolve
        (RelationChain.empty.pushAll (chainSteps devices atTimestamp basePath baseOffset path offset))) := by
  simp only [locateSpace, ne_eq, hne, not_false_eq_true, if_true, buildRelationChain_eq hbase hspace hnamed hfuel,
    pushPoseIfNotIdentity_eq devices atTimestamp, pushInvertedPoseIfNotIdentity_eq devices atTimestamp,
    ← pushAll_append, chainSteps, List.flatMap_cons, List.reverse_cons, List.flatMap_append, List.flatMap_nil,
    List.append_nil, List.append_assoc]

theorem locateSpace_self_eq (uso : BSpaceOverseer (Pose Q V)) (devices : TrackedPoses Q V) (atTimestamp : Int64)
    (space : SpaceId) (fuel : ℕ) (baseOffset offset : Pose Q V) :
    locateSpace uso devices fuel space baseOffset atTimestamp space offset =
      .ok (specialResolve (RelationChain.empty.pushAll (chainSteps devices atTimestamp [] baseOffset [] offset))) := by
  simp only [locateSpace, ne_eq, not_true_eq_false, if_false, pushPoseIfNotIdentity_eq devices atTimestamp,
    pushInvertedPoseIfNotIdentity_eq devices atTimestamp, ← pushAll_append, chainSteps, List.flatMap_cons,
    List.reverse_cons, List.reverse_nil, List.nil_append, List.flatMap_nil, List.append_nil]

/-! ## Flags of paths -/

/-- The flags that all relations of the two paths have. -/
def composedFlags (devices : TrackedPoses Q V) (atTimestamp : Int64) (basePath path : List (USpaceType (Pose Q V))) :
    RelationFlags :=
  commonFlags ((path ++ basePath).map (nodeRelation devices atTimestamp))

omit [MathApi Q V] in
theorem commonFlags_congr {steps steps' : List (SpaceRelation Q V)}
    (h : ∀ bit : RelationFlags → Bool, bit .all = true →
      (steps.all fun r => bit r.relationFlags) = steps'.all fun r => bit r.relationFlags) :
    commonFlags steps = commonFlags steps' := by
  simp only [commonFlags, RelationFlags.mk.injEq]
  exact ⟨h (·.hasOrientation) rfl, h (·.hasPosition) rfl, h (·.hasLinearVelocity) rfl, h (·.hasAngularVelocity) rfl,
    h (·.hasTrackedOrientation) rfl, h (·.hasTrackedPosition) rfl⟩

theorem relationFlags_inverseRelation (devices : TrackedPoses Q V) (atTimestamp : Int64)
    (type : USpaceType (Pose Q V)) :
    (inverseRelation devices atTimestamp type).relationFlags =
      (nodeRelation devices atTimestamp type).relationFlags := by
  cases type <;> rfl

theorem all_pushed (h : skipped type = true → bit (relation type).relationFlags = true) :
    ((pushed relation type).all fun r => bit r.relationFlags) = bit (relation type).relationFlags := by
  unfold pushed
  split
  · rename_i hskipped
    exact (h hskipped).symm
  · exact Bool.and_true _

theorem relationFlags_of_skipped (h : skipped type = true) :
    (nodeRelation devices atTimestamp type).relationFlags = .all := by
  cases type with
  | pose xdev xname => cases h
  | null | offset _ | root | attachable => rfl

theorem all_relations (hbit : bit .all = true) (devices : TrackedPoses Q V) (atTimestamp : Int64)
    (basePath : List (USpaceType (Pose Q V))) (baseOffset : Pose Q V) (path : List (USpaceType (Pose Q V)))
    (offset : Pose Q V) :
    ((((USpaceType.offset offset) :: path).all fun type => bit (nodeRelation devices atTimestamp type).relationFlags) &&
      ((USpaceType.offset baseOffset) :: basePath).all fun type =>
        bit (nodeRelation devices atTimestamp type).relationFlags) =
      ((path ++ basePath).map (nodeRelation devices atTimestamp)).all fun r => bit r.relationFlags := by
  have hoffset : ∀ pose, bit (nodeRelation devices atTimestamp (.offset pose)).relationFlags = true := fun _ => hbit
  simp only [List.all_cons, hoffset, Bool.true_and, List.all_map, List.all_append, Function.comp_def]

theorem commonFlags_chainSteps (devices : TrackedPoses Q V) (atTimestamp : Int64)
    (basePath : List (USpaceType (Pose Q V))) (baseOffset : Pose Q V) (path : List (USpaceType (Pose Q V)))
    (offset : Pose Q V) :
    commonFlags (chainSteps devices atTimestamp basePath baseOffset path offset) =
      composedFlags devices atTimestamp basePath path := by
  refine commonFlags_congr fun bit hbit => ?_
  have hskipped : ∀ type, skipped type = true → bit (nodeRelation devices atTimestamp type).relationFlags = true :=
    fun type h => (congrArg bit (relationFlags_of_skipped h)).trans hbit
  have hinverse : ∀ type, skipped type = true →
      bit (inverseRelation devices atTimestamp type).relationFlags = true := by
    intro type h
    rw [relationFlags_inverseRelation]
    exact hskipped type h
  simp only [chainSteps, List.all_append, List.all_flatMap, List.all_reverse, all_pushed (hskipped _),
    all_pushed (hinverse _), relationFlags_inverseRelation]
  exact all_relations hbit devices atTimestamp basePath baseOffset path offset

end

/-! ## Motions of paths -/

variable {Q V : Type} [MathApi Q V] [CrossProduct V] [ExactMath Q V] {devices : TrackedPoses Q V} {atTimestamp : Int64}
  {basePath path : List (USpaceType (Pose Q V))} {type : USpaceType (Pose Q V)}

def nodeMotion (devices : TrackedPoses Q V) (atTimestamp : Int64) (type : USpaceType (Pose Q V)) : Motion V :=
  (nodeRelation devices atTimestamp type).motion

theorem motion_inverseRelation (devices : TrackedPoses Q V) (atTimestamp : Int64) (type : USpaceType (Pose Q V)) :
    (inverseRelation devices atTimestamp type).motion = (nodeMotion devices atTimestamp type).turned := by
  have hpose : ∀ pose : Pose Q V, pose.motion.turned = pose.motion⁻¹ := fun pose => Motion.turned_pose _ _
  cases type with
  | pose xdev xname => exact motion_invert _
  | offset pose => simp only [inverseRelation, nodeMotion, nodeRelation, motion_fromPose, motion_poseInvert, hpose]
  | null | root | attachable =>
    simp only [inverseRelation, nodeMotion, nodeRelation, motion_fromPose, motion_identity, Motion.turned_one]

theorem motion_of_skipped (h : skipped type = true) : nodeMotion devices atTimestamp type = 1 := by
  cases type with
  | pose xdev xname => cases h
  | offset pose => exact (motion_fromPose pose).trans (motion_of_isIdentity h)
  | null | root | attachable => exact (motion_fromPose _).trans motion_identity

theorem along_pushed {relation : USpaceType (Pose Q V) → SpaceRelation Q V}
    (h : skipped type = true → (relation type).motion = 1) :
    along ((pushed relation type).map SpaceRelation.motion) = (relation type).motion := by
  unfold pushed
  split
  · rename_i hskipped
    exact (h hskipped).symm
  · exact along_singleton _

/-- The motion of the space in the base: the offset, the path to the root, the path from the root to the base taken
backwards, and the offset of the base taken backwards. -/
def composedMotion (devices : TrackedPoses Q V) (atTimestamp : Int64) (basePath : List (USpaceType (Pose Q V)))
    (baseOffset : Pose Q V) (path : List (USpaceType (Pose Q V))) (offset : Pose Q V) : Motion V :=
  baseOffset.motion⁻¹ * (along (basePath.map (nodeMotion devices atTimestamp)))⁻¹ *
    along (path.map (nodeMotion devices atTimestamp)) * offset.motion

/-- The motion that the chain has, in which the motions of the base are turned round one by one. -/
def chainMotion (devices : TrackedPoses Q V) (atTimestamp : Int64) (basePath : List (USpaceType (Pose Q V)))
    (baseOffset : Pose Q V) (path : List (USpaceType (Pose Q V))) (offset : Pose Q V) : Motion V :=
  baseOffset.motion⁻¹ *
    along ((basePath.map (nodeMotion devices atTimestamp)).map Motion.turned).reverse *
    along (path.map (nodeMotion devices atTimestamp)) * offset.motion

theorem chainMotion_eq_composedMotion_iff (devices : TrackedPoses Q V) (atTimestamp : Int64)
    (basePath : List (USpaceType (Pose Q V))) (baseOffset : Pose Q V) (path : List (USpaceType (Pose Q V)))
    (offset : Pose Q V) :
    chainMotion devices atTimestamp basePath baseOffset path offset =
        composedMotion devices atTimestamp basePath baseOffset path offset ↔
      spin (basePath.map (nodeMotion devices atTimestamp)) = 0 ∧
        slip (basePath.map (nodeMotion devices atTimestamp)) = 0 := by
  rw [chainMotion, composedMotion, mul_left_inj, mul_left_inj, mul_right_inj, along_turned_eq_inv_iff]

theorem along_relations (devices : TrackedPoses Q V) (atTimestamp : Int64) (basePath : List (USpaceType (Pose Q V)))
    (baseOffset : Pose Q V) (path : List (USpaceType (Pose Q V))) (offset : Pose Q V) :
    along (((USpaceType.offset baseOffset) :: basePath).reverse.map fun type =>
        (inverseRelation devices atTimestamp type).motion) *
      along (((USpaceType.offset offset) :: path).map (nodeMotion devices atTimestamp)) =
      chainMotion devices atTimestamp basePath baseOffset path offset := by
  have hoffset : nodeMotion devices atTimestamp (.offset offset) = offset.motion := motion_fromPose offset
  have hbaseOffset : (inverseRelation devices atTimestamp (.offset baseOffset)).motion = baseOffset.motion⁻¹ :=
    (motion_fromPose _).trans (motion_poseInvert baseOffset)
  rw [List.reverse_cons, List.map_append, along_append, List.map_singleton, along_singleton, hbaseOffset,
    List.map_cons, along, hoffset, List.map_reverse, chainMotion, List.map_map]
  simp only [Function.comp_def, ← motion_inverseRelation, mul_assoc]

theorem along_chainSteps (devices : TrackedPoses Q V) (atTimestamp : Int64) (basePath : List (USpaceType (Pose Q V)))
    (baseOffset : Pose Q V) (path : List (USpaceType (Pose Q V))) (offset : Pose Q V) :
    along ((chainSteps devices atTimestamp basePath baseOffset path offset).map SpaceRelation.motion) =
      chainMotion devices atTimestamp basePath baseOffset path offset := by
  have hinverse : ∀ type, skipped type = true → (inverseRelation devices atTimestamp type).motion = 1 := by
    intro type h
    rw [motion_inverseRelation, motion_of_skipped h, Motion.turned_one]
  rw [chainSteps, List.map_append, along_append, List.map_flatMap, List.map_flatMap,
    along_flatMap fun type _ => along_pushed motion_of_skipped,
    along_flatMap fun type _ => along_pushed (hinverse type)]
  exact along_relations devices atTimestamp basePath baseOffset path offset

theorem fullTraversal_spec (hvalid : ∀ type ∈ basePath ++ path, ValidSpace devices atTimestamp type)
    (baseOffset offset : Pose Q V) :
    (fullTraversal devices atTimestamp basePath baseOffset path offset).motion =
        chainMotion devices atTimestamp basePath baseOffset path offset ∧
      (fullTraversal devices atTimestamp basePath baseOffset path offset).relationFlags =
        composedFlags devices atTimestamp basePath path := by
  have hne : fullSteps devices atTimestamp basePath baseOffset path offset ≠ [] := by rintro ⟨⟩
  obtain ⟨hmotion, hflags⟩ := mRelationChainResolve_spec hne (valid_fullSteps hvalid baseOffset offset)
  refine ⟨hmotion.trans ?_, hflags.trans ?_⟩
  · rw [fullSteps, List.map_append, along_append, List.map_map, List.map_map]
    exact along_relations devices atTimestamp basePath baseOffset path offset
  · refine commonFlags_congr fun bit hbit => ?_
    rw [fullSteps, List.all_append, List.all_map, List.all_map, List.all_reverse]
    simp only [Function.comp_def, relationFlags_inverseRelation]
    exact all_relations hbit devices atTimestamp basePath baseOffset path offset

theorem specialResolve_spec {xrc : RelationChain Q V} (h : ∀ r ∈ xrc.steps, r.Valid) :
    (specialResolve xrc).motion = along (xrc.steps.map SpaceRelation.motion) ∧
      (specialResolve xrc).relationFlags = commonFlags xrc.steps := by
  unfold specialResolve
  split
  · rename_i hnil
    rw [hnil]
    exact ⟨(motion_fromPose _).trans motion_identity, rfl⟩
  · rename_i hne
    exact mRelationChainResolve_spec hne h

theorem specialResolve_chainSteps (hvalid : ∀ type ∈ basePath ++ path, ValidSpace devices atTimestamp type)
    {baseOffset offset : Pose Q V}
    (hfits : (chainSteps devices atTimestamp basePath baseOffset path offset).length ≤ XRT_RELATION_CHAIN_CAPACITY) :
    (specialResolve
        (RelationChain.empty.pushAll (chainSteps devices atTimestamp basePath baseOffset path offset))).motion =
      chainMotion devices atTimestamp basePath baseOffset path offset ∧
    (specialResolve
        (RelationChain.empty.pushAll (chainSteps devices atTimestamp basePath baseOffset path offset))).relationFlags =
      composedFlags devices atTimestamp basePath path := by
  have hsteps := steps_pushAll_empty hfits
  have hvalidSteps : ∀ r ∈ (RelationChain.empty.pushAll
      (chainSteps devices atTimestamp basePath baseOffset path offset)).steps, r.Valid := by
    rw [hsteps]
    exact valid_chainSteps hvalid baseOffset offset
  obtain ⟨hmotion, hflags⟩ := specialResolve_spec hvalidSteps
  rw [hmotion, hflags, hsteps]
  exact ⟨along_chainSteps .., commonFlags_chainSteps ..⟩

/-! ## Locating -/

/-- Locating gives the composed motion with the flags that all relations have, and the full traversal gives the
same. -/
def LocatesAsComposed (uso : BSpaceOverseer (Pose Q V)) (devices : TrackedPoses Q V) (fuel : ℕ) (baseSpace : SpaceId)
    (basePath : List (USpaceType (Pose Q V))) (baseOffset : Pose Q V) (atTimestamp : Int64) (space : SpaceId)
    (path : List (USpaceType (Pose Q V))) (offset : Pose Q V) : Prop :=
  ∃ r, locateSpace uso devices fuel baseSpace baseOffset atTimestamp space offset = .ok r ∧
    r.motion = composedMotion devices atTimestamp basePath baseOffset path offset ∧
    r.relationFlags = composedFlags devices atTimestamp basePath path ∧
    (fullTraversal devices atTimestamp basePath baseOffset path offset).motion = r.motion ∧
    (fullTraversal devices atTimestamp basePath baseOffset path offset).relationFlags = r.relationFlags

variable {uso : BSpaceOverseer (Pose Q V)} {baseSpace space : SpaceId} {basePath path : List (USpaceType (Pose Q V))}
  {baseOffset offset : Pose Q V} {fuel : ℕ}

theorem locatesAsComposed_of_ne (hne : space ≠ baseSpace) (hbase : Path uso baseSpace basePath)
    (hspace : Path uso space path) (hvalid : ∀ type ∈ basePath ++ path, ValidSpace devices atTimestamp type)
    (hfits : (chainSteps devices atTimestamp basePath baseOffset path offset).length ≤ XRT_RELATION_CHAIN_CAPACITY)
    (hfuel : basePath.length + path.length < fuel) :
    LocatesAsComposed uso devices fuel baseSpace basePath baseOffset atTimestamp space path offset ↔
      spin (basePath.map (nodeMotion devices atTimestamp)) = 0 ∧
        slip (basePath.map (nodeMotion devices atTimestamp)) = 0 := by
  have hnamed := fun type htype => (hvalid type htype).named
  have hlocate := locateSpace_eq devices atTimestamp hne hbase hspace hnamed hfuel baseOffset offset
  obtain ⟨hmotion, hflags⟩ := specialResolve_chainSteps hvalid hfits
  obtain ⟨hfull, hfullFlags⟩ := fullTraversal_spec hvalid baseOffset offset
  rw [← chainMotion_eq_composedMotion_iff devices atTimestamp basePath baseOffset path offset, ← hmotion]
  constructor
  · rintro ⟨r, hr, hcomposed, -⟩
    rw [hlocate] at hr
    cases hr
    exact hcomposed
  · intro hcomposed
    exact ⟨_, hlocate, hcomposed, hflags, hfull.trans hmotion.symm, hfullFlags.trans hflags.symm⟩

theorem locatesAsComposed_self (hvalid : ∀ type ∈ path, ValidSpace devices atTimestamp type) :
    LocatesAsComposed uso devices fuel space path baseOffset atTimestamp space path offset ↔
      (spin (path.map (nodeMotion devices atTimestamp)) = 0 ∧
        slip (path.map (nodeMotion devices atTimestamp)) = 0) ∧
      composedFlags devices atTimestamp path path = .all := by
  have hnothing : ∀ type ∈ ([] ++ [] : List (USpaceType (Pose Q V))), ValidSpace devices atTimestamp type := by
    rintro type ⟨⟩
  obtain ⟨hmotion, hflags⟩ := specialResolve_chainSteps hnothing
    (length_offsets_le devices atTimestamp baseOffset offset)
  have hcomposed : chainMotion devices atTimestamp [] baseOffset [] offset =
      composedMotion devices atTimestamp path baseOffset path offset := by
    simp only [chainMotion, composedMotion, List.map_nil, List.reverse_nil, along, mul_one, inv_mul_cancel_right]
  obtain ⟨hfull, hfullFlags⟩ := fullTraversal_spec
    (fun type htype => hvalid type ((List.mem_append.1 htype).elim id id)) baseOffset offset
  rw [← chainMotion_eq_composedMotion_iff devices atTimestamp path baseOffset path offset, ← hcomposed, ← hmotion]
  constructor
  · rintro ⟨r, hr, -, hrflags, hfullMotion, -⟩
    rw [locateSpace_self_eq] at hr
    cases hr
    exact ⟨hfull.symm.trans hfullMotion, hrflags.symm.trans hflags⟩
  · rintro ⟨hturned, hall⟩
    exact ⟨_, locateSpace_self_eq uso devices atTimestamp space fuel baseOffset offset, hmotion.trans hcomposed,
      hflags.trans hall.symm, hfull.trans hturned, hfullFlags.trans (hall.trans hflags.symm)⟩

/-- Locating is the composition of the paths exactly when what inverting the motions along the path of the base
leaves over cancels and, for a space in itself, all devices on its path are tracked. -/
theorem locatesAsComposed_iff (hbase : Path uso baseSpace basePath) (hspace : Path uso space path)
    (hvalid : ∀ type ∈ basePath ++ path, ValidSpace devices atTimestamp type)
    (hfits : (chainSteps devices atTimestamp basePath baseOffset path offset).length ≤ XRT_RELATION_CHAIN_CAPACITY)
    (hfuel : basePath.length + path.length < fuel) :
    LocatesAsComposed uso devices fuel baseSpace basePath baseOffset atTimestamp space path offset ↔
      (spin (basePath.map (nodeMotion devices atTimestamp)) = 0 ∧
        slip (basePath.map (nodeMotion devices atTimestamp)) = 0) ∧
      (space = baseSpace → composedFlags devices atTimestamp basePath path = .all) := by
  by_cases heq : space = baseSpace
  · -- the short cut takes no path, the other two sides take the one path up and down
    subst heq
    obtain rfl := hbase.unique hspace
    rw [locatesAsComposed_self fun type htype => hvalid type (List.mem_append_left _ htype)]
    simp only [forall_const]
  · rw [locatesAsComposed_of_ne heq hbase hspace hvalid hfits hfuel]
    simp only [heq, false_imp_iff, and_true]

/-! ## A head that moves -/

def headSpaces : BSpaceOverseer (Pose (UnitQuat ℚ) (Vec3 ℚ)) :=
  { (bSpaceOverseerCreate : BSpaceOverseer (Pose (UnitQuat ℚ) (Vec3 ℚ))) with
    spaces := fun
      | 0 => some ⟨none, .root⟩
      | 1 => some ⟨some 0, .null⟩
      | 2 => some ⟨some 1, .pose 1 XRT_INPUT_GENERIC_HEAD_POSE⟩
      | 3 => some ⟨some 0, .offset ⟨.one, ⟨0, 1, 0⟩⟩⟩
      | _ => none
    count := 4 }

theorem unit_halfTurn : (0 : ℚ) * 0 + 0 * 0 + 1 * 1 + 0 * 0 = 1 := by norm_num

def halfTurn : UnitQuat ℚ := ⟨0, 0, 1, 0, unit_halfTurn⟩

/-- The head is turned by half a turn and moves with the velocities. -/
def movingHead (linear angular : Vec3 ℚ) : TrackedPoses (UnitQuat ℚ) (Vec3 ℚ) := fun _ _ _ =>
  ⟨.all, ⟨halfTurn, ⟨0, 0, 0⟩⟩, linear, angular⟩

theorem path_head : Path headSpaces 2 [.pose 1 XRT_INPUT_GENERIC_HEAD_POSE, .null] :=
  .link rfl (by rintro ⟨⟩) (.link rfl (by rintro ⟨⟩) (.root rfl))

theorem path_above : Path headSpaces 3 [.offset ⟨.one, ⟨0, 1, 0⟩⟩] := .link rfl (by rintro ⟨⟩) (.root rfl)

theorem validSpace_movingHead (linear angular : Vec3 ℚ) :
    ∀ type ∈ [.pose 1 XRT_INPUT_GENERIC_HEAD_POSE, .null] ++ [USpaceType.offset ⟨.one, ⟨0, 1, 0⟩⟩],
      ValidSpace (movingHead linear angular) 0 type := by
  intro type htype
  simp only [List.cons_append, List.nil_append, List.mem_cons, List.not_mem_nil, or_false] at htype
  rcases htype with rfl | rfl | rfl
  · exact ⟨by decide, by decide, rfl, rfl, rfl, rfl⟩
  · trivial
  · trivial

/-- A head that moves to the side: in its space, what rests moves to the wrong side. -/
theorem movingHead_not_composed :
    ¬ LocatesAsComposed headSpaces (movingHead ⟨1, 0, 0⟩ ⟨0, 0, 0⟩) 4 2
      [.pose 1 XRT_INPUT_GENERIC_HEAD_POSE, .null] XRT_POSE_IDENTITY 0 3 [.offset ⟨.one, ⟨0, 1, 0⟩⟩]
      XRT_POSE_IDENTITY := by
  rw [locatesAsComposed_of_ne (by decide) path_head path_above (validSpace_movingHead _ _) (by decide) (by decide)]
  rintro ⟨-, hslip⟩
  revert hslip
  decide +kernel

/-- A head that turns about its own axis: what is left over cancels. -/
theorem locatesAsComposed_iff_turningHead :
    LocatesAsComposed headSpaces (movingHead ⟨0, 0, 0⟩ ⟨0, 0, 1⟩) 4 2
      [.pose 1 XRT_INPUT_GENERIC_HEAD_POSE, .null] XRT_POSE_IDENTITY 0 3 [.offset ⟨.one, ⟨0, 1, 0⟩⟩]
      XRT_POSE_IDENTITY :=
  (locatesAsComposed_iff path_head path_above (validSpace_movingHead _ _) (by decide) (by decide)).2
    ⟨⟨by decide +kernel, by decide +kernel⟩, fun h => absurd h (by decide)⟩

end AugmentedInsanity.Base
