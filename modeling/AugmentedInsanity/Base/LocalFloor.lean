/-
The local floor spaces: each has the orientation and the horizontal place of a local space, and the height of the
stage. There is one pair of a local and a local floor space for the system, and one for each client that got its own
(`create_local_space`). Recentering and setting offsets derive the floor of the system anew; the floors of the clients
keep the height that the stage had when they were made (`localFloors_iff`).
-/
import AugmentedInsanity.Base.SpaceGraph

namespace AugmentedInsanity.Base

open Runs Xrt

/-! ## Poses -/

/-- `struct xrt_quat`, of any length. -/
structure Quat (K : Type) where
  x : K
  y : K
  z : K
  w : K
  deriving DecidableEq

abbrev ExactPose (K : Type) := Pose (Quat K) (Vec3 K)

variable {K : Type} [CommRing K] [DecidableEq K]

/-- The negative of a quaternion stands for the same rotation. -/
def Quat.neg (q : Quat K) : Quat K := ⟨-q.x, -q.y, -q.z, -q.w⟩

def ExactPose.isIdentity (pose : ExactPose K) : Bool :=
  pose.position == ⟨0, 0, 0⟩ && pose.orientation.x == 0 && pose.orientation.y == 0 && pose.orientation.z == 0 &&
    (pose.orientation.w == 1 || pose.orientation.w == -1)

instance : PoseParts (ExactPose K) where
  identity := ⟨⟨0, 0, 0, 1⟩, ⟨0, 0, 0⟩⟩
  isIdentity := ExactPose.isIdentity
  withHeightOf pose other := ⟨pose.orientation, ⟨pose.position.x, other.position.y, pose.position.z⟩⟩
  withPlaceOf pose other := ⟨other.orientation, ⟨other.position.x, pose.position.y, other.position.z⟩⟩

/-- What the local spaces are made with: `math_quat_normalize` and the height of a standing user's eyes. -/
class UprightMath (K : Type) where
  quatNormalize : Quat K → Quat K
  eyeHeight : K

def upright [UprightMath K] (pose : ExactPose K) : ExactPose K :=
  { pose with orientation := UprightMath.quatNormalize { pose.orientation with x := 0, z := 0 } }

def ExactPose.atHeight (pose : ExactPose K) (y : K) : ExactPose K :=
  ⟨pose.orientation, ⟨pose.position.x, y, pose.position.z⟩⟩

structure SamePose (p q : ExactPose K) : Prop where
  orientation : p.orientation = q.orientation ∨ p.orientation = q.orientation.neg
  position : p.position = q.position

/-! ## The overseer with the local spaces of the clients -/

/-- The overseer, with its `localspace` and `localfloorspace` tables. -/
structure LocalSpaces (K : Type) where
  uso : BSpaceOverseer (ExactPose K)
  pairs : ℕ → Option (SpaceId × SpaceId)

/-- `b_space_overseer_create`. -/
def LocalSpaces.create : LocalSpaces K := ⟨bSpaceOverseerCreate, fun _ => none⟩

/-- The height in `ustage->offset.pose`, which is 0 in spaces that have no offset. -/
def stageHeight (uso : BSpaceOverseer (ExactPose K)) : K :=
  match (uso.semantic .stage).bind uso.typeOf with
  | some (.offset pose) => pose.position.y
  | _ => 0

/-- The pose of a new local space in the root, from where the view is located. -/
def localPose [UprightMath K] (located : Option (ExactPose K)) : ExactPose K :=
  upright (located.getD ((PoseParts.identity : ExactPose K).atHeight UprightMath.eyeHeight))

/-- `create_local_space`: the new pair, or the one of the system. -/
def createLocalPair [UprightMath K] (uso : BSpaceOverseer (ExactPose K)) (located : Option (ExactPose K)) :
    Option (Option (SpaceId × SpaceId) × BSpaceOverseer (ExactPose K)) :=
  if !uso.perAppLocalSpaces then
    some ((uso.semantic .localSpace).bind fun l => (uso.semantic .localFloor).map fun f => (l, f), uso)
  else
    match uso.semantic .view with
    | none => none
    | some _ => do
      let (l, uso) ← createOffsetSpace uso uso.root (localPose located)
      let (f, uso) ← createOffsetSpace uso uso.root ((localPose located).atHeight (stageHeight uso))
      some (some (l, f), uso)

/-- A call; where the view is located in the root, or in the parent of the local spaces, comes from the devices. -/
inductive LocalSpacesOp (K : Type)
  | legacySetup (xdevs : List (XrtTrackedDevice (ExactPose K))) (head : Option (XrtTrackedDevice (ExactPose K)))
      (localOffset : ExactPose K) (rootIsUnbounded perAppLocalSpaces : Bool)
  | createLocalSpace (entry : ℕ) (located : Option (ExactPose K))
  | releaseLocalSpace (entry : ℕ)
  | recenterLocalSpaces (view : Option (ExactPose K))
  | setReferenceSpaceOffset (type : XrtReferenceSpaceType) (offset : ExactPose K)
  | getReferenceSpaceOffset (type : XrtReferenceSpaceType)

def localSpacesStep [UprightMath K] (s : LocalSpaces K) : LocalSpacesOp K → Option (LocalSpaces K)
  | .legacySetup xdevs head localOffset rootIsUnbounded perAppLocalSpaces =>
    (legacySetup s.uso xdevs head localOffset (localOffset.atHeight 0) rootIsUnbounded perAppLocalSpaces).map fun uso =>
      { s with uso := uso }
  | .createLocalSpace entry located =>
    (createLocalPair s.uso located).map fun (pair, uso) => ⟨uso, Function.update s.pairs entry pair⟩
  | .releaseLocalSpace entry => some { s with pairs := Function.update s.pairs entry none }
  | .recenterLocalSpaces view =>
    (recenterLocalSpaces s.uso (view.map upright)).map fun (_, uso) => { s with uso := uso }
  | .setReferenceSpaceOffset type offset =>
    (setReferenceSpaceOffset s.uso type offset).map fun (_, uso) => { s with uso := uso }
  | .getReferenceSpaceOffset _ => some s

/-! ## What is to hold -/

/-- The pose in the root of a space that is in the root, or that is polled from a device. -/
def poseInRoot (uso : BSpaceOverseer (ExactPose K)) (poll : ℕ → XrtInputName → ExactPose K) (id : SpaceId) :
    Option (ExactPose K) :=
  match uso.spaces id with
  | some ⟨some parent, .null⟩ => if parent = uso.root then some PoseParts.identity else none
  | some ⟨some parent, .offset pose⟩ => if parent = uso.root then some pose else none
  | some ⟨some _, .pose xdev xname⟩ => some (poll xdev xname)
  | _ => none

/-- The floor is where the local space is, at the height of the stage. -/
def FloorDerived (uso : BSpaceOverseer (ExactPose K)) (poll : ℕ → XrtInputName → ExactPose K)
    (l f stage : SpaceId) : Prop :=
  ∃ pl pf ps, poseInRoot uso poll l = some pl ∧ poseInRoot uso poll f = some pf ∧
    poseInRoot uso poll stage = some ps ∧ SamePose pf (pl.atHeight ps.position.y)

/-- All floors are derived, whatever the devices report: the one of the system and those of the clients. -/
def LocalFloorsOk (s : LocalSpaces K) : Prop :=
  ∀ poll l f, ((s.uso.semantic .localSpace = some l ∧ s.uso.semantic .localFloor = some f) ∨
    ∃ entry, s.pairs entry = some (l, f)) →
    ∃ stage, s.uso.semantic .stage = some stage ∧ FloorDerived s.uso poll l f stage

/-- The stage is the overseer's own, and its height is only changed while no client has local spaces of its own. -/
def StageKept [UprightMath K] (s : LocalSpaces K) (op : LocalSpacesOp K) : Prop :=
  localSpacesStep s op ≠ none →
    match op with
    | .legacySetup _ head _ _ _ => head.filter XrtTrackedDevice.supportsStage = none
    | .setReferenceSpaceOffset .stage offset =>
      s.uso.perAppLocalSpaces = true → (∃ entry pair, s.pairs entry = some pair) →
        offset.position.y = stageHeight s.uso
    | _ => True

/-! ## Poses that are the same -/

omit [DecidableEq K] in
theorem Quat.neg_involutive (q : Quat K) : q.neg.neg = q := by
  simp only [Quat.neg, neg_neg]

namespace SamePose

variable {p q r : ExactPose K}

omit [DecidableEq K] in
theorem refl (p : ExactPose K) : SamePose p p := ⟨Or.inl rfl, rfl⟩

omit [DecidableEq K] in
theorem symm (h : SamePose p q) : SamePose q p := by
  refine ⟨h.orientation.imp Eq.symm fun hneg => ?_, h.position.symm⟩
  rw [hneg, Quat.neg_involutive]

omit [DecidableEq K] in
theorem trans (hpq : SamePose p q) (hqr : SamePose q r) : SamePose p r := by
  refine ⟨?_, hpq.position.trans hqr.position⟩
  rcases hpq.orientation with hp | hp <;> rcases hqr.orientation with hq | hq <;> rw [hp, hq]
  · exact Or.inl rfl
  · exact Or.inr rfl
  · exact Or.inr rfl
  · exact Or.inl (Quat.neg_involutive _)

omit [DecidableEq K] in
theorem atHeight (h : SamePose p q) (y : K) : SamePose (p.atHeight y) (q.atHeight y) := by
  refine ⟨h.orientation, ?_⟩
  simp only [ExactPose.atHeight, h.position]

end SamePose

theorem samePose_of_isIdentity {pose : ExactPose K} (h : PoseParts.isIdentity pose = true) :
    SamePose PoseParts.identity pose := by
  have h : pose.isIdentity = true := h
  simp only [ExactPose.isIdentity, Bool.and_eq_true, Bool.or_eq_true, beq_iff_eq] at h
  obtain ⟨⟨⟨⟨hposition, hx⟩, hy⟩, hz⟩, hw⟩ := h
  obtain ⟨⟨x, y, z, w⟩, position⟩ := pose
  simp only at hposition hx hy hz hw
  subst hposition hx hy hz
  rcases hw with rfl | rfl
  · exact SamePose.refl _
  · refine ⟨Or.inr ?_, rfl⟩
    simp [PoseParts.identity, Quat.neg]

/-! ## Spaces in the root -/

def offsetType (pose : ExactPose K) : USpaceType (ExactPose K) :=
  if PoseParts.isIdentity pose then .null else .offset pose

def OffsetIs : USpaceType (ExactPose K) → ExactPose K → Prop
  | .null, pose => SamePose PoseParts.identity pose
  | .offset offset, pose => SamePose offset pose
  | _, _ => False

def Stands (uso : BSpaceOverseer (ExactPose K)) (id : SpaceId) (pose : ExactPose K) : Prop :=
  ∃ type, uso.spaces id = some ⟨some uso.root, type⟩ ∧ OffsetIs type pose

theorem offsetIs_offsetType (pose : ExactPose K) : OffsetIs (offsetType pose) pose := by
  unfold offsetType
  split
  · rename_i h
    exact samePose_of_isIdentity h
  · exact SamePose.refl pose

section

variable {uso : BSpaceOverseer (ExactPose K)} {id id' : SpaceId} {pose pose' : ExactPose K}

theorem Stands.poseInRoot (h : Stands uso id pose) (poll : ℕ → XrtInputName → ExactPose K) :
    ∃ p, poseInRoot uso poll id = some p ∧ SamePose p pose := by
  obtain ⟨type, hus, hoffset⟩ := h
  unfold Base.poseInRoot
  rw [hus]
  cases type with
  | null => exact ⟨_, if_pos rfl, hoffset⟩
  | offset offset => exact ⟨_, if_pos rfl, hoffset⟩
  | _ => cases hoffset

theorem Stands.compatible (h : Stands uso id pose) : spaceIsOffsetCompatible uso (some id) = true := by
  obtain ⟨type, hus, hoffset⟩ := h
  unfold spaceIsOffsetCompatible BSpaceOverseer.typeOf
  rw [Option.bind_some, hus]
  cases type with
  | null => rfl
  | offset offset => rfl
  | _ => cases hoffset

theorem Stands.offset (h : Stands uso id pose) : SamePose (getOffsetOrIdent uso id) pose := by
  obtain ⟨type, hus, hoffset⟩ := h
  unfold getOffsetOrIdent BSpaceOverseer.typeOf
  rw [hus]
  cases type with
  | null => exact hoffset
  | offset offset => exact hoffset
  | _ => cases hoffset

def BSpaceOverseer.place (uso : BSpaceOverseer (ExactPose K)) (id : SpaceId) (pose : ExactPose K) :
    BSpaceOverseer (ExactPose K) :=
  { uso with spaces := Function.update uso.spaces id (some ⟨some uso.root, offsetType pose⟩) }

theorem updateOffset_eq (h : Stands uso id pose) (new : ExactPose K) :
    updateOffset uso id new = some (uso.place id new) := by
  have hcompatible := h.compatible
  obtain ⟨type, hus, -⟩ := h
  unfold updateOffset
  rw [hus]
  dsimp only
  rw [if_pos hcompatible]
  rfl

theorem stands_place (uso : BSpaceOverseer (ExactPose K)) (id : SpaceId) (pose : ExactPose K) :
    Stands (uso.place id pose) id pose :=
  ⟨offsetType pose, Function.update_self .., offsetIs_offsetType pose⟩

theorem Stands.place_of_ne (h : Stands uso id' pose') (hne : id' ≠ id) : Stands (uso.place id pose) id' pose' := by
  obtain ⟨type, hus, hoffset⟩ := h
  exact ⟨type, (Function.update_of_ne hne ..).trans hus, hoffset⟩

theorem stageHeight_eq (hstage : uso.semantic .stage = some id) (h : Stands uso id pose) :
    stageHeight uso = pose.position.y := by
  obtain ⟨type, hus, hoffset⟩ := h
  unfold stageHeight BSpaceOverseer.typeOf
  rw [hstage, Option.bind_some, hus]
  cases type with
  | null => exact congrArg Vec3.y hoffset.position
  | offset offset => exact congrArg Vec3.y hoffset.position
  | _ => cases hoffset

end

/-! ## Derived floors -/

def Derived (uso : BSpaceOverseer (ExactPose K)) (l f stage : SpaceId) : Prop :=
  ∃ pose stagePose, Stands uso l pose ∧ Stands uso f (pose.atHeight stagePose.position.y) ∧
    Stands uso stage stagePose

section

variable {uso : BSpaceOverseer (ExactPose K)} {l f stage : SpaceId}

theorem Derived.floorDerived (h : Derived uso l f stage) (poll : ℕ → XrtInputName → ExactPose K) :
    FloorDerived uso poll l f stage := by
  obtain ⟨pose, stagePose, hl, hf, hstage⟩ := h
  obtain ⟨pl, hpl, hsame⟩ := hl.poseInRoot poll
  obtain ⟨pf, hpf, hfloor⟩ := hf.poseInRoot poll
  obtain ⟨ps, hps, hheight⟩ := hstage.poseInRoot poll
  refine ⟨pl, pf, ps, hpl, hpf, hps, ?_⟩
  rw [hheight.position]
  exact hfloor.trans (hsame.atHeight _).symm

theorem Derived.place_local (h : Derived uso l f stage) (hlf : l ≠ f) (hls : l ≠ stage) (hfs : f ≠ stage)
    (pose : ExactPose K) :
    Derived ((uso.place l pose).place f (PoseParts.withPlaceOf (getOffsetOrIdent uso f) pose)) l f stage := by
  obtain ⟨old, stagePose, -, hf, hstage⟩ := h
  refine ⟨pose, stagePose, (stands_place uso l pose).place_of_ne hlf, ?_,
    (hstage.place_of_ne hls.symm).place_of_ne hfs.symm⟩
  -- the floor keeps its height, which is that of the stage
  have hheight : PoseParts.withPlaceOf (getOffsetOrIdent uso f) pose = pose.atHeight stagePose.position.y := by
    have hy : (getOffsetOrIdent uso f).position.y = (old.atHeight stagePose.position.y).position.y :=
      congrArg Vec3.y hf.offset.position
    simp only [PoseParts.withPlaceOf, ExactPose.atHeight, hy]
  rw [hheight]
  exact stands_place _ _ _

theorem Derived.place_stage (h : Derived uso l f stage) (hlf : l ≠ f) (hls : l ≠ stage) (hfs : f ≠ stage)
    (pose : ExactPose K) :
    Derived ((uso.place stage pose).place f (PoseParts.withHeightOf (getOffsetOrIdent uso f) pose)) l f stage := by
  obtain ⟨old, stagePose, hl, hf, -⟩ := h
  refine ⟨old, pose, (hl.place_of_ne hls).place_of_ne hlf, ?_, (stands_place uso stage pose).place_of_ne hfs.symm⟩
  have hstands := stands_place (uso.place stage pose) f (PoseParts.withHeightOf (getOffsetOrIdent uso f) pose)
  obtain ⟨type, hus, hoffset⟩ := hstands
  refine ⟨type, hus, ?_⟩
  have hsame : SamePose (PoseParts.withHeightOf (getOffsetOrIdent uso f) pose) (old.atHeight pose.position.y) :=
    hf.offset.atHeight pose.position.y
  cases type with
  | null => exact SamePose.trans hoffset hsame
  | offset offset => exact SamePose.trans hoffset hsame
  | _ => cases hoffset

theorem Derived.place_other {id : SpaceId} (h : Derived uso l f stage) (pose : ExactPose K) (hl : l ≠ id) (hf : f ≠ id)
    (hs : stage ≠ id) : Derived (uso.place id pose) l f stage := by
  obtain ⟨old, stagePose, hlocal, hfloor, hstage⟩ := h
  exact ⟨old, stagePose, hlocal.place_of_ne hl, hfloor.place_of_ne hf, hstage.place_of_ne hs⟩

theorem Derived.place_level (h : Derived uso l f stage) {pose : ExactPose K} (hl : l ≠ stage) (hf : f ≠ stage)
    (hstage : uso.semantic .stage = some stage) (hlevel : pose.position.y = stageHeight uso) :
    Derived (uso.place stage pose) l f stage := by
  obtain ⟨old, stagePose, hlocal, hfloor, hold⟩ := h
  rw [stageHeight_eq hstage hold] at hlevel
  refine ⟨old, pose, hlocal.place_of_ne hl, ?_, stands_place uso stage pose⟩
  rw [hlevel]
  exact hfloor.place_of_ne hf

end

/-! ## New spaces -/

section

variable {P : Type} {uso uso' : BSpaceOverseer P} {id : SpaceId} {type : USpaceType P} {s t u : BSpaceOverseer P}

structure Keeps (uso uso' : BSpaceOverseer P) : Prop where
  spaces : ∀ id us, uso.spaces id = some us → uso'.spaces id = some us
  root : uso'.root = uso.root
  canDo : uso'.canDoLocalSpacesRecenter = uso.canDoLocalSpacesRecenter
  perApp : uso'.perAppLocalSpaces = uso.perAppLocalSpaces

theorem Keeps.refl (uso : BSpaceOverseer P) : Keeps uso uso := ⟨fun _ _ h => h, rfl, rfl, rfl⟩

theorem Keeps.trans (hst : Keeps s t) (htu : Keeps t u) : Keeps s u :=
  ⟨fun id us h => htu.spaces id us (hst.spaces id us h), htu.root.trans hst.root, htu.canDo.trans hst.canDo,
    htu.perApp.trans hst.perApp⟩

theorem keeps_setSemantic (type : XrtReferenceSpaceType) (xs : SpaceId) (uso : BSpaceOverseer P) :
    Keeps uso (setSemantic type (xs, uso)) := ⟨fun _ _ h => h, rfl, rfl, rfl⟩

theorem semantic_setSemantic (type : XrtReferenceSpaceType) (xs : SpaceId) (uso : BSpaceOverseer P) :
    (setSemantic type (xs, uso)).semantic = Function.update uso.semantic type (some xs) := rfl

theorem ne_of_new {a b : SpaceId} (ha : uso.spaces a = none) (hb : uso.spaces b ≠ none) : a ≠ b := by
  rintro rfl
  exact hb ha

theorem createSpace_spec (hrooted : Rooted uso) {parent xs : SpaceId}
    (h : createSpace uso type parent = some (xs, uso')) :
    Keeps uso uso' ∧ uso'.semantic = uso.semantic ∧ uso.spaces xs = none ∧
      uso'.spaces xs = some ⟨some parent, type⟩ := by
  unfold createSpace at h
  split at h
  · cases h
  · cases h
    have hnew : uso.spaces uso.count = none := hrooted.fresh uso.count le_rfl
    refine ⟨⟨fun id us hus => ?_, rfl, rfl, rfl⟩, rfl, hnew, Function.update_self ..⟩
    refine (Function.update_of_ne ?_ ..).trans hus
    rintro rfl
    rw [hnew] at hus
    cases hus

def Unmovable (uso : BSpaceOverseer P) (id : SpaceId) : Prop :=
  uso.typeOf id = some .root ∨ ∃ xdev xname, uso.typeOf id = some (.pose xdev xname)

theorem Unmovable.incompatible (h : Unmovable uso id) : spaceIsOffsetCompatible uso (some id) = false := by
  unfold spaceIsOffsetCompatible
  rcases h with hroot | ⟨xdev, xname, hpose⟩
  · rw [Option.bind_some, hroot]
  · rw [Option.bind_some, hpose]

theorem Keeps.typeOf (h : Keeps uso uso') (htype : uso.typeOf id = some type) : uso'.typeOf id = some type := by
  obtain ⟨us, hus, heq⟩ := Option.map_eq_some_iff.1 htype
  exact Option.map_eq_some_iff.2 ⟨us, h.spaces id us hus, heq⟩

theorem Unmovable.keeps (h : Unmovable uso id) (hkeeps : Keeps uso uso') : Unmovable uso' id :=
  h.imp hkeeps.typeOf fun ⟨xdev, xname, hpose⟩ => ⟨xdev, xname, hkeeps.typeOf hpose⟩

structure SettingsKept (uso uso' : BSpaceOverseer P) : Prop where
  semantic : uso'.semantic = uso.semantic
  canDo : uso'.canDoLocalSpacesRecenter = uso.canDoLocalSpacesRecenter
  perApp : uso'.perAppLocalSpaces = uso.perAppLocalSpaces

theorem SettingsKept.refl (uso : BSpaceOverseer P) : SettingsKept uso uso := ⟨rfl, rfl, rfl⟩

theorem SettingsKept.trans (hst : SettingsKept s t) (htu : SettingsKept t u) : SettingsKept s u :=
  ⟨htu.semantic.trans hst.semantic, htu.canDo.trans hst.canDo, htu.perApp.trans hst.perApp⟩

theorem createSpace_settings {parent xs : SpaceId} (h : createSpace uso type parent = some (xs, uso')) :
    SettingsKept uso uso' := by
  unfold createSpace at h
  split at h
  · cases h
  · cases h
    exact ⟨rfl, rfl, rfl⟩

theorem linkSpaceToDevice_settings {xs : SpaceId} {xdev : ℕ} (h : linkSpaceToDevice uso xs xdev = some uso') :
    SettingsKept uso uso' := by
  unfold linkSpaceToDevice at h
  split at h
  · cases h
  · cases h
    exact ⟨rfl, rfl, rfl⟩

variable [PoseParts P]

theorem updateOffset_settings {pose : P} (h : updateOffset uso id pose = some uso') : SettingsKept uso uso' := by
  unfold updateOffset at h
  split at h
  · cases h
  · split at h
    · cases h
      exact ⟨rfl, rfl, rfl⟩
    · cases h

theorem spaceOfOrigin_settings {torig : XrtTrackingOrigin P} {xs : SpaceId}
    (h : spaceOfOrigin uso torig = some (xs, uso')) : SettingsKept uso uso' := by
  unfold spaceOfOrigin at h
  split at h
  · cases h
    exact .refl uso
  · split at h
    · obtain ⟨⟨xs', created⟩, hcreate, heq⟩ := Option.map_eq_some_iff.1 h
      cases heq
      have hcreated := createSpace_settings hcreate
      exact ⟨hcreated.semantic, hcreated.canDo, hcreated.perApp⟩
    · obtain ⟨⟨xs', created⟩, hcreate, hrest⟩ := Option.bind_eq_some_iff.1 h
      obtain ⟨moved, hmove, heq⟩ := Option.map_eq_some_iff.1 hrest
      cases heq
      have hmoved := (createSpace_settings hcreate).trans (updateOffset_settings hmove)
      exact ⟨hmoved.semantic, hmoved.canDo, hmoved.perApp⟩

theorem addDevices_settings {xdevs : List (XrtTrackedDevice P)} (h : xdevs.foldlM addDevice uso = some uso') :
    SettingsKept uso uso' := by
  induction xdevs generalizing uso with
  | nil =>
    cases h
    exact .refl _
  | cons xdev xdevs ih =>
    rw [List.foldlM_cons] at h
    obtain ⟨added, hadd, hrest⟩ := Option.bind_eq_some_iff.1 h
    obtain ⟨torig, -, hlinked⟩ := Option.bind_eq_some_iff.1 hadd
    obtain ⟨⟨xs, found⟩, hfound, hlink⟩ := Option.bind_eq_some_iff.1 hlinked
    exact ((spaceOfOrigin_settings hfound).trans (linkSpaceToDevice_settings hlink)).trans (ih hrest)

end

section

variable {uso uso' : BSpaceOverseer (ExactPose K)} {l f stage : SpaceId} {pose : ExactPose K}

theorem Stands.keeps {id : SpaceId} (h : Stands uso id pose) (hkeeps : Keeps uso uso') : Stands uso' id pose := by
  obtain ⟨type, hus, hoffset⟩ := h
  exact ⟨type, by rw [hkeeps.root]; exact hkeeps.spaces id _ hus, hoffset⟩

theorem Derived.keeps (h : Derived uso l f stage) (hkeeps : Keeps uso uso') : Derived uso' l f stage := by
  obtain ⟨old, stagePose, hlocal, hfloor, hstage⟩ := h
  exact ⟨old, stagePose, hlocal.keeps hkeeps, hfloor.keeps hkeeps, hstage.keeps hkeeps⟩

theorem createOffsetSpace_spec (hrooted : Rooted uso) {xs : SpaceId}
    (h : createOffsetSpace uso uso.root pose = some (xs, uso')) :
    Rooted uso' ∧ Keeps uso uso' ∧ uso'.semantic = uso.semantic ∧ uso.spaces xs = none ∧ Stands uso' xs pose := by
  obtain ⟨hkeeps, hsemantic, hnew, hus⟩ := createSpace_spec hrooted h
  refine ⟨(createOffsetSpace_grows h hrooted).1, hkeeps, hsemantic, hnew, ?_⟩
  exact ⟨offsetType pose, by rw [hkeeps.root]; exact hus, offsetIs_offsetType pose⟩

theorem Stands.exists {id : SpaceId} (h : Stands uso id pose) : uso.spaces id ≠ none := by
  obtain ⟨type, hus, -⟩ := h
  rw [hus]
  rintro ⟨⟩

end

/-! ## Setup -/

section

variable {uso uso' : BSpaceOverseer (ExactPose K)} {head : Option (XrtTrackedDevice (ExactPose K))} {stage : SpaceId}

structure StageSpace (uso : BSpaceOverseer (ExactPose K)) (head : Option (XrtTrackedDevice (ExactPose K)))
    (stage : SpaceId) : Prop where
  managed : head.filter XrtTrackedDevice.supportsStage = none → Stands uso stage PoseParts.identity
  polled : ∀ xdev, head.filter XrtTrackedDevice.supportsStage = some xdev →
    ∃ parent, uso.spaces stage = some ⟨some parent, .pose xdev.ptr XRT_INPUT_GENERIC_STAGE_SPACE_POSE⟩

theorem StageSpace.keeps (h : StageSpace uso head stage) (hkeeps : Keeps uso uso') :
    StageSpace uso' head stage where
  managed hhead := (h.managed hhead).keeps hkeeps
  polled xdev hhead := (h.polled xdev hhead).imp fun _ hus => hkeeps.spaces stage _ hus

theorem StageSpace.exists (h : StageSpace uso head stage) : uso.spaces stage ≠ none := by
  rcases hhead : head.filter XrtTrackedDevice.supportsStage with _ | xdev
  · exact (h.managed hhead).exists
  · obtain ⟨parent, hus⟩ := h.polled xdev hhead
    rw [hus]
    rintro ⟨⟩

theorem createStageSpace_spec (hrooted : Rooted uso) (h : createStageSpace uso head = some (stage, uso')) :
    Keeps uso uso' ∧ uso'.semantic = uso.semantic ∧ StageSpace uso' head stage := by
  unfold createStageSpace at h
  split at h
  · rename_i xdev hhead
    obtain ⟨parent, -, hcreate⟩ := Option.bind_eq_some_iff.1 h
    obtain ⟨hkeeps, hsemantic, -, hus⟩ := createSpace_spec hrooted hcreate
    refine ⟨hkeeps, hsemantic, fun hnone => ?_, fun xdev' hxdev => ?_⟩
    · rw [hhead] at hnone
      cases hnone
    · rw [hhead] at hxdev
      cases hxdev
      exact ⟨parent, hus⟩
  · rename_i hhead
    obtain ⟨hkeeps, hsemantic, -, hus⟩ := createSpace_spec hrooted h
    refine ⟨hkeeps, hsemantic, fun _ => ⟨.null, ?_, SamePose.refl _⟩, fun xdev hxdev => ?_⟩
    · rw [hkeeps.root]
      exact hus
    · rw [hhead] at hxdev
      cases hxdev

omit [CommRing K] [DecidableEq K] in
theorem createViewSpace_spec (hrooted : Rooted uso) (h : createViewSpace uso head = some uso') :
    Keeps uso uso' ∧ (∀ type, type ≠ .view → uso'.semantic type = uso.semantic type) ∧
      (uso.semantic .view = none → ∀ id, uso'.semantic .view = some id → Unmovable uso' id) := by
  unfold createViewSpace at h
  split at h
  · cases h
    refine ⟨.refl uso, fun _ _ => rfl, fun hnone id hid => ?_⟩
    rw [hnone] at hid
    cases hid
  · obtain ⟨⟨view, created⟩, hcreate, rfl⟩ := Option.map_eq_some_iff.1 h
    obtain ⟨parent, -, hcreate⟩ := Option.bind_eq_some_iff.1 hcreate
    obtain ⟨hkeeps, hsemantic, -, hus⟩ := createSpace_spec hrooted hcreate
    refine ⟨hkeeps.trans (keeps_setSemantic .view view created), fun type htype => ?_, fun _ id hid => ?_⟩
    · exact (Function.update_of_ne htype ..).trans (congrFun hsemantic type)
    · rw [semantic_setSemantic, Function.update_self] at hid
      cases hid
      exact Or.inr ⟨_, _, Option.map_eq_some_iff.2 ⟨_, hus, rfl⟩⟩

structure SetupSpaces (uso : BSpaceOverseer (ExactPose K)) (head : Option (XrtTrackedDevice (ExactPose K)))
    (localOffset floorOffset : ExactPose K) (l f stage : SpaceId) : Prop where
  semantic_local : uso.semantic .localSpace = some l
  semantic_floor : uso.semantic .localFloor = some f
  semantic_stage : uso.semantic .stage = some stage
  local_ne_floor : l ≠ f
  local_ne_stage : l ≠ stage
  floor_ne_stage : f ≠ stage
  local_stands : Stands uso l localOffset
  floor_stands : Stands uso f floorOffset
  stage_space : StageSpace uso head stage
  view : ∀ id, uso.semantic .view = some id → Unmovable uso id
  unbounded : ∀ id, uso.semantic .unbounded = some id → Unmovable uso id

omit [CommRing K] [DecidableEq K] in
theorem setUnbounded_spec (hrooted : Rooted uso) (hnone : uso.semantic .unbounded = none) (rootIsUnbounded : Bool) :
    Rooted (if rootIsUnbounded then setSemantic .unbounded (uso.root, uso) else uso) ∧
      Keeps uso (if rootIsUnbounded then setSemantic .unbounded (uso.root, uso) else uso) ∧
      (∀ type, type ≠ .unbounded →
        (if rootIsUnbounded then setSemantic .unbounded (uso.root, uso) else uso).semantic type = uso.semantic type) ∧
      ∀ id, (if rootIsUnbounded then setSemantic .unbounded (uso.root, uso) else uso).semantic .unbounded = some id →
        Unmovable (if rootIsUnbounded then setSemantic .unbounded (uso.root, uso) else uso) id := by
  split
  · refine ⟨((Grows.refl _).setSemantic .unbounded hrooted).1, keeps_setSemantic .unbounded _ _, fun type htype => ?_,
      fun id hid => ?_⟩
    · rw [semantic_setSemantic, Function.update_of_ne htype]
    · rw [semantic_setSemantic, Function.update_self] at hid
      cases hid
      exact Or.inl hrooted.root
  · refine ⟨hrooted, .refl uso, fun _ _ => rfl, fun id hid => ?_⟩
    rw [hnone] at hid
    cases hid

theorem legacySetup_spec (hrooted : Rooted uso) {xdevs : List (XrtTrackedDevice (ExactPose K))}
    {localOffset floorOffset : ExactPose K} {rootIsUnbounded perAppLocalSpaces : Bool}
    (h : legacySetup uso xdevs head localOffset floorOffset rootIsUnbounded perAppLocalSpaces = some uso') :
    uso.semantic .stage = none ∧ uso'.canDoLocalSpacesRecenter = uso.canDoLocalSpacesRecenter ∧
      uso'.perAppLocalSpaces = perAppLocalSpaces ∧
      ∃ l f stage, SetupSpaces uso' head localOffset floorOffset l f stage := by
  have hsettings : Grows uso { uso with perAppLocalSpaces := perAppLocalSpaces } :=
    grows_maps rfl rfl rfl (fun _ _ h => .inl h) (fun _ _ h => .inl h)
  obtain ⟨added, hadd, h⟩ := Option.bind_eq_some_iff.1 h
  have hadded : Rooted added := (addDevices_grows hadd (hsettings hrooted).1).1
  have hkept := addDevices_settings hadd
  dsimp only at h
  split at h
  · cases h
  rename_i hunset
  obtain ⟨⟨stage, staged⟩, hstage, h⟩ := Option.bind_eq_some_iff.1 h
  obtain ⟨hkeeps1, hsemantic1, hstaged⟩ := createStageSpace_spec hadded hstage
  have hrooted1 : Rooted (setSemantic .stage (stage, staged)) :=
    ((createStageSpace_grows hstage).setSemantic .stage hadded).1
  simp only [not_or, not_not] at hunset
  obtain ⟨hview, hnoStage, -, hunbounded⟩ := hunset
  have hunbounded1 : (setSemantic .stage (stage, staged)).semantic .unbounded = none := by
    rw [semantic_setSemantic, Function.update_of_ne (by decide), hsemantic1, hunbounded]
  obtain ⟨hrooted2, hkeeps2', hsame2, hunbounded2⟩ := setUnbounded_spec hrooted1 hunbounded1 rootIsUnbounded
  generalize (if rootIsUnbounded then
    setSemantic .unbounded ((setSemantic .stage (stage, staged)).root, setSemantic .stage (stage, staged))
    else setSemantic .stage (stage, staged)) = made at h hrooted2 hkeeps2' hsame2 hunbounded2
  have hkeeps2 : Keeps staged made := (keeps_setSemantic .stage stage staged).trans hkeeps2'
  have hsemantic2 : made.semantic .stage = some stage := hsame2 .stage (by decide)
  have hview2 : made.semantic .view = none := by
    rw [hsame2 .view (by decide), semantic_setSemantic, Function.update_of_ne (by decide), hsemantic1, hview]
  have hstage2 := hstaged.keeps hkeeps2
  obtain ⟨⟨l, created⟩, hlocal, h⟩ := Option.bind_eq_some_iff.1 h
  obtain ⟨hrooted3, hkeeps3, hsemantic3, hnew3, hstands3⟩ := createOffsetSpace_spec hrooted2 hlocal
  have hrooted3' : Rooted (setSemantic .localSpace (l, created)) := ((Grows.refl _).setSemantic _ hrooted3).1
  obtain ⟨⟨f, floored⟩, hfloor, h⟩ := Option.bind_eq_some_iff.1 h
  obtain ⟨hrooted4, hkeeps4, hsemantic4, hnew4, hstands4⟩ := createOffsetSpace_spec hrooted3' hfloor
  have hrooted4' : Rooted (setSemantic .localFloor (f, floored)) := ((Grows.refl _).setSemantic _ hrooted4).1
  obtain ⟨hkeeps5, hsemantic5, hview5⟩ := createViewSpace_spec hrooted4' h
  -- from where each space was made on, it stays
  have hafterFloor : Keeps floored uso' := (keeps_setSemantic .localFloor f floored).trans hkeeps5
  have hafterLocal : Keeps created uso' :=
    (keeps_setSemantic .localSpace l created).trans (hkeeps4.trans hafterFloor)
  have hafterMade : Keeps made uso' := hkeeps3.trans hafterLocal
  have hstaged3 : StageSpace created head stage := hstage2.keeps hkeeps3
  refine ⟨?_, ?_, ?_, l, f, stage, ?_⟩
  · rw [← hnoStage]
    exact (congrFun hkept.semantic _).symm
  · exact (hafterMade.canDo.trans hkeeps2.canDo).trans (hkeeps1.canDo.trans hkept.canDo)
  · exact (hafterMade.perApp.trans hkeeps2.perApp).trans (hkeeps1.perApp.trans hkept.perApp)
  · exact
      { semantic_local := by
          rw [hsemantic5 .localSpace (by decide), semantic_setSemantic, Function.update_of_ne (by decide), hsemantic4,
            semantic_setSemantic, Function.update_self]
        semantic_floor := by
          rw [hsemantic5 .localFloor (by decide), semantic_setSemantic, Function.update_self]
        semantic_stage := by
          rw [hsemantic5 .stage (by decide), semantic_setSemantic, Function.update_of_ne (by decide), hsemantic4,
            semantic_setSemantic, Function.update_of_ne (by decide), hsemantic3, hsemantic2]
        local_ne_floor := (ne_of_new hnew4 hstands3.exists).symm
        local_ne_stage := ne_of_new hnew3 hstage2.exists
        floor_ne_stage := ne_of_new hnew4 hstaged3.exists
        local_stands := hstands3.keeps hafterLocal
        floor_stands := hstands4.keeps hafterFloor
        stage_space := hstage2.keeps hafterMade
        view := by
          apply hview5
          rw [semantic_setSemantic, Function.update_of_ne (by decide), hsemantic4, semantic_setSemantic,
            Function.update_of_ne (by decide), hsemantic3, hview2]
        unbounded := by
          intro id hid
          rw [hsemantic5 .unbounded (by decide), semantic_setSemantic, Function.update_of_ne (by decide), hsemantic4,
            semantic_setSemantic, Function.update_of_ne (by decide), hsemantic3] at hid
          exact (hunbounded2 id hid).keeps hafterMade }

end

/-! ## The invariant -/

structure OwnPair (uso : BSpaceOverseer (ExactPose K)) (l f stage l' f' : SpaceId) : Prop where
  local_apart : l' ≠ l ∧ l' ≠ f ∧ l' ≠ stage
  floor_apart : f' ≠ l ∧ f' ≠ f ∧ f' ≠ stage
  derived : Derived uso l' f' stage

structure SetUp (s : LocalSpaces K) (l f stage : SpaceId) : Prop where
  semantic_local : s.uso.semantic .localSpace = some l
  semantic_floor : s.uso.semantic .localFloor = some f
  semantic_stage : s.uso.semantic .stage = some stage
  local_ne_floor : l ≠ f
  local_ne_stage : l ≠ stage
  floor_ne_stage : f ≠ stage
  view : ∀ id, s.uso.semantic .view = some id → Unmovable s.uso id
  unbounded : ∀ id, s.uso.semantic .unbounded = some id → Unmovable s.uso id
  derived : Derived s.uso l f stage
  shared : s.uso.perAppLocalSpaces = false → ∀ entry pair, s.pairs entry = some pair → pair = (l, f)
  own : s.uso.perAppLocalSpaces = true → ∀ entry l' f', s.pairs entry = some (l', f') → OwnPair s.uso l f stage l' f'

structure Unset (s : LocalSpaces K) : Prop where
  semantic : ∀ type, s.uso.semantic type = none
  perApp : s.uso.perAppLocalSpaces = false
  pairs : ∀ entry, s.pairs entry = none

structure LocalSpacesInv (s : LocalSpaces K) : Prop where
  rooted : Rooted s.uso
  canDo : s.uso.canDoLocalSpacesRecenter = false
  setUp : Unset s ∨ ∃ l f stage, SetUp s l f stage

theorem localSpacesInv_create : LocalSpacesInv (LocalSpaces.create : LocalSpaces K) :=
  ⟨rooted_create, rfl, Or.inl ⟨fun _ => rfl, rfl, fun _ => rfl⟩⟩

theorem SetUp.floorDerived {s : LocalSpaces K} {l f stage l' f' : SpaceId} (h : SetUp s l f stage) {entry : ℕ}
    (hpair : s.pairs entry = some (l', f')) : Derived s.uso l' f' stage := by
  cases hperApp : s.uso.perAppLocalSpaces with
  | false =>
    cases h.shared hperApp entry _ hpair
    exact h.derived
  | true => exact (h.own hperApp entry l' f' hpair).derived

theorem LocalSpacesInv.ok {s : LocalSpaces K} (h : LocalSpacesInv s) : LocalFloorsOk s := by
  intro poll l' f' hpair
  rcases h.setUp with hunset | ⟨l, f, stage, hset⟩
  · rcases hpair with ⟨hlocal, -⟩ | ⟨entry, hentry⟩
    · rw [hunset.semantic] at hlocal
      cases hlocal
    · rw [hunset.pairs] at hentry
      cases hentry
  · refine ⟨stage, hset.semantic_stage, ?_⟩
    rcases hpair with ⟨hlocal, hfloor⟩ | ⟨entry, hentry⟩
    · rw [hset.semantic_local] at hlocal
      rw [hset.semantic_floor] at hfloor
      cases hlocal
      cases hfloor
      exact hset.derived.floorDerived poll
    · exact (hset.floorDerived hentry).floorDerived poll

/-! ## Steps -/

theorem Unmovable.place {id id' : SpaceId} {old pose : ExactPose K} (h : Unmovable uso id)
    (hstands : Stands uso id' old) : Unmovable (uso.place id' pose) id := by
  have hne : id ≠ id' := by
    rintro rfl
    have hcompatible := hstands.compatible
    rw [h.incompatible] at hcompatible
    cases hcompatible
  have htype : (uso.place id' pose).typeOf id = uso.typeOf id :=
    congrArg (Option.map USpace.type) (Function.update_of_ne hne ..)
  unfold Unmovable
  rw [htype]
  exact h

section

variable {s : LocalSpaces K} {l f stage : SpaceId}

theorem SetUp.moved (h : SetUp s l f stage) {id : SpaceId} (hid : id = l ∨ id = stage) {pose floor : ExactPose K}
    (hderived : Derived ((s.uso.place id pose).place f floor) l f stage)
    (hown : s.uso.perAppLocalSpaces = true → ∀ entry l' f', s.pairs entry = some (l', f') →
      Derived (s.uso.place id pose) l' f' stage) :
    SetUp { s with uso := (s.uso.place id pose).place f floor } l f stage := by
  obtain ⟨old, stagePose, hlocal, hfloor, hstage⟩ := h.derived
  have hunmovable : ∀ other, Unmovable s.uso other →
      Unmovable ((s.uso.place id pose).place f floor) other := by
    intro other hother
    have hfirst : Unmovable (s.uso.place id pose) other := by
      rcases hid with rfl | rfl
      · exact hother.place hlocal
      · exact hother.place hstage
    have hne : f ≠ id := by
      rcases hid with rfl | rfl
      · exact h.local_ne_floor.symm
      · exact h.floor_ne_stage
    exact hfirst.place (hfloor.place_of_ne hne)
  exact
    { semantic_local := h.semantic_local
      semantic_floor := h.semantic_floor
      semantic_stage := h.semantic_stage
      local_ne_floor := h.local_ne_floor
      local_ne_stage := h.local_ne_stage
      floor_ne_stage := h.floor_ne_stage
      view := fun other hother => hunmovable other (h.view other hother)
      unbounded := fun other hother => hunmovable other (h.unbounded other hother)
      derived := hderived
      shared := h.shared
      own := fun hperApp entry l' f' hpair =>
        have hold := h.own hperApp entry l' f' hpair
        ⟨hold.local_apart, hold.floor_apart, (hown hperApp entry l' f' hpair).place_other _ hold.local_apart.2.1
          hold.floor_apart.2.1 h.floor_ne_stage.symm⟩ }

theorem SetUp.moveLocal (h : SetUp s l f stage) (pose : ExactPose K) :
    SetUp { s with
      uso := (s.uso.place l pose).place f (PoseParts.withPlaceOf (getOffsetOrIdent s.uso f) pose) } l f stage := by
  apply h.moved (Or.inl rfl)
  · exact h.derived.place_local h.local_ne_floor h.local_ne_stage h.floor_ne_stage pose
  · intro hperApp entry l' f' hpair
    have hold := h.own hperApp entry l' f' hpair
    exact hold.derived.place_other pose hold.local_apart.1 hold.floor_apart.1 h.local_ne_stage.symm

theorem SetUp.moveStage (h : SetUp s l f stage) (pose : ExactPose K)
    (hlevel : s.uso.perAppLocalSpaces = true → (∃ entry pair, s.pairs entry = some pair) →
      pose.position.y = stageHeight s.uso) :
    SetUp { s with
      uso := (s.uso.place stage pose).place f (PoseParts.withHeightOf (getOffsetOrIdent s.uso f) pose) }
      l f stage := by
  apply h.moved (Or.inr rfl)
  · exact h.derived.place_stage h.local_ne_floor h.local_ne_stage h.floor_ne_stage pose
  · intro hperApp entry l' f' hpair
    have hold := h.own hperApp entry l' f' hpair
    exact hold.derived.place_level hold.local_apart.2.2 hold.floor_apart.2.2 h.semantic_stage
      (hlevel hperApp ⟨entry, _, hpair⟩)

theorem SetUp.recenter_eq (h : SetUp s l f stage) (hcanDo : s.uso.canDoLocalSpacesRecenter = false)
    {view : SpaceId} (hview : s.uso.semantic .view = some view) (pose : ExactPose K) :
    ∃ offset, recenterLocalSpaces s.uso (some pose) =
      some (.success, (s.uso.place l offset).place f (PoseParts.withPlaceOf (getOffsetOrIdent s.uso f) offset)) := by
  obtain ⟨old, stagePose, hlocal, hfloor, -⟩ := h.derived
  refine ⟨PoseParts.withPlaceOf (getOffsetOrIdent s.uso l) pose, ?_⟩
  have hplaced : Stands (s.uso.place l (PoseParts.withPlaceOf (getOffsetOrIdent s.uso l) pose)) f
      (old.atHeight stagePose.position.y) := hfloor.place_of_ne h.local_ne_floor.symm
  have hparents : (s.uso.spaces l).bind USpace.next = some s.uso.root ∧
      (s.uso.spaces f).bind USpace.next = some s.uso.root := by
    obtain ⟨type, hl, -⟩ := hlocal
    obtain ⟨type', hf, -⟩ := hfloor
    rw [hl, hf]
    exact ⟨rfl, rfl⟩
  unfold recenterLocalSpaces
  simp only [hcanDo, hview, h.semantic_local, h.semantic_floor, hparents.1, hparents.2]
  rw [updateOffset_eq hlocal]
  simp only [Bool.false_eq_true, if_false, ne_eq, not_true_eq_false, Option.bind_some]
  rw [updateOffset_eq hplaced]
  rfl

theorem SetUp.setLocal_eq (h : SetUp s l f stage) (hcanDo : s.uso.canDoLocalSpacesRecenter = false)
    (offset : ExactPose K) : setReferenceSpaceOffset s.uso .localSpace offset =
      some (.success, (s.uso.place l offset).place f (PoseParts.withPlaceOf (getOffsetOrIdent s.uso f) offset)) := by
  obtain ⟨old, stagePose, hlocal, hfloor, -⟩ := h.derived
  unfold setReferenceSpaceOffset
  simp only [hcanDo, h.semantic_local, h.semantic_floor, hlocal.compatible]
  rw [updateOffset_eq hlocal]
  simp only [reduceCtorEq, Bool.false_eq_true, Bool.not_true, if_false, Option.bind_some]
  rw [updateOffset_eq (hfloor.place_of_ne h.local_ne_floor.symm)]
  rfl

theorem SetUp.setStage_eq (h : SetUp s l f stage) (hcanDo : s.uso.canDoLocalSpacesRecenter = false)
    (offset : ExactPose K) : setReferenceSpaceOffset s.uso .stage offset =
      some (.success, (s.uso.place stage offset).place f (PoseParts.withHeightOf (getOffsetOrIdent s.uso f) offset)) := by
  obtain ⟨old, stagePose, -, hfloor, hstage⟩ := h.derived
  unfold setReferenceSpaceOffset
  simp only [hcanDo, h.semantic_stage, h.semantic_floor, hstage.compatible]
  rw [updateOffset_eq hstage]
  simp only [reduceCtorEq, Bool.false_eq_true, Bool.not_true, if_false, Option.bind_some]
  rw [updateOffset_eq (hfloor.place_of_ne h.floor_ne_stage)]
  rfl

end

section

variable {s s' : LocalSpaces K} {type : XrtReferenceSpaceType}

theorem setOther_eq {l f stage : SpaceId} (h : SetUp s l f stage) (hcanDo : s.uso.canDoLocalSpacesRecenter = false)
    (hlocal : type ≠ .localSpace) (hstage : type ≠ .stage) (offset : ExactPose K) :
    setReferenceSpaceOffset s.uso type offset = some (.errorUnsupportedSpaceType, s.uso) := by
  have hunmovable : ∀ id, s.uso.semantic type = some id → type ≠ .localFloor → Unmovable s.uso id := by
    intro id hid hfloor
    cases type with
    | view => exact h.view id hid
    | unbounded => exact h.unbounded id hid
    | localSpace => exact absurd rfl hlocal
    | localFloor => exact absurd rfl hfloor
    | stage => exact absurd rfl hstage
  unfold setReferenceSpaceOffset
  split
  · rfl
  · rename_i hfloor
    have hincompatible : spaceIsOffsetCompatible s.uso (s.uso.semantic type) = false := by
      rcases hid : s.uso.semantic type with _ | id
      · rfl
      · exact (hunmovable id hid hfloor).incompatible
    rw [hcanDo, hincompatible]
    rfl

theorem setUnset_eq (h : Unset s) (hcanDo : s.uso.canDoLocalSpacesRecenter = false) (type : XrtReferenceSpaceType)
    (offset : ExactPose K) : setReferenceSpaceOffset s.uso type offset = some (.errorUnsupportedSpaceType, s.uso) := by
  unfold setReferenceSpaceOffset
  split
  · rfl
  · rw [hcanDo, h.semantic type]
    rfl

variable [UprightMath K] {head : Option (XrtTrackedDevice (ExactPose K))}
  {xdevs : List (XrtTrackedDevice (ExactPose K))} {located : Option (ExactPose K)} {rootIsUnbounded perApp : Bool}
  {localOffset : ExactPose K}

theorem legacySetup_inv (h : LocalSpacesInv s)
    (hstep : localSpacesStep s (.legacySetup xdevs head localOffset rootIsUnbounded perApp) = some s')
    (hhead : head.filter XrtTrackedDevice.supportsStage = none) : LocalSpacesInv s' := by
  obtain ⟨uso, hsetup, rfl⟩ := Option.map_eq_some_iff.1 hstep
  obtain ⟨hnoStage, hcanDo, -, l, f, stage, hspaces⟩ := legacySetup_spec h.rooted hsetup
  rcases h.setUp with hunset | ⟨l', f', stage', hset⟩
  · refine ⟨(legacySetup_grows hsetup h.rooted).1, hcanDo.trans h.canDo, Or.inr ⟨l, f, stage, ?_⟩⟩
    exact
      { semantic_local := hspaces.semantic_local
        semantic_floor := hspaces.semantic_floor
        semantic_stage := hspaces.semantic_stage
        local_ne_floor := hspaces.local_ne_floor
        local_ne_stage := hspaces.local_ne_stage
        floor_ne_stage := hspaces.floor_ne_stage
        view := hspaces.view
        unbounded := hspaces.unbounded
        derived := ⟨localOffset, _, hspaces.local_stands, hspaces.floor_stands, hspaces.stage_space.managed hhead⟩
        shared := fun _ entry pair hpair => by
          rw [hunset.pairs] at hpair
          cases hpair
        own := fun _ entry l' f' hpair => by
          rw [hunset.pairs] at hpair
          cases hpair }
  · rw [hset.semantic_stage] at hnoStage
    cases hnoStage

theorem createLocalPair_own {l f stage : SpaceId} (h : LocalSpacesInv s) (hset : SetUp s l f stage)
    (hperApp : s.uso.perAppLocalSpaces = true) {created : Option (SpaceId × SpaceId) × BSpaceOverseer (ExactPose K)}
    (hcreate : createLocalPair s.uso located = some created) :
    Rooted created.2 ∧ Keeps s.uso created.2 ∧ created.2.semantic = s.uso.semantic ∧
      ∃ l' f', created.1 = some (l', f') ∧ OwnPair created.2 l f stage l' f' := by
  unfold createLocalPair at hcreate
  rw [hperApp] at hcreate
  simp only [Bool.not_true, Bool.false_eq_true, if_false] at hcreate
  split at hcreate
  · cases hcreate
  obtain ⟨⟨l', uso1⟩, hlocal, hcreate⟩ := Option.bind_eq_some_iff.1 hcreate
  obtain ⟨hrooted1, hkeeps1, hsemantic1, hnew1, hstands1⟩ := createOffsetSpace_spec h.rooted hlocal
  obtain ⟨⟨f', uso2⟩, hfloor, hcreate⟩ := Option.bind_eq_some_iff.1 hcreate
  obtain ⟨hrooted2, hkeeps2, hsemantic2, hnew2, hstands2⟩ := createOffsetSpace_spec hrooted1 hfloor
  cases hcreate
  obtain ⟨old, stagePose, hl, hf, hstage⟩ := hset.derived
  have hheight : stageHeight uso1 = stagePose.position.y :=
    stageHeight_eq (by rw [hsemantic1]; exact hset.semantic_stage) (hstage.keeps hkeeps1)
  rw [hheight] at hstands2
  refine ⟨hrooted2, hkeeps1.trans hkeeps2, hsemantic2.trans hsemantic1, l', f', rfl, ?_, ?_, localPose located,
    stagePose, hstands1.keeps hkeeps2, hstands2, (hstage.keeps hkeeps1).keeps hkeeps2⟩
  · exact ⟨ne_of_new hnew1 hl.exists, ne_of_new hnew1 hf.exists, ne_of_new hnew1 hstage.exists⟩
  · exact ⟨ne_of_new hnew2 (hl.keeps hkeeps1).exists, ne_of_new hnew2 (hf.keeps hkeeps1).exists,
      ne_of_new hnew2 (hstage.keeps hkeeps1).exists⟩

theorem createLocalSpace_inv (h : LocalSpacesInv s) {entry : ℕ}
    (hstep : localSpacesStep s (.createLocalSpace entry located) = some s') : LocalSpacesInv s' := by
  obtain ⟨⟨pair, uso⟩, hcreate, rfl⟩ := Option.map_eq_some_iff.1 hstep
  cases hperApp : s.uso.perAppLocalSpaces with
  | false =>
    unfold createLocalPair at hcreate
    rw [hperApp] at hcreate
    cases hcreate
    refine ⟨h.rooted, h.canDo, ?_⟩
    rcases h.setUp with hunset | ⟨l, f, stage, hset⟩
    · refine Or.inl ⟨hunset.semantic, hperApp, fun other => ?_⟩
      rw [hunset.semantic]
      by_cases hother : other = entry
      · rw [hother]
        exact Function.update_self ..
      · exact (Function.update_of_ne hother ..).trans (hunset.pairs other)
    · refine Or.inr ⟨l, f, stage, { hset with shared := fun _ other pair hpair => ?_, own := fun hown => ?_ }⟩
      · dsimp only at hpair
        by_cases hother : other = entry
        · rw [hother, Function.update_self, hset.semantic_local, hset.semantic_floor] at hpair
          exact (Option.some.inj hpair).symm
        · rw [Function.update_of_ne hother] at hpair
          exact hset.shared hperApp other pair hpair
      · rw [hperApp] at hown
        cases hown
  | true =>
    rcases h.setUp with hunset | ⟨l, f, stage, hset⟩
    · rw [hunset.perApp] at hperApp
      cases hperApp
    obtain ⟨hrooted, hkeeps, hsemantic, l', f', hpair, hown⟩ := createLocalPair_own h hset hperApp hcreate
    dsimp only at hrooted hkeeps hsemantic hpair hown
    refine ⟨hrooted, hkeeps.canDo.trans h.canDo, Or.inr ⟨l, f, stage, ?_⟩⟩
    exact
      { semantic_local := by dsimp only; rw [hsemantic]; exact hset.semantic_local
        semantic_floor := by dsimp only; rw [hsemantic]; exact hset.semantic_floor
        semantic_stage := by dsimp only; rw [hsemantic]; exact hset.semantic_stage
        local_ne_floor := hset.local_ne_floor
        local_ne_stage := hset.local_ne_stage
        floor_ne_stage := hset.floor_ne_stage
        view := fun id hid => (hset.view id (hsemantic ▸ hid)).keeps hkeeps
        unbounded := fun id hid => (hset.unbounded id (hsemantic ▸ hid)).keeps hkeeps
        derived := hset.derived.keeps hkeeps
        shared := fun hshared => by
          rw [hkeeps.perApp, hperApp] at hshared
          cases hshared
        own := fun _ other l'' f'' hother => by
          dsimp only at hother
          by_cases heq : other = entry
          · rw [heq, Function.update_self, hpair] at hother
            cases hother
            exact hown
          · rw [Function.update_of_ne heq] at hother
            have hold := hset.own hperApp other l'' f'' hother
            exact ⟨hold.local_apart, hold.floor_apart, hold.derived.keeps hkeeps⟩ }

omit [UprightMath K] in
theorem releaseLocalSpace_inv (h : LocalSpacesInv s) (entry : ℕ) :
    LocalSpacesInv { s with pairs := Function.update s.pairs entry none } := by
  have hkept : ∀ other pair, Function.update s.pairs entry none other = some pair → s.pairs other = some pair := by
    intro other pair hpair
    by_cases hother : other = entry
    · rw [hother, Function.update_self] at hpair
      cases hpair
    · rwa [Function.update_of_ne hother] at hpair
  refine ⟨h.rooted, h.canDo, ?_⟩
  rcases h.setUp with hunset | ⟨l, f, stage, hset⟩
  · refine Or.inl ⟨hunset.semantic, hunset.perApp, fun other => ?_⟩
    apply Option.eq_none_iff_forall_ne_some.2
    intro pair hpair
    have hold := hkept other pair hpair
    rw [hunset.pairs] at hold
    cases hold
  · exact Or.inr ⟨l, f, stage,
      { hset with
        shared := fun hshared other pair hpair => hset.shared hshared other pair (hkept other pair hpair)
        own := fun hown other l' f' hpair => hset.own hown other l' f' (hkept other _ hpair) }⟩

theorem recenterLocalSpaces_inv (h : LocalSpacesInv s) {view : Option (ExactPose K)}
    (hstep : localSpacesStep s (.recenterLocalSpaces view) = some s') : LocalSpacesInv s' := by
  obtain ⟨⟨result, uso⟩, hrecenter, rfl⟩ := Option.map_eq_some_iff.1 hstep
  have hrooted := (recenterLocalSpaces_grows hrecenter h.rooted).1
  rcases h.setUp with hunset | ⟨l, f, stage, hset⟩
  · unfold recenterLocalSpaces at hrecenter
    simp only [h.canDo, hunset.semantic, Bool.false_eq_true, if_false, reduceCtorEq] at hrecenter
  · cases hview : s.uso.semantic .view with
    | none =>
      unfold recenterLocalSpaces at hrecenter
      simp only [h.canDo, hview, Bool.false_eq_true, if_false, reduceCtorEq] at hrecenter
    | some uview =>
      cases view with
      | none =>
        -- without a valid view nothing is moved
        have hsame : uso = s.uso := by
          unfold recenterLocalSpaces at hrecenter
          simp only [h.canDo, hview, hset.semantic_local, hset.semantic_floor, Bool.false_eq_true, if_false,
            Option.map_none] at hrecenter
          repeat' split at hrecenter
          all_goals cases hrecenter
          rfl
        rw [hsame]
        exact h
      | some pose =>
        obtain ⟨offset, heq⟩ := hset.recenter_eq h.canDo hview (upright pose)
        rw [Option.map_some, heq] at hrecenter
        cases hrecenter
        exact ⟨hrooted, h.canDo, Or.inr ⟨l, f, stage, hset.moveLocal offset⟩⟩

theorem setReferenceSpaceOffset_inv (h : LocalSpacesInv s) {offset : ExactPose K}
    (hkept : StageKept s (.setReferenceSpaceOffset type offset))
    (hstep : localSpacesStep s (.setReferenceSpaceOffset type offset) = some s') : LocalSpacesInv s' := by
  have hkept := hkept (by rw [hstep]; rintro ⟨⟩)
  obtain ⟨⟨result, uso⟩, hset, rfl⟩ := Option.map_eq_some_iff.1 hstep
  have hrooted := (setReferenceSpaceOffset_grows hset h.rooted).1
  rcases h.setUp with hunset | ⟨l, f, stage, hsetUp⟩
  · rw [setUnset_eq hunset h.canDo] at hset
    cases hset
    exact h
  · by_cases hstage : type = .stage
    · subst hstage
      rw [hsetUp.setStage_eq h.canDo] at hset
      cases hset
      exact ⟨hrooted, h.canDo, Or.inr ⟨l, f, stage, hsetUp.moveStage offset hkept⟩⟩
    · by_cases hlocal : type = .localSpace
      · subst hlocal
        rw [hsetUp.setLocal_eq h.canDo] at hset
        cases hset
        exact ⟨hrooted, h.canDo, Or.inr ⟨l, f, stage, hsetUp.moveLocal offset⟩⟩
      · rw [setOther_eq hsetUp h.canDo hlocal hstage] at hset
        cases hset
        exact h

theorem localSpacesStep_inv (s : LocalSpaces K) (op : LocalSpacesOp K) (s' : LocalSpaces K) (h : LocalSpacesInv s)
    (hkept : StageKept s op) (hstep : localSpacesStep s op = some s') : LocalSpacesInv s' := by
  cases op with
  | legacySetup xdevs head localOffset rootIsUnbounded perApp =>
    exact legacySetup_inv h hstep (hkept (by rw [hstep]; rintro ⟨⟩))
  | createLocalSpace entry located => exact createLocalSpace_inv h hstep
  | releaseLocalSpace entry =>
    cases hstep
    exact releaseLocalSpace_inv h entry
  | recenterLocalSpaces view => exact recenterLocalSpaces_inv h hstep
  | setReferenceSpaceOffset type offset => exact setReferenceSpaceOffset_inv h hkept hstep
  | getReferenceSpaceOffset type =>
    cases hstep
    exact h

/-! ## Runs -/

theorem legacySetup_stageKept [Nontrivial K] (h : LocalSpacesInv s)
    (hstep : localSpacesStep s (.legacySetup xdevs head localOffset rootIsUnbounded perApp) = some s')
    (hok : LocalFloorsOk s') : head.filter XrtTrackedDevice.supportsStage = none := by
  obtain ⟨uso, hsetup, rfl⟩ := Option.map_eq_some_iff.1 hstep
  obtain ⟨-, -, -, l, f, stage, hspaces⟩ := legacySetup_spec h.rooted hsetup
  rcases hhead : head.filter XrtTrackedDevice.supportsStage with _ | xdev
  · rfl
  · obtain ⟨parent, hpolled⟩ := hspaces.stage_space.polled xdev hhead
    obtain ⟨stage', hstage, pl, pf, ps, -, hpf, hps, hsame⟩ :=
      hok (fun _ _ => (PoseParts.identity : ExactPose K).atHeight 1) l f
        (Or.inl ⟨hspaces.semantic_local, hspaces.semantic_floor⟩)
    dsimp only at hstage hpf hps
    rw [hspaces.semantic_stage] at hstage
    cases hstage
    obtain ⟨pf', hpf', hfloor⟩ :=
      hspaces.floor_stands.poseInRoot fun _ _ => (PoseParts.identity : ExactPose K).atHeight 1
    rw [hpf] at hpf'
    cases hpf'
    unfold poseInRoot at hps
    rw [hpolled] at hps
    cases hps
    have hzero : pf.position.y = 0 := congrArg Vec3.y hfloor.position
    have hone : pf.position.y = 1 := congrArg Vec3.y hsame.position
    exact absurd (hzero.symm.trans hone) zero_ne_one

theorem setStage_stageKept (h : LocalSpacesInv s) {offset : ExactPose K}
    (hstep : localSpacesStep s (.setReferenceSpaceOffset .stage offset) = some s') (hok : LocalFloorsOk s')
    (hperApp : s.uso.perAppLocalSpaces = true) (hpairs : ∃ entry pair, s.pairs entry = some pair) :
    offset.position.y = stageHeight s.uso := by
  obtain ⟨entry, ⟨l', f'⟩, hpair⟩ := hpairs
  rcases h.setUp with hunset | ⟨l, f, stage, hset⟩
  · rw [hunset.pairs] at hpair
    cases hpair
  obtain ⟨⟨result, uso⟩, hmove, rfl⟩ := Option.map_eq_some_iff.1 hstep
  rw [hset.setStage_eq h.canDo] at hmove
  cases hmove
  have hown := hset.own hperApp entry l' f' hpair
  obtain ⟨old, stagePose, -, hfloor, hstage⟩ := hown.derived
  have hfloor' : Stands ((s.uso.place stage offset).place f (PoseParts.withHeightOf (getOffsetOrIdent s.uso f) offset))
      f' (old.atHeight stagePose.position.y) :=
    (hfloor.place_of_ne hown.floor_apart.2.2).place_of_ne hown.floor_apart.2.1
  have hstage' : Stands ((s.uso.place stage offset).place f (PoseParts.withHeightOf (getOffsetOrIdent s.uso f) offset))
      stage offset := (stands_place s.uso stage offset).place_of_ne hset.floor_ne_stage.symm
  obtain ⟨stage', hstage'', pl, pf, ps, -, hpf, hps, hsame⟩ :=
    hok (fun _ _ => PoseParts.identity) l' f' (Or.inr ⟨entry, hpair⟩)
  obtain rfl : stage' = stage := Option.some.inj (hstage''.symm.trans hset.semantic_stage)
  obtain ⟨pf', hpf', hheight⟩ := hfloor'.poseInRoot fun _ _ => PoseParts.identity
  obtain ⟨ps', hps', hmoved⟩ := hstage'.poseInRoot fun _ _ => PoseParts.identity
  obtain rfl : pf = pf' := Option.some.inj (hpf.symm.trans hpf')
  obtain rfl : ps = ps' := Option.some.inj (hps.symm.trans hps')
  rw [stageHeight_eq hset.semantic_stage hstage]
  calc offset.position.y = ps.position.y := (congrArg Vec3.y hmoved.position).symm
    _ = pf.position.y := (congrArg Vec3.y hsame.position).symm
    _ = (old.atHeight stagePose.position.y).position.y := congrArg Vec3.y hheight.position
    _ = stagePose.position.y := rfl

theorem localSpacesStep_ok_iff [Nontrivial K] (s : LocalSpaces K) (op : LocalSpacesOp K) (h : LocalSpacesInv s) :
    (∀ s', localSpacesStep s op = some s' → LocalFloorsOk s') ↔ StageKept s op := by
  constructor
  · intro hok henabled
    obtain ⟨s', hstep⟩ := Option.ne_none_iff_exists'.1 henabled
    split
    · exact legacySetup_stageKept h hstep (hok s' hstep)
    · exact setStage_stageKept h hstep (hok s' hstep)
    · trivial
  · intro hkept s' hstep
    exact (localSpacesStep_inv s op s' h hkept hstep).ok

/-- Along a run from the creation of the overseer, all floors are derived after each call exactly if the stage is the
overseer's own and stays at its height while clients have local spaces of their own. -/
theorem localFloors_iff [Nontrivial K] (ops : List (LocalSpacesOp K)) :
    Along localSpacesStep (fun s op => ∀ s', localSpacesStep s op = some s' → LocalFloorsOk s') .create ops ↔
      Along localSpacesStep StageKept .create ops :=
  along_iff (fun s op h => localSpacesStep_ok_iff s op h) localSpacesStep_inv localSpacesInv_create ops

end

/-- Quaternions of length one need no normalising, and the eyes are at 1.6. -/
instance : UprightMath ℚ where
  quatNormalize q := q
  eyeHeight := 8 / 5

def plainHead : XrtTrackedDevice (ExactPose ℚ) := ⟨1, some ⟨2, false, PoseParts.identity⟩, false⟩

/-- A client with local spaces of its own, whose floor is right. -/
theorem localFloors_iff_rat :
    Along localSpacesStep (fun s op => ∀ s', localSpacesStep s op = some s' → LocalFloorsOk s')
      (.create : LocalSpaces ℚ)
      [.legacySetup [plainHead] (some plainHead) PoseParts.identity false true, .createLocalSpace 0 none] := by
  apply (localFloors_iff _).2
  refine along_cons.2 ⟨fun _ => rfl, fun s _ => ?_⟩
  exact along_cons.2 ⟨fun _ => trivial, fun _ _ => trivial⟩

/-- The local floor of a client stays on the old floor when the stage is raised. -/
theorem raisedStage_leavesFloor :
    ¬ Along localSpacesStep (fun s op => ∀ s', localSpacesStep s op = some s' → LocalFloorsOk s')
      (.create : LocalSpaces ℚ)
      [.legacySetup [plainHead] (some plainHead) PoseParts.identity false true, .createLocalSpace 0 none,
        .setReferenceSpaceOffset .stage ((PoseParts.identity : ExactPose ℚ).atHeight 1)] := by
  intro hall
  have hcreate := (along_cons.1 hall).2 _ rfl
  have hset := (along_cons.1 ((along_cons.1 hcreate).2 _ rfl)).1 _ rfl
  obtain ⟨stage, hstage, pl, pf, ps, -, hpf, hps, hsame⟩ :=
    hset (fun _ _ => PoseParts.identity) 6 7 (Or.inr ⟨0, rfl⟩)
  cases hstage
  cases hpf
  cases hps
  have hheight : (0 : ℚ) = 1 := congrArg Vec3.y hsame.position
  exact absurd hheight (by decide)

end AugmentedInsanity.Base
