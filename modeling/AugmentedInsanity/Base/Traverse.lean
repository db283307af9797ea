/-
Traversing the graph of spaces and locating one space in another (`b_space_overseer.c`). The traversals recurse on
a fuel; a space whose chain leads to the root is traversed with any fuel that is larger than the chain is long.
-/
import AugmentedInsanity.Lib.Chains
import AugmentedInsanity.Base.RelationChain

namespace AugmentedInsanity.Base

open Xrt Chains

/-! ## Paths to the root -/

section
variable {P : Type} {uso : BSpaceOverseer P} {id : SpaceId}

def BSpaceOverseer.parent (uso : BSpaceOverseer P) (id : SpaceId) : Option SpaceId := (uso.spaces id).bind USpace.next

def BSpaceOverseer.IsRoot (uso : BSpaceOverseer P) (id : SpaceId) : Prop := uso.typeOf id = some .root

def ReachesRoot (uso : BSpaceOverseer P) (id : SpaceId) : Prop := Arrives uso.parent uso.IsRoot id

/-- The types of the spaces on the way from a space up to the root, the root left out. -/
inductive Path (uso : BSpaceOverseer P) : SpaceId → List (USpaceType P) → Prop
  | root {id : SpaceId} {next : Option SpaceId} : uso.spaces id = some ⟨next, .root⟩ → Path uso id []
  | link {id parent : SpaceId} {type : USpaceType P} {path : List (USpaceType P)} :
      uso.spaces id = some ⟨some parent, type⟩ → type ≠ .root → Path uso parent path → Path uso id (type :: path)

theorem ReachesRoot.path (h : ReachesRoot uso id) : ∃ path, Path uso id path := by
  induction h with
  | @here id hroot =>
    obtain ⟨⟨next, type⟩, hus, htype⟩ := Option.map_eq_some_iff.1 hroot
    cases htype
    exact ⟨[], .root hus⟩
  | @link id parent hroot hlink _ ih =>
    obtain ⟨path, hpath⟩ := ih
    obtain ⟨⟨next, type⟩, hus, hnext⟩ := Option.bind_eq_some_iff.1 hlink
    cases hnext
    refine ⟨type :: path, .link hus ?_ hpath⟩
    rintro rfl
    exact hroot (Option.map_eq_some_iff.2 ⟨_, hus, rfl⟩)

theorem Path.ne_root {path : List (USpaceType P)} (h : Path uso id path) : ∀ type ∈ path, type ≠ .root := by
  induction h with
  | root =>
    rintro type ⟨⟩
  | link _ hroot _ ih =>
    intro type htype
    rcases List.mem_cons.1 htype with rfl | htype
    · exact hroot
    · exact ih type htype

theorem Path.unique {path path' : List (USpaceType P)} (h : Path uso id path) (h' : Path uso id path') :
    path' = path := by
  induction h generalizing path' with
  | root hus =>
    cases h' with
    | root => rfl
    | link hus' hroot _ =>
      rw [hus, Option.some.injEq, USpace.mk.injEq] at hus'
      exact absurd hus'.2.symm hroot
  | link hus hroot _ ih =>
    cases h' with
    | root hus' =>
      rw [hus, Option.some.injEq, USpace.mk.injEq] at hus'
      exact absurd hus'.2 hroot
    | link hus' _ hpath =>
      rw [hus, Option.some.injEq, USpace.mk.injEq, Option.some.injEq] at hus'
      obtain ⟨rfl, rfl⟩ := hus'
      rw [ih hpath]

end

/-! ## Traversing -/

/-- `U_SPACE_TYPE_ROOT` stops the traversing. -/
def USpaceType.isRoot {P : Type} : USpaceType P → Bool
  | .root => true
  | _ => false

theorem USpaceType.isRoot_of_ne {P : Type} {type : USpaceType P} (h : type ≠ .root) : type.isRoot = false := by
  cases type with
  | root => exact absurd rfl h
  | null | pose _ _ | offset _ | attachable => rfl

/-- Why a traversal gives no relation: it is not over yet, or an assertion fails. -/
inductive TraverseError
  | outOfFuel
  | assertion
  deriving DecidableEq

variable {Q V : Type} [MathApi Q V]

/-- `xrt_device_get_tracked_pose` of the devices, of which only the relation is looked at. -/
abbrev TrackedPoses (Q V : Type) := ℕ → XrtInputName → Int64 → SpaceRelation Q V

/-- The relation of one space pushed; the root is not pushed. -/
def pushSpace (devices : TrackedPoses Q V) (atTimestamp : Int64) (xrc : RelationChain Q V) :
    USpaceType (Pose Q V) → Except TraverseError (RelationChain Q V)
  | .null => .ok xrc
  | .pose xdev xname =>
    if xdev = 0 ∨ xname = 0 then .error .assertion
    else .ok (xrc.pushRelation (devices xdev xname atTimestamp))
  | .offset pose => .ok (xrc.pushPoseIfNotIdentity pose)
  | .root => .ok xrc
  | .attachable => .ok xrc

def pushInverseSpace (devices : TrackedPoses Q V) (atTimestamp : Int64) (xrc : RelationChain Q V) :
    USpaceType (Pose Q V) → Except TraverseError (RelationChain Q V)
  | .null => .ok xrc
  | .pose xdev xname =>
    if xdev = 0 ∨ xname = 0 then .error .assertion
    else .ok (xrc.pushInvertedRelation (devices xdev xname atTimestamp))
  | .offset pose => .ok (xrc.pushInvertedPoseIfNotIdentity pose)
  | .root => .error .assertion
  | .attachable => .ok xrc

def pushThenTraverse (uso : BSpaceOverseer (Pose Q V)) (devices : TrackedPoses Q V) (atTimestamp : Int64) :
    ℕ → RelationChain Q V → SpaceId → Except TraverseError (RelationChain Q V)
  | 0, _, _ => .error .outOfFuel
  | fuel + 1, xrc, space =>
    match uso.spaces space with
    | none => .error .assertion
    | some us =>
      if us.type.isRoot then .ok xrc
      else
        match pushSpace devices atTimestamp xrc us.type, us.next with
        | .error e, _ => .error e
        -- `assert(space->next != NULL)`
        | .ok _, none => .error .assertion
        | .ok xrc, some next => pushThenTraverse uso devices atTimestamp fuel xrc next

def traverseThenPushInverse (uso : BSpaceOverseer (Pose Q V)) (devices : TrackedPoses Q V) (atTimestamp : Int64) :
    ℕ → RelationChain Q V → SpaceId → Except TraverseError (RelationChain Q V)
  | 0, _, _ => .error .outOfFuel
  | fuel + 1, xrc, space =>
    match uso.spaces space with
    | none => .error .assertion
    | some us =>
      if us.type.isRoot then .ok xrc
      else
        match us.next with
        | none => .error .assertion
        | some next =>
          match traverseThenPushInverse uso devices atTimestamp fuel xrc next with
          | .error e => .error e
          | .ok xrc => pushInverseSpace devices atTimestamp xrc us.type

variable {uso : BSpaceOverseer (Pose Q V)} {path : List (USpaceType (Pose Q V))} {devices : TrackedPoses Q V} {fuel : ℕ}

theorem pushThenTraverse_eq {atTimestamp : Int64} {id : SpaceId} (h : Path uso id path) (hfuel : path.length < fuel)
    (xrc : RelationChain Q V) :
    pushThenTraverse uso devices atTimestamp fuel xrc id = path.foldlM (pushSpace devices atTimestamp) xrc := by
  induction h generalizing fuel xrc with
  | root hus =>
    obtain ⟨fuel, rfl⟩ := Nat.exists_eq_succ_of_ne_zero (Nat.ne_of_gt hfuel)
    simp only [pushThenTraverse, hus]
    rfl
  | @link id parent type path hus hroot _ ih =>
    obtain ⟨fuel, rfl⟩ := Nat.exists_eq_succ_of_ne_zero (Nat.ne_of_gt (Nat.zero_lt_of_lt hfuel))
    simp only [pushThenTraverse, hus, USpaceType.isRoot_of_ne hroot, List.foldlM_cons]
    cases pushSpace devices atTimestamp xrc type with
    | error e => rfl
    | ok xrc => exact ih (Nat.lt_of_succ_lt_succ hfuel) xrc

theorem traverseThenPushInverse_eq {atTimestamp : Int64} {id : SpaceId} (h : Path uso id path)
    (hfuel : path.length < fuel) (xrc : RelationChain Q V) :
    traverseThenPushInverse uso devices atTimestamp fuel xrc id =
      path.reverse.foldlM (pushInverseSpace devices atTimestamp) xrc := by
  induction h generalizing fuel xrc with
  | root hus =>
    obtain ⟨fuel, rfl⟩ := Nat.exists_eq_succ_of_ne_zero (Nat.ne_of_gt hfuel)
    simp only [traverseThenPushInverse, hus]
    rfl
  | @link id parent type path hus hroot _ ih =>
    obtain ⟨fuel, rfl⟩ := Nat.exists_eq_succ_of_ne_zero (Nat.ne_of_gt (Nat.zero_lt_of_lt hfuel))
    -- this space comes after the ones above it
    simp only [traverseThenPushInverse, hus, USpaceType.isRoot_of_ne hroot, Bool.false_eq_true, if_false,
      ih (Nat.lt_of_succ_lt_succ hfuel) xrc, List.reverse_cons, List.foldlM_append, List.foldlM_cons, List.foldlM_nil]
    cases path.reverse.foldlM (pushInverseSpace devices atTimestamp) xrc with
    | error e => rfl
    | ok xrc => exact (bind_pure (pushInverseSpace devices atTimestamp xrc type)).symm

def buildRelationChain (uso : BSpaceOverseer (Pose Q V)) (devices : TrackedPoses Q V) (fuel : ℕ)
    (xrc : RelationChain Q V) (base target : SpaceId) (atTimestamp : Int64) :
    Except TraverseError (RelationChain Q V) :=
  match pushThenTraverse uso devices atTimestamp fuel xrc target with
  | .error e => .error e
  | .ok xrc => traverseThenPushInverse uso devices atTimestamp fuel xrc base

/-! ## Locating -/

def specialResolve (xrc : RelationChain Q V) : SpaceRelation Q V :=
  match xrc.steps with
  | [] => mSpaceRelationFromPose XRT_POSE_IDENTITY
  | _ => mRelationChainResolve xrc.steps

def locateSpace (uso : BSpaceOverseer (Pose Q V)) (devices : TrackedPoses Q V) (fuel : ℕ) (baseSpace : SpaceId)
    (baseOffset : Pose Q V) (atTimestamp : Int64) (space : SpaceId) (offset : Pose Q V) :
    Except TraverseError (SpaceRelation Q V) :=
  let xrc := RelationChain.empty.pushPoseIfNotIdentity offset
  -- of a space in itself only the offsets count
  let built :=
    if space ≠ baseSpace then buildRelationChain uso devices fuel xrc baseSpace space atTimestamp else .ok xrc
  match built with
  | .error e => .error e
  | .ok xrc => .ok (specialResolve (xrc.pushInvertedPoseIfNotIdentity baseOffset))

theorem foldlM_ne_outOfFuel {α β : Type} {push : α → β → Except TraverseError α}
    (hpush : ∀ a b, push a b ≠ .error .outOfFuel) (l : List β) (a : α) : l.foldlM push a ≠ .error .outOfFuel := by
  induction l generalizing a with
  | nil => rintro ⟨⟩
  | cons b l ih =>
    rw [List.foldlM_cons]
    cases hb : push a b with
    | error e =>
      rintro ⟨⟩
      exact hpush a b hb
    | ok a => exact ih a

theorem pushSpace_ne_outOfFuel (devices : TrackedPoses Q V) (atTimestamp : Int64) (xrc : RelationChain Q V)
    (type : USpaceType (Pose Q V)) : pushSpace devices atTimestamp xrc type ≠ .error .outOfFuel := by
  unfold pushSpace
  repeat' split
  all_goals rintro ⟨⟩

theorem pushInverseSpace_ne_outOfFuel (devices : TrackedPoses Q V) (atTimestamp : Int64) (xrc : RelationChain Q V)
    (type : USpaceType (Pose Q V)) : pushInverseSpace devices atTimestamp xrc type ≠ .error .outOfFuel := by
  unfold pushInverseSpace
  repeat' split
  all_goals rintro ⟨⟩

theorem locateSpace_ne_outOfFuel {baseSpace space : SpaceId} {basePath path : List (USpaceType (Pose Q V))}
    (hbase : Path uso baseSpace basePath) (hspace : Path uso space path) (hbaseFuel : basePath.length < fuel)
    (hfuel : path.length < fuel) (devices : TrackedPoses Q V) (baseOffset : Pose Q V) (atTimestamp : Int64)
    (offset : Pose Q V) :
    locateSpace uso devices fuel baseSpace baseOffset atTimestamp space offset ≠ .error .outOfFuel := by
  have hbuilt : ∀ xrc, buildRelationChain uso devices fuel xrc baseSpace space atTimestamp ≠ .error .outOfFuel := by
    intro xrc
    unfold buildRelationChain
    rw [pushThenTraverse_eq hspace hfuel]
    cases hpush : path.foldlM (pushSpace devices atTimestamp) xrc with
    | error e =>
      rintro ⟨⟩
      exact foldlM_ne_outOfFuel (pushSpace_ne_outOfFuel devices atTimestamp) path xrc hpush
    | ok xrc =>
      simp only [traverseThenPushInverse_eq hbase hbaseFuel]
      exact foldlM_ne_outOfFuel (pushInverseSpace_ne_outOfFuel devices atTimestamp) _ xrc
  unfold locateSpace
  dsimp only
  split
  · rename_i e he
    rintro ⟨⟩
    split at he
    · exact hbuilt _ he
    · cases he
  · rintro ⟨⟩

def locateDevice (uso : BSpaceOverseer (Pose Q V)) (devices : TrackedPoses Q V) (fuel : ℕ) (baseSpace : SpaceId)
    (baseOffset : Pose Q V) (atTimestamp : Int64) (xdev : ℕ) : Except TraverseError (SpaceRelation Q V) :=
  match uso.xdevMap xdev with
  | none => .error .assertion
  | some space =>
    match buildRelationChain uso devices fuel .empty baseSpace space atTimestamp with
    | .error e => .error e
    | .ok xrc => .ok (specialResolve (xrc.pushInvertedPoseIfNotIdentity baseOffset))

end AugmentedInsanity.Base
