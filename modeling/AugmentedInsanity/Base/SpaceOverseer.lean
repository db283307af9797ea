/-
The space overseer (`b_space_overseer.c`): a graph of spaces, each in the space it is linked to, up to a root.
Spaces stay in the model when their last reference goes. Of poses only the parts that the overseer looks at are
known, so the graph is one for floats and for exact numbers.
-/
import AugmentedInsanity.Xrt.Device

namespace AugmentedInsanity.Base

open Xrt

/-! ## Spaces -/

/-- What the overseer does with poses: `m_pose_is_identity`, and taking the height or the place and heading over
from another pose. -/
class PoseParts (P : Type) where
  identity : P
  isIdentity : P → Bool
  withHeightOf : P → P → P
  withPlaceOf : P → P → P

/-- `struct u_space *`. -/
abbrev SpaceId := ℕ

/-- `enum u_space_type` with the data of the union. -/
inductive USpaceType (P : Type)
  | null
  | pose (xdev : ℕ) (xname : XrtInputName)
  | offset (pose : P)
  | root
  | attachable
  deriving DecidableEq

structure USpace (P : Type) where
  next : Option SpaceId
  type : USpaceType P
  deriving DecidableEq

inductive XrtReferenceSpaceType
  | view
  | localSpace
  | localFloor
  | stage
  | unbounded
  deriving DecidableEq

/-- `struct xrt_tracking_origin *`. -/
structure XrtTrackingOrigin (P : Type) where
  ptr : ℕ
  attachable : Bool
  initialOffset : P
  deriving DecidableEq

/-- `struct xrt_device *`, as far as the overseer looks at it. -/
structure XrtTrackedDevice (P : Type) where
  ptr : ℕ
  trackingOrigin : Option (XrtTrackingOrigin P)
  supportsStage : Bool
  deriving DecidableEq

abbrev XRT_INPUT_GENERIC_STAGE_SPACE_POSE : XrtInputName := 0x0b05

/-- `struct b_space_overseer`; `count` spaces have been created. -/
structure BSpaceOverseer (P : Type) where
  spaces : SpaceId → Option (USpace P)
  count : ℕ
  xdevMap : ℕ → Option SpaceId
  xtoMap : ℕ → Option SpaceId
  root : SpaceId
  semantic : XrtReferenceSpaceType → Option SpaceId
  canDoLocalSpacesRecenter : Bool
  perAppLocalSpaces : Bool

variable {P : Type} [PoseParts P]

omit [PoseParts P] in
def BSpaceOverseer.typeOf (uso : BSpaceOverseer P) (id : SpaceId) : Option (USpaceType P) :=
  (uso.spaces id).map USpace.type

/-! ## Helpers

A function gives `none` where an assertion fails, or a pointer is NULL that is followed. -/

def spaceIsOffsetCompatible (uso : BSpaceOverseer P) (us : Option SpaceId) : Bool :=
  match us.bind uso.typeOf with
  | some .null => true
  | some (.offset _) => true
  | _ => false

/-- `update_offset_write_locked`. -/
def updateOffset (uso : BSpaceOverseer P) (id : SpaceId) (newOffset : P) : Option (BSpaceOverseer P) :=
  match uso.spaces id with
  | none => none
  | some us =>
    if spaceIsOffsetCompatible uso (some id) then
      let type := if PoseParts.isIdentity newOffset then .null else .offset newOffset
      some { uso with spaces := Function.update uso.spaces id (some { us with type := type }) }
    else none

/-- `get_offset_or_ident_read_locked`. -/
def getOffsetOrIdent (uso : BSpaceOverseer P) (id : SpaceId) : P :=
  match uso.typeOf id with
  | some (.offset pose) => pose
  | _ => PoseParts.identity

def createSpace (uso : BSpaceOverseer P) (type : USpaceType P) (parent : SpaceId) :
    Option (SpaceId × BSpaceOverseer P) :=
  match uso.spaces parent with
  | none => none
  | some _ =>
    some (uso.count,
      { uso with spaces := Function.update uso.spaces uso.count (some ⟨some parent, type⟩), count := uso.count + 1 })

/-! ## Operations -/

def bSpaceOverseerCreate : BSpaceOverseer P where
  spaces := Function.update (fun _ => none) 0 (some ⟨none, .root⟩)
  count := 1
  xdevMap := fun _ => none
  xtoMap := fun _ => none
  root := 0
  semantic := fun _ => none
  canDoLocalSpacesRecenter := false
  perAppLocalSpaces := false

def createNullSpace (uso : BSpaceOverseer P) (parent : SpaceId) : Option (SpaceId × BSpaceOverseer P) :=
  createSpace uso .null parent

def createOffsetSpace (uso : BSpaceOverseer P) (parent : SpaceId) (offset : P) : Option (SpaceId × BSpaceOverseer P) :=
  createSpace uso (if PoseParts.isIdentity offset then .null else .offset offset) parent

def createPoseSpace (uso : BSpaceOverseer P) (xdev : ℕ) (xname : XrtInputName) :
    Option (SpaceId × BSpaceOverseer P) :=
  (uso.xdevMap xdev).bind fun parent => createSpace uso (.pose xdev xname) parent

def linkSpaceToDevice (uso : BSpaceOverseer P) (xs : SpaceId) (xdev : ℕ) : Option (BSpaceOverseer P) :=
  match uso.spaces xs with
  | none => none
  | some _ => some { uso with xdevMap := Function.update uso.xdevMap xdev (some xs) }

/-- The space of a tracking origin in `add_device_helper`, which is created for its first device. -/
def spaceOfOrigin (uso : BSpaceOverseer P) (torig : XrtTrackingOrigin P) : Option (SpaceId × BSpaceOverseer P) :=
  match uso.xtoMap torig.ptr with
  | some xs => some (xs, uso)
  | none =>
    if torig.attachable then
      (createSpace uso .attachable uso.root).map fun (xs, uso) =>
        (xs, { uso with xtoMap := Function.update uso.xtoMap torig.ptr (some xs) })
    else
      (createSpace uso (.offset torig.initialOffset) uso.root).bind fun (xs, uso) =>
        (updateOffset uso xs torig.initialOffset).map fun uso =>
          (xs, { uso with xtoMap := Function.update uso.xtoMap torig.ptr (some xs) })

/-- `add_device_helper`. -/
def addDevice (uso : BSpaceOverseer P) (xdev : XrtTrackedDevice P) : Option (BSpaceOverseer P) :=
  xdev.trackingOrigin.bind fun torig =>
    (spaceOfOrigin uso torig).bind fun (xs, uso) => linkSpaceToDevice uso xs xdev.ptr

/-- The space that `attach_device` links anew, if it finds one. -/
def attachableSpace (uso : BSpaceOverseer P) (xdev : XrtTrackedDevice P) : Option SpaceId :=
  match xdev.trackingOrigin with
  | none => none
  | some torig =>
    if torig.attachable then
      (uso.xtoMap torig.ptr).filter fun us =>
        match uso.typeOf us with
        | some .attachable => true
        | _ => false
    else none

def attachDevice (uso : BSpaceOverseer P) (xdev : XrtTrackedDevice P) (space : Option SpaceId) :
    Option (XrtResult × BSpaceOverseer P) :=
  let targetSpace := space.getD uso.root
  match attachableSpace uso xdev with
  | none => some (.errorDeviceNotAttachable, uso)
  | some us =>
    match uso.spaces targetSpace with
    | none => none
    | some _ =>
      -- the spaces that the target hangs under are not looked at
      some (.success,
        { uso with spaces := Function.update uso.spaces us (some ⟨some targetSpace, .attachable⟩) })

/-- `recenter_local_spaces`; `view` is the pose of the view in the parent of the local spaces, turned upright, if
it is valid. -/
def recenterLocalSpaces (uso : BSpaceOverseer P) (view : Option P) : Option (XrtResult × BSpaceOverseer P) :=
  if uso.canDoLocalSpacesRecenter then some (.errorRecenteringNotSupported, uso)
  else
    match uso.semantic .view, uso.semantic .localSpace, uso.semantic .localFloor with
    | some _, some ulocal, some ufloor =>
      match (uso.spaces ulocal).bind USpace.next with
      | none => none
      | some parent =>
        if (uso.spaces ufloor).bind USpace.next ≠ some parent then none
        else
          match view with
          | none => some (.errorRecenteringNotSupported, uso)
          | some pose =>
            let localOffset := PoseParts.withPlaceOf (getOffsetOrIdent uso ulocal) pose
            let floorOffset := PoseParts.withPlaceOf (getOffsetOrIdent uso ufloor) pose
            (updateOffset uso ulocal localOffset).bind fun uso =>
              (updateOffset uso ufloor floorOffset).map fun uso => (.success, uso)
    | _, _, _ => none

/-- One of the two spaces of `create_local_space`, if it is asked for. -/
def createIfAsked (uso : BSpaceOverseer P) (pose : Option P) : Option (BSpaceOverseer P) :=
  match pose with
  | none => some uso
  | some pose => (createOffsetSpace uso uso.root pose).map Prod.snd

/-- `create_local_space`; the poses are those in the root that locating the view has given, for the spaces that
are asked for. -/
def createLocalSpace (uso : BSpaceOverseer P) (localPose floorPose : Option P) : Option (BSpaceOverseer P) :=
  if !uso.perAppLocalSpaces then some uso
  else (createIfAsked uso localPose).bind fun uso => createIfAsked uso floorPose

def setTrackingOriginOffset (uso : BSpaceOverseer P) (xto : ℕ) (offset : P) : Option (XrtResult × BSpaceOverseer P) :=
  match uso.xtoMap xto with
  | none => none
  | some us =>
    if !spaceIsOffsetCompatible uso (some us) then some (.errorUnsupportedSpaceType, uso)
    else (updateOffset uso us offset).map fun uso => (.success, uso)

def setReferenceSpaceOffset (uso : BSpaceOverseer P) (type : XrtReferenceSpaceType) (offset : P) :
    Option (XrtResult × BSpaceOverseer P) :=
  if type = .localFloor then some (.errorUnsupportedSpaceType, uso)
  else if uso.canDoLocalSpacesRecenter then some (.errorRecenteringNotSupported, uso)
  else if !spaceIsOffsetCompatible uso (uso.semantic type) then some (.errorUnsupportedSpaceType, uso)
  else
    match uso.semantic type, uso.semantic .localFloor with
    | some us, some ufloor =>
      let floor := getOffsetOrIdent uso ufloor
      let floor :=
        match type with
        | .stage => PoseParts.withHeightOf floor offset
        | .localSpace => PoseParts.withPlaceOf floor offset
        | _ => floor
      (updateOffset uso us offset).bind fun uso =>
        (updateOffset uso ufloor floor).map fun uso => (.success, uso)
    | _, _ => none

def setSemantic (type : XrtReferenceSpaceType) (created : SpaceId × BSpaceOverseer P) : BSpaceOverseer P :=
  { created.2 with semantic := Function.update created.2.semantic type (some created.1) }

/-- The stage space of the legacy setup: the one of the head, if it has one. -/
def createStageSpace (uso : BSpaceOverseer P) (head : Option (XrtTrackedDevice P)) :
    Option (SpaceId × BSpaceOverseer P) :=
  match head.filter XrtTrackedDevice.supportsStage with
  | some head => createPoseSpace uso head.ptr XRT_INPUT_GENERIC_STAGE_SPACE_POSE
  | none => createNullSpace uso uso.root

/-- The view space of the legacy setup, if there is a head. -/
def createViewSpace (uso : BSpaceOverseer P) (head : Option (XrtTrackedDevice P)) : Option (BSpaceOverseer P) :=
  match head with
  | none => some uso
  | some head => (createPoseSpace uso head.ptr XRT_INPUT_GENERIC_HEAD_POSE).map (setSemantic .view)

/-- `b_space_overseer_legacy_setup`; `floorOffset` is the local offset at the height of the floor. -/
def legacySetup (uso : BSpaceOverseer P) (xdevs : List (XrtTrackedDevice P)) (head : Option (XrtTrackedDevice P))
    (localOffset floorOffset : P) (rootIsUnbounded perAppLocalSpaces : Bool) : Option (BSpaceOverseer P) := do
  let uso := { uso with perAppLocalSpaces := perAppLocalSpaces }
  let uso ← xdevs.foldlM addDevice uso
  if uso.semantic .view ≠ none ∨ uso.semantic .stage ≠ none ∨ uso.semantic .localSpace ≠ none ∨
      uso.semantic .unbounded ≠ none then none
  else
    let stage ← createStageSpace uso head
    let uso := setSemantic .stage stage
    let uso := if rootIsUnbounded then setSemantic .unbounded (uso.root, uso) else uso
    let created ← createOffsetSpace uso uso.root localOffset
    let uso := setSemantic .localSpace created
    let created ← createOffsetSpace uso uso.root floorOffset
    let uso := setSemantic .localFloor created
    createViewSpace uso head

/-! ## Steps -/

inductive Op (P : Type)
  | createNullSpace (parent : SpaceId)
  | createOffsetSpace (parent : SpaceId) (offset : P)
  | createPoseSpace (xdev : ℕ) (xname : XrtInputName)
  | createLocalSpace (localPose floorPose : Option P)
  | recenterLocalSpaces (view : Option P)
  | setTrackingOriginOffset (xto : ℕ) (offset : P)
  | setReferenceSpaceOffset (type : XrtReferenceSpaceType) (offset : P)
  | addDevice (xdev : XrtTrackedDevice P)
  | linkSpaceToDevice (xs : SpaceId) (xdev : ℕ)
  | attachDevice (xdev : XrtTrackedDevice P) (space : Option SpaceId)
  /-- A builder sets a semantic space. -/
  | assignSemantic (type : XrtReferenceSpaceType) (xs : SpaceId)
  | legacySetup (xdevs : List (XrtTrackedDevice P)) (head : Option (XrtTrackedDevice P)) (localOffset floorOffset : P)
      (rootIsUnbounded perAppLocalSpaces : Bool)

def step (uso : BSpaceOverseer P) : Op P → Option (BSpaceOverseer P)
  | .createNullSpace parent => (createNullSpace uso parent).map Prod.snd
  | .createOffsetSpace parent offset => (createOffsetSpace uso parent offset).map Prod.snd
  | .createPoseSpace xdev xname => (createPoseSpace uso xdev xname).map Prod.snd
  | .createLocalSpace localPose floorPose => createLocalSpace uso localPose floorPose
  | .recenterLocalSpaces view => (recenterLocalSpaces uso view).map Prod.snd
  | .setTrackingOriginOffset xto offset => (setTrackingOriginOffset uso xto offset).map Prod.snd
  | .setReferenceSpaceOffset type offset => (setReferenceSpaceOffset uso type offset).map Prod.snd
  | .addDevice xdev => addDevice uso xdev
  | .linkSpaceToDevice xs xdev => linkSpaceToDevice uso xs xdev
  | .attachDevice xdev space => (attachDevice uso xdev space).map Prod.snd
  | .assignSemantic type xs => if (uso.spaces xs).isSome then some (setSemantic type (xs, uso)) else none
  | .legacySetup xdevs head localOffset floorOffset rootIsUnbounded perAppLocalSpaces =>
    legacySetup uso xdevs head localOffset floorOffset rootIsUnbounded perAppLocalSpaces

end AugmentedInsanity.Base
