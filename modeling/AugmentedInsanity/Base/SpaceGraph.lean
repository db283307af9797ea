/-
The parent chains of the space overseer over any sequence of its operations. Every operation but `attach_device`
only adds spaces, or changes the offset of one, so chains lead to the root as before; `chainsEnd_iff` says which
attachments keep it so.
-/
import AugmentedInsanity.Lib.Runs
import AugmentedInsanity.Base.Traverse
import AugmentedInsanity.Base.UnitQuaternions

namespace AugmentedInsanity.Base

open Runs Chains Xrt

section
variable {P : Type}

/-! ## The invariant -/

structure Rooted (uso : BSpaceOverseer P) : Prop where
  fresh : ∀ id, uso.count ≤ id → uso.spaces id = none
  root : uso.IsRoot uso.root
  top : ∀ id, uso.IsRoot id → uso.parent id = none
  xtoMap : ∀ xto us, uso.xtoMap xto = some us → uso.spaces us ≠ none
  xdevMap : ∀ xdev us, uso.xdevMap xdev = some us → uso.spaces us ≠ none
  chains : ∀ id, uso.spaces id ≠ none → ReachesRoot uso id

variable {uso : BSpaceOverseer P} {id : SpaceId} {type : USpaceType P} {s t u : BSpaceOverseer P}

theorem exists_of_type (h : uso.typeOf id = some type) : uso.spaces id ≠ none := by
  intro hnone
  rw [BSpaceOverseer.typeOf, hnone] at h
  cases h

theorem ReachesRoot.exists (h : ReachesRoot uso id) : uso.spaces id ≠ none := by
  cases h with
  | here hroot => exact exists_of_type hroot
  | link _ hlink _ =>
    intro hnone
    rw [BSpaceOverseer.parent, hnone] at hlink
    cases hlink

/-- What an operation other than `attach_device` leaves as it is. -/
structure Extends (uso uso' : BSpaceOverseer P) : Prop where
  spaces : ∀ id, uso.spaces id ≠ none → uso'.spaces id ≠ none
  parent : ∀ id, uso.spaces id ≠ none → uso'.parent id = uso.parent id
  isRoot : ∀ id, uso.spaces id ≠ none → (uso'.IsRoot id ↔ uso.IsRoot id)
  root : uso'.root = uso.root

theorem Extends.refl (uso : BSpaceOverseer P) : Extends uso uso :=
  ⟨fun _ h => h, fun _ _ => rfl, fun _ _ => Iff.rfl, rfl⟩

theorem Extends.trans (hst : Extends s t) (htu : Extends t u) : Extends s u where
  spaces id h := htu.spaces id (hst.spaces id h)
  parent id h := (htu.parent id (hst.spaces id h)).trans (hst.parent id h)
  isRoot id h := (htu.isRoot id (hst.spaces id h)).trans (hst.isRoot id h)
  root := htu.root.trans hst.root

variable {uso' : BSpaceOverseer P}

theorem ReachesRoot.extends (hext : Extends uso uso') (h : ReachesRoot uso id) : ReachesRoot uso' id := by
  induction h with
  | @here id hroot => exact .here ((hext.isRoot id (exists_of_type hroot)).2 hroot)
  | @link id parent hroot hlink hchain ih =>
    -- every space of a chain exists, so its link is one that stays
    have hid : uso.spaces id ≠ none := ReachesRoot.exists (.link hroot hlink hchain)
    exact .link (mt (hext.isRoot id hid).1 hroot) ((hext.parent id hid).trans hlink) ih

/-! ## Edits -/

def Grows (uso uso' : BSpaceOverseer P) : Prop := Rooted uso → Rooted uso' ∧ Extends uso uso'

theorem Grows.refl (uso : BSpaceOverseer P) : Grows uso uso := fun h => ⟨h, .refl uso⟩

theorem Grows.trans (hst : Grows s t) (htu : Grows t u) : Grows s u := fun h =>
  ⟨(htu (hst h).1).1, (hst h).2.trans (htu (hst h).1).2⟩

theorem grows_create {parent : SpaceId} (htype : type ≠ .root) (hparent : uso.spaces parent ≠ none) :
    Grows uso { uso with
      spaces := Function.update uso.spaces uso.count (some ⟨some parent, type⟩), count := uso.count + 1 } := by
  intro h
  -- the number of the new space is no number of an old one
  have hold : ∀ id, uso.spaces id ≠ none → id ≠ uso.count := by
    rintro id hid rfl
    exact hid (h.fresh _ (Nat.le_refl _))
  have hext : Extends uso { uso with
      spaces := Function.update uso.spaces uso.count (some ⟨some parent, type⟩), count := uso.count + 1 } := by
    refine ⟨fun id hid => ?_, fun id hid => ?_, fun id hid => ?_, rfl⟩
    · simpa only [Function.update_of_ne (hold id hid)] using hid
    · simp only [BSpaceOverseer.parent, Function.update_of_ne (hold id hid)]
    · simp only [BSpaceOverseer.IsRoot, BSpaceOverseer.typeOf, Function.update_of_ne (hold id hid)]
  refine ⟨⟨fun id hid => ?_, ?_, fun id hid => ?_, fun xto us hus => ?_, fun xdev us hus => ?_, fun id hid => ?_⟩, hext⟩
  · have hne : id ≠ uso.count := Nat.ne_of_gt hid
    simp only [Function.update_of_ne hne]
    exact h.fresh id (Nat.le_of_succ_le hid)
  · exact (hext.isRoot _ (exists_of_type h.root)).2 h.root
  · by_cases heq : id = uso.count
    · subst heq
      simp only [BSpaceOverseer.IsRoot, BSpaceOverseer.typeOf, Function.update_self, Option.map_some,
        Option.some.injEq] at hid
      exact absurd hid htype
    · simp only [BSpaceOverseer.IsRoot, BSpaceOverseer.typeOf, BSpaceOverseer.parent,
        Function.update_of_ne heq] at hid ⊢
      exact h.top id hid
  · exact hext.spaces us (h.xtoMap xto us hus)
  · exact hext.spaces us (h.xdevMap xdev us hus)
  · by_cases heq : id = uso.count
    · subst heq
      refine .link ?_ ?_ ((h.chains parent hparent).extends hext)
      · simpa only [BSpaceOverseer.IsRoot, BSpaceOverseer.typeOf, Function.update_self, Option.map_some,
          Option.some.injEq] using htype
      · simp only [BSpaceOverseer.parent, Function.update_self, Option.bind_some]
    · simp only [Function.update_of_ne heq] at hid
      exact (h.chains id hid).extends hext

theorem grows_retype {us : USpace P} (hus : uso.spaces id = some us) (hold : us.type ≠ .root) (hnew : type ≠ .root) :
    Grows uso { uso with spaces := Function.update uso.spaces id (some { us with type := type }) } := by
  intro h
  have hid : uso.spaces id ≠ none := by rw [hus]; rintro ⟨⟩
  have hspaces : ∀ id', Function.update uso.spaces id (some { us with type := type }) id' ≠ none ↔
      uso.spaces id' ≠ none := by
    intro id'
    by_cases heq : id' = id
    · subst heq
      rw [Function.update_self]
      exact iff_of_true (by rintro ⟨⟩) hid
    · rw [Function.update_of_ne heq]
  have hparent : ∀ id', BSpaceOverseer.parent
      { uso with spaces := Function.update uso.spaces id (some { us with type := type }) } id' = uso.parent id' := by
    intro id'
    by_cases heq : id' = id
    · subst heq
      simp only [BSpaceOverseer.parent, Function.update_self, hus, Option.bind_some]
    · simp only [BSpaceOverseer.parent, Function.update_of_ne heq]
  have hroot : ∀ id', BSpaceOverseer.IsRoot
      { uso with spaces := Function.update uso.spaces id (some { us with type := type }) } id' ↔ uso.IsRoot id' := by
    intro id'
    by_cases heq : id' = id
    · subst heq
      simp only [BSpaceOverseer.IsRoot, BSpaceOverseer.typeOf, Function.update_self, hus, Option.map_some,
        Option.some.injEq]
      exact iff_of_false hnew hold
    · simp only [BSpaceOverseer.IsRoot, BSpaceOverseer.typeOf, Function.update_of_ne heq]
  -- parent and root look only at the link and at the type being `root`, and neither changes
  have hext : Extends uso { uso with spaces := Function.update uso.spaces id (some { us with type := type }) } :=
    ⟨fun id' hid' => (hspaces id').2 hid', fun id' _ => hparent id', fun id' _ => hroot id', rfl⟩
  refine ⟨⟨fun id' hid' => ?_, (hroot _).2 h.root, fun id' hid' => ?_, fun xto us' hus' => ?_,
    fun xdev us' hus' => ?_, fun id' hid' => ?_⟩, hext⟩
  · exact not_not.1 (mt (hspaces id').1 (not_not.2 (h.fresh id' hid')))
  · exact (hparent id').trans (h.top id' ((hroot id').1 hid'))
  · exact hext.spaces us' (h.xtoMap xto us' hus')
  · exact hext.spaces us' (h.xdevMap xdev us' hus')
  · exact (h.chains id' ((hspaces id').1 hid')).extends hext

theorem grows_maps (hspaces : uso'.spaces = uso.spaces) (hcount : uso'.count = uso.count) (hroot : uso'.root = uso.root)
    (hxto : ∀ xto us, uso'.xtoMap xto = some us → uso.xtoMap xto = some us ∨ uso.spaces us ≠ none)
    (hxdev : ∀ xdev us, uso'.xdevMap xdev = some us → uso.xdevMap xdev = some us ∨ uso.spaces us ≠ none) :
    Grows uso uso' := by
  obtain ⟨spaces, count, xdevMap, xtoMap, root, semantic, canDo, perApp⟩ := uso'
  dsimp only at hspaces hcount hroot hxto hxdev
  subst hspaces hcount hroot
  intro h
  refine ⟨⟨h.fresh, h.root, h.top, fun xto us hus => ?_, fun xdev us hus => ?_, fun id hid => ?_⟩,
    ⟨fun _ h => h, fun _ _ => rfl, fun _ _ => Iff.rfl, rfl⟩⟩
  · exact (hxto xto us hus).elim (h.xtoMap xto us) id
  · exact (hxdev xdev us hus).elim (h.xdevMap xdev us) id
  · exact (h.chains id hid).extends ⟨fun _ h => h, fun _ _ => rfl, fun _ _ => Iff.rfl, rfl⟩

/-! ## Operations that only add spaces or change offsets -/

variable [PoseParts P] {xs : SpaceId} {offset : P}

omit [PoseParts P] in
theorem not_root_of_offsetCompatible {us : USpace P} (hus : uso.spaces id = some us)
    (h : spaceIsOffsetCompatible uso (some id) = true) : us.type ≠ .root := by
  intro hroot
  simp only [spaceIsOffsetCompatible, Option.bind_some, BSpaceOverseer.typeOf, hus, Option.map_some, hroot,
    Bool.false_eq_true] at h

theorem updateOffset_grows {newOffset : P} (h : updateOffset uso id newOffset = some uso') : Grows uso uso' := by
  unfold updateOffset at h
  split at h
  · cases h
  · rename_i us hus
    split at h
    · rename_i hcompatible
      cases h
      refine grows_retype hus (not_root_of_offsetCompatible hus hcompatible) ?_
      split <;> rintro ⟨⟩
    · cases h

omit [PoseParts P] in
theorem createSpace_grows {parent xs : SpaceId} (htype : type ≠ .root)
    (h : createSpace uso type parent = some (xs, uso')) : Grows uso uso' ∧ uso'.spaces xs ≠ none := by
  unfold createSpace at h
  split at h
  · cases h
  · rename_i hparent
    cases h
    refine ⟨grows_create htype (by rw [hparent]; rintro ⟨⟩), ?_⟩
    dsimp only
    rw [Function.update_self]
    rintro ⟨⟩

theorem createOffsetSpace_grows {parent xs : SpaceId} (h : createOffsetSpace uso parent offset = some (xs, uso')) :
    Grows uso uso' := by
  refine (createSpace_grows ?_ h).1
  split <;> rintro ⟨⟩

omit [PoseParts P] in
theorem createNullSpace_grows {parent xs : SpaceId} (h : createNullSpace uso parent = some (xs, uso')) :
    Grows uso uso' :=
  (createSpace_grows (by rintro ⟨⟩) h).1

omit [PoseParts P] in
theorem createPoseSpace_grows {xdev : ℕ} {xname : XrtInputName} (h : createPoseSpace uso xdev xname = some (xs, uso')) :
    Grows uso uso' := by
  obtain ⟨parent, -, h⟩ := Option.bind_eq_some_iff.1 h
  exact (createSpace_grows (by rintro ⟨⟩) h).1

omit [PoseParts P] in
theorem Grows.setSemantic {created : SpaceId × BSpaceOverseer P} (h : Grows uso created.2)
    (type : XrtReferenceSpaceType) : Grows uso (setSemantic type created) :=
  h.trans (grows_maps rfl rfl rfl (fun _ _ h => .inl h) (fun _ _ h => .inl h))

omit [PoseParts P] in
theorem mapOrigin_grows (xto : ℕ) (hxs : uso.spaces xs ≠ none) :
    Grows uso { uso with xtoMap := Function.update uso.xtoMap xto (some xs) } := by
  refine grows_maps rfl rfl rfl (fun xto' us hus => ?_) (fun _ _ h => .inl h)
  dsimp only at hus
  by_cases heq : xto' = xto
  · subst heq
    rw [Function.update_self, Option.some.injEq] at hus
    exact .inr (hus ▸ hxs)
  · rw [Function.update_of_ne heq] at hus
    exact .inl hus

omit [PoseParts P] in
theorem linkSpaceToDevice_grows {xdev : ℕ} (h : linkSpaceToDevice uso xs xdev = some uso') : Grows uso uso' := by
  unfold linkSpaceToDevice at h
  split at h
  · cases h
  · rename_i us hus
    cases h
    refine grows_maps rfl rfl rfl (fun _ _ h => .inl h) (fun xdev' us' hus' => ?_)
    dsimp only at hus'
    by_cases heq : xdev' = xdev
    · subst heq
      rw [Function.update_self, Option.some.injEq] at hus'
      exact .inr (hus' ▸ (by rw [hus]; rintro ⟨⟩))
    · rw [Function.update_of_ne heq] at hus'
      exact .inl hus'

theorem spaceOfOrigin_grows {torig : XrtTrackingOrigin P} (h : spaceOfOrigin uso torig = some (xs, uso')) :
    Grows uso uso' := by
  unfold spaceOfOrigin at h
  split at h
  · cases h
    exact .refl uso
  · split at h
    · obtain ⟨⟨xs, created⟩, hcreate, h⟩ := Option.map_eq_some_iff.1 h
      cases h
      obtain ⟨hgrows, hxs⟩ := createSpace_grows (by rintro ⟨⟩) hcreate
      exact hgrows.trans (mapOrigin_grows torig.ptr hxs)
    · obtain ⟨⟨xs, created⟩, hcreate, h⟩ := Option.bind_eq_some_iff.1 h
      obtain ⟨moved, hmove, h⟩ := Option.map_eq_some_iff.1 h
      cases h
      obtain ⟨hgrows, hxs⟩ := createSpace_grows (by rintro ⟨⟩) hcreate
      intro hrooted
      have hmoved := updateOffset_grows hmove (hgrows hrooted).1
      exact (hgrows.trans ((updateOffset_grows hmove).trans (mapOrigin_grows torig.ptr (hmoved.2.spaces xs hxs))))
        hrooted

variable {xdev : XrtTrackedDevice P}

theorem addDevice_grows (h : addDevice uso xdev = some uso') : Grows uso uso' := by
  obtain ⟨torig, -, h⟩ := Option.bind_eq_some_iff.1 h
  obtain ⟨⟨xs, found⟩, hfound, h⟩ := Option.bind_eq_some_iff.1 h
  exact (spaceOfOrigin_grows hfound).trans (linkSpaceToDevice_grows h)

theorem createIfAsked_grows {pose : Option P} (h : createIfAsked uso pose = some uso') : Grows uso uso' := by
  unfold createIfAsked at h
  split at h
  · cases h
    exact .refl uso
  · obtain ⟨⟨xs, created⟩, hcreate, h⟩ := Option.map_eq_some_iff.1 h
    cases h
    exact createOffsetSpace_grows hcreate

theorem createLocalSpace_grows {localPose floorPose : Option P}
    (h : createLocalSpace uso localPose floorPose = some uso') : Grows uso uso' := by
  unfold createLocalSpace at h
  split at h
  · cases h
    exact .refl uso
  · obtain ⟨created, hlocal, h⟩ := Option.bind_eq_some_iff.1 h
    exact (createIfAsked_grows hlocal).trans (createIfAsked_grows h)

theorem updateTwice_grows {uso : BSpaceOverseer P} {first second : SpaceId} {p q : P}
    {created : XrtResult × BSpaceOverseer P}
    (h : ((updateOffset uso first p).bind fun uso => (updateOffset uso second q).map fun uso => (.success, uso)) =
      some created) : Grows uso created.2 := by
  obtain ⟨moved, hfirst, h⟩ := Option.bind_eq_some_iff.1 h
  obtain ⟨moved', hsecond, h⟩ := Option.map_eq_some_iff.1 h
  cases h
  exact (updateOffset_grows hfirst).trans (updateOffset_grows hsecond)

variable {created : XrtResult × BSpaceOverseer P} {xdevs : List (XrtTrackedDevice P)}

theorem recenterLocalSpaces_grows {view : Option P} (h : recenterLocalSpaces uso view = some created) :
    Grows uso created.2 := by
  unfold recenterLocalSpaces at h
  repeat' split at h
  all_goals try cases h
  all_goals try exact .refl uso
  exact updateTwice_grows h

theorem setTrackingOriginOffset_grows {xto : ℕ} (h : setTrackingOriginOffset uso xto offset = some created) :
    Grows uso created.2 := by
  unfold setTrackingOriginOffset at h
  split at h
  · cases h
  · split at h
    · cases h
      exact .refl uso
    · obtain ⟨moved, hmove, h⟩ := Option.map_eq_some_iff.1 h
      cases h
      exact updateOffset_grows hmove

theorem setReferenceSpaceOffset_grows {type : XrtReferenceSpaceType}
    (h : setReferenceSpaceOffset uso type offset = some created) : Grows uso created.2 := by
  unfold setReferenceSpaceOffset at h
  repeat' split at h
  all_goals try cases h
  all_goals try exact .refl uso
  all_goals exact updateTwice_grows h

theorem addDevices_grows (h : xdevs.foldlM addDevice uso = some uso') : Grows uso uso' := by
  induction xdevs generalizing uso with
  | nil =>
    cases h
    exact .refl _
  | cons xdev xdevs ih =>
    rw [List.foldlM_cons] at h
    obtain ⟨added, hadd, h⟩ := Option.bind_eq_some_iff.1 h
    exact (addDevice_grows hadd).trans (ih h)

variable {head : Option (XrtTrackedDevice P)}

omit [PoseParts P] in
theorem createStageSpace_grows {created : SpaceId × BSpaceOverseer P} (h : createStageSpace uso head = some created) :
    Grows uso created.2 := by
  unfold createStageSpace at h
  split at h
  · exact createPoseSpace_grows h
  · exact createNullSpace_grows h

omit [PoseParts P] in
theorem createViewSpace_grows (h : createViewSpace uso head = some uso') : Grows uso uso' := by
  unfold createViewSpace at h
  split at h
  · cases h
    exact .refl uso
  · obtain ⟨created, hcreate, rfl⟩ := Option.map_eq_some_iff.1 h
    exact (createPoseSpace_grows hcreate).setSemantic .view

theorem legacySetup_grows {localOffset floorOffset : P} {rootIsUnbounded perAppLocalSpaces : Bool}
    (h : legacySetup uso xdevs head localOffset floorOffset rootIsUnbounded perAppLocalSpaces = some uso') :
    Grows uso uso' := by
  have hsettings : Grows uso { uso with perAppLocalSpaces := perAppLocalSpaces } :=
    grows_maps rfl rfl rfl (fun _ _ h => .inl h) (fun _ _ h => .inl h)
  obtain ⟨added, hadd, h⟩ := Option.bind_eq_some_iff.1 h
  have hadded := hsettings.trans (addDevices_grows hadd)
  dsimp only at h
  split at h
  · cases h
  · obtain ⟨stage, hstage, h⟩ := Option.bind_eq_some_iff.1 h
    have hstaged := hadded.trans ((createStageSpace_grows hstage).setSemantic .stage)
    have hunbounded : Grows uso (if rootIsUnbounded then
        setSemantic .unbounded ((setSemantic .stage stage).root, setSemantic .stage stage)
        else setSemantic .stage stage) := by
      split
      · exact Grows.setSemantic hstaged .unbounded
      · exact hstaged
    obtain ⟨localSpace, hlocal, h⟩ := Option.bind_eq_some_iff.1 h
    have hlocals := hunbounded.trans ((createOffsetSpace_grows hlocal).setSemantic .localSpace)
    obtain ⟨floor, hfloor, h⟩ := Option.bind_eq_some_iff.1 h
    exact (hlocals.trans ((createOffsetSpace_grows hfloor).setSemantic .localFloor)).trans (createViewSpace_grows h)

theorem step_grows {op : Op P} (hop : ∀ xdev space, op ≠ .attachDevice xdev space) (h : step uso op = some uso') :
    Grows uso uso' := by
  cases op with
  | createNullSpace parent =>
    obtain ⟨created, hcreate, rfl⟩ := Option.map_eq_some_iff.1 h
    exact createNullSpace_grows hcreate
  | createOffsetSpace parent offset =>
    obtain ⟨created, hcreate, rfl⟩ := Option.map_eq_some_iff.1 h
    exact createOffsetSpace_grows hcreate
  | createPoseSpace xdev xname =>
    obtain ⟨created, hcreate, rfl⟩ := Option.map_eq_some_iff.1 h
    exact createPoseSpace_grows hcreate
  | createLocalSpace localPose floorPose => exact createLocalSpace_grows h
  | recenterLocalSpaces view =>
    obtain ⟨created, hcreate, rfl⟩ := Option.map_eq_some_iff.1 h
    exact recenterLocalSpaces_grows hcreate
  | setTrackingOriginOffset xto offset =>
    obtain ⟨created, hcreate, rfl⟩ := Option.map_eq_some_iff.1 h
    exact setTrackingOriginOffset_grows hcreate
  | setReferenceSpaceOffset type offset =>
    obtain ⟨created, hcreate, rfl⟩ := Option.map_eq_some_iff.1 h
    exact setReferenceSpaceOffset_grows hcreate
  | addDevice xdev => exact addDevice_grows h
  | linkSpaceToDevice xs xdev => exact linkSpaceToDevice_grows h
  | attachDevice xdev space => exact absurd rfl (hop xdev space)
  | assignSemantic type xs =>
    simp only [step] at h
    split at h
    · cases h
      exact (Grows.refl uso).setSemantic type
    · cases h
  | legacySetup xdevs head localOffset floorOffset rootIsUnbounded perAppLocalSpaces => exact legacySetup_grows h

omit [PoseParts P] in
theorem rooted_create : Rooted (bSpaceOverseerCreate : BSpaceOverseer P) := by
  have hother : ∀ id, id ≠ 0 → (bSpaceOverseerCreate : BSpaceOverseer P).spaces id = none := by
    intro id hid
    unfold bSpaceOverseerCreate
    dsimp only
    rw [Function.update_of_ne hid]
  refine ⟨fun id hid => hother id (Nat.ne_of_gt hid), rfl, fun id hid => ?_, fun _ _ h => ?_, fun _ _ h => ?_,
    fun id hid => ?_⟩
  · by_cases heq : id = 0
    · rw [heq]
      rfl
    · exact absurd (hother id heq) (exists_of_type hid)
  · cases h
  · cases h
  · by_cases heq : id = 0
    · rw [heq]
      exact .here rfl
    · exact absurd (hother id heq) hid

/-! ## Attaching a device -/

structure Attached (uso uso' : BSpaceOverseer P) (us target : SpaceId) : Prop where
  attachable : uso.typeOf us = some .attachable
  exists_target : uso.spaces target ≠ none
  state : uso' = { uso with spaces := Function.update uso.spaces us (some ⟨some target, .attachable⟩) }

omit [PoseParts P] in
theorem attachableSpace_type {us : SpaceId} (h : attachableSpace uso xdev = some us) :
    uso.typeOf us = some .attachable := by
  unfold attachableSpace at h
  split at h
  · cases h
  · split at h
    · have htype := (Option.filter_eq_some_iff.1 h).2
      split at htype
      · assumption
      · cases htype
    · cases h

omit [PoseParts P] in
theorem attachDevice_cases {space : Option SpaceId} (h : (attachDevice uso xdev space).map Prod.snd = some uso') :
    (attachableSpace uso xdev = none ∧ uso' = uso) ∨
      ∃ us, attachableSpace uso xdev = some us ∧ Attached uso uso' us (space.getD uso.root) := by
  unfold attachDevice at h
  dsimp only at h
  split at h
  · rename_i hnone
    cases h
    exact .inl ⟨hnone, rfl⟩
  · rename_i us hus
    split at h
    · cases h
    · rename_i htarget
      cases h
      exact .inr ⟨us, hus, attachableSpace_type hus, by rw [htarget]; rintro ⟨⟩, rfl⟩

omit [PoseParts P] in
theorem attachDevice_of_attachable (h : Rooted uso) {space : Option SpaceId} {us : SpaceId}
    (hus : attachableSpace uso xdev = some us) (hmeets : Meets uso.parent (space.getD uso.root) us) :
    ∃ uso', (attachDevice uso xdev space).map Prod.snd = some uso' ∧
      Attached uso uso' us (space.getD uso.root) := by
  have htarget : uso.spaces (space.getD uso.root) ≠ none := by
    cases space with
    | none => exact exists_of_type h.root
    | some space =>
      cases hmeets with
      | refl => exact exists_of_type (attachableSpace_type hus)
      | link hlink _ =>
        intro hnone
        rw [Option.getD_some] at hlink hnone
        rw [BSpaceOverseer.parent, hnone] at hlink
        cases hlink
  obtain ⟨target, htarget⟩ := Option.ne_none_iff_exists'.1 htarget
  have hattach : (attachDevice uso xdev space).map Prod.snd = some { uso with
      spaces := Function.update uso.spaces us (some ⟨some (space.getD uso.root), .attachable⟩) } := by
    simp only [attachDevice, hus, htarget, Option.map_some]
  refine ⟨_, hattach, ?_⟩
  rcases attachDevice_cases hattach with ⟨hnone, -⟩ | ⟨us', hus', hattached⟩
  · rw [hus] at hnone
    cases hnone
  · rw [hus, Option.some.injEq] at hus'
    exact hus' ▸ hattached

variable {us target : SpaceId}

omit [PoseParts P] in
theorem Attached.parent (h : Attached uso uso' us target) :
    uso'.parent = Function.update uso.parent us (some target) := by
  rw [h.state]
  funext id
  by_cases heq : id = us
  · subst heq
    simp only [BSpaceOverseer.parent, Function.update_self, Option.bind_some]
  · simp only [BSpaceOverseer.parent, Function.update_of_ne heq]

omit [PoseParts P] in
theorem Attached.isRoot (h : Attached uso uso' us target) (id : SpaceId) : uso'.IsRoot id ↔ uso.IsRoot id := by
  rw [h.state]
  by_cases heq : id = us
  · subst heq
    have hattachable : Option.map USpace.type (uso.spaces id) = some .attachable := h.attachable
    simp only [BSpaceOverseer.IsRoot, BSpaceOverseer.typeOf, Function.update_self, Option.map_some, hattachable]
  · simp only [BSpaceOverseer.IsRoot, BSpaceOverseer.typeOf, Function.update_of_ne heq]

omit [PoseParts P] in
theorem Attached.spaces (h : Attached uso uso' us target) (id : SpaceId) :
    uso'.spaces id ≠ none ↔ uso.spaces id ≠ none := by
  have hus := exists_of_type h.attachable
  rw [h.state]
  by_cases heq : id = us
  · subst heq
    dsimp only
    rw [Function.update_self]
    exact iff_of_true (by rintro ⟨⟩) hus
  · simp only [Function.update_of_ne heq]

omit [PoseParts P] in
theorem Attached.rooted (h : Attached uso uso' us target) (hrooted : Rooted uso)
    (hclear : ¬ Meets uso.parent target us) : Rooted uso' := by
  have hnotRoot : ¬ uso.IsRoot us := by
    intro hroot
    rw [BSpaceOverseer.IsRoot, h.attachable] at hroot
    cases hroot
  refine ⟨fun id hid => ?_, ?_, fun id hid => ?_, fun xto us' hus' => ?_, fun xdev us' hus' => ?_, fun id hid => ?_⟩
  · rw [h.state] at hid
    exact not_not.1 (mt (h.spaces id).1 (not_not.2 (hrooted.fresh id hid)))
  · have hroot : uso'.root = uso.root := by rw [h.state]
    rw [hroot]
    exact (h.isRoot _).2 hrooted.root
  · have hroot := (h.isRoot id).1 hid
    rw [h.parent, Function.update_of_ne (fun heq : id = us => hnotRoot (heq ▸ hroot))]
    exact hrooted.top id hroot
  · rw [h.state] at hus'
    exact (h.spaces us').2 (hrooted.xtoMap xto us' hus')
  · rw [h.state] at hus'
    exact (h.spaces us').2 (hrooted.xdevMap xdev us' hus')
  · have hchain : Arrives (Function.update uso.parent us (some target)) uso.IsRoot id :=
      arrives_update hclear (hrooted.chains target h.exists_target) (hrooted.chains id ((h.spaces id).1 hid))
    exact hchain.congr (fun b _ => by rw [h.parent]) h.isRoot

omit [PoseParts P] in
theorem Attached.not_reachesRoot (h : Attached uso uso' us target) (hrooted : Rooted uso)
    (hmeets : Meets uso.parent target us) : ¬ ReachesRoot uso' us := by
  have hnotRoot : ¬ uso.IsRoot us := by
    intro hroot
    rw [BSpaceOverseer.IsRoot, h.attachable] at hroot
    cases hroot
  intro hchain
  have hchain : Arrives (Function.update uso.parent us (some target)) uso.IsRoot us :=
    hchain.congr (fun b _ => by rw [h.parent]) (fun id => (h.isRoot id).symm)
  exact (arrives_update_self_iff hrooted.top hnotRoot (hrooted.chains target h.exists_target)).1 hchain hmeets

end

/-! ## Whole runs -/

/-- What `attach_device` would have to check: the space that the device is attached to does not hang, directly or
through others, under the attachable space of the device. -/
def Clear {P : Type} (uso : BSpaceOverseer P) : Op P → Prop
  | .attachDevice xdev space =>
    ∀ us, attachableSpace uso xdev = some us → ¬ Meets uso.parent (space.getD uso.root) us
  | _ => True

variable {Q V : Type} [MathApi Q V] {uso : BSpaceOverseer (Pose Q V)}

/-- The chain of every space leads to the root, and traversing and locating come to an end. -/
structure ChainsEnd (uso : BSpaceOverseer (Pose Q V)) : Prop where
  reachesRoot : ∀ id, uso.spaces id ≠ none → ReachesRoot uso id
  traverse : ∀ id, uso.spaces id ≠ none → ∃ fuel, ∀ devices atTimestamp xrc,
    pushThenTraverse uso devices atTimestamp fuel xrc id ≠ .error .outOfFuel ∧
      traverseThenPushInverse uso devices atTimestamp fuel xrc id ≠ .error .outOfFuel
  locate : ∀ baseSpace space, uso.spaces baseSpace ≠ none → uso.spaces space ≠ none →
    ∃ fuel, ∀ devices baseOffset atTimestamp offset,
      locateSpace uso devices fuel baseSpace baseOffset atTimestamp space offset ≠ .error .outOfFuel

theorem Rooted.chainsEnd (h : Rooted uso) : ChainsEnd uso where
  reachesRoot := h.chains
  traverse id hid := by
    obtain ⟨path, hpath⟩ := (h.chains id hid).path
    refine ⟨path.length + 1, fun devices atTimestamp xrc => ⟨?_, ?_⟩⟩
    · rw [pushThenTraverse_eq hpath (Nat.lt_succ_self _)]
      exact foldlM_ne_outOfFuel (pushSpace_ne_outOfFuel devices atTimestamp) path xrc
    · rw [traverseThenPushInverse_eq hpath (Nat.lt_succ_self _)]
      exact foldlM_ne_outOfFuel (pushInverseSpace_ne_outOfFuel devices atTimestamp) _ xrc
  locate baseSpace space hbase hspace := by
    obtain ⟨basePath, hbasePath⟩ := (h.chains baseSpace hbase).path
    obtain ⟨path, hpath⟩ := (h.chains space hspace).path
    refine ⟨basePath.length + path.length + 1, fun devices baseOffset atTimestamp offset => ?_⟩
    exact locateSpace_ne_outOfFuel hbasePath hpath (by omega) (by omega) devices baseOffset atTimestamp offset

theorem step_rooted {uso uso' : BSpaceOverseer (Pose Q V)} {op : Op (Pose Q V)} (h : Rooted uso) (hclear : Clear uso op)
    (hstep : step uso op = some uso') : Rooted uso' := by
  by_cases hop : ∀ xdev space, op ≠ .attachDevice xdev space
  · exact (step_grows hop hstep h).1
  · push Not at hop
    obtain ⟨xdev, space, rfl⟩ := hop
    rcases attachDevice_cases hstep with ⟨-, rfl⟩ | ⟨us, hus, hattached⟩
    · exact h
    · exact hattached.rooted h (hclear us hus)

theorem step_chainsEnd_iff {op : Op (Pose Q V)} (h : Rooted uso) :
    (∀ uso', step uso op = some uso' → ChainsEnd uso') ↔ Clear uso op := by
  constructor
  · intro hends
    by_cases hop : ∀ xdev space, op ≠ .attachDevice xdev space
    · cases op with
      | attachDevice xdev space => exact absurd rfl (hop xdev space)
      | _ => trivial
    · push Not at hop
      obtain ⟨xdev, space, rfl⟩ := hop
      intro us hus hmeets
      -- the attachment is made all the same, and its space has no way to the root any more
      obtain ⟨uso', hstep, hattached⟩ := attachDevice_of_attachable h hus hmeets
      have hus' := (hattached.spaces us).2 (exists_of_type hattached.attachable)
      exact hattached.not_reachesRoot h hmeets ((hends uso' hstep).reachesRoot us hus')
  · intro hclear uso' hstep
    exact (step_rooted h hclear hstep).chainsEnd

/-- After every operation of a run all chains end exactly when each device that the run attaches goes to a space
that does not hang under its own attachable space. -/
theorem chainsEnd_iff (ops : List (Op (Pose Q V))) :
    Along step (fun uso op => ∀ uso', step uso op = some uso' → ChainsEnd uso') bSpaceOverseerCreate ops ↔
      Along step Clear bSpaceOverseerCreate ops :=
  along_iff (I := Rooted) (fun _ _ h => step_chainsEnd_iff h) (fun _ _ _ h hclear hstep => step_rooted h hclear hstep)
    rooted_create ops

def tracker : XrtTrackedDevice (Pose (UnitQuat ℚ) (Vec3 ℚ)) := ⟨1, some ⟨2, true, XRT_POSE_IDENTITY⟩, false⟩

/-- A device that is attached to a space of its own makes a loop. -/
theorem attachedToItself_not_chainsEnd :
    ¬ Along step (fun uso op => ∀ uso', step uso op = some uso' → ChainsEnd uso') bSpaceOverseerCreate
      [.addDevice tracker, .createPoseSpace 1 XRT_INPUT_GENERIC_HEAD_POSE, .attachDevice tracker (some 2)] := by
  intro h
  have hrest := (along_cons.1 h).2 _ rfl
  have hlast := (along_cons.1 ((along_cons.1 hrest).2 _ rfl)).1
  have hadded := @step_rooted _ _ _ _ _ (.addDevice tracker) rooted_create trivial rfl
  have hcreated := @step_rooted _ _ _ _ _ (.createPoseSpace 1 XRT_INPUT_GENERIC_HEAD_POSE) hadded trivial rfl
  exact (step_chainsEnd_iff hcreated).1 hlast 1 rfl (.link rfl .refl)

end AugmentedInsanity.Base
