/-
Locating a list of spaces (`b_space_overseer.c`), and locating spaces that were created since. A space is located by
what it is and what it is in, so it does not matter which other spaces were created before it (`locateSpace_alike`).
-/
import AugmentedInsanity.Lib.Reuse
import AugmentedInsanity.Base.SpaceGraph

namespace AugmentedInsanity.Base

open Xrt Reuse

variable {Q V : Type} [MathApi Q V] {uso : BSpaceOverseer (Pose Q V)} {p : Option SpaceId × Pose Q V}
  {devices : TrackedPoses Q V}

/-! ## Locating a list -/

inductive LocateError
  | traverse (e : TraverseError)
  /-- A space is read that is `NULL`. -/
  | absentSpace
  deriving DecidableEq

/-- What `find_same_space_before` looks for; that poses are approximately the same is for the arithmetic to say. -/
def sameSpace (poseApprox : Pose Q V → Pose Q V → Bool) (p q : Option SpaceId × Pose Q V) : Bool :=
  p.1.isSome && decide (p.1 = q.1) && poseApprox p.2 q.2

/-- One space of the list, which may be `NULL`; of its relation then only the flags are written. -/
def locateListed (uso : BSpaceOverseer (Pose Q V)) (devices : TrackedPoses Q V) (fuel : ℕ) (baseSpace : Option SpaceId)
    (baseOffset : Pose Q V) (atTimestamp : Int64) :
    Option SpaceId × Pose Q V → Except LocateError (SpaceRelation Q V)
  | (none, _) => .ok XRT_SPACE_RELATION_ZERO
  | (some space, offset) =>
    match baseSpace with
    | none =>
      -- the chain of the space is pushed before the base is read
      match pushThenTraverse uso devices atTimestamp fuel (RelationChain.empty.pushPoseIfNotIdentity offset) space with
      | .error e => .error (.traverse e)
      | .ok _ => .error .absentSpace
    | some base =>
      match locateSpace uso devices fuel base baseOffset atTimestamp space offset with
      | .error e => .error (.traverse e)
      | .ok relation => .ok relation

def locateSpaces (uso : BSpaceOverseer (Pose Q V)) (devices : TrackedPoses Q V) (fuel : ℕ)
    (poseApprox : Pose Q V → Pose Q V → Bool) (baseSpace : Option SpaceId) (baseOffset : Pose Q V)
    (atTimestamp : Int64) (spaces : List (Option SpaceId × Pose Q V)) : Except LocateError (List (SpaceRelation Q V)) :=
  reusing (sameSpace poseApprox) (locateListed uso devices fuel baseSpace baseOffset atTimestamp) spaces

theorem locateListed_ne_absent {fuel : ℕ} {baseSpace : Option SpaceId} {baseOffset : Pose Q V} {atTimestamp : Int64}
    (h : baseSpace = none → p.1 = none) :
    locateListed uso devices fuel baseSpace baseOffset atTimestamp p ≠ .error .absentSpace := by
  obtain ⟨space, offset⟩ := p
  cases space with
  | none => rintro ⟨⟩
  | some space =>
    cases baseSpace with
    | none => cases h rfl
    | some base =>
      intro herror
      rw [locateListed] at herror
      split at herror <;> cases herror

theorem locateListed_absent (uso : BSpaceOverseer (Pose Q V)) (devices : TrackedPoses Q V) (fuel : ℕ)
    (baseOffset : Pose Q V) (atTimestamp : Int64) (space : SpaceId) (offset : Pose Q V) :
    ∃ e, locateListed uso devices fuel none baseOffset atTimestamp (some space, offset) = .error e := by
  unfold locateListed
  dsimp only
  split
  · exact ⟨_, rfl⟩
  · exact ⟨_, rfl⟩

theorem locateSpaces_absent {fuel : ℕ} {poseApprox : Pose Q V → Pose Q V → Bool} {baseOffset : Pose Q V}
    {atTimestamp : Int64} {spaces : List (Option SpaceId × Pose Q V)} (hp : p ∈ spaces) (hpresent : p.1 ≠ none) :
    ∃ e, locateSpaces uso devices fuel poseApprox none baseOffset atTimestamp spaces = .error e := by
  cases hout : locateSpaces uso devices fuel poseApprox none baseOffset atTimestamp spaces with
  | error e => exact ⟨e, rfl⟩
  | ok out =>
    obtain ⟨hlen, hspec⟩ := reusing_spec hout
    obtain ⟨i, hi⟩ := List.getElem?_of_mem hp
    have hlt : i < out.length := hlen ▸ (List.getElem?_eq_some_iff.mp hi).1
    obtain ⟨j, p', hj, hlinked, hrelation⟩ := hspec i p out[i] hi (List.getElem?_eq_getElem hlt)
    -- the relation was taken over from a space that is there too
    have hsame : ∀ q q', sameSpace poseApprox q q' = true → q.1 = q'.1 := by
      intro q q' h
      unfold sameSpace at h
      simp only [Bool.and_eq_true, decide_eq_true_eq] at h
      exact h.1.2
    have hshared := hlinked.shared hsame hj hi
    obtain ⟨space, hspace⟩ := Option.ne_none_iff_exists'.1 hpresent
    obtain ⟨x, offset⟩ := p'
    rw [hspace] at hshared
    cases hshared
    obtain ⟨e, he⟩ := locateListed_absent uso devices fuel baseOffset atTimestamp space offset
    rw [he] at hrelation
    cases hrelation

/-! ## Spaces created since -/

section
variable {P : Type}

/-- The spaces of `uso` are still there, as they were. -/
def KeepsSpaces (uso uso' : BSpaceOverseer P) : Prop := ∀ id, uso.spaces id ≠ none → uso'.spaces id = uso.spaces id

theorem KeepsSpaces.refl (uso : BSpaceOverseer P) : KeepsSpaces uso uso := fun _ _ => rfl

theorem KeepsSpaces.trans {s t u : BSpaceOverseer P} (hst : KeepsSpaces s t) (htu : KeepsSpaces t u) : KeepsSpaces s u := by
  intro id hid
  have ht := hst id hid
  rw [htu id (ht ▸ hid), ht]

/-- Links and maps lead to spaces, and no space has a number that is still to be given. -/
structure Closed (uso : BSpaceOverseer P) : Prop where
  fresh : ∀ id, uso.count ≤ id → uso.spaces id = none
  linked : ∀ id us next, uso.spaces id = some us → us.next = some next → uso.spaces next ≠ none
  xdevMap : ∀ xdev xs, uso.xdevMap xdev = some xs → uso.spaces xs ≠ none
  semantic : ∀ type xs, uso.semantic type = some xs → uso.spaces xs ≠ none

theorem Rooted.closed {uso : BSpaceOverseer P} (h : Rooted uso)
    (hsemantic : ∀ type xs, uso.semantic type = some xs → uso.spaces xs ≠ none) : Closed uso where
  fresh := h.fresh
  xdevMap := h.xdevMap
  semantic := hsemantic
  linked := fun id us next hus hnext => by
    have hparent : uso.parent id = some next := by rw [BSpaceOverseer.parent, hus, Option.bind_some, hnext]
    cases h.chains id (by rw [hus]; rintro ⟨⟩) with
    | here hroot =>
      rw [h.top id hroot] at hparent
      cases hparent
    | link _ hlink hchain =>
      rw [hparent] at hlink
      cases hlink
      exact ReachesRoot.exists hchain

/-- One space in one extension of `uso` and one in another, which are the same old space, or are new ones that
are alike and in the same old space. -/
inductive Alike (uso uso₁ uso₂ : BSpaceOverseer P) : SpaceId → SpaceId → Prop
  | old {id : SpaceId} : uso.spaces id ≠ none → Alike uso uso₁ uso₂ id id
  | new {id₁ id₂ parent : SpaceId} {type : USpaceType P} : uso₁.spaces id₁ = some ⟨some parent, type⟩ →
      uso₂.spaces id₂ = some ⟨some parent, type⟩ → uso.spaces parent ≠ none → Alike uso uso₁ uso₂ id₁ id₂

end

section
variable {uso uso₁ uso₂ : BSpaceOverseer (Pose Q V)} {devices : TrackedPoses Q V} {atTimestamp : Int64}

theorem pushThenTraverse_kept (hclosed : Closed uso) (hkeeps : KeepsSpaces uso uso₁) (fuel : ℕ) (xrc : RelationChain Q V)
    {id : SpaceId} (hid : uso.spaces id ≠ none) :
    pushThenTraverse uso₁ devices atTimestamp fuel xrc id = pushThenTraverse uso devices atTimestamp fuel xrc id := by
  induction fuel generalizing xrc id with
  | zero => rfl
  | succ fuel ih =>
    obtain ⟨us, hus⟩ := Option.ne_none_iff_exists'.1 hid
    have hus₁ : uso₁.spaces id = some us := (hkeeps id hid).trans hus
    simp only [pushThenTraverse, hus, hus₁]
    cases us.type.isRoot with
    | true => rfl
    | false =>
      cases pushSpace devices atTimestamp xrc us.type with
      | error e => rfl
      | ok xrc' =>
        cases hnext : us.next with
        | none => rfl
        | some next => exact ih xrc' (hclosed.linked id us next hus hnext)

theorem traverseThenPushInverse_kept (hclosed : Closed uso) (hkeeps : KeepsSpaces uso uso₁) (fuel : ℕ)
    (xrc : RelationChain Q V) {id : SpaceId} (hid : uso.spaces id ≠ none) :
    traverseThenPushInverse uso₁ devices atTimestamp fuel xrc id =
      traverseThenPushInverse uso devices atTimestamp fuel xrc id := by
  induction fuel generalizing xrc id with
  | zero => rfl
  | succ fuel ih =>
    obtain ⟨us, hus⟩ := Option.ne_none_iff_exists'.1 hid
    have hus₁ : uso₁.spaces id = some us := (hkeeps id hid).trans hus
    simp only [traverseThenPushInverse, hus, hus₁]
    cases us.type.isRoot with
    | true => rfl
    | false =>
      cases hnext : us.next with
      | none => rfl
      | some next =>
        have hparent := ih xrc (hclosed.linked id us next hus hnext)
        simp only [hparent]

variable (hclosed : Closed uso) (h₁ : KeepsSpaces uso uso₁) (h₂ : KeepsSpaces uso uso₂)
include hclosed h₁ h₂

theorem pushThenTraverse_alike {id₁ id₂ : SpaceId} (h : Alike uso uso₁ uso₂ id₁ id₂) (fuel : ℕ)
    (xrc : RelationChain Q V) :
    pushThenTraverse uso₁ devices atTimestamp fuel xrc id₁ = pushThenTraverse uso₂ devices atTimestamp fuel xrc id₂ := by
  cases h with
  | old hid => rw [pushThenTraverse_kept hclosed h₁ fuel xrc hid, pushThenTraverse_kept hclosed h₂ fuel xrc hid]
  | new hus₁ hus₂ hparent =>
    cases fuel with
    | zero => rfl
    | succ fuel =>
      have hsame : ∀ xrc', pushThenTraverse uso₁ devices atTimestamp fuel xrc' _ =
          pushThenTraverse uso₂ devices atTimestamp fuel xrc' _ := fun xrc' =>
        (pushThenTraverse_kept hclosed h₁ fuel xrc' hparent).trans
          (pushThenTraverse_kept hclosed h₂ fuel xrc' hparent).symm
      simp only [pushThenTraverse, hus₁, hus₂]
      congr 1
      cases pushSpace devices atTimestamp xrc _ with
      | error e => rfl
      | ok xrc' => exact hsame xrc'

theorem traverseThenPushInverse_alike {id₁ id₂ : SpaceId} (h : Alike uso uso₁ uso₂ id₁ id₂) (fuel : ℕ)
    (xrc : RelationChain Q V) :
    traverseThenPushInverse uso₁ devices atTimestamp fuel xrc id₁ =
      traverseThenPushInverse uso₂ devices atTimestamp fuel xrc id₂ := by
  cases h with
  | old hid =>
    rw [traverseThenPushInverse_kept hclosed h₁ fuel xrc hid, traverseThenPushInverse_kept hclosed h₂ fuel xrc hid]
  | new hus₁ hus₂ hparent =>
    cases fuel with
    | zero => rfl
    | succ fuel =>
      have hsame : traverseThenPushInverse uso₁ devices atTimestamp fuel xrc _ =
          traverseThenPushInverse uso₂ devices atTimestamp fuel xrc _ :=
        (traverseThenPushInverse_kept hclosed h₁ fuel xrc hparent).trans
          (traverseThenPushInverse_kept hclosed h₂ fuel xrc hparent).symm
      simp only [traverseThenPushInverse, hus₁, hus₂, hsame]

theorem locateSpace_alike {base₁ base₂ id₁ id₂ : SpaceId} (hbase : Alike uso uso₁ uso₂ base₁ base₂)
    (hspace : Alike uso uso₁ uso₂ id₁ id₂) (hsame : id₁ = base₁ ↔ id₂ = base₂) (fuel : ℕ) (baseOffset : Pose Q V)
    (offset : Pose Q V) :
    locateSpace uso₁ devices fuel base₁ baseOffset atTimestamp id₁ offset =
      locateSpace uso₂ devices fuel base₂ baseOffset atTimestamp id₂ offset := by
  have hbuilt : ∀ xrc, buildRelationChain uso₁ devices fuel xrc base₁ id₁ atTimestamp =
      buildRelationChain uso₂ devices fuel xrc base₂ id₂ atTimestamp := by
    intro xrc
    unfold buildRelationChain
    rw [pushThenTraverse_alike hclosed h₁ h₂ hspace]
    cases pushThenTraverse uso₂ devices atTimestamp fuel xrc id₂ with
    | error e => rfl
    | ok xrc' => exact traverseThenPushInverse_alike hclosed h₁ h₂ hbase fuel xrc'
  unfold locateSpace
  simp only [hbuilt, ne_eq, hsame]

end

end AugmentedInsanity.Base
