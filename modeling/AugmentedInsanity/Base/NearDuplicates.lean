/-
Near duplicates in a list of spaces that is located (`locate_spaces` of `b_space_overseer.c`). A relation is copied
from the first earlier entry that is approximately the same, which may be a copy itself, so what an entry gets is the
relation of the entry where the chain of copies starts. Each gets that of an offset within the tolerance exactly when
the offsets at the starts are, or are located as ones that are (`locatesNear_iff`).
-/
import AugmentedInsanity.Base.Locate
import AugmentedInsanity.Base.LocateSpaces

namespace AugmentedInsanity.Base.NearDuplicates

open Reuse

variable {Q V : Type} [MathApi Q V]

/-! ## Locating a list -/

/-- The spaces of the list with their offsets; a space may be `NULL`. -/
abbrev Entries (Q V : Type) := List (Option SpaceId × Pose Q V)

/-- The test of `find_same_space_before`. -/
def sameAt (poseApprox : Pose Q V → Pose Q V → Bool) (entries : Entries Q V) (i spaceIndex : ℕ) : Bool :=
  match entries[i]?, entries[spaceIndex]? with
  | some p, some q => decide (p.1 = q.1) && poseApprox p.2 q.2
  | _, _ => false

/-- `find_same_space_before`. The index is converted to `int32_t`, and nothing is before a negative one. -/
def findSameSpaceBefore (poseApprox : Pose Q V → Pose Q V → Bool) (entries : Entries Q V) (spaceIndex : ℕ) :
    Option ℕ :=
  (List.range (if spaceIndex < 2147483648 then spaceIndex else 0)).find? fun i =>
    sameAt poseApprox entries i spaceIndex

/-- Where the relation at an index is copied from: not for a space that is `NULL`. -/
def found (poseApprox : Pose Q V → Pose Q V → Bool) (entries : Entries Q V) (i : ℕ) : Option ℕ :=
  if (entries[i]?.bind Prod.fst).isSome then findSameSpaceBefore poseApprox entries i else none

def locateSpaces (uso : BSpaceOverseer (Pose Q V)) (devices : TrackedPoses Q V) (fuel : ℕ)
    (poseApprox : Pose Q V → Pose Q V → Bool) (baseSpace : SpaceId) (baseOffset : Pose Q V) (atTimestamp : Int64)
    (entries : Entries Q V) : Except LocateError (List (SpaceRelation Q V)) :=
  copying (locateListed uso devices fuel (some baseSpace) baseOffset atTimestamp) (found poseApprox entries) entries

/-! ## What is to hold -/

/-- The same offset, or one within the tolerance of it. -/
def Near (poseApprox : Pose Q V → Pose Q V → Bool) (offset' offset : Pose Q V) : Prop :=
  offset' = offset ∨ poseApprox offset' offset = true

/-- All relations are given, and that of a space is what locating it gives with an offset near the one that is asked
for. -/
def LocatesNear (uso : BSpaceOverseer (Pose Q V)) (devices : TrackedPoses Q V) (fuel : ℕ)
    (poseApprox : Pose Q V → Pose Q V → Bool) (baseSpace : SpaceId) (baseOffset : Pose Q V) (atTimestamp : Int64)
    (entries : Entries Q V) : Prop :=
  ∃ out, locateSpaces uso devices fuel poseApprox baseSpace baseOffset atTimestamp entries = .ok out ∧
    out.length = entries.length ∧
    ∀ (i : ℕ) space offset, entries[i]? = some (some space, offset) → ∃ relation offset', out[i]? = some relation ∧
      Near poseApprox offset' offset ∧
      locateSpace uso devices fuel baseSpace baseOffset atTimestamp space offset' = .ok relation

/-- The entry where the chain of near duplicates before each entry starts: its offset is near the one of the entry, or
the space is located at it as at one that is near. -/
def StartsNear (uso : BSpaceOverseer (Pose Q V)) (devices : TrackedPoses Q V) (fuel : ℕ)
    (poseApprox : Pose Q V → Pose Q V → Bool) (baseSpace : SpaceId) (baseOffset : Pose Q V) (atTimestamp : Int64)
    (entries : Entries Q V) : Prop :=
  ∀ (i : ℕ) space offset start, entries[i]? = some (some space, offset) →
    entries[source (found poseApprox entries) i]? = some (some space, start) →
    Near poseApprox start offset ∨ ∃ offset', Near poseApprox offset' offset ∧
      locateSpace uso devices fuel baseSpace baseOffset atTimestamp space offset' =
        locateSpace uso devices fuel baseSpace baseOffset atTimestamp space start

/-- The chain of a space leads to the root, the devices on it are named, and there is fuel for it and for that of the
base. -/
def Locatable (uso : BSpaceOverseer (Pose Q V)) (fuel : ℕ) (baseSpace space : SpaceId) : Prop :=
  ∃ basePath path, Path uso baseSpace basePath ∧ Path uso space path ∧ (∀ type ∈ basePath ++ path, NamedSpace type) ∧
    basePath.length + path.length < fuel

/-! ## Near duplicates -/

section
variable {poseApprox : Pose Q V → Pose Q V → Bool} {entries : Entries Q V}

omit [MathApi Q V]

theorem sameAt_space {i k : ℕ} (h : sameAt poseApprox entries k i = true) :
    entries[k]?.map Prod.fst = entries[i]?.map Prod.fst := by
  unfold sameAt at h
  split at h
  · rename_i p q hp hq
    rw [hp, hq]
    exact congrArg some (of_decide_eq_true (Bool.and_eq_true_iff.1 h).1)
  · cases h

theorem found_space {i k : ℕ} (h : found poseApprox entries i = some k) :
    entries[k]?.map Prod.fst = entries[i]?.map Prod.fst := by
  unfold found at h
  split at h
  · unfold findSameSpaceBefore at h
    have hsame := List.find?_some h
    exact sameAt_space hsame
  · cases h

theorem found_eq {i : ℕ} {p : Option SpaceId × Pose Q V} (hindex : i < 2147483648) (hp : entries[i]? = some p) :
    found poseApprox entries i = (entries.take i).findIdx? (sameSpace poseApprox · p) := by
  obtain ⟨hi, -⟩ := List.getElem?_eq_some_iff.1 hp
  rw [found, hp, Option.bind_some, findSameSpaceBefore, if_pos hindex]
  by_cases hsome : p.1.isSome = true
  · have hsame : ∀ j (hj : j < entries.length), sameAt poseApprox entries j i = sameSpace poseApprox entries[j] p := by
      intro j hj
      rw [sameAt, hp, List.getElem?_eq_getElem hj, sameSpace]
      by_cases h : entries[j].1 = p.1 <;> simp [h, hsome]
    rw [if_pos hsome]
    apply Option.ext
    intro k
    rw [List.find?_range_eq_some, List.findIdx?_eq_some_iff_getElem]
    constructor
    · rintro ⟨hk, hlt, hfirst⟩
      have hlt : k < i := List.mem_range.1 hlt
      refine ⟨by rw [List.length_take]; omega, by rwa [List.getElem_take, ← hsame], fun j hj => ?_⟩
      rw [List.getElem_take, ← hsame j (by omega)]
      simpa using hfirst j hj
    · rintro ⟨hlt, hk, hfirst⟩
      rw [List.length_take] at hlt
      rw [List.getElem_take, ← hsame] at hk
      refine ⟨hk, List.mem_range.2 (by omega), fun j hj => ?_⟩
      have hj := hfirst j hj
      rw [List.getElem_take, ← hsame] at hj
      simpa using hj
  · rw [if_neg hsome]
    refine (List.findIdx?_eq_none_iff.2 fun q _ => ?_).symm
    unfold sameSpace
    by_cases h : q.1 = p.1 <;> simp_all

theorem source_space {i : ℕ} {space : SpaceId} {offset : Pose Q V} (h : entries[i]? = some (some space, offset)) :
    ∃ start, entries[source (found poseApprox entries) i]? = some (some space, start) := by
  have hshared : entries[source (found poseApprox entries) i]?.map Prod.fst = entries[i]?.map Prod.fst :=
    source_shared (fun i k hfound _ => found_space hfound) i
  rw [h] at hshared
  obtain ⟨⟨space', start⟩, hstart, hspace⟩ := Option.map_eq_some_iff.1 hshared
  cases hspace
  exact ⟨start, hstart⟩

end

section
variable {uso : BSpaceOverseer (Pose Q V)} {devices : TrackedPoses Q V} {fuel : ℕ}
  {poseApprox : Pose Q V → Pose Q V → Bool} {baseSpace space : SpaceId} {baseOffset : Pose Q V} {atTimestamp : Int64}
  {entries : Entries Q V}

/-- Up to as many spaces as an `int32_t` counts, the loop is that of `Base.locateSpaces`. -/
theorem locateSpaces_eq (hlen : entries.length ≤ 2147483648) :
    Base.locateSpaces uso devices fuel poseApprox (some baseSpace) baseOffset atTimestamp entries =
      locateSpaces uso devices fuel poseApprox baseSpace baseOffset atTimestamp entries := by
  refine reusing_eq fun i p hp => found_eq ?_ hp
  have hi := (List.getElem?_eq_some_iff.1 hp).1
  omega

theorem Locatable.locateSpace_ok (h : Locatable uso fuel baseSpace space) (offset : Pose Q V) :
    ∃ relation, locateSpace uso devices fuel baseSpace baseOffset atTimestamp space offset = .ok relation := by
  obtain ⟨basePath, path, hbase, hspace, hnamed, hfuel⟩ := h
  by_cases heq : space = baseSpace
  · subst heq
    exact ⟨_, locateSpace_self_eq uso devices atTimestamp space fuel baseOffset offset⟩
  · exact ⟨_, locateSpace_eq devices atTimestamp heq hbase hspace hnamed hfuel baseOffset offset⟩

theorem locateListed_eq_ok {offset : Pose Q V} {relation : SpaceRelation Q V} :
    locateListed uso devices fuel (some baseSpace) baseOffset atTimestamp (some space, offset) = .ok relation ↔
      locateSpace uso devices fuel baseSpace baseOffset atTimestamp space offset = .ok relation := by
  unfold locateListed
  cases hlocate : locateSpace uso devices fuel baseSpace baseOffset atTimestamp space offset with
  | error e => simp only [hlocate, reduceCtorEq]
  | ok relation' => simp only [hlocate, Except.ok.injEq]

variable (devices poseApprox baseOffset atTimestamp) in
theorem locateSpaces_sources (hspaces : ∀ p ∈ entries, ∀ space ∈ p.1, Locatable uso fuel baseSpace space) :
    ∃ out, locateSpaces uso devices fuel poseApprox baseSpace baseOffset atTimestamp entries = .ok out ∧
      out.length = entries.length ∧
      ∀ (i : ℕ) space offset, entries[i]? = some (some space, offset) → ∃ relation start, out[i]? = some relation ∧
        entries[source (found poseApprox entries) i]? = some (some space, start) ∧
        locateSpace uso devices fuel baseSpace baseOffset atTimestamp space start = .ok relation := by
  have hok : ∀ p ∈ entries, ∃ relation,
      locateListed uso devices fuel (some baseSpace) baseOffset atTimestamp p = .ok relation := by
    rintro ⟨space, offset⟩ hp
    cases space with
    | none => exact ⟨_, rfl⟩
    | some space =>
      obtain ⟨relation, hrelation⟩ := (hspaces _ hp space rfl).locateSpace_ok offset
      exact ⟨relation, locateListed_eq_ok.2 hrelation⟩
  obtain ⟨out, hout⟩ : ∃ out, locateSpaces uso devices fuel poseApprox baseSpace baseOffset atTimestamp entries =
      .ok out := copyingFrom_ok hok []
  obtain ⟨hlength, hsources⟩ := copying_spec hout
  refine ⟨out, hout, hlength, ?_⟩
  intro i space offset hi
  have hlt : i < out.length := hlength ▸ (List.getElem?_eq_some_iff.1 hi).1
  have hget := List.getElem?_eq_getElem hlt
  obtain ⟨p, hp, hrelation⟩ := hsources i _ hget
  obtain ⟨start, hstart⟩ := source_space hi
  rw [hp] at hstart
  cases hstart
  exact ⟨_, start, hget, hp, locateListed_eq_ok.1 hrelation⟩

/-! ## Offsets that are located alike -/

open Motions

theorem motion_of_locatedAlike [CrossProduct V] [ExactMath Q V] {basePath path : List (USpaceType (Pose Q V))}
    (hbase : Path uso baseSpace basePath) (hspace : Path uso space path)
    (hvalid : ∀ type ∈ basePath ++ path, ValidSpace devices atTimestamp type)
    (hfits : ∀ offset, (chainSteps devices atTimestamp basePath baseOffset path offset).length ≤
      XRT_RELATION_CHAIN_CAPACITY)
    (hfuel : basePath.length + path.length < fuel) {offset offset' : Pose Q V}
    (h : locateSpace uso devices fuel baseSpace baseOffset atTimestamp space offset' =
      locateSpace uso devices fuel baseSpace baseOffset atTimestamp space offset) :
    offset'.motion = offset.motion := by
  have hnamed : ∀ type ∈ basePath ++ path, NamedSpace type := fun type htype => (hvalid type htype).named
  by_cases heq : space = baseSpace
  · subst heq
    rw [locateSpace_self_eq, locateSpace_self_eq] at h
    have hnothing : ∀ type ∈ ([] ++ [] : List (USpaceType (Pose Q V))), ValidSpace devices atTimestamp type := by
      rintro type ⟨⟩
    have hmotion := congrArg SpaceRelation.motion (Except.ok.inj h)
    rw [(specialResolve_chainSteps hnothing (length_offsets_le devices atTimestamp baseOffset offset')).1,
      (specialResolve_chainSteps hnothing (length_offsets_le devices atTimestamp baseOffset offset)).1] at hmotion
    exact mul_left_cancel hmotion
  · rw [locateSpace_eq devices atTimestamp heq hbase hspace hnamed hfuel,
      locateSpace_eq devices atTimestamp heq hbase hspace hnamed hfuel] at h
    have hmotion := congrArg SpaceRelation.motion (Except.ok.inj h)
    rw [(specialResolve_chainSteps hvalid (hfits offset')).1, (specialResolve_chainSteps hvalid (hfits offset)).1]
      at hmotion
    exact mul_left_cancel hmotion

end

/-! ## A drift -/

/-- The tolerance of `pose_approx`, one part in a hundred thousand. -/
def within (a b : ℚ) : Bool := decide (a - b < 1 / 100000) && decide (b - a < 1 / 100000)

def poseApprox (a b : Pose (UnitQuat ℚ) (Vec3 ℚ)) : Bool :=
  within a.orientation.x b.orientation.x && within a.orientation.y b.orientation.y &&
    within a.orientation.z b.orientation.z && within a.orientation.w b.orientation.w &&
    within a.position.x b.position.x && within a.position.y b.position.y && within a.position.z b.position.z

def sideways (x : ℚ) : Pose (UnitQuat ℚ) (Vec3 ℚ) := ⟨.one, ⟨x / 1000000, 0, 0⟩⟩

def rootAt (xs : List ℚ) : Entries (UnitQuat ℚ) (Vec3 ℚ) := xs.map fun x => (some 0, sideways x)

theorem path_root : Path headSpaces 0 [] := .root rfl

theorem locatable_rootAt {xs : List ℚ} : ∀ p ∈ rootAt xs, ∀ space ∈ p.1, Locatable headSpaces 1 0 space := by
  intro p hp space hspace
  obtain ⟨x, -, rfl⟩ := List.mem_map.1 hp
  cases hspace
  exact ⟨[], [], path_root, path_root, by rintro type ⟨⟩, Nat.zero_lt_one⟩

theorem position_of_locatedAlike {offset offset' : Pose (UnitQuat ℚ) (Vec3 ℚ)}
    (h : locateSpace headSpaces (movingHead ⟨0, 0, 0⟩ ⟨0, 0, 0⟩) 1 0 XRT_POSE_IDENTITY 0 0 offset' =
      locateSpace headSpaces (movingHead ⟨0, 0, 0⟩ ⟨0, 0, 0⟩) 1 0 XRT_POSE_IDENTITY 0 0 offset) :
    offset'.position = offset.position := by
  have hmotion := motion_of_locatedAlike path_root path_root (by rintro type ⟨⟩)
    (fun offset => length_offsets_le _ _ _ offset) Nat.zero_lt_one h
  exact congrArg Motions.Motion.position hmotion

/-- Each entry is near the one before it, and the third is given the relation of the first. -/
theorem drift_not_locatesNear :
    ¬ LocatesNear headSpaces (movingHead ⟨0, 0, 0⟩ ⟨0, 0, 0⟩) 1 poseApprox 0 XRT_POSE_IDENTITY 0
      (rootAt [1, 10, 19]) := by
  rintro ⟨out, hout, -, hnear⟩
  obtain ⟨relation, offset', hrelation, hoffset', hlocate⟩ := hnear 2 0 (sideways 19) rfl
  have hspaces : ∀ p ∈ rootAt [1, 10, 19], ∀ space ∈ p.1, Locatable headSpaces 1 0 space := locatable_rootAt
  obtain ⟨out', hout', -, hsources⟩ := locateSpaces_sources (movingHead ⟨0, 0, 0⟩ ⟨0, 0, 0⟩) poseApprox
    XRT_POSE_IDENTITY 0 hspaces
  obtain ⟨relation', start, hrelation', hstart, hlocate'⟩ := hsources 2 0 (sideways 19) rfl
  rw [hout] at hout'
  cases hout'
  rw [hrelation] at hrelation'
  cases hrelation'
  -- The third is copied from the second, and that from the first.
  have hsecond : found poseApprox (rootAt [1, 10, 19]) 2 = some 1 := by decide +kernel
  have hfirst : found poseApprox (rootAt [1, 10, 19]) 1 = some 0 := by decide +kernel
  have hnone : found poseApprox (rootAt [1, 10, 19]) 0 = none := by decide +kernel
  rw [source_some hsecond (by decide), source_some hfirst (by decide), source_none hnone] at hstart
  cases hstart
  have hposition := position_of_locatedAlike (hlocate.trans hlocate'.symm)
  rcases hoffset' with rfl | happrox
  · revert hposition
    decide +kernel
  · have hwithin : within offset'.position.x (sideways 19).position.x = true := by
      simp only [poseApprox, Bool.and_eq_true] at happrox
      exact happrox.1.1.2
    rw [hposition] at hwithin
    revert hwithin
    decide +kernel

/-- Each entry gets the relation of an offset near its own exactly when the chains of near duplicates start near. -/
theorem locatesNear_iff (hspaces : ∀ p ∈ entries, ∀ space ∈ p.1, Locatable uso fuel baseSpace space) :
    LocatesNear uso devices fuel poseApprox baseSpace baseOffset atTimestamp entries ↔
      StartsNear uso devices fuel poseApprox baseSpace baseOffset atTimestamp entries := by
  obtain ⟨out, hout, hlength, hsources⟩ := locateSpaces_sources devices poseApprox baseOffset atTimestamp hspaces
  constructor
  · rintro ⟨out', hout', -, hnear⟩ i space offset start hi hstart
    rw [hout] at hout'
    cases hout'
    obtain ⟨relation, start', hrelation, hstart', hlocate⟩ := hsources i space offset hi
    rw [hstart] at hstart'
    cases hstart'
    obtain ⟨relation', offset', hrelation', hoffset', hlocate'⟩ := hnear i space offset hi
    rw [hrelation] at hrelation'
    cases hrelation'
    exact Or.inr ⟨offset', hoffset', hlocate'.trans hlocate.symm⟩
  · intro hnear
    refine ⟨out, hout, hlength, ?_⟩
    intro i space offset hi
    obtain ⟨relation, start, hrelation, hstart, hlocate⟩ := hsources i space offset hi
    rcases hnear i space offset start hi hstart with hstartNear | ⟨offset', hoffset', hsame⟩
    · exact ⟨relation, start, hrelation, hstartNear, hlocate⟩
    · exact ⟨relation, offset', hrelation, hoffset', hsame.trans hlocate⟩

theorem startsNear_pair :
    StartsNear headSpaces (movingHead ⟨0, 0, 0⟩ ⟨0, 0, 0⟩) 1 poseApprox 0 XRT_POSE_IDENTITY 0 (rootAt [1, 10]) := by
  have hnone : found poseApprox (rootAt [1, 10]) 0 = none := by decide +kernel
  have hfirst : found poseApprox (rootAt [1, 10]) 1 = some 0 := by decide +kernel
  intro i space offset start hi hstart
  match i, hi, hstart with
  | 0, hi, hstart =>
    rw [source_none hnone, hi] at hstart
    cases hstart
    exact Or.inl (Or.inl rfl)
  | 1, hi, hstart =>
    rw [source_some hfirst Nat.zero_lt_one, source_none hnone] at hstart
    cases hi
    cases hstart
    exact Or.inl (Or.inr (by decide +kernel))

theorem locatesNear_iff_pair :
    LocatesNear headSpaces (movingHead ⟨0, 0, 0⟩ ⟨0, 0, 0⟩) 1 poseApprox 0 XRT_POSE_IDENTITY 0 (rootAt [1, 10]) :=
  (locatesNear_iff locatable_rootAt).2 startsNear_pair

end AugmentedInsanity.Base.NearDuplicates
