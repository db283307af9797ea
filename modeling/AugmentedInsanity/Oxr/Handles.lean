/-
The tree of OpenXR handles (`oxr_handle_base.c`): every handle knows its parent and has slots for its children, and
destroying a handle destroys its children first, each of which takes itself out of the slots that are being gone
through. In every run of creations and destructions the links agree, and destroying a handle calls the destroyer
of each handle under it once, of children before their parents (`handles_orderly`).
-/
import AugmentedInsanity.Lib.Forests
import AugmentedInsanity.Lib.Runs
import AugmentedInsanity.Lib.Tables
import AugmentedInsanity.Oxr.Errors

namespace AugmentedInsanity.Oxr

open Forests Runs Tables

/-! ## Handles -/

abbrev XRT_MAX_HANDLE_CHILDREN : ℕ := 256

inductive OxrHandleState
  | uninitialized
  | live
  | destroyed
  deriving DecidableEq

/-- `struct oxr_handle_base`; pointers are addresses, none of them the null pointer. -/
structure OxrHandleBase where
  debug : UInt64
  parent : Option ℕ
  children : Fin XRT_MAX_HANDLE_CHILDREN → Option ℕ
  state : OxrHandleState

def OxrHandleBase.zero : OxrHandleBase := ⟨0, none, fun _ => none, .uninitialized⟩

abbrev HandleHeap := ℕ → OxrHandleBase

/-! ## Creating -/

def oxrHandleInit (heap : HandleHeap) (hb : ℕ) (debug : UInt64) (parent : Option ℕ) :
    HandleHeap × Except XrError Unit :=
  let heap := Function.update heap hb { heap hb with state := .uninitialized }
  match parent with
  | none => (Function.update heap hb ⟨debug, none, fun _ => none, .live⟩, .ok ())
  | some p =>
    if (heap p).state ≠ .live then (heap, .error .runtimeFailure)
    else
      match firstIndex fun i => (heap p).children i == none with
      | none => (heap, .error .limitReached)
      | some i =>
        let heap := Function.update heap p
          { heap p with children := Function.update (heap p).children i (some hb) }
        (Function.update heap hb ⟨debug, some p, fun _ => none, .live⟩, .ok ())

/-- `oxr_handle_allocate_and_init`, of memory at an address. -/
def oxrHandleAllocateAndInit (heap : HandleHeap) (hb : ℕ) (debug : UInt64) (parent : Option ℕ) :
    HandleHeap × Except XrError Unit :=
  oxrHandleInit (Function.update heap hb .zero) hb debug parent

/-! ## Destroying

A function gives `none` where it runs out of fuel, the depth of its recursion. The destroyers that are called
are listed in their order, and always succeed. -/

/-- What a function has done: the memory, the destroyers called, and the result. -/
abbrev DestroyOutcome := HandleHeap × List ℕ × Except XrError Unit

/-- The first part of `oxr_handle_do_destroy`: the parent no longer has the handle. -/
def removeFromParent (heap : HandleHeap) (hb : ℕ) : Option HandleHeap :=
  match (heap hb).parent with
  | none => some heap
  | some p =>
    match firstIndex fun i => (heap p).children i == some hb with
    | none => none
    | some i =>
      let heap := Function.update heap p { heap p with children := Function.update (heap p).children i none }
      some (Function.update heap hb { heap hb with parent := none })

/-- The loop over the slots of a handle. -/
def destroySlots (destroy : HandleHeap → ℕ → Option DestroyOutcome) (hb : ℕ) :
    List (Fin XRT_MAX_HANDLE_CHILDREN) → HandleHeap → Option DestroyOutcome
  | [], heap => some (heap, [], .ok ())
  | i :: slots, heap =>
    match (heap hb).children i with
    | none => destroySlots destroy hb slots heap
    | some child =>
      match destroy heap child with
      | none => none
      | some (heap, calls, .error e) => some (heap, calls, .error e)
      | some (heap, calls, .ok ()) =>
        (destroySlots destroy hb slots heap).map fun (heap, calls', result) => (heap, calls ++ calls', result)

def oxrHandleDoDestroy : ℕ → HandleHeap → ℕ → Option DestroyOutcome
  | 0, _, _ => none
  | fuel + 1, heap, hb =>
    match removeFromParent heap hb with
    | none => some (heap, [], .error .runtimeFailure)
    | some heap =>
      match destroySlots (oxrHandleDoDestroy fuel) hb (List.finRange XRT_MAX_HANDLE_CHILDREN) heap with
      | none => none
      | some (heap, calls, .error e) => some (heap, calls, .error e)
      | some (heap, calls, .ok ()) =>
        some (Function.update heap hb { heap hb with state := .destroyed }, calls ++ [hb], .ok ())

/-! ## What holds of the memory -/

def Live (heap : HandleHeap) (a : ℕ) : Prop := (heap a).state = .live

instance (heap : HandleHeap) (a : ℕ) : Decidable (Live heap a) := inferInstanceAs (Decidable (_ = _))

def parentOf (heap : HandleHeap) (a : ℕ) : Option ℕ := if Live heap a then (heap a).parent else none

/-- The links of live handles to parents and to children agree. -/
structure Linked (heap : HandleHeap) : Prop where
  up : ∀ a p, Live heap a → (heap a).parent = some p → Live heap p ∧ ∃ i, (heap p).children i = some a
  down : ∀ p i c, Live heap p → (heap p).children i = some c → Live heap c ∧ (heap c).parent = some p
  once : ∀ p i j c, Live heap p → (heap p).children i = some c → (heap p).children j = some c → i = j

def OxrHandleBase.without (handle : OxrHandleBase) (child : ℕ) : OxrHandleBase :=
  { handle with children := fun i => if handle.children i = some child then none else handle.children i }

/-- A handle has been destroyed, with what is under it: the destroyers of just these were called, each once and of
children before their parents; the handle's parent does not have it any more, and else nothing has changed. -/
structure DestroyedWith (heap : HandleHeap) (hb : ℕ) (heap' : HandleHeap) (calls : List ℕ) : Prop where
  linked : Linked heap'
  mem : ∀ a, a ∈ calls ↔ Under (parentOf heap) a hb
  nodup : calls.Nodup
  order : calls.Pairwise fun a b => parentOf heap b ≠ some a
  gone : ∀ a ∈ calls, (heap' a).state = .destroyed
  kept : ∀ a, a ∉ calls → heap' a = if (heap hb).parent = some a then (heap a).without hb else heap a

structure Born (heap : HandleHeap) (born : ℕ → ℕ) (n : ℕ) : Prop where
  ranked : Ranked born (parentOf heap)
  lt : ∀ a, Live heap a → born a < n

section
variable {heap heap' : HandleHeap} {hb : ℕ} {calls : List ℕ} {born : ℕ → ℕ} {n : ℕ} {a : ℕ}

theorem parentOf_of_live (h : Live heap a) : parentOf heap a = (heap a).parent := if_pos h

theorem live_of_parentOf {a p : ℕ} (h : parentOf heap a = some p) : Live heap a := by
  unfold parentOf at h
  split at h
  · assumption
  · cases h

variable {i : Fin XRT_MAX_HANDLE_CHILDREN}

theorem Linked.parentOf_child (h : Linked heap) {p c : ℕ} (hp : Live heap p) (hchild : (heap p).children i = some c) :
    parentOf heap c = some p := by
  obtain ⟨hlive, hparent⟩ := h.down p i c hp hchild
  rw [parentOf_of_live hlive, hparent]

theorem Linked.update_children (h : Linked heap) {p c : ℕ} (hp : Live heap p) (hchild : (heap p).children i = some c) :
    { heap p with children := Function.update (heap p).children i none } = (heap p).without c := by
  have hchildren : Function.update (heap p).children i none =
      fun j => if (heap p).children j = some c then none else (heap p).children j := by
    funext j
    by_cases hj : j = i
    · subst hj
      rw [Function.update_self, if_pos hchild]
    · rw [Function.update_of_ne hj, if_neg fun hj' => hj (h.once p j i c hp hj' hchild)]
  rw [OxrHandleBase.without, hchildren]

/-! ## Taking a handle out of its parent -/

def detached (heap : HandleHeap) (hb : ℕ) : HandleHeap := fun a =>
  if a = hb then { heap hb with parent := none }
  else if (heap hb).parent = some a then (heap a).without hb
  else heap a

theorem detached_self : detached heap hb hb = { heap hb with parent := none } := if_pos rfl

theorem detached_of_ne (h : a ≠ hb) :
    detached heap hb a = if (heap hb).parent = some a then (heap a).without hb else heap a := if_neg h

theorem live_detached : Live (detached heap hb) a ↔ Live heap a := by
  unfold Live detached
  split
  · rename_i h
    rw [h]
  · split <;> rfl

theorem parentOf_detached : parentOf (detached heap hb) = Function.update (parentOf heap) hb none := by
  funext a
  by_cases ha : a = hb
  · subst ha
    rw [Function.update_self, parentOf, detached_self]
    split <;> rfl
  · rw [Function.update_of_ne ha]
    simp only [parentOf, live_detached, detached_of_ne ha]
    split
    · split <;> rfl
    · rfl

theorem Born.detached (h : Born heap born n) : Born (detached heap hb) born n := by
  refine ⟨fun a p hp => h.ranked a p ?_, fun a ha => h.lt a (live_detached.1 ha)⟩
  rw [parentOf_detached] at hp
  by_cases ha : a = hb
  · subst ha
    rw [Function.update_self] at hp
    cases hp
  · rwa [Function.update_of_ne ha] at hp

theorem removeFromParent_eq (h : Linked heap) (hborn : Born heap born n) (hlive : Live heap hb) :
    removeFromParent heap hb = some (detached heap hb) := by
  unfold removeFromParent
  cases hparent : (heap hb).parent with
  | none =>
    simp only [Option.some.injEq]
    funext a
    by_cases ha : a = hb
    · subst ha
      rw [detached_self, ← hparent]
    · rw [detached_of_ne ha, hparent, if_neg (by rintro ⟨⟩)]
  | some p =>
    obtain ⟨hp, i, hi⟩ := h.up hb p hlive hparent
    have hne : p ≠ hb := by
      rintro rfl
      exact Nat.lt_irrefl _ (hborn.ranked p p ((parentOf_of_live hlive).trans hparent))
    obtain ⟨j, hj⟩ := exists_firstIndex (p := fun i => (heap p).children i == some hb) (i := i) (by simp [hi])
    have hchild : (heap p).children j = some hb := by simpa using firstIndex_spec hj
    simp only [hj, h.update_children hp hchild, Option.some.injEq]
    funext a
    by_cases ha : a = hb
    · subst ha
      rw [Function.update_self, Function.update_of_ne (Ne.symm hne), detached_self]
    · rw [Function.update_of_ne ha, detached_of_ne ha, hparent]
      by_cases hap : a = p
      · subst hap
        rw [Function.update_self, if_pos rfl]
      · rw [Function.update_of_ne hap, if_neg fun h => hap (Option.some.inj h).symm]

theorem children_detached (h : Linked heap) (hborn : Born heap born n) {p c : ℕ} (hp : Live heap p) :
    (detached heap hb p).children i = some c ↔ (heap p).children i = some c ∧ c ≠ hb := by
  have hself : (heap p).children i = some c → c = hb → (heap hb).parent = some p ∧ p ≠ hb := by
    rintro hchild rfl
    refine ⟨(h.down p i c hp hchild).2, ?_⟩
    rintro rfl
    exact Nat.lt_irrefl _ (hborn.ranked p p (h.parentOf_child hp hchild))
  by_cases hne : p = hb
  · subst hne
    rw [detached_self]
    exact ⟨fun hchild => ⟨hchild, fun hc => (hself hchild hc).2 rfl⟩, fun hchild => hchild.1⟩
  · rw [detached_of_ne hne]
    by_cases hparent : (heap hb).parent = some p
    · rw [if_pos hparent]
      simp only [OxrHandleBase.without]
      constructor
      · intro hchild
        split at hchild
        · cases hchild
        · rename_i hnot
          refine ⟨hchild, ?_⟩
          rintro rfl
          exact hnot hchild
      · rintro ⟨hchild, hc⟩
        rw [if_neg, hchild]
        rw [hchild]
        exact fun heq => hc (Option.some.inj heq)
    · rw [if_neg hparent]
      exact ⟨fun hchild => ⟨hchild, fun hc => hparent (hself hchild hc).1⟩, fun hchild => hchild.1⟩

theorem Linked.detached (h : Linked heap) (hborn : Born heap born n) : Linked (detached heap hb) := by
  have hparent : ∀ a, Live heap a → (Oxr.detached heap hb a).parent = Function.update (parentOf heap) hb none a := by
    intro a ha
    rw [← parentOf_detached, parentOf_of_live (live_detached.2 ha)]
  refine ⟨?_, ?_, ?_⟩
  · intro a p ha hp
    rw [live_detached] at ha
    rw [hparent a ha] at hp
    by_cases hne : a = hb
    · subst hne
      rw [Function.update_self] at hp
      cases hp
    · rw [Function.update_of_ne hne, parentOf_of_live ha] at hp
      obtain ⟨hlive, i, hi⟩ := h.up a p ha hp
      exact ⟨live_detached.2 hlive, i, (children_detached h hborn hlive).2 ⟨hi, hne⟩⟩
  · intro p i c hp hc
    rw [live_detached] at hp
    obtain ⟨hchild, hne⟩ := (children_detached h hborn hp).1 hc
    obtain ⟨hlive, hup⟩ := h.down p i c hp hchild
    refine ⟨live_detached.2 hlive, ?_⟩
    rw [hparent c hlive, Function.update_of_ne hne, parentOf_of_live hlive, hup]
  · intro p i j c hp hi hj
    rw [live_detached] at hp
    exact h.once p i j c hp ((children_detached h hborn hp).1 hi).1 ((children_detached h hborn hp).1 hj).1

/-! ## What is left when a handle has been destroyed -/

theorem DestroyedWith.live_iff (h : DestroyedWith heap hb heap' calls) : Live heap' a ↔ Live heap a ∧ a ∉ calls := by
  by_cases ha : a ∈ calls
  · have hgone := h.gone a ha
    simp [Live, hgone, ha]
  · have hstate : (heap' a).state = (heap a).state := by
      rw [h.kept a ha]
      split <;> rfl
    simp [Live, hstate, ha]

theorem DestroyedWith.parentOf_eq (h : DestroyedWith heap hb heap' calls) (a : ℕ) :
    parentOf heap' a = if a ∈ calls then none else parentOf heap a := by
  by_cases ha : a ∈ calls
  · rw [if_pos ha, parentOf, if_neg]
    exact fun hlive => (h.live_iff.1 hlive).2 ha
  · have hparent : (heap' a).parent = (heap a).parent := by
      rw [h.kept a ha]
      split <;> rfl
    rw [if_neg ha]
    simp only [parentOf, h.live_iff, ha, not_false_eq_true, and_true, hparent]

theorem DestroyedWith.parentOf_sub (h : DestroyedWith heap hb heap' calls) (a p : ℕ) (hp : parentOf heap' a = some p) :
    parentOf heap a = some p := by
  rw [h.parentOf_eq] at hp
  split at hp
  · cases hp
  · exact hp

theorem DestroyedWith.born_kept (h : DestroyedWith heap hb heap' calls) (hborn : Born heap born n) : Born heap' born n :=
  ⟨fun a p hp => hborn.ranked a p (h.parentOf_sub a p hp), fun a ha => hborn.lt a (h.live_iff.1 ha).1⟩

end

/-! ## The loop over the slots -/

/-- What a function that destroys handles does of those that are born late enough. -/
def Destroys (born : ℕ → ℕ) (n fuel : ℕ) (destroy : HandleHeap → ℕ → Option DestroyOutcome) : Prop :=
  ∀ heap c, Linked heap → Live heap c → Born heap born n → n ≤ born c + fuel →
    ∃ heap' calls, destroy heap c = some (heap', calls, .ok ()) ∧ DestroyedWith heap c heap' calls

/-- The children in some slots of a handle have been destroyed, with what is under them. -/
structure SlotsDestroyed (heap : HandleHeap) (hb : ℕ) (slots : List (Fin XRT_MAX_HANDLE_CHILDREN))
    (heap' : HandleHeap) (calls : List ℕ) : Prop where
  linked : Linked heap'
  mem : ∀ a, a ∈ calls ↔ ∃ i ∈ slots, ∃ c, (heap hb).children i = some c ∧ Under (parentOf heap) a c
  nodup : calls.Nodup
  order : calls.Pairwise fun a b => parentOf heap b ≠ some a
  gone : ∀ a ∈ calls, (heap' a).state = .destroyed
  self : heap' hb = { heap hb with children := fun i => if i ∈ slots then none else (heap hb).children i }
  kept : ∀ a, a ∉ calls → a ≠ hb → heap' a = heap a

section
variable {heap : HandleHeap} {hb : ℕ} {born : ℕ → ℕ} {n fuel : ℕ}
  {destroy : HandleHeap → ℕ → Option DestroyOutcome}

variable {slots : List (Fin XRT_MAX_HANDLE_CHILDREN)} {i : Fin XRT_MAX_HANDLE_CHILDREN}

theorem SlotsDestroyed.cons_none {heap' : HandleHeap} {calls : List ℕ} (hnone : (heap hb).children i = none)
    (h : SlotsDestroyed heap hb slots heap' calls) : SlotsDestroyed heap hb (i :: slots) heap' calls := by
  refine ⟨h.linked, fun a => ?_, h.nodup, h.order, h.gone, ?_, h.kept⟩
  · rw [h.mem]
    simp [hnone]
  · have hchildren : (fun j => if j ∈ slots then none else (heap hb).children j) =
        fun j => if j ∈ i :: slots then none else (heap hb).children j := by
      funext j
      by_cases hj : j = i
      · subst hj
        simp [hnone]
      · simp [hj]
    rw [h.self, hchildren]

theorem DestroyedWith.other_slots {heap₁ : HandleHeap} {calls₁ : List ℕ} {c : ℕ} {i j : Fin XRT_MAX_HANDLE_CHILDREN}
    (hlinked : Linked heap) (hlive : Live heap hb) (hborn : Born heap born n) (hchild : (heap hb).children i = some c)
    (h₁ : DestroyedWith heap c heap₁ calls₁) (hhb : heap₁ hb = (heap hb).without c) (hne : j ≠ i) (c' : ℕ) :
    ((heap₁ hb).children j = some c' ↔ (heap hb).children j = some c') ∧
      ((heap hb).children j = some c' → ∀ a,
        (Under (parentOf heap) a c' → a ∉ calls₁) ∧ (Under (parentOf heap₁) a c' ↔ Under (parentOf heap) a c')) := by
  constructor
  · rw [hhb, OxrHandleBase.without]
    simp only
    rw [if_neg]
    exact fun hj => hne (hlinked.once hb j i c hlive hj hchild)
  · intro hc'
    have hdisjoint : ∀ a, Under (parentOf heap) a c' → a ∉ calls₁ := by
      intro a ha hmem
      refine hborn.ranked.disjoint_siblings (hlinked.parentOf_child hlive hc') (hlinked.parentOf_child hlive hchild) ?_ ha
        ((h₁.mem a).1 hmem)
      rintro rfl
      exact hne (hlinked.once hb j i c' hlive hc' hchild)
    refine fun a => ⟨hdisjoint a, under_congr h₁.parentOf_sub fun x hx => ?_⟩
    rw [h₁.parentOf_eq, if_neg (hdisjoint x hx)]

theorem SlotsDestroyed.cons_some {heap₁ heap₂ : HandleHeap} {calls₁ calls₂ : List ℕ} {c : ℕ} (hi : i ∉ slots)
    (hlinked : Linked heap) (hlive : Live heap hb) (hborn : Born heap born n) (hchild : (heap hb).children i = some c)
    (h₁ : DestroyedWith heap c heap₁ calls₁) (h₂ : SlotsDestroyed heap₁ hb slots heap₂ calls₂) :
    SlotsDestroyed heap hb (i :: slots) heap₂ (calls₁ ++ calls₂) := by
  have hparent := hlinked.parentOf_child hlive hchild
  have hself : hb ∉ calls₁ := fun hmem => hborn.ranked.not_under hparent ((h₁.mem hb).1 hmem)
  have hhb : heap₁ hb = (heap hb).without c := by
    rw [h₁.kept hb hself, if_pos (hlinked.down hb i c hlive hchild).2]
  have hothers := fun (j : Fin XRT_MAX_HANDLE_CHILDREN) (hj : j ∈ slots) =>
    h₁.other_slots hlinked hlive hborn hchild hhb (j := j) (ne_of_mem_of_not_mem hj hi)
  have hmem₂ : ∀ a, a ∈ calls₂ ↔
      ∃ j ∈ slots, ∃ c', (heap hb).children j = some c' ∧ Under (parentOf heap) a c' := by
    intro a
    rw [h₂.mem]
    refine exists_congr fun j => and_congr_right fun hj => exists_congr fun c' => ?_
    rw [(hothers j hj c').1]
    exact and_congr_right fun hc' => ((hothers j hj c').2 hc' a).2
  have hnot₁ : ∀ a ∈ calls₂, a ∉ calls₁ := by
    intro a ha
    obtain ⟨j, hj, c', hc', hac'⟩ := (hmem₂ a).1 ha
    exact ((hothers j hj c').2 hc' a).1 hac'
  refine ⟨h₂.linked, fun a => ?_, ?_, ?_, ?_, ?_, ?_⟩
  · rw [List.mem_append, h₁.mem, hmem₂]
    simp [hchild]
  · exact List.nodup_append.2 ⟨h₁.nodup, h₂.nodup, fun a ha b hb hab => hnot₁ b hb (hab ▸ ha)⟩
  · refine List.pairwise_append.2 ⟨h₁.order, ?_, ?_⟩
    · refine List.Pairwise.imp_of_mem (fun {a b} _ hb hne => ?_) h₂.order
      rwa [h₁.parentOf_eq, if_neg (hnot₁ b hb)] at hne
    · intro a ha b hb hlink
      exact hnot₁ b hb ((h₁.mem b).2 (.head hlink ((h₁.mem a).1 ha)))
  · intro a ha
    rcases List.mem_append.1 ha with ha | ha
    · by_cases ha₂ : a ∈ calls₂
      · exact h₂.gone a ha₂
      · rw [h₂.kept a ha₂ fun heq => hself (heq ▸ ha)]
        exact h₁.gone a ha
    · exact h₂.gone a ha
  · have hchildren : (fun j => if j ∈ slots then none else ((heap hb).without c).children j) =
        fun j => if j ∈ i :: slots then none else (heap hb).children j := by
      funext j
      by_cases hj : j = i
      · subst hj
        simp [OxrHandleBase.without, hchild]
      · have hne : (heap hb).children j ≠ some c := fun hj' => hj (hlinked.once hb j i c hlive hj' hchild)
        simp [OxrHandleBase.without, hj, hne]
    rw [h₂.self, hhb, hchildren, OxrHandleBase.without]
  · intro a ha hne
    rw [List.mem_append, not_or] at ha
    rw [h₂.kept a ha.2 hne, h₁.kept a ha.1, if_neg]
    rw [(hlinked.down hb i c hlive hchild).2]
    exact fun heq => hne (Option.some.inj heq).symm

theorem destroySlots_spec (hdestroy : Destroys born n fuel destroy) (hslots : slots.Nodup) (hlinked : Linked heap)
    (hlive : Live heap hb) (hborn : Born heap born n) (hfuel : n ≤ born hb + 1 + fuel) :
    ∃ heap' calls, destroySlots destroy hb slots heap = some (heap', calls, .ok ()) ∧
      SlotsDestroyed heap hb slots heap' calls := by
  induction slots generalizing heap with
  | nil =>
    refine ⟨heap, [], rfl, hlinked, by simp, List.nodup_nil, List.Pairwise.nil, by simp, ?_, fun _ _ _ => rfl⟩
    simp
  | cons i slots ih =>
    obtain ⟨hi, hslots⟩ := List.nodup_cons.1 hslots
    cases hchild : (heap hb).children i with
    | none =>
      obtain ⟨heap', calls, hrun, hspec⟩ := ih hslots hlinked hlive hborn
      refine ⟨heap', calls, ?_, hspec.cons_none hchild⟩
      simp only [destroySlots, hchild, hrun]
    | some c =>
      have hparent := hlinked.parentOf_child hlive hchild
      have hlater := hborn.ranked c hb hparent
      obtain ⟨heap₁, calls₁, hrun₁, h₁⟩ :=
        hdestroy heap c hlinked (hlinked.down hb i c hlive hchild).1 hborn (by omega)
      have hself : hb ∉ calls₁ := fun hmem => hborn.ranked.not_under hparent ((h₁.mem hb).1 hmem)
      obtain ⟨heap₂, calls₂, hrun₂, h₂⟩ := ih hslots h₁.linked (h₁.live_iff.2 ⟨hlive, hself⟩) (h₁.born_kept hborn)
      refine ⟨heap₂, calls₁ ++ calls₂, ?_, .cons_some hi hlinked hlive hborn hchild h₁ h₂⟩
      simp only [destroySlots, hchild, hrun₁, hrun₂, Option.map_some]

end

/-! ## Destroying a handle -/

section
variable {heap : HandleHeap} {hb : ℕ} {born : ℕ → ℕ} {n : ℕ}

theorem Linked.destroyed (h : Linked heap) (hparent : (heap hb).parent = none)
    (hchildren : ∀ i, (heap hb).children i = none) :
    Linked (Function.update heap hb { heap hb with state := .destroyed }) := by
  have hlive : ∀ a, Live (Function.update heap hb { heap hb with state := .destroyed }) a → a ≠ hb ∧ Live heap a := by
    intro a ha
    by_cases hne : a = hb
    · subst hne
      simp [Live] at ha
    · exact ⟨hne, by rwa [Live, Function.update_of_ne hne] at ha⟩
  have hlive' : ∀ a, a ≠ hb → Live heap a → Live (Function.update heap hb { heap hb with state := .destroyed }) a := by
    intro a hne ha
    rwa [Live, Function.update_of_ne hne]
  refine ⟨?_, ?_, ?_⟩
  · intro a p ha hp
    obtain ⟨hne, ha⟩ := hlive a ha
    rw [Function.update_of_ne hne] at hp
    obtain ⟨hlive, i, hi⟩ := h.up a p ha hp
    have hpne : p ≠ hb := by
      rintro rfl
      rw [hchildren i] at hi
      cases hi
    exact ⟨hlive' p hpne hlive, i, by rwa [Function.update_of_ne hpne]⟩
  · intro p i c hp hc
    obtain ⟨hne, hp⟩ := hlive p hp
    rw [Function.update_of_ne hne] at hc
    obtain ⟨hlive, hup⟩ := h.down p i c hp hc
    have hcne : c ≠ hb := by
      rintro rfl
      rw [hparent] at hup
      cases hup
    exact ⟨hlive' c hcne hlive, by rwa [Function.update_of_ne hcne]⟩
  · intro p i j c hp hi hj
    obtain ⟨hne, hp⟩ := hlive p hp
    rw [Function.update_of_ne hne] at hi hj
    exact h.once p i j c hp hi hj

theorem Linked.under_iff (h : Linked heap) (hlive : Live heap hb) {a : ℕ} :
    Under (parentOf heap) a hb ↔ a = hb ∨ ∃ i c, (heap hb).children i = some c ∧ Under (parentOf heap) a c := by
  constructor
  · intro hunder
    rcases Relation.ReflTransGen.cases_tail hunder with heq | ⟨c, hac, hc⟩
    · exact Or.inl heq.symm
    · have hclive := live_of_parentOf hc
      rw [parentOf_of_live hclive] at hc
      obtain ⟨-, i, hi⟩ := h.up c hb hclive hc
      exact Or.inr ⟨i, c, hi, hac⟩
  · rintro (rfl | ⟨i, c, hi, hac⟩)
    · exact .refl a
    · exact hac.tail (h.parentOf_child hlive hi)

theorem SlotsDestroyed.destroyedWith {heap' : HandleHeap} {calls : List ℕ} (hlinked : Linked heap)
    (hlive : Live heap hb) (hborn : Born heap born n)
    (h : SlotsDestroyed (detached heap hb) hb (List.finRange XRT_MAX_HANDLE_CHILDREN) heap' calls) :
    DestroyedWith heap hb (Function.update heap' hb { heap' hb with state := .destroyed }) (calls ++ [hb]) := by
  have hlinked' : Linked (detached heap hb) := hlinked.detached hborn
  have hlive' : Live (detached heap hb) hb := live_detached.2 hlive
  have hmem : ∀ a, a ∈ calls ++ [hb] ↔ Under (parentOf heap) a hb := by
    intro a
    rw [← @under_update_none _ (parentOf heap), ← parentOf_detached, hlinked'.under_iff hlive', List.mem_append,
      h.mem, List.mem_singleton, or_comm]
    simp only [List.mem_finRange, true_and]
  have hself : hb ∉ calls := by
    intro hmem
    obtain ⟨i, -, c, hc, hunder⟩ := (h.mem hb).1 hmem
    have hborn' : Born (detached heap hb) born n := hborn.detached
    exact hborn'.ranked.not_under (hlinked'.parentOf_child hlive' hc) hunder
  have hne : ∀ a ∈ calls, a ≠ hb := fun a ha heq => hself (heq ▸ ha)
  refine ⟨?_, hmem, ?_, ?_, ?_, ?_⟩
  · apply h.linked.destroyed
    · rw [h.self, detached_self]
    · intro i
      rw [h.self]
      simp
  · refine List.nodup_append.2 ⟨h.nodup, List.nodup_singleton hb, fun a ha b hb' => ?_⟩
    rw [List.mem_singleton.1 hb']
    exact hne a ha
  · refine List.pairwise_append.2 ⟨?_, List.pairwise_singleton _ _, ?_⟩
    · refine List.Pairwise.imp_of_mem (fun {a b} _ hb' hlink => ?_) h.order
      rwa [parentOf_detached, Function.update_of_ne (hne b hb')] at hlink
    · intro a ha b hb'
      rw [List.mem_singleton.1 hb']
      exact fun hlink => hborn.ranked.not_under hlink ((hmem a).1 (List.mem_append_left _ ha))
  · intro a ha
    by_cases heq : a = hb
    · rw [heq, Function.update_self]
    · rw [Function.update_of_ne heq]
      apply h.gone
      simpa [heq] using ha
  · intro a ha
    rw [List.mem_append, List.mem_singleton, not_or] at ha
    rw [Function.update_of_ne ha.2, h.kept a ha.1 ha.2, detached_of_ne ha.2]

theorem oxrHandleDoDestroy_spec (fuel : ℕ) : Destroys born n fuel (oxrHandleDoDestroy fuel) := by
  induction fuel with
  | zero =>
    intro heap hb hlinked hlive hborn hfuel
    have hlt := hborn.lt hb hlive
    omega
  | succ fuel ih =>
    intro heap hb hlinked hlive hborn hfuel
    obtain ⟨heap', calls, hrun, hslots⟩ := destroySlots_spec ih (List.nodup_finRange XRT_MAX_HANDLE_CHILDREN)
      (show Linked (detached heap hb) from hlinked.detached hborn) (live_detached.2 hlive) hborn.detached (by omega)
    refine ⟨_, _, ?_, hslots.destroyedWith hlinked hlive hborn⟩
    simp only [oxrHandleDoDestroy, removeFromParent_eq hlinked hborn hlive, hrun]

end

/-! ## Creating a handle -/

section
variable {heap : HandleHeap} {hb : ℕ} {debug : UInt64} {born : ℕ → ℕ} {n : ℕ}

structure CreatedWith (heap : HandleHeap) (hb : ℕ) (debug : UInt64) (parent : Option ℕ) (heap' : HandleHeap) : Prop where
  self : heap' hb = ⟨debug, parent, fun _ => none, .live⟩
  placed : ∀ p, parent = some p → p ≠ hb ∧ Live heap p ∧ ∃ i, (heap p).children i = none ∧
    heap' p = { heap p with children := Function.update (heap p).children i (some hb) }
  kept : ∀ a, a ≠ hb → parent ≠ some a → heap' a = heap a

/-- A creation has been refused, by a parent that is full or not live. -/
structure RefusedWith (heap : HandleHeap) (hb : ℕ) (parent : Option ℕ) (heap' : HandleHeap) : Prop where
  self : ¬ Live heap' hb
  kept : ∀ a, a ≠ hb → heap' a = heap a
  parent : ∃ p, parent = some p ∧ (Live heap p → ∀ i, (heap p).children i ≠ none)

theorem oxrHandleAllocateAndInit_cases (hnew : ¬ Live heap hb) (debug : UInt64) (parent : Option ℕ) :
    (∃ heap', oxrHandleAllocateAndInit heap hb debug parent = (heap', .ok ()) ∧
        CreatedWith heap hb debug parent heap') ∨
      ∃ heap' e, oxrHandleAllocateAndInit heap hb debug parent = (heap', .error e) ∧
        RefusedWith heap hb parent heap' := by
  generalize hempty : Function.update (Function.update heap hb .zero) hb
    { Function.update heap hb .zero hb with state := .uninitialized } = empty
  have hsame : ∀ a, a ≠ hb → empty a = heap a := by
    intro a ha
    rw [← hempty, Function.update_of_ne ha, Function.update_of_ne ha]
  have hzero : ¬ Live empty hb := by
    rw [← hempty, Live, Function.update_self]
    rintro ⟨⟩
  simp only [oxrHandleAllocateAndInit, oxrHandleInit, hempty]
  cases parent with
  | none =>
    refine Or.inl ⟨_, rfl, Function.update_self .., ?_, ?_⟩
    · rintro q ⟨⟩
    · intro a ha _
      rw [Function.update_of_ne ha, hsame a ha]
  | some p =>
    dsimp only
    by_cases hlive : (empty p).state = .live
    · have hne : p ≠ hb := by
        rintro rfl
        exact hzero hlive
      rw [if_neg fun hnot => hnot hlive]
      cases hslot : firstIndex fun i => (empty p).children i == none with
      | none =>
        refine Or.inr ⟨_, _, rfl, hzero, hsame, p, rfl, fun _ i hi => ?_⟩
        obtain ⟨j, hj⟩ := exists_firstIndex (p := fun i => (empty p).children i == none) (i := i)
          (by rw [hsame p hne, hi]; rfl)
        rw [hslot] at hj
        cases hj
      | some i =>
        have hi : (empty p).children i = none := by simpa using firstIndex_spec hslot
        refine Or.inl ⟨_, rfl, Function.update_self .., ?_, ?_⟩
        · rintro q ⟨⟩
          rw [Function.update_of_ne hne, Function.update_self]
          rw [hsame p hne] at hi hlive ⊢
          exact ⟨hne, hlive, i, hi, rfl⟩
        · intro a ha hap
          have hne' : a ≠ p := by
            rintro rfl
            exact hap rfl
          rw [Function.update_of_ne ha, Function.update_of_ne hne', hsame a ha]
    · rw [if_pos hlive]
      refine Or.inr ⟨_, _, rfl, hzero, hsame, p, rfl, fun hp => absurd ?_ hlive⟩
      rwa [hsame p fun heq => hnew (heq ▸ hp)]

theorem Linked.congr {heap' : HandleHeap} (h : Linked heap) (hlive : ∀ a, Live heap' a ↔ Live heap a)
    (hsame : ∀ a, Live heap a → heap' a = heap a) : Linked heap' := by
  refine ⟨?_, ?_, ?_⟩
  · intro a p ha hp
    rw [hlive] at ha
    rw [hsame a ha] at hp
    obtain ⟨hp, i, hi⟩ := h.up a p ha hp
    exact ⟨(hlive p).2 hp, i, by rwa [hsame p hp]⟩
  · intro p i c hp hc
    rw [hlive] at hp
    rw [hsame p hp] at hc
    obtain ⟨hc, hparent⟩ := h.down p i c hp hc
    exact ⟨(hlive c).2 hc, by rwa [hsame c hc]⟩
  · intro p i j c hp hi hj
    rw [hlive] at hp
    rw [hsame p hp] at hi hj
    exact h.once p i j c hp hi hj

theorem parentOf_congr {heap' : HandleHeap} (hlive : ∀ a, Live heap' a ↔ Live heap a)
    (hsame : ∀ a, Live heap a → heap' a = heap a) : parentOf heap' = parentOf heap := by
  funext a
  by_cases ha : Live heap a
  · rw [parentOf_of_live ha, parentOf_of_live ((hlive a).2 ha), hsame a ha]
  · rw [parentOf, parentOf, if_neg ha, if_neg fun ha' => ha ((hlive a).1 ha')]

namespace CreatedWith
variable {parent : Option ℕ} {heap' : HandleHeap}

theorem live_iff (h : CreatedWith heap hb debug parent heap') {a : ℕ} : Live heap' a ↔ a = hb ∨ Live heap a := by
  by_cases ha : a = hb
  · subst ha
    simp [Live, h.self]
  · by_cases hp : parent = some a
    · obtain ⟨-, hlive, i, -, hchild⟩ := h.placed a hp
      simp [Live, hchild, ha]
    · simp [Live, h.kept a ha hp, ha]

theorem parent_eq (h : CreatedWith heap hb debug parent heap') (a : ℕ) :
    (heap' a).parent = if a = hb then parent else (heap a).parent := by
  by_cases ha : a = hb
  · rw [if_pos ha, ha, h.self]
  · rw [if_neg ha]
    by_cases hp : parent = some a
    · obtain ⟨-, -, i, -, hchild⟩ := h.placed a hp
      rw [hchild]
    · rw [h.kept a ha hp]

theorem children_iff (h : CreatedWith heap hb debug parent heap') :
    ∃ slot, (∀ p, parent = some p → (heap p).children slot = none) ∧
      ∀ p i c, p ≠ hb → ((heap' p).children i = some c ↔
        (parent = some p ∧ i = slot ∧ c = hb) ∨ (heap p).children i = some c) := by
  cases hparent : parent with
  | none =>
    refine ⟨0, nofun, fun p i c hp => ?_⟩
    rw [h.kept p hp (by simp [hparent])]
    simp
  | some p =>
    obtain ⟨hne, -, slot, hslot, hchild⟩ := h.placed p hparent
    refine ⟨slot, by rintro q ⟨⟩; exact hslot, fun q i c hq => ?_⟩
    by_cases hqp : q = p
    · subst hqp
      rw [hchild]
      by_cases hi : i = slot
      · subst hi
        simp [hslot, eq_comm]
      · simp [hi]
    · rw [h.kept q hq (by rw [hparent]; exact fun heq => hqp (Option.some.inj heq).symm)]
      simp [Ne.symm hqp]

theorem linked (h : CreatedWith heap hb debug parent heap') (hlinked : Linked heap) (hnew : ¬ Live heap hb) :
    Linked heap' := by
  obtain ⟨slot, hslot, hchildren⟩ := h.children_iff
  have hchild : ∀ p i c, Live heap' p → (heap' p).children i = some c →
      p ≠ hb ∧ Live heap p ∧ ((parent = some p ∧ i = slot ∧ c = hb) ∨ (heap p).children i = some c) := by
    intro p i c hp hc
    have hne : p ≠ hb := by
      rintro rfl
      rw [h.self] at hc
      cases hc
    exact ⟨hne, (h.live_iff.1 hp).resolve_left hne, (hchildren p i c hne).1 hc⟩
  refine ⟨?_, ?_, ?_⟩
  · intro a p ha hp
    rw [h.parent_eq] at hp
    by_cases hne : a = hb
    · rw [if_pos hne] at hp
      obtain ⟨hpne, hlive, -⟩ := h.placed p hp
      exact ⟨h.live_iff.2 (.inr hlive), slot, (hchildren p slot a hpne).2 (.inl ⟨hp, rfl, hne⟩)⟩
    · rw [if_neg hne] at hp
      obtain ⟨hlive, i, hi⟩ := hlinked.up a p ((h.live_iff.1 ha).resolve_left hne) hp
      exact ⟨h.live_iff.2 (.inr hlive), i, (hchildren p i a fun heq => hnew (heq ▸ hlive)).2 (.inr hi)⟩
  · intro p i c hp hc
    obtain ⟨-, hlive, ⟨hparent, -, rfl⟩ | hc⟩ := hchild p i c hp hc
    · exact ⟨h.live_iff.2 (.inl rfl), by rw [h.self, hparent]⟩
    · obtain ⟨hclive, hcparent⟩ := hlinked.down p i c hlive hc
      have hcne : c ≠ hb := by
        rintro rfl
        exact hnew hclive
      exact ⟨h.live_iff.2 (.inr hclive), by rw [h.parent_eq, if_neg hcne, hcparent]⟩
  · intro p i j c hp hi hj
    have hold : ∀ k, Live heap p → (heap p).children k ≠ some hb := fun k hlive hk =>
      hnew (hlinked.down p k hb hlive hk).1
    obtain ⟨-, hlive, ⟨-, rfl, rfl⟩ | hi⟩ := hchild p i c hp hi
    · obtain ⟨-, -, ⟨-, rfl, -⟩ | hj⟩ := hchild p j c hp hj
      · rfl
      · exact absurd hj (hold j hlive)
    · obtain ⟨-, -, ⟨-, -, rfl⟩ | hj⟩ := hchild p j c hp hj
      · exact absurd hi (hold i hlive)
      · exact hlinked.once p i j c hlive hi hj

theorem born_kept (h : CreatedWith heap hb debug parent heap') (hborn : Born heap born n) (hlinked : Linked heap)
    (hnew : ¬ Live heap hb) : Born heap' (Function.update born hb n) (n + 1) := by
  have hold : ∀ a, Live heap a → Function.update born hb n a = born a := by
    intro a ha
    apply Function.update_of_ne
    rintro rfl
    exact hnew ha
  refine ⟨fun a p hp => ?_, fun a ha => ?_⟩
  · have ha := live_of_parentOf hp
    rw [parentOf_of_live ha, h.parent_eq] at hp
    by_cases hne : a = hb
    · rw [if_pos hne] at hp
      obtain ⟨-, hlive, -⟩ := h.placed p hp
      rw [hold p hlive, hne, Function.update_self]
      exact hborn.lt p hlive
    · rw [if_neg hne] at hp
      have ha := (h.live_iff.1 ha).resolve_left hne
      rw [hold p (hlinked.up a p ha hp).1, hold a ha]
      exact hborn.ranked a p ((parentOf_of_live ha).trans hp)
  · rcases h.live_iff.1 ha with rfl | ha
    · rw [Function.update_self]
      exact Nat.lt_succ_self n
    · rw [hold a ha]
      exact Nat.lt_succ_of_lt (hborn.lt a ha)

end CreatedWith
end

/-! ## Runs -/

/-- The memory, how many handles have been created, and which of them each one was. -/
structure HandleRun where
  heap : HandleHeap
  created : ℕ
  born : ℕ → ℕ

/-- What is asked of the handles: memory that is not in use is given to a new one, and a live one is destroyed. -/
inductive HandleOp
  | create (hb : ℕ) (debug : UInt64) (parent : Option ℕ)
  | destroy (hb : ℕ)

def HandleRun.start : HandleRun := ⟨fun _ => .zero, 0, fun _ => 0⟩

/-- One operation; destroyers are called to the depth of the handles that there can be. -/
def handleStep (run : HandleRun) : HandleOp → Option HandleRun
  | .create hb debug parent =>
    if Live run.heap hb then none
    else
      match oxrHandleAllocateAndInit run.heap hb debug parent with
      | (heap, .ok ()) => some ⟨heap, run.created + 1, Function.update run.born hb run.created⟩
      | (heap, .error _) => some { run with heap := heap }
  | .destroy hb =>
    if Live run.heap hb then
      (oxrHandleDoDestroy (run.created + 1) run.heap hb).map fun (heap, _, _) => { run with heap := heap }
    else none

/-- Before an operation the links agree and are a forest; a creation succeeds, or is refused by its parent and changes
only the memory that it was given; a destruction ends, and has destroyed the handle with what is under it. -/
def Orderly (run : HandleRun) (op : HandleOp) : Prop :=
  Linked run.heap ∧ Forest (parentOf run.heap) ∧
    match op with
    | .create hb debug parent => ¬ Live run.heap hb →
      (∃ heap', oxrHandleAllocateAndInit run.heap hb debug parent = (heap', .ok ()) ∧
          CreatedWith run.heap hb debug parent heap') ∨
        ∃ heap' e, oxrHandleAllocateAndInit run.heap hb debug parent = (heap', .error e) ∧
          RefusedWith run.heap hb parent heap'
    | .destroy hb => Live run.heap hb →
      ∀ fuel, run.created < fuel → ∃ heap' calls,
        oxrHandleDoDestroy fuel run.heap hb = some (heap', calls, .ok ()) ∧ DestroyedWith run.heap hb heap' calls

structure HandleRun.Sound (run : HandleRun) : Prop where
  linked : Linked run.heap
  born : Born run.heap run.born run.created

theorem HandleRun.start_sound : HandleRun.start.Sound := by
  have hdead : ∀ a, ¬ Live HandleRun.start.heap a := fun a => nofun
  refine ⟨⟨fun a p ha => absurd ha (hdead a), fun p i c hp => absurd hp (hdead p), fun p i j c hp => absurd hp (hdead p)⟩,
    fun a p hp => absurd (live_of_parentOf hp) (hdead a), fun a ha => absurd ha (hdead a)⟩

theorem HandleRun.Sound.refused {run : HandleRun} (h : run.Sound) {hb : ℕ} (hnew : ¬ Live run.heap hb)
    {heap' : HandleHeap} (hdead : ¬ Live heap' hb) (hsame : ∀ a, a ≠ hb → heap' a = run.heap a) :
    HandleRun.Sound { run with heap := heap' } := by
  have hlive : ∀ a, Live heap' a ↔ Live run.heap a := by
    intro a
    by_cases ha : a = hb
    · rw [ha]
      exact iff_of_false hdead hnew
    · rw [Live, hsame a ha, Live]
  have hsame' : ∀ a, Live run.heap a → heap' a = run.heap a := fun a ha => hsame a fun heq => hnew (heq ▸ ha)
  refine ⟨h.linked.congr hlive hsame', ?_, fun a ha => h.born.lt a ((hlive a).1 ha)⟩
  rw [parentOf_congr hlive hsame']
  exact h.born.ranked

theorem HandleRun.Sound.step {run run' : HandleRun} {op : HandleOp} (h : run.Sound)
    (hstep : handleStep run op = some run') : run'.Sound := by
  cases op with
  | create hb debug parent =>
    by_cases hnew : Live run.heap hb
    · simp only [handleStep, if_pos hnew, reduceCtorEq] at hstep
    · rcases oxrHandleAllocateAndInit_cases hnew debug parent with
        ⟨heap', heq, hcreated⟩ | ⟨heap', e, heq, hdead, hsame, -⟩
      · simp only [handleStep, if_neg hnew, heq, Option.some.injEq] at hstep
        subst hstep
        exact ⟨hcreated.linked h.linked hnew, hcreated.born_kept h.born h.linked hnew⟩
      · simp only [handleStep, if_neg hnew, heq, Option.some.injEq] at hstep
        subst hstep
        exact h.refused hnew hdead hsame
  | destroy hb =>
    by_cases hlive : Live run.heap hb
    · obtain ⟨heap', calls, hrun, hdestroyed⟩ :=
        oxrHandleDoDestroy_spec (n := run.created) (run.created + 1) run.heap hb h.linked hlive h.born (by omega)
      simp only [handleStep, if_pos hlive, hrun, Option.map_some, Option.some.injEq] at hstep
      subst hstep
      exact ⟨hdestroyed.linked, hdestroyed.born_kept h.born⟩
    · simp only [handleStep, if_neg hlive, reduceCtorEq] at hstep

theorem HandleRun.Sound.orderly {run : HandleRun} (h : run.Sound) (op : HandleOp) : Orderly run op := by
  refine ⟨h.linked, h.born.ranked.forest, ?_⟩
  cases op with
  | create hb debug parent => exact fun hnew => oxrHandleAllocateAndInit_cases hnew debug parent
  | destroy hb =>
    intro hlive fuel hfuel
    exact oxrHandleDoDestroy_spec fuel run.heap hb h.linked hlive h.born (by omega)

/-- In every run the links agree and are a forest, a creation that its parent refuses leaves the other handles, and a
destruction calls the destroyers of what is under the handle, each once and of children first. -/
theorem handles_orderly (ops : List HandleOp) :
    Along handleStep Orderly .start ops ∧
      ∀ run, Reaches handleStep .start ops run → Linked run.heap ∧ Forest (parentOf run.heap) := by
  refine ⟨?_, fun run hrun => ?_⟩
  · exact along_of_inv' (fun _ op h => HandleRun.Sound.orderly h op) (fun _ _ _ h hstep => h.step hstep)
      HandleRun.start_sound ops
  · have hsound := inv_of_reaches (fun _ _ _ h hstep => HandleRun.Sound.step h hstep) HandleRun.start_sound hrun
    exact ⟨hsound.linked, hsound.born.ranked.forest⟩

end AugmentedInsanity.Oxr
