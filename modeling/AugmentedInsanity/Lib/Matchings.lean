/-
Matchings. Of two places, each may take one item that fits it, and a matching is a maximum one if both are taken, and
else if nothing is left out that fits (`PairMatching`). In a matching in which a claim takes a partner from the one that
had it, the one who loses his partner is free again, so that the matching stays one to one (`Usurping.Mutual.usurp`).
-/
import Mathlib.Data.Nat.Basic
import Mathlib.Data.Option.Basic

namespace AugmentedInsanity.PairMatching

variable {ι : Type*} {fitsLeft fitsRight : ι → Prop} {left right : Option ι}

structure Matching (fitsLeft fitsRight : ι → Prop) (left right : Option ι) : Prop where
  atLeft : ∀ i, left = some i → fitsLeft i
  atRight : ∀ i, right = some i → fitsRight i
  ne : ∀ i, left = some i → right ≠ some i

/-- The number of places that are taken. -/
def size (left right : Option ι) : ℕ := left.toList.length + right.toList.length

/-- No matching takes more places. -/
structure Maximum (fitsLeft fitsRight : ι → Prop) (left right : Option ι) : Prop where
  matching : Matching fitsLeft fitsRight left right
  most : ∀ l r, Matching fitsLeft fitsRight l r → size l r ≤ size left right

theorem size_le (left right : Option ι) : size left right ≤ 2 := by
  unfold size
  cases left <;> cases right <;> simp

theorem maximum_of_both {a b : ι} (h : Matching fitsLeft fitsRight (some a) (some b)) :
    Maximum fitsLeft fitsRight (some a) (some b) := ⟨h, fun l r _ => size_le l r⟩

/-- One item is all that can be placed if no two different items fit one place each. -/
theorem maximum_of_one (h : Matching fitsLeft fitsRight left right) (hsize : size left right = 1)
    (hpair : ∀ i j, fitsLeft i → fitsRight j → i = j) : Maximum fitsLeft fitsRight left right := by
  refine ⟨h, fun l r hmatching => ?_⟩
  rw [hsize]
  rcases l with _ | i
  · rcases r with _ | j <;> simp [size]
  rcases r with _ | j
  · simp [size]
  obtain rfl := hpair i j (hmatching.atLeft i rfl) (hmatching.atRight j rfl)
  exact absurd rfl (hmatching.ne i rfl)

theorem maximum_of_none (hleft : ∀ i, ¬fitsLeft i) (hright : ∀ i, ¬fitsRight i) :
    Maximum fitsLeft fitsRight none none := by
  refine ⟨⟨nofun, nofun, nofun⟩, fun l r hmatching => ?_⟩
  rcases l with _ | i
  · rcases r with _ | j
    · exact le_rfl
    · exact absurd (hmatching.atRight j rfl) (hright j)
  · exact absurd (hmatching.atLeft i rfl) (hleft i)

end AugmentedInsanity.PairMatching


namespace AugmentedInsanity.Usurping

variable {α β : Type*}

/-- Partners, seen from both sides. -/
structure Matching (α β : Type*) where
  left : α → Option β
  right : β → Option α

namespace Matching

def empty : Matching α β := ⟨fun _ => none, fun _ => none⟩

/-- `a` takes `b`, and who had `b` is free. -/
def usurp [DecidableEq α] [DecidableEq β] (m : Matching α β) (a : α) (b : β) : Matching α β where
  left :=
    let left := Function.update m.left a (some b)
    match m.right b with
    | some old => Function.update left old none
    | none => left
  right := Function.update m.right b (some a)

/-- Both sides say the same. -/
def Mutual (m : Matching α β) : Prop := ∀ a b, m.left a = some b ↔ m.right b = some a

variable {m : Matching α β} {a a' : α} {b : β}

theorem mutual_empty : (empty : Matching α β).Mutual := fun _ _ => by simp [empty]

theorem Mutual.unique (h : m.Mutual) (ha : m.left a = some b) (ha' : m.left a' = some b) : a = a' :=
  Option.some.inj (((h a b).1 ha).symm.trans ((h a' b).1 ha'))

variable [DecidableEq α] [DecidableEq β]

theorem left_usurp (h : m.Mutual) (ha : m.left a = none) (x : α) :
    (m.usurp a b).left x = if x = a then some b else if m.left x = some b then none else m.left x := by
  unfold usurp
  rcases hb : m.right b with _ | old
  · have hnot : m.left x ≠ some b := fun hx => by
      rw [(h x b).1 hx] at hb
      cases hb
    simp [Function.update_apply, hnot]
  · have hold : m.left old = some b := (h old b).2 hb
    have hne : a ≠ old := fun heq => by
      rw [← heq, ha] at hold
      cases hold
    dsimp only
    by_cases hx : x = old
    · subst hx
      simp [hold, Ne.symm hne]
    · have hnot : m.left x ≠ some b := fun heq => hx (h.unique heq hold)
      simp [Function.update_apply, hx, hnot]

theorem Mutual.usurp (h : m.Mutual) (ha : m.left a = none) : (m.usurp a b).Mutual := by
  intro x y
  have hright : (m.usurp a b).right y = if y = b then some a else m.right y := Function.update_apply ..
  rw [left_usurp h ha, hright]
  by_cases hx : x = a
  · subst hx
    have hnot : m.right y ≠ some x := fun hy => by
      rw [(h x y).2 hy] at ha
      cases ha
    by_cases hy : y = b
    · simp [hy]
    · simp [hy, Ne.symm hy, hnot]
  · by_cases hy : y = b
    · subst hy
      by_cases hleft : m.left x = some y <;> simp [hx, hleft, Ne.symm hx]
    · rw [if_neg hx, if_neg hy, ← h x y]
      by_cases hleft : m.left x = some b
      · simp [hleft, Ne.symm hy]
      · rw [if_neg hleft]

end Matching

end AugmentedInsanity.Usurping
