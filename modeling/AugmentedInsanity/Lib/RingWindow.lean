/-
A ring of slots of which the newest is known: the others are found by their age, going backwards and round.
`Holds` says that the newest slots have the elements of a list, the newest first; it is kept by writing
behind the newest, by forgetting at either end and by writing over an element.
-/
import AugmentedInsanity.Lib.RingFifo
import Mathlib.Algebra.Ring.Nat

namespace AugmentedInsanity.RingWindow

variable {β : Type*} {c latest age : ℕ}

/-- The slot of the element of an age, of `c` slots with the newest element in `latest`. -/
def slot (c latest age : ℕ) : ℕ := (latest + c - age) % c

/-- The slots that were written last have the elements of `l`, the newest first. -/
structure Holds (slots : List β) (latest : ℕ) (l : List β) : Prop where
  length_le : l.length ≤ slots.length
  latest_lt : 0 < slots.length → latest < slots.length
  at_age : ∀ age < l.length, slots[slot slots.length latest age]? = l[age]?

/-! ## Slots -/

theorem slot_eq (hlatest : latest < c) (hage : age < c) :
    slot c latest age = if age ≤ latest then latest - age else latest + c - age := by
  rw [slot, RingFifo.mod_of_lt_two_mul (by omega)]
  split <;> split <;> omega

theorem slot_lt {c : ℕ} (latest age : ℕ) (hc : 0 < c) : slot c latest age < c := Nat.mod_lt _ hc

theorem slot_inj {c latest a b : ℕ} (hlatest : latest < c) (ha : a < c) (hb : b < c)
    (h : slot c latest a = slot c latest b) : a = b := by
  rw [slot_eq hlatest ha, slot_eq hlatest hb] at h
  split at h <;> split at h <;> omega

/-- The slot of the oldest of `n` elements. -/
theorem slot_oldest {c latest n : ℕ} (hpos : 0 < n) (hn : n ≤ c) : (latest + c - n + 1) % c = slot c latest (n - 1) := by
  rw [slot]
  congr 1
  omega

/-- Counting from the oldest. -/
theorem slot_index {c latest n i : ℕ} (hlatest : latest < c) (hn : n ≤ c) (hi : i < n) :
    (slot c latest (n - 1) + i) % c = slot c latest (n - 1 - i) := by
  rw [slot_eq hlatest (by omega), slot_eq hlatest (by omega), RingFifo.mod_of_lt_two_mul]
  · split <;> split <;> split <;> omega
  · split <;> omega

theorem slot_next (hlatest : latest < c) (hage : age < c) :
    slot c ((latest + 1) % c) (age + 1) = slot c latest age := by
  have hnext : (latest + 1) % c = if latest + 1 < c then latest + 1 else latest + 1 - c :=
    RingFifo.mod_of_lt_two_mul (by omega)
  rw [slot_eq hlatest hage]
  by_cases hlast : age + 1 < c
  · rw [slot_eq (Nat.mod_lt _ (by omega)) hlast, hnext]
    split <;> split <;> split <;> omega
  · have hsum : (latest + 1) % c + c - (age + 1) = (latest + 1) % c := by omega
    rw [slot, hsum, hnext]
    split
    · rw [Nat.mod_eq_of_lt (by omega)]
      split <;> omega
    · rw [Nat.mod_eq_of_lt (by omega)]
      split <;> omega

theorem slot_previous (hlatest : latest < c) (hage : age + 1 < c) :
    slot c ((latest + c - 1) % c) age = slot c latest (age + 1) := by
  have hprevious : (latest + c - 1) % c = slot c latest 1 := rfl
  have hlt : slot c latest 1 < c := slot_lt _ _ (by omega)
  rw [hprevious, slot_eq hlt (by omega), slot_eq hlatest hage, slot_eq hlatest (by omega)]
  split <;> split <;> split <;> omega

/-- Writing at an index, seen from the end. -/
theorem reverse_set {l : List β} {i : ℕ} (hi : i < l.length) (x : β) :
    (l.set i x).reverse = l.reverse.set (l.length - 1 - i) x := by
  refine List.ext_getElem (by simp) fun j h₁ h₂ => ?_
  rw [List.length_reverse, List.length_set] at h₁
  rw [List.getElem_reverse, List.getElem_set, List.getElem_set, List.getElem_reverse]
  simp only [List.length_set]
  by_cases hj : i = l.length - 1 - j
  · rw [if_pos hj, if_pos (by omega)]
  · rw [if_neg hj, if_neg (by omega)]

/-! ## Windows -/

variable {slots l : List β}

theorem holds_nil (h : 0 < slots.length → latest < slots.length) : Holds slots latest [] :=
  ⟨Nat.zero_le _, h, fun _ h => absurd h (Nat.not_lt_zero _)⟩

/-- Writing behind the newest; where there is no room, this is over the oldest. -/
theorem Holds.push (h : Holds slots latest l) (hpos : 0 < slots.length) (x : β) :
    Holds (slots.set ((latest + 1) % slots.length) x) ((latest + 1) % slots.length)
      ((x :: l).take slots.length) := by
  have hlatest := h.latest_lt hpos
  have hnext : (latest + 1) % slots.length < slots.length := Nat.mod_lt _ hpos
  refine ⟨?_, fun _ => by rw [List.length_set]; exact hnext, ?_⟩
  · rw [List.length_set]
    exact List.length_take_le _ _
  · intro age hage
    rw [List.length_take, List.length_cons] at hage
    rw [List.length_set, List.getElem?_take_of_lt (by omega)]
    rcases age with _ | age
    · have hself : slot slots.length ((latest + 1) % slots.length) 0 = (latest + 1) % slots.length := by
        rw [slot_eq hnext hpos, if_pos (Nat.zero_le _), Nat.sub_zero]
      rw [hself, List.getElem?_set_self hnext, List.getElem?_cons_zero]
    · -- the slot of an older element is not the one that is written
      have hne : (latest + 1) % slots.length ≠ slot slots.length latest age := by
        rw [← slot_next hlatest (by omega)]
        intro heq
        have hzero : (latest + 1) % slots.length = slot slots.length ((latest + 1) % slots.length) 0 := by
          rw [slot_eq hnext hpos, if_pos (Nat.zero_le _), Nat.sub_zero]
        exact absurd (slot_inj hnext hpos (by omega) (hzero.symm.trans heq)) (by omega)
      rw [slot_next hlatest (by omega), List.getElem?_set_ne hne, List.getElem?_cons_succ, h.at_age age (by omega)]

theorem Holds.dropNewest {x : β} (h : Holds slots latest (x :: l)) :
    Holds slots ((latest + slots.length - 1) % slots.length) l := by
  have hlen := h.length_le
  rw [List.length_cons] at hlen
  have hlatest := h.latest_lt (by omega)
  refine ⟨by omega, fun hpos => Nat.mod_lt _ hpos, fun age hage => ?_⟩
  rw [slot_previous hlatest (by omega), h.at_age (age + 1) (by rw [List.length_cons]; omega), List.getElem?_cons_succ]

theorem Holds.dropOldest (h : Holds slots latest l) : Holds slots latest l.dropLast := by
  have hlen := h.length_le
  refine ⟨by rw [List.length_dropLast]; omega, h.latest_lt, fun age hage => ?_⟩
  rw [List.length_dropLast] at hage
  rw [h.at_age age (by omega), List.getElem?_dropLast, if_pos hage]

theorem Holds.set (h : Holds slots latest l) {age : ℕ} (hage : age < l.length) (x : β) :
    Holds (slots.set (slot slots.length latest age) x) latest (l.set age x) := by
  have hlen := h.length_le
  have hlatest := h.latest_lt (by omega)
  refine ⟨by simpa using hlen, fun _ => by rw [List.length_set]; exact hlatest, fun other hother => ?_⟩
  rw [List.length_set] at hother ⊢
  by_cases heq : other = age
  · subst heq
    rw [List.getElem?_set_self (slot_lt _ _ (by omega)), List.getElem?_set_self hother]
  · have hne : slot slots.length latest age ≠ slot slots.length latest other :=
      fun hs => heq (slot_inj hlatest (by omega) (by omega) hs).symm
    rw [List.getElem?_set_ne hne, List.getElem?_set_ne (Ne.symm heq), h.at_age other hother]

end AugmentedInsanity.RingWindow
