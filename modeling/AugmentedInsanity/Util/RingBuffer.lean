/-
`RingBufferHelper` and `HistoryBuffer` for every capacity a caller can give, with the arithmetic of `size_t` and the
accesses to the array that nothing checks. A buffer is a list, newest first (`Holds`); pushing is the one operation
that a capacity of zero breaks.
-/
import AugmentedInsanity.Lib.RingWindow
import AugmentedInsanity.Lib.Runs
import AugmentedInsanity.Util.HistoryBuffer

namespace AugmentedInsanity.Util.AnyCapacity

open RingWindow

/-- What ends the process, or reads and writes outside of the backing array. -/
inductive RingFault
  | divisionByZero
  | outsideOfArray
  deriving DecidableEq

/-! ## Indices -/

structure RingBufferHelper where
  capacity : UInt64
  latestInnerIdx : UInt64
  length : UInt64
  deriving DecidableEq

namespace RingBufferHelper

def create (capacity : UInt64) : RingBufferHelper := ⟨capacity, 0, 0⟩

def empty (helper : RingBufferHelper) : Bool := helper.length == 0

/-- `x % capacity_` -/
def modulo (helper : RingBufferHelper) (x : UInt64) : Except RingFault UInt64 :=
  if helper.capacity = 0 then .error .divisionByZero else .ok (x % helper.capacity)

def frontImpl (helper : RingBufferHelper) : Except RingFault UInt64 :=
  helper.modulo (helper.latestInnerIdx + helper.capacity - helper.length + 1)

def ageToInnerIndex (helper : RingBufferHelper) (age : UInt64) : Except RingFault (Option UInt64) :=
  if helper.empty then .ok none
  else if age ≥ helper.length then .ok none
  else (helper.modulo (helper.latestInnerIdx + helper.capacity - age)).map some

def clampedAgeToInnerIndex (helper : RingBufferHelper) (age : UInt64) : Except RingFault (Option UInt64) :=
  if helper.empty then .ok none else helper.ageToInnerIndex (min age (helper.length - 1))

def indexToInnerIndex (helper : RingBufferHelper) (index : UInt64) : Except RingFault (Option UInt64) :=
  if helper.empty then .ok none
  else if index ≥ helper.length then .ok none
  else
    match helper.frontImpl with
    | .error e => .error e
    | .ok front => (helper.modulo (front + index)).map some

/-- The inner index is the new `latestInnerIdx`. -/
def pushBackLocation (helper : RingBufferHelper) : Except RingFault RingBufferHelper :=
  (helper.modulo (helper.latestInnerIdx + 1)).map fun latestInnerIdx =>
    { helper with latestInnerIdx, length := min (helper.length + 1) helper.capacity }

def popFront (helper : RingBufferHelper) : RingBufferHelper :=
  if !helper.empty then { helper with length := helper.length - 1 } else helper

def popBack (helper : RingBufferHelper) : Except RingFault RingBufferHelper :=
  if helper.empty then .ok helper
  else (helper.modulo (helper.latestInnerIdx + helper.capacity - 1)).map fun latestInnerIdx =>
    { helper with latestInnerIdx, length := helper.length - 1 }

def frontInnerIndex (helper : RingBufferHelper) : Except RingFault UInt64 :=
  if helper.empty then .ok helper.capacity else helper.frontImpl

def backInnerIndex (helper : RingBufferHelper) : UInt64 :=
  if helper.empty then helper.capacity else helper.latestInnerIdx

def clear (helper : RingBufferHelper) : RingBufferHelper := { helper with latestInnerIdx := 0, length := 0 }

/-! What the operations are in the natural numbers: nothing wraps around. -/

/-- The indices are in the array, and the capacity is small enough for the sum of two indices. -/
structure Valid (helper : RingBufferHelper) : Prop where
  capacity_lt : helper.capacity.toNat < 2 ^ 63
  latest_lt : 0 < helper.capacity.toNat → helper.latestInnerIdx.toNat < helper.capacity.toNat
  length_le : helper.length.toNat ≤ helper.capacity.toNat

def slotOf (helper : RingBufferHelper) (age : ℕ) : ℕ :=
  slot helper.capacity.toNat helper.latestInnerIdx.toNat age

variable {helper : RingBufferHelper}

theorem empty_iff : helper.empty = true ↔ helper.length.toNat = 0 := by
  rw [empty, beq_iff_eq, ← UInt64.toNat_inj]
  rfl

theorem empty_eq_false (h : 0 < helper.length.toNat) : helper.empty = false := by
  rw [← Bool.not_eq_true, empty_iff]
  omega

theorem modulo_eq {x : UInt64} (h : 0 < helper.capacity.toNat) : helper.modulo x = .ok (x % helper.capacity) := by
  have hne : helper.capacity ≠ 0 := by
    intro hzero
    rw [hzero] at h
    exact absurd h (Nat.lt_irrefl 0)
  rw [modulo, if_neg hne]

theorem modulo_zero {x : UInt64} (h : helper.capacity.toNat = 0) : helper.modulo x = .error .divisionByZero := by
  rw [modulo, if_pos (UInt64.toNat_inj.1 h)]

namespace Valid

variable {age : UInt64}

theorem toNat_back (h : Valid helper) (hpos : 0 < helper.capacity.toNat) (hage : age.toNat ≤ helper.capacity.toNat) :
    (helper.latestInnerIdx + helper.capacity - age).toNat =
      helper.latestInnerIdx.toNat + helper.capacity.toNat - age.toNat := by
  have hcap := h.capacity_lt
  have hlatest := h.latest_lt hpos
  have hsum : (helper.latestInnerIdx + helper.capacity).toNat =
      helper.latestInnerIdx.toNat + helper.capacity.toNat := by
    rw [UInt64.toNat_add]
    omega
  rw [UInt64.toNat_sub_of_le]
  · rw [hsum]
  · rw [UInt64.le_iff_toNat_le, hsum]
    omega

theorem frontImpl_eq (h : Valid helper) (hpos : 0 < helper.length.toNat) :
    ∃ front, helper.frontImpl = .ok front ∧ front.toNat = helper.slotOf (helper.length.toNat - 1) := by
  have hcap := h.capacity_lt
  have hlen := h.length_le
  have hlatest := h.latest_lt (by omega)
  refine ⟨_, modulo_eq (by omega), ?_⟩
  rw [UInt64.toNat_mod, UInt64.toNat_add, h.toNat_back (by omega) hlen, slotOf, ← slot_oldest hpos hlen]
  have hone : UInt64.toNat 1 = 1 := rfl
  rw [hone, Nat.mod_eq_of_lt (a := _ + 1) (by omega)]

theorem ageToInnerIndex_of_lt (h : Valid helper) (hage : age.toNat < helper.length.toNat) :
    ∃ inner, helper.ageToInnerIndex age = .ok (some inner) ∧ inner.toNat = helper.slotOf age.toNat := by
  have hlen := h.length_le
  have hnot : ¬ age ≥ helper.length := by
    rw [ge_iff_le, UInt64.le_iff_toNat_le]
    omega
  refine ⟨(helper.latestInnerIdx + helper.capacity - age) % helper.capacity, ?_, ?_⟩
  · rw [ageToInnerIndex, empty_eq_false (by omega), if_neg Bool.false_ne_true, if_neg hnot, modulo_eq (by omega)]
    rfl
  · rw [UInt64.toNat_mod, h.toNat_back (by omega) (by omega)]
    rfl

theorem ageToInnerIndex_of_le (hage : helper.length.toNat ≤ age.toNat) : helper.ageToInnerIndex age = .ok none := by
  have hge : age ≥ helper.length := UInt64.le_iff_toNat_le.2 hage
  rw [ageToInnerIndex, if_pos hge, ite_self]

theorem indexToInnerIndex_of_lt (h : Valid helper) {index : UInt64} (hindex : index.toNat < helper.length.toNat) :
    ∃ inner, helper.indexToInnerIndex index = .ok (some inner) ∧
      inner.toNat = helper.slotOf (helper.length.toNat - 1 - index.toNat) := by
  have hcap := h.capacity_lt
  have hlen := h.length_le
  have hlatest := h.latest_lt (by omega)
  have hnot : ¬ index ≥ helper.length := by
    rw [ge_iff_le, UInt64.le_iff_toNat_le]
    omega
  obtain ⟨front, hfront, hslot⟩ := h.frontImpl_eq (by omega)
  refine ⟨(front + index) % helper.capacity, ?_, ?_⟩
  · rw [indexToInnerIndex, empty_eq_false (by omega), if_neg Bool.false_ne_true, if_neg hnot, hfront]
    simp only [modulo_eq (show 0 < helper.capacity.toNat by omega)]
    rfl
  · have hlt : helper.slotOf (helper.length.toNat - 1) < helper.capacity.toNat := slot_lt _ _ (by omega)
    rw [UInt64.toNat_mod, UInt64.toNat_add, Nat.mod_eq_of_lt (a := _ + _) (by omega), hslot]
    exact slot_index hlatest hlen hindex

theorem indexToInnerIndex_of_le {index : UInt64} (hindex : helper.length.toNat ≤ index.toNat) :
    helper.indexToInnerIndex index = .ok none := by
  have hge : index ≥ helper.length := UInt64.le_iff_toNat_le.2 hindex
  rw [indexToInnerIndex, if_pos hge, ite_self]

end Valid

end RingBufferHelper

/-! ## The buffer -/

inductive Lookup
  | getAtIndex (index : UInt64)
  | getAtAge (age : UInt64)
  | getAtClampedAge (age : UInt64)
  | front
  | back
  deriving DecidableEq

/-- The element of a list, the oldest first, that a lookup is to give. -/
def Lookup.of {T : Type} (l : List T) : Lookup → Option T
  | .getAtIndex index => l[index.toNat]?
  | .getAtAge age => l.reverse[age.toNat]?
  | .getAtClampedAge age => l.reverse[min age.toNat (l.length - 1)]?
  | .front => l.head?
  | .back => l.getLast?

/-- The list after writing through what the lookup gives. -/
def Lookup.write {T : Type} (l : List T) (element : T) : Lookup → List T
  | .getAtIndex index => l.set index.toNat element
  | .getAtAge age => (l.reverse.set age.toNat element).reverse
  | .getAtClampedAge age => (l.reverse.set (min age.toNat (l.length - 1)) element).reverse
  | .front => l.set 0 element
  | .back => (l.reverse.set 0 element).reverse

/-- Its age, among `n` elements. -/
def Lookup.age (n : ℕ) : Lookup → Option ℕ
  | .getAtIndex index => if index.toNat < n then some (n - 1 - index.toNat) else none
  | .getAtAge age => if age.toNat < n then some age.toNat else none
  | .getAtClampedAge age => if n = 0 then none else some (min age.toNat (n - 1))
  | .front => if n = 0 then none else some (n - 1)
  | .back => if n = 0 then none else some 0

/-- `internalBuffer[inner]` -/
def readSlot {T : Type} (slots : List T) (inner : UInt64) : Except RingFault T :=
  match slots[inner.toNat]? with
  | none => .error .outsideOfArray
  | some element => .ok element

def writeSlot {T : Type} (slots : List T) (inner : UInt64) (element : T) : Except RingFault (List T) :=
  if inner.toNat < slots.length then .ok (slots.set inner.toNat element) else .error .outsideOfArray

namespace Lookup

variable {lookup : Lookup}

theorem age_lt {n a : ℕ} (h : lookup.age n = some a) : a < n := by
  cases lookup <;> simp only [age] at h <;> split at h <;> simp_all <;> omega

theorem of_eq {T : Type} (l : List T) (lookup : Lookup) :
    lookup.of l = (lookup.age l.length).bind fun a => l.reverse[a]? := by
  have hback : ∀ i, i < l.length → l.reverse[l.length - 1 - i]? = l[i]? := by
    intro i hi
    rw [List.getElem?_reverse (by omega)]
    congr 1
    omega
  cases lookup with
  | getAtIndex index =>
    simp only [of, age]
    split
    · rename_i hlt
      exact (hback _ hlt).symm
    · rename_i hge
      exact List.getElem?_eq_none (Nat.not_lt.1 hge)
  | getAtAge a =>
    simp only [of, age]
    split
    · rfl
    · rename_i hge
      exact List.getElem?_eq_none (by rw [List.length_reverse]; exact Nat.not_lt.1 hge)
  | getAtClampedAge a =>
    simp only [of, age]
    split
    · rename_i hnil
      rw [List.length_eq_zero_iff.1 hnil]
      rfl
    · rfl
  | front =>
    simp only [of, age]
    split
    · rename_i hnil
      rw [List.length_eq_zero_iff.1 hnil]
      rfl
    · rw [Option.bind_some, List.head?_eq_getElem?, ← hback 0 (by omega), Nat.sub_zero]
  | back =>
    simp only [of, age]
    split
    · rename_i hnil
      rw [List.length_eq_zero_iff.1 hnil]
      rfl
    · rw [Option.bind_some, ← List.head?_eq_getElem?, List.head?_reverse]

theorem write_of_age {T : Type} {l : List T} {a : ℕ} (h : lookup.age l.length = some a) (element : T) :
    (lookup.write l element).reverse = l.reverse.set a element := by
  cases lookup with
  | getAtIndex index =>
    simp only [age, Option.ite_none_right_eq_some, Option.some.injEq] at h
    rw [write, reverse_set h.1, h.2]
  | getAtAge a' =>
    simp only [age, Option.ite_none_right_eq_some, Option.some.injEq] at h
    rw [write, List.reverse_reverse, h.2]
  | getAtClampedAge a' =>
    simp only [age, Option.ite_none_left_eq_some, Option.some.injEq] at h
    rw [write, List.reverse_reverse, h.2]
  | front =>
    simp only [age, Option.ite_none_left_eq_some, Option.some.injEq] at h
    rw [write, reverse_set (by omega), ← h.2, Nat.sub_zero]
  | back =>
    simp only [age, Option.ite_none_left_eq_some, Option.some.injEq] at h
    rw [write, List.reverse_reverse, h.2]

theorem write_of_none {T : Type} {l : List T} (h : lookup.age l.length = none) (element : T) :
    lookup.write l element = l := by
  cases lookup with
  | getAtIndex index =>
    simp only [age, ite_eq_right_iff, reduceCtorEq, imp_false, Nat.not_lt] at h
    exact List.set_eq_of_length_le h
  | getAtAge age =>
    simp only [Lookup.age, ite_eq_right_iff, reduceCtorEq, imp_false, Nat.not_lt] at h
    rw [write, List.set_eq_of_length_le (by rw [List.length_reverse]; exact h), List.reverse_reverse]
  | getAtClampedAge age =>
    simp only [Lookup.age, ite_eq_left_iff, reduceCtorEq, imp_false, not_not] at h
    rw [List.length_eq_zero_iff.1 h]
    rfl
  | front =>
    simp only [Lookup.age, ite_eq_left_iff, reduceCtorEq, imp_false, not_not] at h
    rw [List.length_eq_zero_iff.1 h]
    rfl
  | back =>
    simp only [Lookup.age, ite_eq_left_iff, reduceCtorEq, imp_false, not_not] at h
    rw [List.length_eq_zero_iff.1 h]
    rfl

end Lookup

structure HistoryBuffer (T : Type) where
  internalBuffer : List T
  helper : RingBufferHelper

namespace HistoryBuffer

variable {T : Type}

def create (maxSize : UInt64) (default : T) : HistoryBuffer T :=
  ⟨List.replicate maxSize.toNat default, .create maxSize⟩

def empty (buffer : HistoryBuffer T) : Bool := buffer.helper.empty

def size (buffer : HistoryBuffer T) : UInt64 := buffer.helper.length

/-- Where a lookup looks; `none` is NULL, and for `front` and `back` a `std::logic_error`. -/
def innerIndex (buffer : HistoryBuffer T) : Lookup → Except RingFault (Option UInt64)
  | .getAtIndex index => buffer.helper.indexToInnerIndex index
  | .getAtAge age => buffer.helper.ageToInnerIndex age
  | .getAtClampedAge age => buffer.helper.clampedAgeToInnerIndex age
  | .front => if buffer.empty then .ok none else buffer.helper.frontInnerIndex.map some
  | .back => if buffer.empty then .ok none else .ok (some buffer.helper.backInnerIndex)

def get (buffer : HistoryBuffer T) (lookup : Lookup) : Except RingFault (Option T) :=
  match buffer.innerIndex lookup with
  | .error e => .error e
  | .ok none => .ok none
  | .ok (some inner) => (readSlot buffer.internalBuffer inner).map some

/-- Writing through the pointer that a lookup gives, if it gives one. -/
def update (buffer : HistoryBuffer T) (lookup : Lookup) (element : T) : Except RingFault (HistoryBuffer T) :=
  match buffer.innerIndex lookup with
  | .error e => .error e
  | .ok none => .ok buffer
  | .ok (some inner) => (writeSlot buffer.internalBuffer inner element).map fun slots =>
    { buffer with internalBuffer := slots }

def pushBack (buffer : HistoryBuffer T) (element : T) : Except RingFault (HistoryBuffer T) :=
  match buffer.helper.pushBackLocation with
  | .error e => .error e
  | .ok helper => (writeSlot buffer.internalBuffer helper.latestInnerIdx element).map fun slots => ⟨slots, helper⟩

def popBack (buffer : HistoryBuffer T) : Except RingFault (HistoryBuffer T) :=
  buffer.helper.popBack.map fun helper => { buffer with helper }

def popFront (buffer : HistoryBuffer T) : HistoryBuffer T := { buffer with helper := buffer.helper.popFront }

def clear (buffer : HistoryBuffer T) : HistoryBuffer T := { buffer with helper := buffer.helper.clear }

/-- The elements from an iterator to `end()`, which all iterators past the newest are equal to; `none` is the
`std::out_of_range` of a bad dereference. -/
def iterateFrom (buffer : HistoryBuffer T) (index : UInt64) : Except RingFault (Option (List T)) :=
  if index < buffer.size then
    match buffer.get (.getAtIndex index) with
    | .error e => .error e
    | .ok none => .ok none
    | .ok (some element) => (buffer.iterateFrom (index + 1)).map (Option.map (element :: ·))
  else .ok (some [])
termination_by buffer.size.toNat - index.toNat
decreasing_by
  rename_i h
  rw [UInt64.lt_iff_toNat_lt] at h
  rw [UInt64.toNat_add]
  have := buffer.size.toNat_lt
  have hone : UInt64.toNat 1 = 1 := rfl
  omega

/-- From `begin()` to `end()`. -/
def iterate (buffer : HistoryBuffer T) : Except RingFault (Option (List T)) := buffer.iterateFrom 0

/-! ## The list it stands for -/

/-- The buffer has the elements of `l`, the oldest first. -/
structure Represents (buffer : HistoryBuffer T) (l : List T) : Prop where
  valid : buffer.helper.Valid
  slots_length : buffer.internalBuffer.length = buffer.helper.capacity.toNat
  length_eq : buffer.helper.length.toNat = l.length
  holds : Holds buffer.internalBuffer buffer.helper.latestInnerIdx.toNat l.reverse

variable {buffer : HistoryBuffer T}

theorem innerIndex_of_age (h : buffer.helper.Valid) {lookup : Lookup} {a : ℕ}
    (ha : lookup.age buffer.helper.length.toNat = some a) :
    ∃ inner, buffer.innerIndex lookup = .ok (some inner) ∧ inner.toNat = buffer.helper.slotOf a := by
  have hlt := Lookup.age_lt ha
  have hempty : buffer.helper.empty = false := RingBufferHelper.empty_eq_false (by omega)
  have hlen := h.length_le
  cases lookup with
  | getAtIndex index =>
    simp only [Lookup.age, Option.ite_none_right_eq_some, Option.some.injEq] at ha
    obtain ⟨hindex, rfl⟩ := ha
    exact h.indexToInnerIndex_of_lt hindex
  | getAtAge age =>
    simp only [Lookup.age, Option.ite_none_right_eq_some, Option.some.injEq] at ha
    obtain ⟨hage, rfl⟩ := ha
    exact h.ageToInnerIndex_of_lt hage
  | getAtClampedAge age =>
    have hmin : (min age (buffer.helper.length - 1)).toNat = a := by
      simp only [Lookup.age, Option.ite_none_left_eq_some, Option.some.injEq] at ha
      rw [← ha.2, UInt64.toNat_min, UInt64.toNat_sub_of_le _ _ (UInt64.le_iff_toNat_le.2 (by
        have hone : UInt64.toNat 1 = 1 := rfl
        omega))]
      rfl
    rw [innerIndex, RingBufferHelper.clampedAgeToInnerIndex, hempty, if_neg Bool.false_ne_true, ← hmin]
    exact h.ageToInnerIndex_of_lt (by omega)
  | front =>
    simp only [Lookup.age, Option.ite_none_left_eq_some, Option.some.injEq] at ha
    obtain ⟨inner, hinner, hslot⟩ := h.frontImpl_eq (by omega)
    refine ⟨inner, ?_, by rw [hslot, ha.2]⟩
    rw [innerIndex, empty, RingBufferHelper.frontInnerIndex, hempty, if_neg Bool.false_ne_true,
      if_neg Bool.false_ne_true, hinner]
    rfl
  | back =>
    simp only [Lookup.age, Option.ite_none_left_eq_some, Option.some.injEq] at ha
    refine ⟨buffer.helper.latestInnerIdx, ?_, ?_⟩
    · rw [innerIndex, empty, RingBufferHelper.backInnerIndex, hempty, if_neg Bool.false_ne_true,
        if_neg Bool.false_ne_true]
    · have hlatest := h.latest_lt (by omega)
      rw [← ha.2, RingBufferHelper.slotOf, slot_eq hlatest (by omega), if_pos (Nat.zero_le _), Nat.sub_zero]

theorem innerIndex_of_none {lookup : Lookup} (ha : lookup.age buffer.helper.length.toNat = none) :
    buffer.innerIndex lookup = .ok none := by
  cases lookup with
  | getAtIndex index =>
    simp only [Lookup.age, ite_eq_right_iff, reduceCtorEq, imp_false, Nat.not_lt] at ha
    exact RingBufferHelper.Valid.indexToInnerIndex_of_le ha
  | getAtAge age =>
    simp only [Lookup.age, ite_eq_right_iff, reduceCtorEq, imp_false, Nat.not_lt] at ha
    exact RingBufferHelper.Valid.ageToInnerIndex_of_le ha
  | getAtClampedAge age =>
    simp only [Lookup.age, ite_eq_left_iff, reduceCtorEq, imp_false, not_not] at ha
    rw [innerIndex, RingBufferHelper.clampedAgeToInnerIndex, if_pos (RingBufferHelper.empty_iff.2 ha)]
  | front =>
    simp only [Lookup.age, ite_eq_left_iff, reduceCtorEq, imp_false, not_not] at ha
    rw [innerIndex, empty, if_pos (RingBufferHelper.empty_iff.2 ha)]
  | back =>
    simp only [Lookup.age, ite_eq_left_iff, reduceCtorEq, imp_false, not_not] at ha
    rw [innerIndex, empty, if_pos (RingBufferHelper.empty_iff.2 ha)]

namespace Represents

variable {l : List T}

theorem slot_lt (h : buffer.Represents l) {a : ℕ} (ha : a < l.length) :
    buffer.helper.slotOf a < buffer.internalBuffer.length := by
  have hlen := h.valid.length_le
  rw [h.slots_length]
  exact RingWindow.slot_lt _ _ (by rw [h.length_eq] at hlen; omega)

theorem get_eq (h : buffer.Represents l) (lookup : Lookup) : buffer.get lookup = .ok (lookup.of l) := by
  rw [Lookup.of_eq, ← h.length_eq, get]
  rcases ha : lookup.age buffer.helper.length.toNat with _ | a
  · rw [innerIndex_of_none ha]
    rfl
  · have hlt : a < l.length := h.length_eq ▸ Lookup.age_lt ha
    obtain ⟨inner, hinner, hslot⟩ := innerIndex_of_age h.valid ha
    obtain ⟨element, helement⟩ : ∃ element, l.reverse[a]? = some element :=
      ⟨_, List.getElem?_eq_getElem (by rw [List.length_reverse]; exact hlt)⟩
    have hat := h.holds.at_age a (by rw [List.length_reverse]; exact hlt)
    rw [h.slots_length, helement] at hat
    simp only [hinner, readSlot, hslot, RingBufferHelper.slotOf, hat, Option.bind_some, helement]
    rfl

theorem iterateFrom_eq (h : buffer.Represents l) (index : UInt64) :
    buffer.iterateFrom index = .ok (some (l.drop index.toNat)) := by
  have hsize : buffer.size.toNat = l.length := h.length_eq
  have hget : ∀ i, buffer.get (.getAtIndex i) = .ok l[i.toNat]? := fun i => h.get_eq (.getAtIndex i)
  induction index using iterateFrom.induct buffer with
  | case1 index hlt e he =>
    rw [hget] at he
    cases he
  | case2 index hlt hnone =>
    rw [UInt64.lt_iff_toNat_lt] at hlt
    rw [hget, Except.ok.injEq, List.getElem?_eq_none_iff] at hnone
    omega
  | case3 index hlt element helement ih =>
    rw [iterateFrom, if_pos hlt, helement]
    rw [UInt64.lt_iff_toNat_lt] at hlt
    rw [hget, Except.ok.injEq, List.getElem?_eq_some_iff] at helement
    obtain ⟨hindex, hval⟩ := helement
    have hnext : (index + 1).toNat = index.toNat + 1 := by
      have := buffer.size.toNat_lt
      have hone : UInt64.toNat 1 = 1 := rfl
      rw [UInt64.toNat_add]
      omega
    simp only [ih, hnext, Except.map, Option.map_some, List.drop_eq_getElem_cons hindex, hval]
  | case4 index hge =>
    rw [UInt64.lt_iff_toNat_lt] at hge
    rw [iterateFrom, if_neg (by rw [UInt64.lt_iff_toNat_lt]; exact hge), List.drop_eq_nil_of_le (by omega)]

end Represents

/-! ## Operations -/

inductive Op (T : Type)
  | pushBack (element : T)
  | popBack
  | popFront
  | clear
  | update (lookup : Lookup) (element : T)

/-- What an operation does to a list that has room for `maxSize` elements. -/
def Op.spec (maxSize : ℕ) (l : List T) : Op T → List T
  | .pushBack element => (l ++ [element]).drop (l.length + 1 - maxSize)
  | .popBack => l.dropLast
  | .popFront => l.tail
  | .clear => []
  | .update lookup element => lookup.write l element

def run (buffer : HistoryBuffer T) : Op T → Except RingFault (HistoryBuffer T)
  | .pushBack element => buffer.pushBack element
  | .popBack => buffer.popBack
  | .popFront => .ok buffer.popFront
  | .clear => .ok buffer.clear
  | .update lookup element => buffer.update lookup element

theorem represents_create (maxSize : UInt64) (default : T) (h : maxSize.toNat < 2 ^ 63) :
    (create maxSize default).Represents [] where
  valid := ⟨h, fun hpos => hpos, Nat.zero_le _⟩
  slots_length := List.length_replicate
  length_eq := rfl
  holds := holds_nil fun hpos => hpos

namespace Represents

variable {l : List T}

theorem length_le (h : buffer.Represents l) : l.length ≤ buffer.helper.capacity.toNat := by
  rw [← h.length_eq]
  exact h.valid.length_le

theorem pushBack_zero (h : buffer.helper.capacity.toNat = 0) (element : T) :
    buffer.pushBack element = .error .divisionByZero := by
  rw [HistoryBuffer.pushBack, RingBufferHelper.pushBackLocation, RingBufferHelper.modulo_zero h]
  rfl

theorem pushBack (h : buffer.Represents l) (hpos : 0 < buffer.helper.capacity.toNat) (element : T) :
    ∃ buffer', buffer.pushBack element = .ok buffer' ∧
      buffer'.Represents ((l ++ [element]).drop (l.length + 1 - buffer.helper.capacity.toNat)) ∧
      buffer'.helper.capacity = buffer.helper.capacity ∧
      buffer'.helper.latestInnerIdx.toNat =
        (buffer.helper.latestInnerIdx.toNat + 1) % buffer.helper.capacity.toNat := by
  have hcap := h.valid.capacity_lt
  have hlatest := h.valid.latest_lt hpos
  have hlen := h.length_le
  have hlength := h.length_eq
  have hslots := h.slots_length
  have hone : UInt64.toNat 1 = 1 := rfl
  have hnext : ((buffer.helper.latestInnerIdx + 1) % buffer.helper.capacity).toNat =
      (buffer.helper.latestInnerIdx.toNat + 1) % buffer.helper.capacity.toNat := by
    rw [UInt64.toNat_mod, UInt64.toNat_add, hone, Nat.mod_eq_of_lt (a := _ + 1) (by omega)]
  have hlt : (buffer.helper.latestInnerIdx.toNat + 1) % buffer.helper.capacity.toNat <
      buffer.helper.capacity.toNat := Nat.mod_lt _ hpos
  have hmin : (min (buffer.helper.length + 1) buffer.helper.capacity).toNat =
      min (l.length + 1) buffer.helper.capacity.toNat := by
    rw [UInt64.toNat_min, UInt64.toNat_add, hone, hlength, Nat.mod_eq_of_lt (a := _ + 1) (by omega)]
  refine ⟨⟨buffer.internalBuffer.set ((buffer.helper.latestInnerIdx + 1) % buffer.helper.capacity).toNat element,
    ⟨buffer.helper.capacity, (buffer.helper.latestInnerIdx + 1) % buffer.helper.capacity,
      min (buffer.helper.length + 1) buffer.helper.capacity⟩⟩, ?_, ?_, rfl, hnext⟩
  · rw [HistoryBuffer.pushBack, RingBufferHelper.pushBackLocation, RingBufferHelper.modulo_eq hpos]
    simp only [Except.map, writeSlot]
    rw [if_pos (by rw [hnext, hslots]; exact hlt)]
  · have hrev : ((l ++ [element]).drop (l.length + 1 - buffer.helper.capacity.toNat)).reverse =
        (element :: l.reverse).take buffer.internalBuffer.length := by
      rw [List.reverse_drop, List.reverse_append, List.reverse_singleton, List.singleton_append, List.length_append,
        List.length_singleton, hslots]
      by_cases hroom : l.length + 1 ≤ buffer.helper.capacity.toNat
      · rw [List.take_of_length_le, List.take_of_length_le] <;> rw [List.length_cons, List.length_reverse] <;> omega
      · congr 1
        omega
    refine ⟨⟨hcap, fun _ => by rw [hnext]; exact hlt, by rw [hmin]; exact Nat.min_le_right _ _⟩, ?_, ?_, ?_⟩
    · rw [List.length_set]
      exact hslots
    · rw [hmin, List.length_drop, List.length_append, List.length_singleton]
      omega
    · rw [hrev, hnext, ← hslots]
      exact h.holds.push (by omega) element

theorem popFront (h : buffer.Represents l) : buffer.popFront.Represents l.tail := by
  have hlength := h.length_eq
  have hlen := h.length_le
  unfold HistoryBuffer.popFront RingBufferHelper.popFront
  rcases l with _ | ⟨oldest, l⟩
  · rw [if_neg (by simp [RingBufferHelper.empty_iff.2 hlength])]
    exact h
  · rw [List.length_cons] at hlength hlen
    rw [if_pos (by simp [RingBufferHelper.empty_eq_false (show 0 < buffer.helper.length.toNat by omega)])]
    have hone : UInt64.toNat 1 = 1 := rfl
    have hsub : (buffer.helper.length - 1).toNat = l.length := by
      rw [UInt64.toNat_sub_of_le _ _ (UInt64.le_iff_toNat_le.2 (by omega)), hone]
      omega
    have hlast := h.holds.dropOldest
    rw [List.reverse_cons, List.dropLast_concat] at hlast
    exact ⟨⟨h.valid.capacity_lt, h.valid.latest_lt, by simp only [hsub]; omega⟩, h.slots_length, hsub, hlast⟩

theorem popBack (h : buffer.Represents l) :
    ∃ buffer', buffer.popBack = .ok buffer' ∧ buffer'.Represents l.dropLast ∧
      buffer'.helper.capacity = buffer.helper.capacity := by
  have hlength := h.length_eq
  have hlen := h.length_le
  unfold HistoryBuffer.popBack RingBufferHelper.popBack
  rcases List.eq_nil_or_concat l with rfl | ⟨older, newest, rfl⟩
  · rw [if_pos (RingBufferHelper.empty_iff.2 hlength)]
    exact ⟨buffer, rfl, h, rfl⟩
  · rw [List.concat_eq_append, List.length_append, List.length_singleton] at hlength hlen
    have hpos : 0 < buffer.helper.capacity.toNat := by omega
    have hone : UInt64.toNat 1 = 1 := rfl
    have hsub : (buffer.helper.length - 1).toNat = older.length := by
      rw [UInt64.toNat_sub_of_le _ _ (UInt64.le_iff_toNat_le.2 (by omega)), hone]
      omega
    have hprevious : ((buffer.helper.latestInnerIdx + buffer.helper.capacity - 1) % buffer.helper.capacity).toNat =
        (buffer.helper.latestInnerIdx.toNat + buffer.internalBuffer.length - 1) % buffer.internalBuffer.length := by
      rw [UInt64.toNat_mod, h.valid.toNat_back hpos (by omega), hone, h.slots_length]
    have hold := h.holds
    rw [List.concat_eq_append, List.reverse_append, List.reverse_singleton, List.singleton_append] at hold
    rw [RingBufferHelper.empty_eq_false (by omega), if_neg Bool.false_ne_true, RingBufferHelper.modulo_eq hpos]
    refine ⟨_, rfl, ⟨⟨h.valid.capacity_lt, fun _ => ?_, ?_⟩, h.slots_length, ?_, ?_⟩, rfl⟩
    · simp only [hprevious, h.slots_length]
      exact Nat.mod_lt _ hpos
    · simp only [hsub]
      omega
    · rw [List.concat_eq_append, List.dropLast_concat]
      exact hsub
    · rw [List.concat_eq_append, List.dropLast_concat, hprevious]
      exact hold.dropNewest

theorem clear (h : buffer.Represents l) : buffer.clear.Represents [] :=
  ⟨⟨h.valid.capacity_lt, fun hpos => hpos, Nat.zero_le _⟩, h.slots_length, rfl,
    holds_nil fun hpos => hpos⟩

theorem update (h : buffer.Represents l) (lookup : Lookup) (element : T) :
    ∃ buffer', buffer.update lookup element = .ok buffer' ∧ buffer'.Represents (lookup.write l element) ∧
      buffer'.helper = buffer.helper := by
  unfold HistoryBuffer.update
  rcases ha : lookup.age l.length with _ | a
  · rw [Lookup.write_of_none ha, innerIndex_of_none (by rw [h.length_eq]; exact ha)]
    exact ⟨buffer, rfl, h, rfl⟩
  · have hlt := Lookup.age_lt ha
    obtain ⟨inner, hinner, hslot⟩ := innerIndex_of_age h.valid (by rw [h.length_eq]; exact ha)
    have hwrite : writeSlot buffer.internalBuffer inner element =
        .ok (buffer.internalBuffer.set (buffer.helper.slotOf a) element) := by
      rw [writeSlot, hslot, if_pos (h.slot_lt hlt)]
    have hrev := Lookup.write_of_age ha element
    have hlength : (lookup.write l element).length = l.length := by
      rw [← List.length_reverse, hrev, List.length_set, List.length_reverse]
    have hset := h.holds.set (List.length_reverse.symm ▸ hlt : a < l.reverse.length) element
    rw [h.slots_length, ← hrev] at hset
    simp only [hinner, hwrite]
    exact ⟨_, rfl, ⟨h.valid, List.length_set.trans h.slots_length, h.length_eq.trans hlength.symm, hset⟩, rfl⟩

end Represents

/-! ## Runs -/

/-- All the ways to look into the buffer show the same list. -/
structure Agrees (buffer : HistoryBuffer T) (l : List T) : Prop where
  size_eq : buffer.size.toNat = l.length
  empty_eq : buffer.empty = l.isEmpty
  get_eq : ∀ lookup : Lookup, buffer.get lookup = .ok (lookup.of l)
  iterate_eq : buffer.iterate = .ok (some l)

theorem Represents.agrees {l : List T} (h : buffer.Represents l) : buffer.Agrees l where
  size_eq := h.length_eq
  empty_eq := by
    rw [Bool.eq_iff_iff, empty, RingBufferHelper.empty_iff, h.length_eq, List.length_eq_zero_iff, List.isEmpty_iff]
  get_eq := h.get_eq
  iterate_eq := h.iterateFrom_eq 0

/-- The buffer and the bounded list that it is to be. -/
structure Refinement (T : Type) where
  buffer : HistoryBuffer T
  list : List T

/-- The template argument of `HistoryBuffer` is below half of what `size_t` can hold. -/
def start (maxSize : Fin (2 ^ 63 - 1)) (default : T) : Refinement T :=
  ⟨create (UInt64.ofNat maxSize.val) default, []⟩

def Refinement.step (s : Refinement T) (op : Op T) : Option (Refinement T) :=
  match s.buffer.run op with
  | .error _ => none
  | .ok buffer => some ⟨buffer, op.spec s.buffer.helper.capacity.toNat s.list⟩

/-- The operation does nothing undefined, and the buffer is the list afterwards. -/
def Refinement.Refines (s : Refinement T) (op : Op T) : Prop :=
  ∃ buffer, s.buffer.run op = .ok buffer ∧ buffer.Agrees (op.spec s.buffer.helper.capacity.toNat s.list)

def Refinement.HasRoom (s : Refinement T) (op : Op T) : Prop :=
  ∀ element, op = .pushBack element → s.buffer.helper.capacity ≠ 0

theorem capacity_pos_iff {helper : RingBufferHelper} : helper.capacity ≠ 0 ↔ 0 < helper.capacity.toNat := by
  rw [Nat.pos_iff_ne_zero, ne_eq, ne_eq, ← UInt64.toNat_inj]
  rfl

theorem Represents.run {l : List T} (h : buffer.Represents l) {op : Op T} (hroom : Refinement.HasRoom ⟨buffer, l⟩ op) :
    ∃ buffer', buffer.run op = .ok buffer' ∧ buffer'.Represents (op.spec buffer.helper.capacity.toNat l) := by
  cases op with
  | pushBack element =>
    obtain ⟨buffer', hpush, hrep, -⟩ := h.pushBack (capacity_pos_iff.1 (hroom element rfl)) element
    exact ⟨buffer', hpush, hrep⟩
  | popBack =>
    obtain ⟨buffer', hpop, hrep, -⟩ := h.popBack
    exact ⟨buffer', hpop, hrep⟩
  | popFront => exact ⟨_, rfl, h.popFront⟩
  | clear => exact ⟨_, rfl, h.clear⟩
  | update lookup element =>
    obtain ⟨buffer', hupdate, hrep, -⟩ := h.update lookup element
    exact ⟨buffer', hupdate, hrep⟩

theorem Represents.refines_iff {s : Refinement T} (h : s.buffer.Represents s.list) (op : Op T) :
    s.Refines op ↔ s.HasRoom op := by
  constructor
  · rintro ⟨buffer', hrun, -⟩ element rfl
    rw [capacity_pos_iff]
    by_contra hzero
    rw [HistoryBuffer.run, Represents.pushBack_zero (Nat.eq_zero_of_not_pos hzero)] at hrun
    cases hrun
  · intro hroom
    obtain ⟨buffer', hrun, hrep⟩ := h.run hroom
    exact ⟨buffer', hrun, hrep.agrees⟩

theorem Represents.step {s t : Refinement T} (h : s.buffer.Represents s.list) {op : Op T} (hroom : s.HasRoom op)
    (hstep : s.step op = some t) : t.buffer.Represents t.list := by
  obtain ⟨buffer', hrun, hrep⟩ := h.run hroom
  simp only [Refinement.step, hrun, Option.some.injEq] at hstep
  rw [← hstep]
  exact hrep

theorem represents_start (maxSize : Fin (2 ^ 63 - 1)) (default : T) :
    (start maxSize default).buffer.Represents (start maxSize default).list := by
  refine represents_create _ _ ?_
  have hlt := maxSize.isLt
  rw [UInt64.toNat_ofNat', Nat.mod_eq_of_lt (by omega)]
  omega

theorem history_along_iff (maxSize : Fin (2 ^ 63 - 1)) (default : T) (ops : List (Op T)) :
    Runs.Along Refinement.step Refinement.Refines (start maxSize default) ops ↔
      Runs.Along Refinement.step Refinement.HasRoom (start maxSize default) ops :=
  Runs.along_iff (I := fun s => s.buffer.Represents s.list) (fun _ op h => h.refines_iff op)
    (fun _ _ _ h hroom hstep => h.step hroom hstep) (represents_start maxSize default) ops

/-! ## A fixed capacity -/

section
variable {maxSize : ℕ} [NeZero maxSize] {fixed : Util.HistoryBuffer T maxSize}

/-- The buffer has what one of `Util.HistoryBuffer` has, where nothing is out of range. -/
structure Implements (buffer : HistoryBuffer T) (fixed : Util.HistoryBuffer T maxSize) : Prop where
  capacity_eq : buffer.helper.capacity.toNat = maxSize
  represents : buffer.Represents fixed.contents

theorem implements_create (hsize : maxSize < 2 ^ 63) (default : T) :
    (create (UInt64.ofNat maxSize) default).Implements (.create default : Util.HistoryBuffer T maxSize) := by
  have hcapacity : (UInt64.ofNat maxSize).toNat = maxSize := by
    rw [UInt64.toNat_ofNat', Nat.mod_eq_of_lt (by omega)]
  exact ⟨hcapacity, represents_create _ _ (by omega)⟩

theorem Implements.pushBack (h : buffer.Implements fixed) (element : T) :
    ∃ buffer', buffer.pushBack element = .ok buffer' ∧ buffer'.Implements (fixed.pushBack element) := by
  have hpos : 0 < buffer.helper.capacity.toNat := h.capacity_eq ▸ Nat.pos_of_neZero maxSize
  obtain ⟨buffer', hpush, hrep, hcapacity, -⟩ := h.represents.pushBack hpos element
  rw [h.capacity_eq] at hrep
  refine ⟨buffer', hpush, by rw [hcapacity, h.capacity_eq], ?_⟩
  rwa [Util.HistoryBuffer.contents_pushBack, ← Util.HistoryBuffer.length_contents]

/-- Nothing is out of range along any pushes, and the elements are the same. -/
theorem Implements.pushAll (h : buffer.Implements fixed) (elements : List T) :
    ∃ buffer', elements.foldlM HistoryBuffer.pushBack buffer = .ok buffer' ∧
      buffer'.Implements (elements.foldl Util.HistoryBuffer.pushBack fixed) := by
  induction elements generalizing buffer fixed with
  | nil => exact ⟨buffer, rfl, h⟩
  | cons element elements ih =>
    obtain ⟨next, hnext, hkept⟩ := h.pushBack element
    rw [List.foldlM_cons, hnext]
    exact ih hkept

theorem Implements.clear (h : buffer.Implements fixed) : buffer.clear.Implements fixed.clear :=
  ⟨h.capacity_eq, h.represents.clear⟩

theorem Implements.getAtIndex (h : buffer.Implements fixed) (index : UInt64) :
    buffer.get (.getAtIndex index) = .ok (fixed.getAtIndex index.toNat) := by
  rw [h.represents.get_eq, Lookup.of, Util.HistoryBuffer.getElem?_contents]

end

end HistoryBuffer

end AugmentedInsanity.Util.AnyCapacity
