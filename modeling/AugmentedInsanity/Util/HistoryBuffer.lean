/-
The history buffer (`u_template_historybuf.hpp` and its helpers): a ring of a fixed capacity in which the oldest
element makes room for the newest. What it holds is a list, oldest first (`HistoryBuffer.contents`), of which pushing
drops the first when there is no room (`contents_pushBack`); the iterators go along that list.
-/
import AugmentedInsanity.Lib.RingFifo
import Mathlib.Algebra.Ring.Nat

namespace AugmentedInsanity.Util

/-! ## Indices -/

/-- `RingBufferHelper`: the bookkeeping, without the elements. -/
structure RingBufferHelper (capacity : ℕ) where
  latestInnerIdx : Fin capacity
  length : ℕ
  length_le : length ≤ capacity

namespace RingBufferHelper

variable {capacity : ℕ} [NeZero capacity]

def create : RingBufferHelper capacity := ⟨Fin.ofNat capacity 0, 0, Nat.zero_le _⟩

def empty (helper : RingBufferHelper capacity) : Bool := helper.length == 0

/-- `front_impl_`, of a helper that is not empty. -/
def frontImpl (helper : RingBufferHelper capacity) : Fin capacity :=
  Fin.ofNat capacity (helper.latestInnerIdx.val + capacity - helper.length + 1)

def indexToInnerIndex (helper : RingBufferHelper capacity) (index : ℕ) : Option (Fin capacity) :=
  if helper.empty then none
  else if index ≥ helper.length then none
  else some (Fin.ofNat capacity (helper.frontImpl.val + index))

def pushBackLocation (helper : RingBufferHelper capacity) : RingBufferHelper capacity where
  latestInnerIdx := Fin.ofNat capacity (helper.latestInnerIdx.val + 1)
  length := min (helper.length + 1) capacity
  length_le := Nat.min_le_right ..

variable (helper : RingBufferHelper capacity) {index : ℕ}

theorem indexToInnerIndex_of_lt (h : index < helper.length) :
    helper.indexToInnerIndex index = some (Fin.ofNat capacity (helper.frontImpl.val + index)) := by
  have hempty : helper.empty = false := beq_eq_false_iff_ne.2 (Nat.ne_of_gt (Nat.zero_lt_of_lt h))
  simp only [indexToInnerIndex, hempty, Bool.false_eq_true, if_false, ge_iff_le, Nat.not_le.2 h]

theorem indexToInnerIndex_of_le (h : helper.length ≤ index) : helper.indexToInnerIndex index = none := by
  simp only [indexToInnerIndex, ge_iff_le, h, if_true, ite_self]

theorem innerIndex_eq (h : index < helper.length) :
    (Fin.ofNat capacity (helper.frontImpl.val + index)).val =
      if helper.length ≤ helper.latestInnerIdx.val + 1 + index then
        helper.latestInnerIdx.val + 1 + index - helper.length
      else helper.latestInnerIdx.val + 1 + index + capacity - helper.length := by
  have hlatest := helper.latestInnerIdx.isLt
  have hlength := helper.length_le
  have hfront : helper.frontImpl.val =
      if helper.latestInnerIdx.val + 1 < helper.length then
        helper.latestInnerIdx.val + 1 + capacity - helper.length
      else helper.latestInnerIdx.val + 1 - helper.length := by
    simp only [frontImpl, Fin.val_ofNat]
    rw [RingFifo.mod_of_lt_two_mul (by omega)]
    split <;> split <;> omega
  rw [Fin.val_ofNat, RingFifo.mod_of_lt_two_mul (by omega), hfront]
  split <;> split <;> split <;> omega

end RingBufferHelper

/-! ## The buffer -/

/-- What the buffer and its iterators throw, and reading through NULL, which nothing catches. -/
inductive HistoryException
  | logicError
  | outOfRange
  | nullPointer
  deriving DecidableEq

structure HistoryBuffer (T : Type) (maxSize : ℕ) where
  internalBuffer : Fin maxSize → T
  helper : RingBufferHelper maxSize

namespace HistoryBuffer

variable {T : Type} {maxSize : ℕ} [NeZero maxSize]

def create (default : T) : HistoryBuffer T maxSize := ⟨fun _ => default, .create⟩

def empty (buffer : HistoryBuffer T maxSize) : Bool := buffer.helper.empty

def size (buffer : HistoryBuffer T maxSize) : ℕ := buffer.helper.length

def pushBack (buffer : HistoryBuffer T maxSize) (element : T) : HistoryBuffer T maxSize :=
  let helper := buffer.helper.pushBackLocation
  ⟨Function.update buffer.internalBuffer helper.latestInnerIdx element, helper⟩

/-- `get_at_index`, NULL where there is none. -/
def getAtIndex (buffer : HistoryBuffer T maxSize) (index : ℕ) : Option T :=
  (buffer.helper.indexToInnerIndex index).map buffer.internalBuffer

def front (buffer : HistoryBuffer T maxSize) : Except HistoryException T :=
  if buffer.empty then .error .logicError else .ok (buffer.internalBuffer buffer.helper.frontImpl)

def back (buffer : HistoryBuffer T maxSize) : Except HistoryException T :=
  if buffer.empty then .error .logicError else .ok (buffer.internalBuffer buffer.helper.latestInnerIdx)

def clear (buffer : HistoryBuffer T maxSize) : HistoryBuffer T maxSize := { buffer with helper := .create }

def contents (buffer : HistoryBuffer T maxSize) : List T :=
  (List.range buffer.size).map fun index =>
    buffer.internalBuffer (Fin.ofNat maxSize (buffer.helper.frontImpl.val + index))

section Contents

variable (buffer : HistoryBuffer T maxSize)

@[simp] theorem length_contents : buffer.contents.length = buffer.size := by
  rw [contents, List.length_map, List.length_range]

omit [NeZero maxSize] in
theorem size_le : buffer.size ≤ maxSize := buffer.helper.length_le

omit [NeZero maxSize] in
theorem empty_eq_false_iff : buffer.empty = false ↔ 0 < buffer.size := by
  rw [Nat.pos_iff_ne_zero]
  exact beq_eq_false_iff_ne

theorem empty_iff : buffer.empty = true ↔ buffer.contents = [] := by
  rw [← List.length_eq_zero_iff, length_contents]
  exact beq_iff_eq

theorem getAtIndex_of_lt {index : ℕ} (h : index < buffer.size) :
    buffer.getAtIndex index =
      some (buffer.internalBuffer (Fin.ofNat maxSize (buffer.helper.frontImpl.val + index))) := by
  rw [getAtIndex, buffer.helper.indexToInnerIndex_of_lt h, Option.map_some]

theorem getAtIndex_of_le {index : ℕ} (h : buffer.size ≤ index) : buffer.getAtIndex index = none := by
  rw [getAtIndex, buffer.helper.indexToInnerIndex_of_le h, Option.map_none]

theorem getElem?_contents (index : ℕ) : buffer.contents[index]? = buffer.getAtIndex index := by
  rw [contents, List.getElem?_map]
  by_cases h : index < buffer.size
  · rw [List.getElem?_range h, getAtIndex_of_lt buffer h, Option.map_some]
  · have hle := Nat.not_lt.1 h
    rw [List.getElem?_eq_none (by rw [List.length_range]; exact hle), getAtIndex_of_le buffer hle, Option.map_none]

theorem front_eq {element : T} {rest : List T} (h : buffer.contents = element :: rest) : buffer.front = .ok element := by
  have hpos : 0 < buffer.size := by
    rw [← length_contents, h]
    exact Nat.succ_pos _
  have hzero := getElem?_contents buffer 0
  have hslot : Fin.ofNat maxSize (buffer.helper.frontImpl.val + 0) = buffer.helper.frontImpl :=
    Fin.ext (Nat.mod_eq_of_lt buffer.helper.frontImpl.isLt)
  rw [h, List.getElem?_cons_zero, getAtIndex_of_lt buffer hpos, hslot, Option.some.injEq] at hzero
  rw [front, (empty_eq_false_iff buffer).2 hpos, if_neg Bool.false_ne_true, hzero]

theorem back_eq {element : T} {older : List T} (h : buffer.contents = older ++ [element]) :
    buffer.back = .ok element := by
  have hsize : buffer.size = older.length + 1 := by
    rw [← length_contents, h, List.length_append, List.length_singleton]
  have hlt : older.length < buffer.size := by omega
  have hlast := getElem?_contents buffer older.length
  have hslot : Fin.ofNat maxSize (buffer.helper.frontImpl.val + older.length) = buffer.helper.latestInnerIdx := by
    have hlength : buffer.helper.length = older.length + 1 := hsize
    apply Fin.ext
    rw [buffer.helper.innerIndex_eq hlt]
    split <;> omega
  rw [h, List.getElem?_concat_length, getAtIndex_of_lt buffer hlt, hslot, Option.some.injEq] at hlast
  rw [back, (empty_eq_false_iff buffer).2 (by omega), if_neg Bool.false_ne_true, hlast]

theorem contents_pushBack (element : T) :
    (buffer.pushBack element).contents = (buffer.contents ++ [element]).drop (buffer.size + 1 - maxSize) := by
  have hle := buffer.size_le
  have hlength : buffer.helper.length = buffer.size := rfl
  have hlatest := buffer.helper.latestInnerIdx.isLt
  have hnext : (buffer.pushBack element).helper.latestInnerIdx.val =
      if buffer.helper.latestInnerIdx.val + 1 < maxSize then buffer.helper.latestInnerIdx.val + 1
      else buffer.helper.latestInnerIdx.val + 1 - maxSize := RingFifo.mod_of_lt_two_mul (by omega)
  have hsize : (buffer.pushBack element).helper.length = min (buffer.size + 1) maxSize := rfl
  apply List.ext_getElem?
  intro index
  rw [getElem?_contents, List.getElem?_drop]
  by_cases hindex : index < (buffer.pushBack element).helper.length
  · have hslot := (buffer.pushBack element).helper.innerIndex_eq hindex
    rw [getAtIndex_of_lt _ hindex]
    rw [hnext, hsize] at hslot
    rw [hsize] at hindex
    by_cases hlast : buffer.size + 1 - maxSize + index = buffer.size
    · have hnew : Fin.ofNat maxSize ((buffer.pushBack element).helper.frontImpl.val + index) =
          (buffer.pushBack element).helper.latestInnerIdx := by
        apply Fin.ext
        rw [hslot, hnext]
        split <;> split <;> omega
      rw [hlast, ← length_contents, List.getElem?_concat_length, hnew]
      exact congrArg some (Function.update_self ..)
    · -- an older one stays in its slot, which is not the one that was written
      have hold : buffer.size + 1 - maxSize + index < buffer.size := by omega
      have hslot' := buffer.helper.innerIndex_eq hold
      rw [hlength] at hslot'
      have hsame : Fin.ofNat maxSize ((buffer.pushBack element).helper.frontImpl.val + index) =
          Fin.ofNat maxSize (buffer.helper.frontImpl.val + (buffer.size + 1 - maxSize + index)) := by
        apply Fin.ext
        rw [hslot, hslot']
        split <;> split <;> split <;> omega
      have hne : Fin.ofNat maxSize ((buffer.pushBack element).helper.frontImpl.val + index) ≠
          (buffer.pushBack element).helper.latestInnerIdx := by
        intro heq
        rw [heq, hnext] at hslot
        revert hslot
        split <;> split <;> omega
      rw [List.getElem?_append_left (by rw [length_contents]; exact hold), getElem?_contents, getAtIndex_of_lt _ hold]
      refine congrArg some ((Function.update_of_ne hne ..).trans ?_)
      rw [hsame]
  · rw [getAtIndex_of_le _ (Nat.not_lt.1 hindex), List.getElem?_eq_none]
    rw [hsize] at hindex
    rw [List.length_append, length_contents, List.length_singleton]
    omega

/-! ## What was pushed -/

def HoldsLast (pushed : List T) : Prop := buffer.contents = pushed.drop (pushed.length - maxSize)

theorem holdsLast_create (default : T) : HoldsLast (create default : HistoryBuffer T maxSize) [] :=
  List.drop_nil.symm

theorem holdsLast_clear : HoldsLast buffer.clear [] := List.drop_nil.symm

variable {buffer} {pushed : List T}

theorem HoldsLast.pushBack (h : buffer.HoldsLast pushed) (element : T) :
    (buffer.pushBack element).HoldsLast (pushed ++ [element]) := by
  have hsize : buffer.size = pushed.length - (pushed.length - maxSize) := by
    rw [← buffer.length_contents, h, List.length_drop]
  unfold HoldsLast at *
  rw [contents_pushBack, h, ← List.drop_append_of_le_length (Nat.sub_le ..), List.drop_drop, hsize, List.length_append,
    List.length_singleton]
  congr 1
  omega

theorem HoldsLast.empty_iff (h : buffer.HoldsLast pushed) : buffer.empty = true ↔ pushed = [] := by
  have hpos : 0 < maxSize := Nat.pos_of_ne_zero (NeZero.ne maxSize)
  rw [buffer.empty_iff, h, List.drop_eq_nil_iff, ← List.length_eq_zero_iff]
  omega

theorem HoldsLast.back {older : List T} {newest : T} (h : buffer.HoldsLast (older ++ [newest])) :
    buffer.back = .ok newest := by
  have hpos : 0 < maxSize := Nat.pos_of_ne_zero (NeZero.ne maxSize)
  have hle : (older ++ [newest]).length - maxSize ≤ older.length := by
    rw [List.length_append, List.length_singleton]
    omega
  exact buffer.back_eq (h.trans (List.drop_append_of_le_length hle))

end Contents

end HistoryBuffer

/-! ## Iterators -/

/-- `HistoryBufConstIterator`, of a buffer that is given to its operations; a cleared one has lost its container in
the base and keeps the index it is cleared to. -/
structure HistoryBufConstIterator where
  isCleared : Bool
  index : ℕ
  deriving DecidableEq

namespace HistoryBufConstIterator

variable {T : Type} {maxSize : ℕ} [NeZero maxSize]

def cbegin : HistoryBufConstIterator := ⟨false, 0⟩

def cend (buffer : HistoryBuffer T maxSize) : HistoryBufConstIterator := ⟨false, buffer.size⟩

def valid (buffer : HistoryBuffer T maxSize) (it : HistoryBufConstIterator) : Bool :=
  !it.isCleared && it.index < buffer.size

/-- `increment_n`: being cleared is permanent. -/
def incrementN (it : HistoryBufConstIterator) (n : ℕ) : HistoryBufConstIterator :=
  if it.isCleared then it else { it with index := it.index + n }

/-- `decrement_n`: what would go before the beginning is cleared. -/
def decrementN (it : HistoryBufConstIterator) (n : ℕ) : HistoryBufConstIterator :=
  if it.isCleared then it else if n > it.index then ⟨true, 0⟩ else { it with index := it.index - n }

/-- `operator==`: all invalid ones compare equal. -/
def equal (buffer : HistoryBuffer T maxSize) (lhs rhs : HistoryBufConstIterator) : Bool :=
  if !lhs.valid buffer && !rhs.valid buffer then true
  else if lhs.valid buffer != rhs.valid buffer then false
  else lhs.index == rhs.index

/-- `operator-` of two. -/
def difference (lhs rhs : HistoryBufConstIterator) : Except HistoryException ℤ :=
  if lhs.isCleared && rhs.isCleared then .ok 0
  else if lhs.isCleared || rhs.isCleared then .error .logicError
  else if lhs.index > 2 ^ 63 - 1 ∨ rhs.index > 2 ^ 63 - 1 then .error .outOfRange
  else .ok (lhs.index - rhs.index)

/-- `operator*`. -/
def deref (buffer : HistoryBuffer T maxSize) (it : HistoryBufConstIterator) : Except HistoryException T :=
  match buffer.getAtIndex it.index with
  | none => .error .outOfRange
  | some element => .ok element

/-- `operator->`, and what is read through it. -/
def arrow (buffer : HistoryBuffer T maxSize) (it : HistoryBufConstIterator) : Except HistoryException T :=
  match buffer.getAtIndex it.index with
  | none => .error .nullPointer
  | some element => .ok element

theorem incrementN_incrementN (it : HistoryBufConstIterator) (a b : ℕ) :
    (it.incrementN a).incrementN b = it.incrementN (a + b) := by
  unfold incrementN
  split <;> simp_all [Nat.add_assoc]

theorem incrementN_cbegin (n : ℕ) : cbegin.incrementN n = ⟨false, n⟩ := by
  simp [incrementN, cbegin]

theorem incrementN_zero (it : HistoryBufConstIterator) : it.incrementN 0 = it := by
  unfold incrementN
  split <;> rfl

/-! What iterators at a place in the contents do. -/

variable {buffer : HistoryBuffer T maxSize} {index : ℕ}

theorem deref_eq {element : T} (h : buffer.contents[index]? = some element) :
    deref buffer ⟨false, index⟩ = .ok element := by
  rw [buffer.getElem?_contents] at h
  rw [deref, h]

theorem arrow_eq {element : T} (h : buffer.contents[index]? = some element) :
    arrow buffer ⟨false, index⟩ = .ok element := by
  rw [buffer.getElem?_contents] at h
  rw [arrow, h]

omit [NeZero maxSize] in
theorem equal_cend (hle : index ≤ buffer.size) : equal buffer ⟨false, index⟩ (cend buffer) = decide (index = buffer.size) := by
  have hend : valid buffer (cend buffer) = false := by simp [valid, cend]
  unfold equal
  rw [hend]
  by_cases h : index = buffer.size
  · simp [valid, h]
  · have hlt : index < buffer.size := by omega
    simp [valid, h, hlt]

omit [NeZero maxSize] in
theorem equal_cbegin (hlt : index < buffer.size) : equal buffer ⟨false, index⟩ cbegin = decide (index = 0) := by
  have hpos : 0 < buffer.size := Nat.zero_lt_of_lt hlt
  simp [equal, valid, cbegin, hlt, hpos, beq_eq_decide]

omit [NeZero maxSize] in
theorem difference_cend_cbegin (hsize : buffer.size < 2 ^ 63) : (cend buffer).difference cbegin = .ok (buffer.size : ℤ) := by
  have hrange : ¬ (buffer.size > 2 ^ 63 - 1 ∨ 0 > 2 ^ 63 - 1) := by omega
  calc (cend buffer).difference cbegin
      = if buffer.size > 2 ^ 63 - 1 ∨ 0 > 2 ^ 63 - 1 then .error .outOfRange else .ok (buffer.size - (0 : ℕ) : ℤ) := rfl
    _ = .ok (buffer.size - (0 : ℕ) : ℤ) := if_neg hrange
    _ = .ok (buffer.size : ℤ) := congrArg Except.ok (Int.sub_zero _)

end HistoryBufConstIterator

end AugmentedInsanity.Util
