/-
`u_id_ringbuffer.cpp`: a ring of IDs over `RingBufferHelper` for use from C. What a lookup finds is told by the inner
index, cast to `int32_t`; a negative one means that nothing is there. Over a run this is a bounded list exactly if
nothing is pushed at capacity zero, nor to a slot that no `int32_t` can name (`ids_along_iff`).
-/
import AugmentedInsanity.Lib.BinarySearch
import AugmentedInsanity.Util.RingBuffer
import Mathlib.Algebra.Ring.Int.Defs
import Mathlib.Data.List.Nodup

namespace AugmentedInsanity.Util.AnyCapacity

open RingWindow BinarySearch

/-- The storage, and the capacity that was asked for. -/
structure UIdRingbuffer where
  helper : RingBufferHelper
  ids : List UInt64
  capacity : UInt32

/-- What a function returns and what it writes to `out_id` and `out_index`. -/
structure IdResult where
  ret : ℤ
  outId : Option UInt64
  outIndex : Option UInt32
  deriving DecidableEq

def IdResult.notFound : IdResult := ⟨-1, none, none⟩

/-- `static_cast<int32_t>` -/
def castInt32 (x : UInt64) : ℤ := Int.bmod x.toNat (2 ^ 32)

inductive IdLookup
  | getAtIndex (index : UInt32)
  | getAtAge (age : UInt32)
  | getAtClampedAge (age : UInt32)
  | front
  | back
  deriving DecidableEq

/-- The 32 bits of an argument are converted to a `size_t`. -/
def IdLookup.widen : IdLookup → Lookup
  | .getAtIndex index => .getAtIndex index.toUInt64
  | .getAtAge age => .getAtAge age.toUInt64
  | .getAtClampedAge age => .getAtClampedAge age.toUInt64
  | .front => .front
  | .back => .back

/-- A fault, or the exception of an iterator that is not valid. -/
inductive IdStop
  | fault (f : RingFault)
  | outOfRange

namespace UIdRingbuffer

def create (capacity : UInt32) : UIdRingbuffer :=
  ⟨.create capacity.toUInt64, List.replicate capacity.toNat 0, capacity⟩

def pushBack (uirb : UIdRingbuffer) (id : UInt64) : Except RingFault (ℤ × UIdRingbuffer) :=
  match uirb.helper.pushBackLocation with
  | .error e => .error e
  | .ok helper => (writeSlot uirb.ids helper.latestInnerIdx id).map fun ids =>
    (castInt32 helper.latestInnerIdx, { uirb with helper, ids })

def popFront (uirb : UIdRingbuffer) : UIdRingbuffer := { uirb with helper := uirb.helper.popFront }

def popBack (uirb : UIdRingbuffer) : Except RingFault UIdRingbuffer :=
  uirb.helper.popBack.map fun helper => { uirb with helper }

/-- Converted back to `uint32_t` when it is returned. -/
def getSize (uirb : UIdRingbuffer) : ℕ := (castInt32 uirb.helper.length % 2 ^ 32).toNat

def isEmpty (uirb : UIdRingbuffer) : Bool := uirb.helper.empty

def handleGetterResult (uirb : UIdRingbuffer) (inner : UInt64) : Except RingFault IdResult :=
  (readSlot uirb.ids inner).map fun id => ⟨castInt32 inner, some id, none⟩

def handleEnd (uirb : UIdRingbuffer) (inner : UInt64) : Except RingFault IdResult :=
  if inner = uirb.capacity.toUInt64 then .ok .notFound else uirb.handleGetterResult inner

def handleInner (uirb : UIdRingbuffer) (inner : Except RingFault (Option UInt64)) : Except RingFault IdResult :=
  match inner with
  | .error e => .error e
  | .ok none => .ok .notFound
  | .ok (some inner) => uirb.handleGetterResult inner

def get (uirb : UIdRingbuffer) : IdLookup → Except RingFault IdResult
  | .getAtIndex index => uirb.handleInner (uirb.helper.indexToInnerIndex index.toUInt64)
  | .getAtAge age => uirb.handleInner (uirb.helper.ageToInnerIndex age.toUInt64)
  | .getAtClampedAge age => uirb.handleInner (uirb.helper.clampedAgeToInnerIndex age.toUInt64)
  | .front =>
    match uirb.helper.frontInnerIndex with
    | .error e => .error e
    | .ok inner => uirb.handleEnd inner
  | .back => uirb.handleEnd uirb.helper.backInnerIndex

/-! Iterators are an index into the buffer; past the newest they are not valid. -/

def valid (uirb : UIdRingbuffer) (it : UInt64) : Bool := it < uirb.helper.length

def deref (uirb : UIdRingbuffer) (it : UInt64) : Except IdStop UInt64 :=
  if uirb.valid it then
    match uirb.helper.indexToInnerIndex it with
    | .error e => .error (.fault e)
    | .ok none => .error .outOfRange
    | .ok (some inner) => (readSlot uirb.ids inner).mapError .fault
  else .error .outOfRange

def innerIndex (uirb : UIdRingbuffer) (it : UInt64) : Except IdStop ℤ :=
  if uirb.valid it then
    match uirb.helper.indexToInnerIndex it with
    | .error e => .error (.fault e)
    | .ok none => .ok (-1)
    | .ok (some inner) => .ok (castInt32 inner)
  else .ok (-1)

def handleAlgorithmResult (uirb : UIdRingbuffer) (it : UInt64) : Except IdStop IdResult :=
  if uirb.valid it then
    match uirb.deref it, uirb.innerIndex it with
    | .ok id, .ok ret => .ok ⟨ret, some id, some it.toUInt32⟩
    | .error e, _ => .error e
    | _, .error e => .error e
  else .ok .notFound

/-- `std::find` from an iterator to the end: where it stops. -/
def findFrom (uirb : UIdRingbuffer) (searchId : UInt64) (it : UInt64) : Except IdStop UInt64 :=
  if it < uirb.helper.length then
    match uirb.deref it with
    | .error e => .error e
    | .ok id => if id = searchId then .ok it else uirb.findFrom searchId (it + 1)
  else .ok it
termination_by uirb.helper.length.toNat - it.toNat
decreasing_by
  rename_i h
  rw [UInt64.lt_iff_toNat_lt] at h
  rw [UInt64.toNat_add]
  have := uirb.helper.length.toNat_lt
  have hone : UInt64.toNat 1 = 1 := rfl
  omega

/-- `DEFAULT_CATCH(-1)` -/
def catching : Except IdStop IdResult → Except RingFault IdResult
  | .ok result => .ok result
  | .error .outOfRange => .ok .notFound
  | .error (.fault f) => .error f

def findIdUnordered (uirb : UIdRingbuffer) (searchId : UInt64) : Except RingFault IdResult :=
  catching <|
    match uirb.findFrom searchId 0 with
    | .error e => .error e
    | .ok it => uirb.handleAlgorithmResult it

/-- The iterators that `std::lower_bound` goes through. -/
def lowerBoundOf (uirb : UIdRingbuffer) (searchId : UInt64) : Except IdStop UInt64 :=
  lowerBound (fun it n => it + UInt64.ofNat n) (fun it => (uirb.deref it).map fun id => decide (id < searchId)) 0
    uirb.helper.length.toNat

def lowerBoundId (uirb : UIdRingbuffer) (searchId : UInt64) : Except RingFault IdResult :=
  catching <|
    match uirb.lowerBoundOf searchId with
    | .error e => .error e
    | .ok it => uirb.handleAlgorithmResult it

/-! ## The list it stands for -/

def toHistory (uirb : UIdRingbuffer) : HistoryBuffer UInt64 := ⟨uirb.ids, uirb.helper⟩

def found (entry : Option (UInt64 × ℕ)) : IdResult :=
  match entry with
  | none => .notFound
  | some (id, slot) => ⟨slot, some id, none⟩

def foundAt (entries : List (UInt64 × ℕ)) (index : ℕ) : IdResult :=
  match entries[index]? with
  | none => .notFound
  | some (id, slot) => ⟨slot, some id, some (UInt32.ofNat index)⟩

/-- All the ways to look into the buffer show the IDs of the list, each in a slot of its own. -/
structure Agrees (uirb : UIdRingbuffer) (l : List UInt64) (entries : List (UInt64 × ℕ)) : Prop where
  ids_eq : entries.map Prod.fst = l
  slots_nodup : (entries.map Prod.snd).Nodup
  slots_lt : ∀ entry ∈ entries, entry.2 < uirb.capacity.toNat
  size_eq : uirb.getSize = l.length
  empty_eq : uirb.isEmpty = l.isEmpty
  get_eq : ∀ lookup : IdLookup, uirb.get lookup = .ok (found (lookup.widen.of entries))
  find_eq : ∀ searchId, uirb.findIdUnordered searchId = .ok (foundAt entries (l.findIdx (· == searchId)))
  lowerBound_eq : l.Pairwise (· ≤ ·) → ∀ searchId,
    uirb.lowerBoundId searchId = .ok (foundAt entries (l.findIdx fun id => !decide (id < searchId)))

/-! ## Lookups -/

def entriesOf (uirb : UIdRingbuffer) (l : List UInt64) : List (UInt64 × ℕ) :=
  (l.reverse.mapIdx fun age id => (id, uirb.helper.slotOf age)).reverse

variable {x : UInt64}

theorem castInt32_eq (h : x.toNat < 2 ^ 31) : castInt32 x = x.toNat := by
  unfold castInt32
  rw [Int.bmod_eq_of_le] <;> omega

theorem castInt32_neg (h : 2 ^ 31 ≤ x.toNat) (hlt : x.toNat < 2 ^ 32) : castInt32 x < 0 := by
  unfold castInt32
  rw [Int.bmod_def]
  split <;> omega

theorem castInt32_toUInt32 (h : x.toNat < 2 ^ 32) : (castInt32 x % 2 ^ 32).toNat = x.toNat := by
  have hmod : castInt32 x % 2 ^ 32 = x.toNat % 2 ^ 32 := Int.bmod_emod
  rw [hmod]
  omega

variable {uirb : UIdRingbuffer} {l : List UInt64} {it : UInt64}

@[simp] theorem length_entriesOf : (uirb.entriesOf l).length = l.length := by simp [entriesOf]

theorem reverse_entriesOf (age : ℕ) :
    (uirb.entriesOf l).reverse[age]? = l.reverse[age]?.map fun id => (id, uirb.helper.slotOf age) := by
  rw [entriesOf, List.reverse_reverse, List.getElem?_mapIdx]

theorem entriesOf_getElem? {index : ℕ} (h : index < l.length) :
    (uirb.entriesOf l)[index]? = l[index]?.map fun id => (id, uirb.helper.slotOf (l.length - 1 - index)) := by
  have hrev : (uirb.entriesOf l).reverse[l.length - 1 - index]? = _ := reverse_entriesOf (l.length - 1 - index)
  have hback : l.length - 1 - (l.length - 1 - index) = index := by omega
  rw [List.getElem?_reverse (by rw [length_entriesOf]; omega), length_entriesOf, List.getElem?_reverse (by omega),
    hback] at hrev
  exact hrev

/-- The slots in use can be returned as an `int32_t`. -/
def SlotsFit (uirb : UIdRingbuffer) (l : List UInt64) : Prop := ∀ age < l.length, uirb.helper.slotOf age < 2 ^ 31

structure Represents (uirb : UIdRingbuffer) (l : List UInt64) : Prop where
  history : uirb.toHistory.Represents l
  capacity_eq : uirb.helper.capacity = uirb.capacity.toUInt64

namespace Represents

theorem valid (h : uirb.Represents l) : uirb.helper.Valid := h.history.valid

theorem length_eq (h : uirb.Represents l) : uirb.helper.length.toNat = l.length := h.history.length_eq

theorem slots_length (h : uirb.Represents l) : uirb.ids.length = uirb.helper.capacity.toNat := h.history.slots_length

theorem slot_lt (h : uirb.Represents l) {age : ℕ} (hage : age < l.length) :
    uirb.helper.slotOf age < uirb.helper.capacity.toNat := h.slots_length ▸ h.history.slot_lt hage

theorem at_age (h : uirb.Represents l) {age : ℕ} (hage : age < l.length) :
    uirb.ids[uirb.helper.slotOf age]? = l.reverse[age]? := by
  have hat := h.history.holds.at_age age (by rw [List.length_reverse]; exact hage)
  rw [h.history.slots_length] at hat
  exact hat

end Represents

@[simp] theorem toHistory_helper : uirb.toHistory.helper = uirb.helper := rfl

theorem handleInner_eq (h : uirb.Represents l) (hfit : uirb.SlotsFit l) (lookup : Lookup) :
    uirb.handleInner (uirb.toHistory.innerIndex lookup) = .ok (found (lookup.of (uirb.entriesOf l))) := by
  rw [Lookup.of_eq, length_entriesOf]
  rcases ha : lookup.age l.length with _ | a
  · rw [HistoryBuffer.innerIndex_of_none (by rw [h.history.length_eq]; exact ha)]
    rfl
  · have hlt := Lookup.age_lt ha
    have hrev : a < l.reverse.length := by rw [List.length_reverse]; exact hlt
    obtain ⟨inner, hinner, hslot⟩ :=
      HistoryBuffer.innerIndex_of_age h.history.valid (by rw [h.history.length_eq]; exact ha)
    obtain ⟨id, hid⟩ : ∃ id, l.reverse[a]? = some id := ⟨_, List.getElem?_eq_getElem hrev⟩
    have hread : readSlot uirb.ids inner = .ok id := by
      rw [toHistory_helper] at hslot
      simp only [readSlot, hslot, h.at_age hlt, hid]
    rw [hinner, Option.bind_some, reverse_entriesOf, hid]
    rw [toHistory_helper] at hslot
    simp only [handleInner, handleGetterResult, hread, Except.map, castInt32_eq (hslot ▸ hfit a hlt), hslot,
      Option.map_some, found]

theorem handleEnd_eq (h : uirb.Represents l) {inner : UInt64} {age : ℕ} (hage : age < l.length)
    (hslot : inner.toNat = uirb.helper.slotOf age) : uirb.handleEnd inner = uirb.handleGetterResult inner := by
  have hlt' : inner.toNat < uirb.helper.capacity.toNat := hslot ▸ h.slot_lt hage
  have hne : inner ≠ uirb.capacity.toUInt64 := by
    rintro rfl
    rw [h.capacity_eq] at hlt'
    exact absurd hlt' (Nat.lt_irrefl _)
  rw [handleEnd, if_neg hne]

theorem handleEnd_capacity (h : uirb.Represents l) : uirb.handleEnd uirb.helper.capacity = .ok .notFound := by
  rw [handleEnd, if_pos h.capacity_eq]

theorem get_eq (h : uirb.Represents l) (hfit : uirb.SlotsFit l) (lookup : IdLookup) :
    uirb.get lookup = .ok (found (lookup.widen.of (uirb.entriesOf l))) := by
  rw [← handleInner_eq h hfit]
  cases lookup with
  | getAtIndex index => rfl
  | getAtAge age => rfl
  | getAtClampedAge age => rfl
  | front =>
    have hhelper : uirb.toHistory.empty = uirb.helper.empty := rfl
    rw [get, IdLookup.widen, HistoryBuffer.innerIndex, hhelper]
    cases hempty : uirb.helper.empty with
    | true =>
      simp only [RingBufferHelper.frontInnerIndex, hempty, if_true, handleEnd_capacity h]
      rfl
    | false =>
      have hpos : 0 < uirb.helper.length.toNat := by
        rw [Nat.pos_iff_ne_zero, ne_eq, ← RingBufferHelper.empty_iff, hempty]
        exact Bool.false_ne_true
      obtain ⟨inner, hinner, hslot⟩ := h.valid.frontImpl_eq hpos
      have hfront : uirb.helper.frontInnerIndex = .ok inner := by
        rw [RingBufferHelper.frontInnerIndex, hempty, if_neg Bool.false_ne_true]
        exact hinner
      have hlength := h.length_eq
      simp only [hfront, Bool.false_eq_true, if_false]
      rw [handleEnd_eq h (by omega) hslot]
      have hsame : uirb.toHistory.helper.frontInnerIndex = .ok inner := hfront
      rw [hsame]
      rfl
  | back =>
    have hhelper : uirb.toHistory.empty = uirb.helper.empty := rfl
    rw [get, IdLookup.widen, HistoryBuffer.innerIndex, hhelper]
    cases hempty : uirb.helper.empty with
    | true =>
      simp only [RingBufferHelper.backInnerIndex, hempty, if_true, handleEnd_capacity h]
      rfl
    | false =>
      have hpos : 0 < uirb.helper.length.toNat := by
        rw [Nat.pos_iff_ne_zero, ne_eq, ← RingBufferHelper.empty_iff, hempty]
        exact Bool.false_ne_true
      have hlength := h.length_eq
      have hlen := h.valid.length_le
      have hlatest := h.valid.latest_lt (by omega)
      have hback : uirb.helper.backInnerIndex = uirb.helper.latestInnerIdx := by
        rw [RingBufferHelper.backInnerIndex, hempty, if_neg Bool.false_ne_true]
      have hslot : uirb.helper.latestInnerIdx.toNat = uirb.helper.slotOf 0 := by
        rw [RingBufferHelper.slotOf, slot_eq hlatest (by omega), if_pos (Nat.zero_le _), Nat.sub_zero]
      simp only [Bool.false_eq_true, if_false]
      rw [hback, handleEnd_eq h (by omega) hslot]
      have hsame : uirb.toHistory.helper.backInnerIndex = uirb.helper.latestInnerIdx := hback
      rw [hsame]
      rfl

/-! ## Iterators -/

theorem valid_iff (h : uirb.Represents l) (it : UInt64) : uirb.valid it = true ↔ it.toNat < l.length := by
  rw [UIdRingbuffer.valid, decide_eq_true_iff, UInt64.lt_iff_toNat_lt, h.length_eq]

theorem inner_of_valid (h : uirb.Represents l) (hit : it.toNat < l.length) :
    ∃ inner, uirb.helper.indexToInnerIndex it = .ok (some inner) ∧
      inner.toNat = uirb.helper.slotOf (l.length - 1 - it.toNat) ∧ readSlot uirb.ids inner = .ok l[it.toNat] := by
  have hlength := h.length_eq
  have hlt : it.toNat < uirb.helper.length.toNat := by omega
  obtain ⟨inner, hinner, hslot⟩ := h.valid.indexToInnerIndex_of_lt hlt
  rw [hlength] at hslot
  have hage : l.length - 1 - it.toNat < l.length := by omega
  have hback : l.length - 1 - (l.length - 1 - it.toNat) = it.toNat := by omega
  refine ⟨inner, hinner, hslot, ?_⟩
  simp only [readSlot, hslot, h.at_age hage, List.getElem?_reverse hage, hback, List.getElem?_eq_getElem hit]

theorem deref_eq (h : uirb.Represents l) (hit : it.toNat < l.length) : uirb.deref it = .ok l[it.toNat] := by
  obtain ⟨inner, hinner, -, hread⟩ := inner_of_valid h hit
  simp only [deref, (valid_iff h it).2 hit, if_true, hinner, hread, Except.mapError]

theorem handleAlgorithmResult_eq (h : uirb.Represents l) (hfit : uirb.SlotsFit l) (hit : it.toNat ≤ l.length) :
    uirb.handleAlgorithmResult it = .ok (foundAt (uirb.entriesOf l) it.toNat) := by
  rw [handleAlgorithmResult, foundAt]
  by_cases hlt : it.toNat < l.length
  · obtain ⟨inner, hinner, hslot, -⟩ := inner_of_valid h hlt
    have hcast : castInt32 inner = inner.toNat := castInt32_eq (hslot ▸ hfit _ (by omega))
    have hret : uirb.innerIndex it = .ok (uirb.helper.slotOf (l.length - 1 - it.toNat) : ℤ) := by
      simp only [innerIndex, (valid_iff h it).2 hlt, if_true, hinner, hcast, hslot]
    have hindex : it.toUInt32 = UInt32.ofNat it.toNat := rfl
    rw [if_pos ((valid_iff h it).2 hlt), entriesOf_getElem? hlt, List.getElem?_eq_getElem hlt]
    simp only [deref_eq h hlt, hret, Option.map_some, hindex]
  · have hnone : (uirb.entriesOf l)[it.toNat]? = none :=
      List.getElem?_eq_none (by rw [length_entriesOf]; omega)
    rw [if_neg (fun hv => hlt ((valid_iff h it).1 hv)), hnone]

theorem findFrom_eq (h : uirb.Represents l) (searchId it : UInt64) (hit : it.toNat ≤ l.length) :
    ∃ stop, uirb.findFrom searchId it = .ok stop ∧
      stop.toNat = it.toNat + (l.drop it.toNat).findIdx (· == searchId) := by
  have hlength := h.length_eq
  induction it using findFrom.induct uirb searchId with
  | case1 it hlt e he =>
    rw [UInt64.lt_iff_toNat_lt] at hlt
    rw [deref_eq h (by omega)] at he
    cases he
  | case2 it hlt hfound =>
    rw [findFrom, if_pos hlt, hfound]
    rw [UInt64.lt_iff_toNat_lt] at hlt
    have hget := deref_eq h (show it.toNat < l.length by omega)
    rw [hfound, Except.ok.injEq] at hget
    refine ⟨it, by simp, ?_⟩
    rw [List.drop_eq_getElem_cons (by omega), List.findIdx_cons, ← hget]
    simp
  | case3 it hlt id hid hne ih =>
    rw [findFrom, if_pos hlt, hid]
    rw [UInt64.lt_iff_toNat_lt] at hlt
    have hget := deref_eq h (show it.toNat < l.length by omega)
    rw [hid, Except.ok.injEq] at hget
    have hnext : (it + 1).toNat = it.toNat + 1 := by
      have := uirb.helper.length.toNat_lt
      have hone : UInt64.toNat 1 = 1 := rfl
      rw [UInt64.toNat_add]
      omega
    obtain ⟨stop, hstop, hstopEq⟩ := ih (by omega)
    refine ⟨stop, by simp only [if_neg hne, hstop], ?_⟩
    rw [List.drop_eq_getElem_cons (by omega), List.findIdx_cons, ← hget, hstopEq, hnext]
    rw [beq_eq_false_iff_ne.2 hne, cond_false]
    omega
  | case4 it hge =>
    rw [findFrom, if_neg hge]
    rw [UInt64.lt_iff_toNat_lt] at hge
    exact ⟨it, rfl, by rw [List.drop_eq_nil_of_le (by omega)]; rfl⟩

theorem findIdUnordered_eq (h : uirb.Represents l) (hfit : uirb.SlotsFit l) (searchId : UInt64) :
    uirb.findIdUnordered searchId = .ok (foundAt (uirb.entriesOf l) (l.findIdx (· == searchId))) := by
  obtain ⟨stop, hstop, heq⟩ := findFrom_eq h searchId 0 (Nat.zero_le _)
  have hzero : UInt64.toNat 0 = 0 := rfl
  rw [hzero, List.drop_zero, Nat.zero_add] at heq
  have hle : stop.toNat ≤ l.length := heq ▸ List.findIdx_le_length
  rw [findIdUnordered, hstop]
  simp only [handleAlgorithmResult_eq h hfit hle, catching, heq]

theorem splits_findIdx (hsorted : l.Pairwise (· ≤ ·)) (searchId : UInt64) :
    Splits (fun i => (l[i]?.map fun id => decide (id < searchId)).getD false) l.length
      (l.findIdx fun id => !decide (id < searchId)) where
  le := List.findIdx_le_length
  below i hi := by
    have hlt : i < l.length := Nat.lt_of_lt_of_le hi List.findIdx_le_length
    have := List.not_of_lt_findIdx hi
    simp only [List.getElem?_eq_getElem hlt, Option.map_some, Option.getD_some]
    simpa using this
  notBelow i hlt hle := by
    simp only [List.getElem?_eq_getElem hlt, Option.map_some, Option.getD_some, decide_eq_false_iff_not]
    have hfirst : (l.findIdx fun id => !decide (id < searchId)) < l.length := Nat.lt_of_le_of_lt hle hlt
    have hnot := List.findIdx_getElem (w := hfirst)
    rw [Bool.not_eq_true', decide_eq_false_iff_not] at hnot
    rw [UInt64.lt_iff_toNat_lt] at hnot ⊢
    rcases Nat.lt_or_eq_of_le hle with hbefore | heq
    · have hord := List.pairwise_iff_getElem.1 hsorted _ _ hfirst hlt hbefore
      rw [UInt64.le_iff_toNat_le] at hord
      omega
    · simp only [← heq]
      exact hnot

theorem lowerBoundId_eq (h : uirb.Represents l) (hfit : uirb.SlotsFit l) (hsorted : l.Pairwise (· ≤ ·))
    (searchId : UInt64) : uirb.lowerBoundId searchId =
      .ok (foundAt (uirb.entriesOf l) (l.findIdx fun id => !decide (id < searchId))) := by
  have hlength := h.length_eq
  have hcap := h.valid.capacity_lt
  have hlen := h.valid.length_le
  have hsplits := splits_findIdx hsorted searchId
  have hzero : UInt64.toNat 0 = 0 := rfl
  have hat : ∀ i < l.length, ((0 : UInt64) + UInt64.ofNat i).toNat = i := by
    intro i hi
    rw [UInt64.toNat_add, hzero, UInt64.toNat_ofNat']
    omega
  have hread : ∀ i < l.length, ((uirb.deref ((0 : UInt64) + UInt64.ofNat i)).map fun id => decide (id < searchId)) =
      .ok ((l[i]?.map fun id => decide (id < searchId)).getD false) := by
    intro i hi
    have hi' := hat i hi
    simp only [deref_eq h (hi'.symm ▸ hi), hi', Except.map, List.getElem?_eq_getElem hi, Option.map_some,
      Option.getD_some]
  have hdown : ∀ i j, i < j → j < l.length → (l[j]?.map fun id => decide (id < searchId)).getD false = true →
      (l[i]?.map fun id => decide (id < searchId)).getD false = true := by
    intro i j hij hj hp
    rcases Nat.lt_or_ge j (l.findIdx fun id => !decide (id < searchId)) with hlt | hge
    · exact hsplits.below i (by omega)
    · rw [hsplits.notBelow j hj hge] at hp
      cases hp
  have hspec : ∃ n, lowerBound (fun (it : UInt64) n => it + UInt64.ofNat n)
      (fun it => (uirb.deref it).map fun id => decide (id < searchId)) 0 l.length =
        .ok ((0 : UInt64) + UInt64.ofNat n) ∧
      Splits (fun i => (l[i]?.map fun id => decide (id < searchId)).getD false) l.length n :=
    lowerBound_spec (fun it a b => by simp only [UInt64.ofNat_add, UInt64.add_assoc]) rfl hread hdown
  obtain ⟨n, hn, hsplits'⟩ := hspec
  have hsame := hsplits.unique hsplits'
  have hstop : ((0 : UInt64) + UInt64.ofNat n).toNat = n := by
    have := hsplits'.le
    rw [UInt64.toNat_add, hzero, UInt64.toNat_ofNat']
    omega
  rw [lowerBoundId, lowerBoundOf, hlength, hn]
  simp only [handleAlgorithmResult_eq h hfit (hstop.trans_le hsplits'.le), catching, hstop, hsame]

/-! ## Runs -/

theorem nodup_entriesOf (h : uirb.Represents l) : ((uirb.entriesOf l).map Prod.snd).Nodup := by
  have hlen := h.valid.length_le
  rw [h.length_eq] at hlen
  have hslots : (uirb.entriesOf l).map Prod.snd = ((List.range l.length).map uirb.helper.slotOf).reverse := by
    rw [entriesOf, List.map_reverse]
    congr 1
    refine List.ext_getElem (by simp) fun age _ hage => ?_
    rw [List.length_map, List.length_range] at hage
    have hback : l.length - 1 - (l.length - 1 - age) = age := by omega
    simp [hback]
  rw [hslots, List.nodup_reverse]
  refine List.Nodup.map_on (fun a ha b hb heq => ?_) List.nodup_range
  rw [List.mem_range] at ha hb
  exact slot_inj (h.valid.latest_lt (by omega)) (by omega) (by omega) heq

theorem Represents.agrees (h : uirb.Represents l) (hfit : uirb.SlotsFit l) : uirb.Agrees l (uirb.entriesOf l) where
  ids_eq := by
    rw [entriesOf, List.map_reverse]
    refine List.reverse_eq_iff.2 (List.ext_getElem (by simp) fun age _ _ => ?_)
    simp
  slots_nodup := nodup_entriesOf h
  slots_lt entry hentry := by
    have hcap : uirb.helper.capacity.toNat = uirb.capacity.toNat := congrArg UInt64.toNat h.capacity_eq
    obtain ⟨age, hage, heq⟩ := List.mem_iff_getElem.1 (List.mem_reverse.2 hentry)
    rw [List.length_reverse, length_entriesOf] at hage
    have hat : (uirb.entriesOf l).reverse[age]? = _ := reverse_entriesOf age
    rw [List.getElem?_eq_getElem (by rw [List.length_reverse, length_entriesOf]; exact hage), heq,
      List.getElem?_eq_getElem (by rw [List.length_reverse]; exact hage), Option.map_some, Option.some.injEq] at hat
    rw [hat, ← hcap]
    exact h.slot_lt hage
  size_eq := by
    have hlen := h.valid.length_le
    have hcap : uirb.helper.capacity.toNat = uirb.capacity.toNat := congrArg UInt64.toNat h.capacity_eq
    have hlt := uirb.capacity.toNat_lt
    rw [getSize, ← h.length_eq]
    exact castInt32_toUInt32 (by omega)
  empty_eq := by
    rw [Bool.eq_iff_iff, isEmpty, RingBufferHelper.empty_iff, h.length_eq, List.length_eq_zero_iff, List.isEmpty_iff]
  get_eq := get_eq h hfit
  find_eq := findIdUnordered_eq h hfit
  lowerBound_eq hsorted := lowerBoundId_eq h hfit hsorted

inductive Op
  | pushBack (id : UInt64)
  | popBack
  | popFront

/-- What an operation does to a list that has room for `capacity` elements. -/
def Op.spec (capacity : ℕ) (l : List UInt64) : Op → List UInt64
  | .pushBack id => (l ++ [id]).drop (l.length + 1 - capacity)
  | .popBack => l.dropLast
  | .popFront => l.tail

/-- An operation, and what it returns if it returns something. -/
def run (uirb : UIdRingbuffer) : Op → Except RingFault (Option ℤ × UIdRingbuffer)
  | .pushBack id => (uirb.pushBack id).map fun pushed => (some pushed.1, pushed.2)
  | .popBack => uirb.popBack.map fun uirb => (none, uirb)
  | .popFront => .ok (none, uirb.popFront)

structure Refinement where
  uirb : UIdRingbuffer
  list : List UInt64

def start (capacity : UInt32) : Refinement := ⟨create capacity, []⟩

def Refinement.step (s : Refinement) (op : Op) : Option Refinement :=
  match s.uirb.run op with
  | .error _ => none
  | .ok (_, uirb) => some ⟨uirb, op.spec s.uirb.capacity.toNat s.list⟩

/-- The operation does nothing undefined, the ring is the list afterwards, and pushing returns the slot of the newest. -/
def Refinement.Refines (s : Refinement) (op : Op) : Prop :=
  ∃ ret uirb entries, s.uirb.run op = .ok (ret, uirb) ∧ uirb.Agrees (op.spec s.uirb.capacity.toNat s.list) entries ∧
    ∀ slot, ret = some slot → entries.getLast?.map (fun entry => (entry.2 : ℤ)) = some slot

/-- A push finds room, in a slot that an `int32_t` can name. -/
def Refinement.HasRoom (s : Refinement) (op : Op) : Prop :=
  ∀ id, op = .pushBack id → s.uirb.capacity ≠ 0 ∧
    (s.uirb.helper.latestInnerIdx.toNat + 1) % s.uirb.capacity.toNat < 2 ^ 31

theorem pushBack_eq (uirb : UIdRingbuffer) (id : UInt64) :
    uirb.pushBack id = (uirb.toHistory.pushBack id).map fun buffer =>
      (castInt32 buffer.helper.latestInnerIdx, ⟨buffer.helper, buffer.internalBuffer, uirb.capacity⟩) := by
  rw [pushBack, HistoryBuffer.pushBack, toHistory_helper]
  cases uirb.helper.pushBackLocation with
  | error e => rfl
  | ok helper =>
    simp only [toHistory]
    cases writeSlot uirb.ids helper.latestInnerIdx id <;> rfl

theorem popBack_eq (uirb : UIdRingbuffer) :
    uirb.popBack = uirb.toHistory.popBack.map fun buffer => ⟨buffer.helper, buffer.internalBuffer, uirb.capacity⟩ := by
  rw [popBack, HistoryBuffer.popBack, toHistory_helper]
  cases uirb.helper.popBack <;> rfl

theorem Represents.pushBack (h : uirb.Represents l) (hpos : 0 < uirb.capacity.toNat) (id : UInt64) :
    ∃ uirb', uirb.pushBack id = .ok (castInt32 uirb'.helper.latestInnerIdx, uirb') ∧
      uirb'.Represents ((l ++ [id]).drop (l.length + 1 - uirb.capacity.toNat)) ∧
      uirb'.helper.capacity = uirb.helper.capacity ∧
      uirb'.helper.latestInnerIdx.toNat = (uirb.helper.latestInnerIdx.toNat + 1) % uirb.capacity.toNat := by
  have hcap : uirb.helper.capacity.toNat = uirb.capacity.toNat := congrArg UInt64.toNat h.capacity_eq
  obtain ⟨buffer, hpush, hrep, hsame, hlatest⟩ := h.history.pushBack (show 0 < uirb.helper.capacity.toNat by omega) id
  rw [toHistory_helper] at hrep hsame hlatest
  rw [hcap] at hrep hlatest
  exact ⟨⟨buffer.helper, buffer.internalBuffer, uirb.capacity⟩, by rw [pushBack_eq, hpush]; rfl,
    ⟨hrep, hsame.trans h.capacity_eq⟩, hsame, hlatest⟩

theorem Represents.popBack (h : uirb.Represents l) :
    ∃ uirb', uirb.popBack = .ok uirb' ∧ uirb'.Represents l.dropLast := by
  obtain ⟨buffer, hpop, hrep, hsame⟩ := h.history.popBack
  exact ⟨⟨buffer.helper, buffer.internalBuffer, uirb.capacity⟩, by rw [popBack_eq, hpop]; rfl,
    ⟨hrep, hsame.trans h.capacity_eq⟩⟩

theorem Represents.popFront (h : uirb.Represents l) : uirb.popFront.Represents l.tail := by
  refine ⟨h.history.popFront, Eq.trans ?_ h.capacity_eq⟩
  rw [UIdRingbuffer.popFront, RingBufferHelper.popFront]
  split <;> rfl

/-! What is in use after an operation. -/

theorem slotsFit_pushBack {uirb' : UIdRingbuffer} {id : UInt64} (h : uirb.Represents l) (hfit : uirb.SlotsFit l)
    (hpos : 0 < uirb.capacity.toNat) (hcapacity : uirb'.helper.capacity = uirb.helper.capacity)
    (hlatest : uirb'.helper.latestInnerIdx.toNat = (uirb.helper.latestInnerIdx.toNat + 1) % uirb.capacity.toNat)
    (hroom : (uirb.helper.latestInnerIdx.toNat + 1) % uirb.capacity.toNat < 2 ^ 31) :
    uirb'.SlotsFit ((l ++ [id]).drop (l.length + 1 - uirb.capacity.toNat)) := by
  have hcap : uirb.helper.capacity.toNat = uirb.capacity.toNat := congrArg UInt64.toNat h.capacity_eq
  have hlt := h.valid.latest_lt (by omega)
  rw [hcap] at hlt
  intro age hage
  rw [List.length_drop, List.length_append, List.length_singleton] at hage
  rw [RingBufferHelper.slotOf, hcapacity, hcap, hlatest]
  rcases age with _ | age
  · rw [slot_eq (Nat.mod_lt _ hpos) hpos, if_pos (Nat.zero_le _), Nat.sub_zero]
    exact hroom
  · rw [slot_next hlt (by omega), ← hcap]
    exact hfit age (by omega)

theorem slotsFit_popBack {uirb' : UIdRingbuffer} (h : uirb.Represents l) (hfit : uirb.SlotsFit l)
    (hpop : uirb.popBack = .ok uirb') : uirb'.SlotsFit l.dropLast := by
  intro age hage
  rw [List.length_dropLast] at hage
  have hlen := h.valid.length_le
  have hlength := h.length_eq
  have hlatest := h.valid.latest_lt (by omega)
  have hone : UInt64.toNat 1 = 1 := rfl
  rw [UIdRingbuffer.popBack, RingBufferHelper.popBack, RingBufferHelper.empty_eq_false (by omega),
    if_neg Bool.false_ne_true, RingBufferHelper.modulo_eq (by omega)] at hpop
  cases hpop
  have hle : UInt64.toNat 1 ≤ uirb.helper.capacity.toNat := by omega
  have hback := h.valid.toNat_back (by omega) hle
  rw [RingBufferHelper.slotOf, UInt64.toNat_mod, hback, hone, slot_previous hlatest (by omega)]
  exact hfit (age + 1) (by omega)

theorem slotsFit_popFront (hfit : uirb.SlotsFit l) : uirb.popFront.SlotsFit l.tail := by
  intro age hage
  rw [List.length_tail] at hage
  have hsame : uirb.popFront.helper.slotOf age = uirb.helper.slotOf age := by
    rw [UIdRingbuffer.popFront, RingBufferHelper.popFront]
    split <;> rfl
  rw [hsame]
  exact hfit age (by omega)

structure Refinement.Inv (s : Refinement) : Prop where
  represents : s.uirb.Represents s.list
  slotsFit : s.uirb.SlotsFit s.list

theorem capacity_pos_iff {capacity : UInt32} : capacity ≠ 0 ↔ 0 < capacity.toNat := by
  rw [Nat.pos_iff_ne_zero, ne_eq, ne_eq, ← UInt32.toNat_inj]
  rfl

theorem Refinement.Inv.run {s : Refinement} (h : s.Inv) {op : Op} (hroom : s.HasRoom op) :
    ∃ ret uirb, s.uirb.run op = .ok (ret, uirb) ∧
      Refinement.Inv ⟨uirb, op.spec s.uirb.capacity.toNat s.list⟩ ∧
      ∀ slot, ret = some slot → slot = uirb.helper.latestInnerIdx.toNat ∧ 0 < uirb.helper.length.toNat := by
  cases op with
  | pushBack id =>
    obtain ⟨hne, hfits⟩ := hroom id rfl
    have hpos := capacity_pos_iff.1 hne
    obtain ⟨uirb, hpush, hrep, hcapacity, hlatest⟩ := h.represents.pushBack hpos id
    refine ⟨some (castInt32 uirb.helper.latestInnerIdx), uirb, ?_,
      ⟨hrep, slotsFit_pushBack h.represents h.slotsFit hpos hcapacity hlatest hfits⟩, ?_⟩
    · simp only [UIdRingbuffer.run, hpush, Except.map]
    · intro slot hret
      rw [← Option.some.inj hret]
      refine ⟨castInt32_eq (by omega), ?_⟩
      rw [hrep.length_eq, List.length_drop, List.length_append, List.length_singleton]
      omega
  | popBack =>
    obtain ⟨uirb, hpop, hrep⟩ := h.represents.popBack
    refine ⟨none, uirb, ?_, ⟨hrep, slotsFit_popBack h.represents h.slotsFit hpop⟩, by rintro slot ⟨⟩⟩
    rw [UIdRingbuffer.run, hpop]
    rfl
  | popFront => exact ⟨none, _, rfl, ⟨h.represents.popFront, slotsFit_popFront h.slotsFit⟩, by rintro slot ⟨⟩⟩

theorem getLast_entriesOf (h : uirb.Represents l) (hpos : 0 < uirb.helper.length.toNat) :
    (uirb.entriesOf l).getLast?.map (fun entry => (entry.2 : ℤ)) = some (uirb.helper.latestInnerIdx.toNat : ℤ) := by
  have hlen := h.valid.length_le
  have hlength := h.length_eq
  have hlatest := h.valid.latest_lt (by omega)
  have hlt : 0 < l.reverse.length := by rw [List.length_reverse]; omega
  rw [← List.head?_reverse, List.head?_eq_getElem?, reverse_entriesOf, List.getElem?_eq_getElem hlt, Option.map_some,
    Option.map_some, RingBufferHelper.slotOf, slot_eq hlatest (by omega), if_pos (Nat.zero_le _), Nat.sub_zero]

theorem Refinement.Inv.refines_iff {s : Refinement} (h : s.Inv) (op : Op) : s.Refines op ↔ s.HasRoom op := by
  constructor
  · rintro ⟨ret, uirb, entries, hrun, -, hret⟩ id rfl
    have hcap : s.uirb.helper.capacity.toNat = s.uirb.capacity.toNat :=
      congrArg UInt64.toNat h.represents.capacity_eq
    by_cases hne : s.uirb.capacity = 0
    · have hzero : s.uirb.helper.capacity.toNat = 0 := by
        rw [hcap, hne]
        rfl
      rw [UIdRingbuffer.run, pushBack_eq, HistoryBuffer.Represents.pushBack_zero hzero] at hrun
      cases hrun
    · refine ⟨hne, ?_⟩
      obtain ⟨uirb', hpush, -, -, hlatest⟩ := h.represents.pushBack (capacity_pos_iff.1 hne) id
      simp only [UIdRingbuffer.run, hpush, Except.map, Except.ok.injEq, Prod.mk.injEq] at hrun
      have hlast := hret _ hrun.1.symm
      rw [Option.map_eq_some_iff] at hlast
      obtain ⟨entry, -, hentry⟩ := hlast
      have hlt := s.uirb.capacity.toNat_lt
      have hslot := Nat.mod_lt (s.uirb.helper.latestInnerIdx.toNat + 1) (capacity_pos_iff.1 hne)
      by_contra hlarge
      have hneg := castInt32_neg (x := uirb'.helper.latestInnerIdx) (by omega) (by omega)
      omega
  · intro hroom
    obtain ⟨ret, uirb, hrun, hinv, hslot⟩ := h.run hroom
    refine ⟨ret, uirb, uirb.entriesOf _, hrun, hinv.represents.agrees hinv.slotsFit, fun slot hret => ?_⟩
    obtain ⟨rfl, hpos⟩ := hslot slot hret
    exact getLast_entriesOf hinv.represents hpos

theorem Refinement.Inv.step {s t : Refinement} (h : s.Inv) {op : Op} (hroom : s.HasRoom op)
    (hstep : s.step op = some t) : t.Inv := by
  obtain ⟨ret, uirb, hrun, hinv, -⟩ := h.run hroom
  simp only [Refinement.step, hrun, Option.some.injEq] at hstep
  rw [← hstep]
  exact hinv

theorem inv_start (capacity : UInt32) : (start capacity).Inv := by
  have hlt := capacity.toNat_lt
  refine ⟨⟨HistoryBuffer.represents_create capacity.toUInt64 0 ?_, rfl⟩, fun age hage => absurd hage (Nat.not_lt_zero _)⟩
  have hwide : capacity.toUInt64.toNat = capacity.toNat := rfl
  omega

theorem ids_along_iff (capacity : UInt32) (ops : List Op) :
    Runs.Along Refinement.step Refinement.Refines (start capacity) ops ↔
      Runs.Along Refinement.step Refinement.HasRoom (start capacity) ops :=
  Runs.along_iff (I := Refinement.Inv) (fun _ op h => h.refines_iff op) (fun _ _ _ h hroom hstep => h.step hroom hstep)
    (inv_start capacity) ops

end UIdRingbuffer

/-- Both buffers, of every capacity and over every run. -/
theorem ringBuffer_iff (T : Type) (maxSize : Fin (2 ^ 63 - 1)) (default : T) (pushes : List (HistoryBuffer.Op T))
    (capacity : UInt32) (ops : List UIdRingbuffer.Op) :
    (Runs.Along HistoryBuffer.Refinement.step HistoryBuffer.Refinement.Refines (HistoryBuffer.start maxSize default)
        pushes ↔
      Runs.Along HistoryBuffer.Refinement.step HistoryBuffer.Refinement.HasRoom (HistoryBuffer.start maxSize default)
        pushes) ∧
    (Runs.Along UIdRingbuffer.Refinement.step UIdRingbuffer.Refinement.Refines (UIdRingbuffer.start capacity) ops ↔
      Runs.Along UIdRingbuffer.Refinement.step UIdRingbuffer.Refinement.HasRoom (UIdRingbuffer.start capacity) ops) :=
  ⟨HistoryBuffer.history_along_iff maxSize default pushes, UIdRingbuffer.ids_along_iff capacity ops⟩

/-- The first push to a ring of capacity zero divides by zero. -/
theorem capacityZero_divides :
    UIdRingbuffer.run (UIdRingbuffer.create 0) (.pushBack 5) = .error .divisionByZero ∧
      ¬ Runs.Along UIdRingbuffer.Refinement.step UIdRingbuffer.Refinement.Refines (UIdRingbuffer.start 0)
        [.pushBack 5] := by
  have hrun : UIdRingbuffer.run (UIdRingbuffer.create 0) (.pushBack 5) = .error .divisionByZero := rfl
  refine ⟨hrun, ?_⟩
  rintro ⟨⟨ret, uirb, entries, hok, -⟩, -⟩
  have hsame : (UIdRingbuffer.start 0).uirb = UIdRingbuffer.create 0 := rfl
  rw [hsame, hrun] at hok
  cases hok

end AugmentedInsanity.Util.AnyCapacity
