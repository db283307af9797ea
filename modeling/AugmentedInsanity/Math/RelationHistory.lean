/-
The history of relations (`m_relation_history.cpp`) and the prediction it uses (`m_predict.c`). What is kept is the
tail of the pushes that were accepted, in the order of their times (`run_spec`), and every time but zero is answered
from the place it has among them (`get_spec`).
-/
import Mathlib.Algebra.Field.Rat
import AugmentedInsanity.Base.RelationChain
import AugmentedInsanity.Lib.BinarySearch
import AugmentedInsanity.Util.HistoryBuffer

namespace AugmentedInsanity.Math

open Base Util BinarySearch

/-- What the history uses of `m_api.h`, `m_vec3.h` and `util/u_time.h`, in single (`S`) and double (`D`) precision. -/
class HistoryMath (Q V : Type) (S D : outParam Type) extends MathApi Q V where
  /-- All zeros, which is no rotation. -/
  quatZero : Q
  vec3MulScalar : V → S → V
  vec3Lerp : V → V → S → V
  quatSlerp : Q → Q → S → Q
  quatInvert : Q → Q
  quatIntegrateVelocity : Q → V → S → Q
  timeNsToS : Int64 → D
  isZero : D → Bool
  toFloat : D → S
  ofInt64 : Int64 → S
  floatDiv : S → S → S

variable {Q V S D : Type} [HistoryMath Q V S D]

/-! ## Prediction -/

def vec3Zero (Q : Type) {V S D : Type} [HistoryMath Q V S D] : V := (XRT_POSE_IDENTITY : Pose Q V).position

/-- `do_orientation`; what is not valid is left in the output as it is. -/
def doOrientation (rel : SpaceRelation Q V) (deltaS : D) (outRel : SpaceRelation Q V) : SpaceRelation Q V :=
  let flags := rel.relationFlags
  if HistoryMath.isZero Q V deltaS then
    { outRel with
      pose := { outRel.pose with orientation := rel.pose.orientation }
      angularVelocity := rel.angularVelocity }
  else
    let orientationInv : Q := HistoryMath.quatInvert V rel.pose.orientation
    let accum : V :=
      if flags.hasAngularVelocity then
        MathApi.vec3Add Q (vec3Zero Q) (MathApi.quatRotateDerivative orientationInv rel.angularVelocity)
      else vec3Zero Q
    let orientation :=
      if flags.hasOrientation then
        HistoryMath.quatIntegrateVelocity rel.pose.orientation accum (HistoryMath.toFloat Q V deltaS)
      else outRel.pose.orientation
    { outRel with
      pose := { outRel.pose with orientation := orientation }
      angularVelocity :=
        if flags.hasAngularVelocity then MathApi.quatRotateDerivative orientation accum else outRel.angularVelocity }

def doPosition (rel : SpaceRelation Q V) (deltaS : D) (outRel : SpaceRelation Q V) : SpaceRelation Q V :=
  let flags := rel.relationFlags
  if HistoryMath.isZero Q V deltaS then
    { outRel with
      pose := { outRel.pose with position := rel.pose.position }
      linearVelocity := rel.linearVelocity }
  else
    let accum : V :=
      if flags.hasLinearVelocity then MathApi.vec3Add Q (vec3Zero Q) rel.linearVelocity else vec3Zero Q
    { outRel with
      pose :=
        { outRel.pose with
          position :=
            if flags.hasPosition then
              MathApi.vec3Add Q rel.pose.position
                (HistoryMath.vec3MulScalar Q accum (HistoryMath.toFloat Q V deltaS))
            else outRel.pose.position }
      linearVelocity := if flags.hasLinearVelocity then accum else outRel.linearVelocity }

def mPredictRelation (rel : SpaceRelation Q V) (deltaS : D) (outRel : SpaceRelation Q V) : SpaceRelation Q V :=
  { doPosition rel deltaS (doOrientation rel deltaS outRel) with relationFlags := rel.relationFlags }

/-! ## Pushing -/

structure RelationHistoryEntry (Q V : Type) where
  relation : SpaceRelation Q V
  timestamp : Int64

abbrev BUF_LEN : ℕ := 4096

/-- `struct m_relation_history`; every call holds the mutex. -/
structure MRelationHistory (Q V : Type) where
  impl : HistoryBuffer (RelationHistoryEntry Q V) BUF_LEN

def zeroRelation : SpaceRelation Q V :=
  ⟨.none, ⟨HistoryMath.quatZero V, vec3Zero Q⟩, vec3Zero Q, vec3Zero Q⟩

def mRelationHistoryCreate : MRelationHistory Q V := ⟨.create ⟨zeroRelation, 0⟩⟩

omit [HistoryMath Q V S D] in
/-- `m_relation_history_push`, and whether it was done. -/
def mRelationHistoryPush (rh : MRelationHistory Q V) (inRelation : SpaceRelation Q V) (timestamp : Int64) :
    Bool × MRelationHistory Q V :=
  let rhe : RelationHistoryEntry Q V := ⟨inRelation, timestamp⟩
  if rh.impl.empty then (true, ⟨rh.impl.pushBack rhe⟩)
  else
    match rh.impl.back with
    | .error _ => (false, rh)
    | .ok back => if rhe.timestamp > back.timestamp then (true, ⟨rh.impl.pushBack rhe⟩) else (false, rh)

def mRelationHistoryClear (rh : MRelationHistory Q V) : MRelationHistory Q V := ⟨rh.impl.clear⟩

/-! ## Looking up -/

inductive MRelationHistoryResult
  | invalid
  | exact
  | interpolated
  | predicted
  | reversePredicted
  deriving DecidableEq

/-- What lies between two entries; only what both say is valid is filled in. -/
def interpolate (predecessor successor : RelationHistoryEntry Q V) (atTimestampNs : Int64) : SpaceRelation Q V :=
  let diffBefore := atTimestampNs - predecessor.timestamp
  let diffAfter := successor.timestamp - atTimestampNs
  let amountToLerp : S :=
    HistoryMath.floatDiv Q V (HistoryMath.ofInt64 Q V diffBefore) (HistoryMath.ofInt64 Q V (diffBefore + diffAfter))
  let before := predecessor.relation
  let after := successor.relation
  let flags := before.relationFlags.inter after.relationFlags
  let zero : SpaceRelation Q V := zeroRelation
  { relationFlags := flags
    pose :=
      { position :=
          if flags.hasPosition then HistoryMath.vec3Lerp Q before.pose.position after.pose.position amountToLerp
          else zero.pose.position
        orientation :=
          if flags.hasOrientation then
            HistoryMath.quatSlerp V before.pose.orientation after.pose.orientation amountToLerp
          else zero.pose.orientation }
    angularVelocity :=
      if flags.hasAngularVelocity then HistoryMath.vec3Lerp Q before.angularVelocity after.angularVelocity amountToLerp
      else zero.angularVelocity
    linearVelocity :=
      if flags.hasLinearVelocity then HistoryMath.vec3Lerp Q before.linearVelocity after.linearVelocity amountToLerp
      else zero.linearVelocity }

def extrapolate (entry : RelationHistoryEntry Q V) (atTimestampNs : Int64) (outRelation : SpaceRelation Q V) :
    SpaceRelation Q V :=
  mPredictRelation entry.relation (HistoryMath.timeNsToS Q V (atTimestampNs - entry.timestamp)) outRelation

omit [HistoryMath Q V S D] in
/-- The comparison of the search, with the entry an iterator points at. -/
def isBefore (impl : HistoryBuffer (RelationHistoryEntry Q V) BUF_LEN) (timestamp : Int64)
    (it : HistoryBufConstIterator) : Except HistoryException Bool := do
  let rhe ← it.deref impl
  return decide (rhe.timestamp < timestamp)

omit [HistoryMath Q V S D] in
/-- The first entry that is not before the time, or the end. -/
def lowerBoundOf (impl : HistoryBuffer (RelationHistoryEntry Q V) BUF_LEN) (atTimestampNs : Int64) :
    Except HistoryException HistoryBufConstIterator := do
  let b := HistoryBufConstIterator.cbegin
  let e := HistoryBufConstIterator.cend impl
  let length ← e.difference b
  lowerBound HistoryBufConstIterator.incrementN (isBefore impl atTimestampNs) b length.toNat

/-- The part of `m_relation_history_get` under `try`. -/
def lookUp (impl : HistoryBuffer (RelationHistoryEntry Q V) BUF_LEN) (atTimestampNs : Int64)
    (outRelation : SpaceRelation Q V) : Except HistoryException (MRelationHistoryResult × SpaceRelation Q V) :=
  if impl.empty || atTimestampNs == 0 then return (.invalid, zeroRelation)
  else do
    let b := HistoryBufConstIterator.cbegin
    let e := HistoryBufConstIterator.cend impl
    let it ← lowerBoundOf impl atTimestampNs
    if it.equal impl e then
      let back ← impl.back
      return (.predicted, extrapolate back atTimestampNs outRelation)
    let found ← it.arrow impl
    if atTimestampNs == found.timestamp then return (.exact, found.relation)
    if it.equal impl b then
      let front ← impl.front
      return (.reversePredicted, extrapolate front atTimestampNs outRelation)
    let predecessor ← (it.decrementN 1).deref impl
    let successor ← it.deref impl
    return (.interpolated, interpolate predecessor successor atTimestampNs)

/-- `m_relation_history_get`, and what it leaves in the output; a NULL that is read through ends the process. -/
def mRelationHistoryGet (rh : MRelationHistory Q V) (atTimestampNs : Int64) (outRelation : SpaceRelation Q V) :
    Option (MRelationHistoryResult × SpaceRelation Q V) :=
  match lookUp rh.impl atTimestampNs outRelation with
  | .ok answer => some answer
  | .error .nullPointer => none
  | .error _ => some (.invalid, outRelation)

/-! ## What the lookup finds -/

theorem bind_ok {ε α β : Type} (a : α) (f : α → Except ε β) : (Except.ok a >>= f) = f a := rfl

/-- What is answered from the place of a time, between the entries before it and those that are not. -/
def answerBetween (before after : List (RelationHistoryEntry Q V)) (atTimestampNs : Int64)
    (outRelation : SpaceRelation Q V) : MRelationHistoryResult × SpaceRelation Q V :=
  match after with
  | [] =>
    match before.getLast? with
    | none => (.invalid, zeroRelation)
    | some newest => (.predicted, extrapolate newest atTimestampNs outRelation)
  | found :: _ =>
    if atTimestampNs == found.timestamp then (.exact, found.relation)
    else
      match before.getLast? with
      | none => (.reversePredicted, extrapolate found atTimestampNs outRelation)
      | some predecessor => (.interpolated, interpolate predecessor found atTimestampNs)

section Lookup

variable {impl : HistoryBuffer (RelationHistoryEntry Q V) BUF_LEN} {atTimestampNs : Int64}
  {before after : List (RelationHistoryEntry Q V)}

omit [HistoryMath Q V S D] in
theorem lowerBoundOf_eq (h : impl.contents = before ++ after) (hbefore : ∀ rhe ∈ before, rhe.timestamp < atTimestampNs)
    (hafter : ∀ rhe ∈ after, ¬ rhe.timestamp < atTimestampNs) :
    lowerBoundOf impl atTimestampNs = .ok ⟨false, before.length⟩ := by
  have hsize : impl.size = before.length + after.length := by
    rw [← impl.length_contents, h, List.length_append]
  have hlt : impl.size < 2 ^ 63 := Nat.lt_of_le_of_lt impl.size_le (by decide)
  -- an entry is before the time exactly if it is among the first
  have hbelow : ∀ i < impl.size,
      isBefore impl atTimestampNs (HistoryBufConstIterator.cbegin.incrementN i) = .ok (decide (i < before.length)) := by
    intro i hi
    rw [HistoryBufConstIterator.incrementN_cbegin]
    by_cases hfirst : i < before.length
    · have hentry : impl.contents[i]? = some before[i] := by
        rw [h, List.getElem?_append_left hfirst, List.getElem?_eq_getElem hfirst]
      rw [isBefore, HistoryBufConstIterator.deref_eq hentry, decide_eq_true hfirst]
      exact congrArg Except.ok (decide_eq_true (hbefore _ (List.getElem_mem hfirst)))
    · have hi' : i - before.length < after.length := by omega
      have hentry : impl.contents[i]? = some after[i - before.length] := by
        rw [h, List.getElem?_append_right (Nat.not_lt.1 hfirst), List.getElem?_eq_getElem hi']
      rw [isBefore, HistoryBufConstIterator.deref_eq hentry, decide_eq_false hfirst]
      exact congrArg Except.ok (decide_eq_false (hafter _ (List.getElem_mem hi')))
  obtain ⟨n, hn, hsplits⟩ := lowerBound_spec HistoryBufConstIterator.incrementN_incrementN
    (HistoryBufConstIterator.incrementN_zero .cbegin) hbelow
    fun i j hij _ hj => decide_eq_true (hij.trans (of_decide_eq_true hj))
  have hplace : n = before.length := hsplits.unique
    ⟨by omega, fun i hi => decide_eq_true hi, fun i _ hle => decide_eq_false (Nat.not_lt.2 hle)⟩
  rw [HistoryBufConstIterator.incrementN_cbegin, hplace] at hn
  unfold lowerBoundOf
  simp only [HistoryBufConstIterator.difference_cend_cbegin hlt]
  exact hn

omit [HistoryMath Q V S D] in
theorem empty_eq_false (hne : impl.contents ≠ []) : impl.empty = false :=
  Bool.eq_false_iff.2 fun hempty => hne (impl.empty_iff.1 hempty)

theorem lookUp_eq (h : impl.contents = before ++ after) (ht : atTimestampNs ≠ 0)
    (hbefore : ∀ rhe ∈ before, rhe.timestamp < atTimestampNs) (hafter : ∀ rhe ∈ after, ¬ rhe.timestamp < atTimestampNs)
    (outRelation : SpaceRelation Q V) :
    lookUp impl atTimestampNs outRelation = .ok (answerBetween before after atTimestampNs outRelation) := by
  by_cases hne : impl.contents = []
  · obtain ⟨rfl, rfl⟩ := List.append_eq_nil_iff.1 (h.symm.trans hne)
    rw [lookUp, impl.empty_iff.2 hne, Bool.true_or, if_pos rfl]
    rfl
  · have hsize : impl.size = before.length + after.length := by
      rw [← impl.length_contents, h, List.length_append]
    have hguard : (impl.empty || atTimestampNs == 0) = false := by
      rw [empty_eq_false hne, Bool.false_or]
      exact beq_eq_false_iff_ne.2 ht
    have hend : HistoryBufConstIterator.equal impl ⟨false, before.length⟩ (HistoryBufConstIterator.cend impl) =
        decide (before.length = impl.size) := HistoryBufConstIterator.equal_cend (by omega)
    unfold lookUp
    simp only [hguard, Bool.false_eq_true, if_false, lowerBoundOf_eq h hbefore hafter, hend, bind_ok]
    cases after with
    | nil =>
      rw [List.length_nil, Nat.add_zero] at hsize
      rw [List.append_nil] at h
      simp only [hsize, decide_true, if_true]
      rcases List.eq_nil_or_concat' before with rfl | ⟨older, newest, rfl⟩
      · exact absurd h hne
      · rw [impl.back_eq h, answerBetween, List.getLast?_concat]
        rfl
    | cons found newer =>
      rw [List.length_cons] at hsize
      have hplace : before.length < impl.size := by omega
      have hfound : impl.contents[before.length]? = some found := by
        rw [h, List.getElem?_append_right (Nat.le_refl _), Nat.sub_self, List.getElem?_cons_zero]
      simp only [Nat.ne_of_lt hplace, decide_false, Bool.false_eq_true, if_false,
        HistoryBufConstIterator.arrow_eq hfound, HistoryBufConstIterator.equal_cbegin hplace, bind_ok, answerBetween]
      split
      · rfl
      · rcases List.eq_nil_or_concat' before with rfl | ⟨older, predecessor, rfl⟩
        · rw [impl.front_eq h]
          rfl
        · have hlast : impl.contents[older.length]? = some predecessor := by
            rw [h, List.append_assoc, List.getElem?_append_right (Nat.le_refl _), Nat.sub_self]
            rfl
          have hstep : HistoryBufConstIterator.decrementN ⟨false, (older ++ [predecessor]).length⟩ 1 =
              ⟨false, older.length⟩ := by
            simp [HistoryBufConstIterator.decrementN]
          simp only [hstep, HistoryBufConstIterator.deref_eq hlast, HistoryBufConstIterator.deref_eq hfound, bind_ok,
            List.getLast?_concat]
          rw [if_neg (by simp)]
          rfl

end Lookup

/-! ## Runs -/

omit [HistoryMath Q V S D] in
def InOrder (entries : List (RelationHistoryEntry Q V)) : Prop := entries.Pairwise (·.timestamp < ·.timestamp)

inductive Call (Q V : Type)
  | push (relation : SpaceRelation Q V) (timestamp : Int64)
  | clear

def call (rh : MRelationHistory Q V) : Call Q V → MRelationHistory Q V
  | .push relation timestamp => (mRelationHistoryPush rh relation timestamp).2
  | .clear => mRelationHistoryClear rh

def run (calls : List (Call Q V)) : MRelationHistory Q V := calls.foldl call mRelationHistoryCreate

omit [HistoryMath Q V S D] in
/-- The pushes that are to be accepted since the last clear: those later than all before. -/
def accept (accepted : List (RelationHistoryEntry Q V)) : Call Q V → List (RelationHistoryEntry Q V)
  | .push relation timestamp =>
    if ∀ rhe ∈ accepted, rhe.timestamp < timestamp then accepted ++ [⟨relation, timestamp⟩] else accepted
  | .clear => []

def accepted (calls : List (Call Q V)) : List (RelationHistoryEntry Q V) := calls.foldl accept []

omit [HistoryMath Q V S D] in
structure Keeps (rh : MRelationHistory Q V) (accepted : List (RelationHistoryEntry Q V)) : Prop where
  holds : rh.impl.HoldsLast accepted
  inOrder : InOrder accepted

omit [HistoryMath Q V S D] in
theorem InOrder.newest {older : List (RelationHistoryEntry Q V)} {newest : RelationHistoryEntry Q V}
    (h : InOrder (older ++ [newest])) {timestamp : Int64} :
    (∀ rhe ∈ older ++ [newest], rhe.timestamp < timestamp) ↔ newest.timestamp < timestamp := by
  rw [InOrder, List.pairwise_append] at h
  constructor
  · exact fun hall => hall newest (List.mem_append_right _ (List.mem_singleton_self _))
  · intro hnewest rhe hrhe
    rcases List.mem_append.1 hrhe with holder | hrhe
    · exact Int64.lt_trans (h.2.2 rhe holder newest (List.mem_singleton_self _)) hnewest
    · rw [List.mem_singleton.1 hrhe]
      exact hnewest

namespace Keeps

variable {rh : MRelationHistory Q V} {entries : List (RelationHistoryEntry Q V)}

omit [HistoryMath Q V S D] in
theorem push_eq (h : Keeps rh entries) (relation : SpaceRelation Q V) (timestamp : Int64) :
    mRelationHistoryPush rh relation timestamp =
      if ∀ rhe ∈ entries, rhe.timestamp < timestamp then (true, ⟨rh.impl.pushBack ⟨relation, timestamp⟩⟩)
      else (false, rh) := by
  unfold mRelationHistoryPush
  rcases List.eq_nil_or_concat' entries with rfl | ⟨older, newest, rfl⟩
  · rw [if_pos (h.holds.empty_iff.2 rfl), if_pos (List.forall_mem_nil _)]
  · have hempty : ¬ rh.impl.empty = true := by
      rw [h.holds.empty_iff]
      exact List.append_ne_nil_of_right_ne_nil _ (List.cons_ne_nil _ _)
    rw [if_neg hempty, h.holds.back]
    simp only [h.inOrder.newest, gt_iff_lt]

omit [HistoryMath Q V S D] in
theorem pushBack (h : Keeps rh entries) {relation : SpaceRelation Q V} {timestamp : Int64}
    (hlater : ∀ rhe ∈ entries, rhe.timestamp < timestamp) :
    Keeps ⟨rh.impl.pushBack ⟨relation, timestamp⟩⟩ (entries ++ [⟨relation, timestamp⟩]) := by
  refine ⟨h.holds.pushBack _, List.pairwise_append.2 ⟨h.inOrder, List.pairwise_singleton _ _, ?_⟩⟩
  intro rhe hrhe rhe' hrhe'
  rw [List.mem_singleton.1 hrhe']
  exact hlater rhe hrhe

omit [HistoryMath Q V S D] in
theorem call (h : Keeps rh entries) (c : Call Q V) : Keeps (Math.call rh c) (accept entries c) := by
  cases c with
  | push relation timestamp =>
    simp only [Math.call, accept, h.push_eq]
    split
    · rename_i hlater
      exact h.pushBack hlater
    · exact h
  | clear => exact ⟨rh.impl.holdsLast_clear, List.Pairwise.nil⟩

omit [HistoryMath Q V S D] in
theorem inOrder_contents (h : Keeps rh entries) : InOrder rh.impl.contents := by
  rw [h.holds]
  exact h.inOrder.sublist (List.drop_sublist _ _)

end Keeps

theorem keeps_run (calls : List (Call Q V)) : Keeps (run calls) (accepted calls) := by
  have hfold : ∀ (calls : List (Call Q V)) (rh : MRelationHistory Q V) (entries : List (RelationHistoryEntry Q V)),
      Keeps rh entries → Keeps (calls.foldl call rh) (calls.foldl accept entries) := by
    intro calls
    induction calls with
    | nil => exact fun _ _ h => h
    | cons c calls ih => exact fun rh entries h => ih _ _ (h.call c)
  exact hfold calls _ _ ⟨HistoryBuffer.holdsLast_create _, List.Pairwise.nil⟩

/-! ## Queries -/

/-- A time is answered from its place among the entries: what was pushed for it, what lies between its two neighbours,
or what the newest or the oldest predicts. -/
structure AnswersFrom (entries : List (RelationHistoryEntry Q V)) (rh : MRelationHistory Q V) (atTimestampNs : Int64)
    (outRelation : SpaceRelation Q V) : Prop where
  exact : ∀ rhe ∈ entries, rhe.timestamp = atTimestampNs →
    mRelationHistoryGet rh atTimestampNs outRelation = some (.exact, rhe.relation)
  between : ∀ older predecessor successor newer, entries = older ++ predecessor :: successor :: newer →
    predecessor.timestamp < atTimestampNs → atTimestampNs < successor.timestamp →
    mRelationHistoryGet rh atTimestampNs outRelation =
      some (.interpolated, interpolate predecessor successor atTimestampNs)
  after : ∀ older newest, entries = older ++ [newest] → newest.timestamp < atTimestampNs →
    mRelationHistoryGet rh atTimestampNs outRelation =
      some (.predicted, extrapolate newest atTimestampNs outRelation)
  before : ∀ oldest newer, entries = oldest :: newer → atTimestampNs < oldest.timestamp →
    mRelationHistoryGet rh atTimestampNs outRelation =
      some (.reversePredicted, extrapolate oldest atTimestampNs outRelation)

variable {rh : MRelationHistory Q V} {atTimestampNs : Int64}

theorem get_eq {before after : List (RelationHistoryEntry Q V)} (h : rh.impl.contents = before ++ after)
    (ht : atTimestampNs ≠ 0) (hbefore : ∀ rhe ∈ before, rhe.timestamp < atTimestampNs)
    (hafter : ∀ rhe ∈ after, ¬ rhe.timestamp < atTimestampNs) (outRelation : SpaceRelation Q V) :
    mRelationHistoryGet rh atTimestampNs outRelation =
      some (answerBetween before after atTimestampNs outRelation) := by
  rw [mRelationHistoryGet, lookUp_eq h ht hbefore hafter]

omit [HistoryMath Q V S D] in
theorem InOrder.split {older newer : List (RelationHistoryEntry Q V)} {rhe : RelationHistoryEntry Q V}
    (h : InOrder (older ++ rhe :: newer)) :
    (∀ rhe' ∈ older, rhe'.timestamp < rhe.timestamp) ∧ ∀ rhe' ∈ rhe :: newer, ¬ rhe'.timestamp < rhe.timestamp := by
  rw [InOrder, List.pairwise_append, List.pairwise_cons] at h
  obtain ⟨-, ⟨hnewer, -⟩, holder⟩ := h
  constructor
  · exact fun rhe' hrhe' => holder rhe' hrhe' rhe (List.mem_cons_self ..)
  · intro rhe' hrhe'
    rcases List.mem_cons.1 hrhe' with rfl | hrhe'
    · exact Int64.lt_irrefl
    · exact fun hlt => Int64.lt_irrefl (Int64.lt_trans hlt (hnewer rhe' hrhe'))

theorem get_spec (hsorted : InOrder rh.impl.contents) (ht : atTimestampNs ≠ 0) (outRelation : SpaceRelation Q V) :
    AnswersFrom rh.impl.contents rh atTimestampNs outRelation := by
  constructor
  · intro rhe hrhe hts
    obtain ⟨older, newer, hcontents⟩ := List.append_of_mem hrhe
    rw [hcontents] at hsorted
    obtain ⟨hbefore, hafter⟩ := hsorted.split
    rw [hts] at hbefore hafter
    rw [get_eq hcontents ht hbefore hafter, answerBetween, hts, beq_self_eq_true, if_pos rfl]
  · intro older predecessor successor newer hcontents hlt hgt
    have hcontents' : rh.impl.contents = (older ++ [predecessor]) ++ successor :: newer := by
      rw [hcontents, List.append_assoc, List.singleton_append]
    have hbefore := (hcontents ▸ hsorted).split.1
    have hafter := (hcontents' ▸ hsorted).split.2
    rw [get_eq hcontents' ht (fun rhe hrhe => ?_) (fun rhe hrhe => ?_)]
    · have hne : (atTimestampNs == successor.timestamp) = false := by
        refine beq_eq_false_iff_ne.2 fun heq => ?_
        rw [heq] at hgt
        exact Int64.lt_irrefl hgt
      rw [answerBetween, hne, if_neg Bool.false_ne_true, List.getLast?_concat]
    · rcases List.mem_append.1 hrhe with holder | hrhe
      · exact Int64.lt_trans (hbefore rhe holder) hlt
      · rw [List.mem_singleton.1 hrhe]
        exact hlt
    · exact fun hlt' => hafter rhe hrhe (Int64.lt_trans hlt' hgt)
  · intro older newest hcontents hlt
    have hcontents' : rh.impl.contents = (older ++ [newest]) ++ [] := by rw [hcontents, List.append_nil]
    have hbefore := (hcontents ▸ hsorted).newest.2 hlt
    rw [get_eq hcontents' ht hbefore (List.forall_mem_nil _), answerBetween, List.getLast?_concat]
  · intro oldest newer hcontents hgt
    have hcontents' : rh.impl.contents = [] ++ oldest :: newer := hcontents
    have hsorted' : InOrder ([] ++ oldest :: newer) := hcontents ▸ hsorted
    have hafter := hsorted'.split.2
    rw [get_eq hcontents' ht (List.forall_mem_nil _)
      fun rhe hrhe hlt => hafter rhe hrhe (Int64.lt_trans hlt hgt)]
    have hne : (atTimestampNs == oldest.timestamp) = false := by
      refine beq_eq_false_iff_ne.2 fun heq => ?_
      rw [heq] at hgt
      exact Int64.lt_irrefl hgt
    rw [answerBetween, hne, if_neg Bool.false_ne_true]
    rfl

/-- After any calls: what was rejected changed nothing, what is kept are the last accepted pushes in the order of their
times, and every time but zero is answered from its place among them; what lies between two has the flags of both.
Time zero, and a history that is empty, have no answer. -/
theorem relationHistory_spec (calls : List (Call Q V)) :
    (∀ relation timestamp, (mRelationHistoryPush (run calls) relation timestamp).1 = false →
      (mRelationHistoryPush (run calls) relation timestamp).2 = run calls) ∧
    (run calls).impl.contents = (accepted calls).drop ((accepted calls).length - BUF_LEN) ∧
    InOrder (run calls).impl.contents ∧
    (∀ atTimestampNs ≠ 0, ∀ outRelation, AnswersFrom (run calls).impl.contents (run calls) atTimestampNs outRelation) ∧
    (∀ (predecessor successor : RelationHistoryEntry Q V) (atTimestampNs : Int64),
      (interpolate predecessor successor atTimestampNs).relationFlags =
        predecessor.relation.relationFlags.inter successor.relation.relationFlags) ∧
    ∀ atTimestampNs outRelation, atTimestampNs = 0 ∨ (run calls).impl.contents = [] →
      mRelationHistoryGet (run calls) atTimestampNs outRelation = some (.invalid, zeroRelation) := by
  have hkeeps := keeps_run calls
  refine ⟨?_, hkeeps.holds, hkeeps.inOrder_contents, ?_, fun _ _ _ => rfl, ?_⟩
  · intro relation timestamp
    rw [hkeeps.push_eq]
    split
    · rintro ⟨⟩
    · exact fun _ => rfl
  · exact fun atTimestampNs ht outRelation => get_spec hkeeps.inOrder_contents ht outRelation
  · intro atTimestampNs outRelation h
    have hguard : ((run calls).impl.empty || atTimestampNs == 0) = true := by
      rw [Bool.or_eq_true, HistoryBuffer.empty_iff, beq_iff_eq]
      exact h.symm
    rw [mRelationHistoryGet, lookUp, hguard, if_pos rfl]
    rfl

/-! ## Along a line -/

/-- Nothing turns and all moves along one axis. -/
instance : HistoryMath Unit ℚ ℚ ℚ where
  identity := ⟨(), 0⟩
  isIdentity pose := pose.position == 0
  withHeightOf pose _ := pose
  withPlaceOf _ other := other
  vec3Add := (· + ·)
  vec3Neg := (- ·)
  vec3Cross _ _ := 0
  quatMul _ _ := ()
  quatNormalize _ := ()
  quatRotateVec3 _ v := v
  quatRotateDerivative _ v := v
  poseInvert pose := ⟨(), -pose.position⟩
  quatZero := ()
  vec3MulScalar v s := v * s
  vec3Lerp a b amount := a + (b - a) * amount
  quatSlerp _ _ _ := ()
  quatInvert _ := ()
  quatIntegrateVelocity _ _ _ := ()
  timeNsToS ns := ns.toInt / 1000000000
  isZero s := s == 0
  toFloat s := s
  ofInt64 n := n.toInt
  floatDiv := (· / ·)

def atPosition (position : ℚ) : SpaceRelation Unit ℚ := ⟨.all, ⟨(), position⟩, 0, 0⟩

def aroundZero : List (Call Unit ℚ) :=
  [.push (atPosition 1) (-1), .push (atPosition 5) 0, .push (atPosition 3) 1]

/-- What was pushed for time zero is kept, and a query for it has no answer. -/
theorem aroundZero_invalid :
    (run aroundZero).impl.contents.map (·.timestamp) = [-1, 0, 1] ∧
      mRelationHistoryGet (run aroundZero) 0 zeroRelation = some (.invalid, zeroRelation) ∧
      ¬ AnswersFrom (run aroundZero).impl.contents (run aroundZero) 0 zeroRelation := by
  have hcontents : (run aroundZero).impl.contents =
      [⟨atPosition 1, -1⟩, ⟨atPosition 5, 0⟩, ⟨atPosition 3, 1⟩] := (keeps_run aroundZero).holds
  have hget : mRelationHistoryGet (run aroundZero) 0 zeroRelation = some (.invalid, zeroRelation) := by decide +kernel
  refine ⟨by rw [hcontents]; rfl, hget, fun h => ?_⟩
  have hexact := h.exact ⟨atPosition 5, 0⟩ (by
    rw [hcontents]
    exact List.mem_cons_of_mem _ (List.mem_cons_self ..)) rfl
  rw [hget] at hexact
  cases hexact

/-- Half way between two pushes, the second of which was made again too late. -/
theorem relationHistory_spec_halfWay :
    (mRelationHistoryGet (run [.push (atPosition 1) 10, .push (atPosition 5) 20, .push (atPosition 7) 20]) 15
      zeroRelation).map (·.1) = some .interpolated := by
  have h := relationHistory_spec [.push (atPosition 1) 10, .push (atPosition 5) 20, .push (atPosition 7) 20]
  have hanswers := h.2.2.2.1 15 (by decide) zeroRelation
  rw [hanswers.between [] ⟨atPosition 1, 10⟩ ⟨atPosition 5, 20⟩ [] h.2.1 (by decide) (by decide)]
  rfl

end AugmentedInsanity.Math
