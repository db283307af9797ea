/-
Collections of callbacks (`u_generic_callbacks.hpp`). Entries are removed in two passes: those that are to go are
marked, and then all that are marked are purged. No marks are left between calls, so the collection is a list of which
a call takes out entries by number (`run_behavesAsList_iff`). A limit below zero stands for none, and is counted down
further; this is the one number that can overflow, besides that of the callbacks that an event runs.
-/
import AugmentedInsanity.Lib.Numbered
import AugmentedInsanity.Lib.Runs
import Mathlib.Data.UInt

namespace AugmentedInsanity.Util

open Numbered Runs

/-! ## The collection -/

/-- What is added to a collection: a function, the events it wants and what it is called with. -/
structure Callback (C M U : Type) where
  callback : C
  eventMask : M
  userdata : U
  deriving DecidableEq

structure CallbackEntry (C M U : Type) extends Callback C M U where
  shouldRemove : Bool
  deriving DecidableEq

abbrev INT_MIN : ℤ := -2147483648
abbrev INT_MAX : ℕ := 2147483647

/-- `--` of an `int`; `none` is an overflow, which is undefined. -/
def decrement (n : ℤ) : Option ℤ := if n = INT_MIN then none else some (n - 1)

/-- `++` of an `int` that is not negative. -/
def increment (n : ℕ) : Option ℕ := if n = INT_MAX then none else some (n + 1)

/-- `static_cast<int>`. -/
def toInt (n : ℕ) : ℤ := (n : ℤ).bmod 4294967296

namespace CallbackEntry

variable {C M U : Type}

def fresh (c : Callback C M U) : CallbackEntry C M U := { c with shouldRemove := false }

def mark (entry : CallbackEntry C M U) : CallbackEntry C M U := { entry with shouldRemove := true }

/-- `matches`. -/
def isMatch [DecidableEq C] [DecidableEq M] [DecidableEq U] (entry : CallbackEntry C M U) (other : Callback C M U) :
    Bool :=
  entry.callback = other.callback && entry.eventMask = other.eventMask && entry.userdata = other.userdata

def shouldInvoke [AndOp M] [Zero M] [DecidableEq M] (entry : CallbackEntry C M U) (event : M) : Bool :=
  (entry.eventMask &&& event) != 0

end CallbackEntry

/-- `GenericCallbacks`: its entries. -/
abbrev GenericCallbacks (C M U : Type) := List (CallbackEntry C M U)

namespace GenericCallbacks

variable {C M U : Type} [DecidableEq C] [DecidableEq M] [DecidableEq U]

def addCallback (callbacks : GenericCallbacks C M U) (c : Callback C M U) : GenericCallbacks C M U :=
  callbacks ++ [.fresh c]

/-- `purgeMarkedCallbacks`, with the number that it returns. -/
def purgeMarkedCallbacks (callbacks : GenericCallbacks C M U) : GenericCallbacks C M U × ℤ :=
  let kept := callbacks.filter fun entry => !entry.shouldRemove
  (kept, toInt (callbacks.length - kept.length))

/-- The loop of `removeCallback`: the entries, and `found`. -/
def markMatches (needle : Callback C M U) : ℕ → ℤ → GenericCallbacks C M U → Option (GenericCallbacks C M U × Bool)
  | _, _, [] => some ([], false)
  | numSkip, maxRemove, entry :: callbacks =>
    if entry.isMatch needle then
      if 0 < numSkip then
        (markMatches needle (numSkip - 1) maxRemove callbacks).map fun (callbacks, found) => (entry :: callbacks, found)
      else
        match decrement maxRemove with
        | none => none
        | some maxRemove =>
          if maxRemove = 0 then some (entry.mark :: callbacks, true)
          else
            (markMatches needle numSkip maxRemove callbacks).map fun (callbacks, _) => (entry.mark :: callbacks, true)
    else (markMatches needle numSkip maxRemove callbacks).map fun (callbacks, found) => (entry :: callbacks, found)

/-- `removeCallback`, with the number that it returns. -/
def removeCallback (callbacks : GenericCallbacks C M U) (needle : Callback C M U) (numSkip : UInt32)
    (maxRemove : Int32) : Option (GenericCallbacks C M U × ℤ) :=
  if maxRemove = 0 then some (callbacks, 0)
  else
    (markMatches needle numSkip.toNat maxRemove.toInt callbacks).map fun (callbacks, found) =>
      if found then purgeMarkedCallbacks callbacks else (callbacks, 0)

/-- What the loop of `invokeCallbacks` leaves: the entries, `needPurge` and `ran`, and the calls that it made. -/
structure Invoked (C M U : Type) where
  callbacks : GenericCallbacks C M U
  needPurge : Bool
  ran : ℕ
  calls : List (C × U)

variable [AndOp M] [Zero M]

/-- The loop of `invokeCallbacks`, with what the invoker returns at each of its calls. -/
def invokeLoop (event : M) (invoker : ℕ → Bool) : ℕ → GenericCallbacks C M U → Option (Invoked C M U)
  | ran, [] => some ⟨[], false, ran, []⟩
  | ran, entry :: callbacks =>
    if entry.shouldInvoke event then
      let willRemove := invoker ran
      let entry := if willRemove then entry.mark else entry
      match increment ran with
      | none => none
      | some ran =>
        (invokeLoop event invoker ran callbacks).map fun out =>
          { out with
            callbacks := entry :: out.callbacks
            needPurge := willRemove || out.needPurge
            calls := (entry.callback, entry.userdata) :: out.calls }
    else (invokeLoop event invoker ran callbacks).map fun out => { out with callbacks := entry :: out.callbacks }

/-- `invokeCallbacks`, with the calls and the number that it returns. -/
def invokeCallbacks (callbacks : GenericCallbacks C M U) (event : M) (invoker : ℕ → Bool) :
    Option (GenericCallbacks C M U × List (C × U) × ℕ) :=
  (invokeLoop event invoker 0 callbacks).map fun out =>
    (if out.needPurge then (purgeMarkedCallbacks out.callbacks).1 else out.callbacks, out.calls, out.ran)

end GenericCallbacks

/-! ## As a list -/

section
variable {C M U : Type}

def GenericCallbacks.contents (callbacks : GenericCallbacks C M U) : List (Callback C M U) :=
  callbacks.map (·.toCallback)

def GenericCallbacks.ofList (callbacks : List (Callback C M U)) : GenericCallbacks C M U := callbacks.map .fresh

end

inductive CallbacksOp (C M U : Type)
  | add (c : Callback C M U)
  | remove (needle : Callback C M U) (numSkip : UInt32) (maxRemove : Int32)
  | invoke (event : M) (invoker : ℕ → Bool)

inductive CallbacksOutcome (C U : Type)
  | added
  | removed (number : ℤ)
  | invoked (calls : List (C × U)) (ran : ℕ)
  deriving DecidableEq

/-- The numbers from `numSkip` on, as many as the limit allows. -/
def removedNumbers (numSkip : ℕ) (maxRemove : ℤ) (n : ℕ) : Bool :=
  decide (numSkip ≤ n) && (decide (maxRemove < 0) || decide ((n : ℤ) < numSkip + maxRemove))

section
variable {C M U : Type} [DecidableEq C] [DecidableEq M] [DecidableEq U] [AndOp M] [Zero M]

def CallbacksOp.callList (callbacks : List (Callback C M U)) :
    CallbacksOp C M U → List (Callback C M U) × CallbacksOutcome C U
  | .add c => (callbacks ++ [c], .added)
  | .remove needle numSkip maxRemove =>
    let kept := eraseNumbered (· == needle) (removedNumbers numSkip.toNat maxRemove.toInt) callbacks
    (kept, .removed (callbacks.length - kept.length))
  | .invoke event invoker =>
    let called := callbacks.filter fun c => (c.eventMask &&& event) != 0
    (eraseNumbered (fun c => (c.eventMask &&& event) != 0) invoker callbacks,
      .invoked (called.map fun c => (c.callback, c.userdata)) called.length)

namespace GenericCallbacks

def call (callbacks : GenericCallbacks C M U) :
    CallbacksOp C M U → Option (GenericCallbacks C M U × CallbacksOutcome C U)
  | .add c => some (callbacks.addCallback c, .added)
  | .remove needle numSkip maxRemove =>
    (callbacks.removeCallback needle numSkip maxRemove).map fun (callbacks, number) => (callbacks, .removed number)
  | .invoke event invoker =>
    (callbacks.invokeCallbacks event invoker).map fun (callbacks, calls, ran) => (callbacks, .invoked calls ran)

def step (callbacks : GenericCallbacks C M U) (op : CallbacksOp C M U) : Option (GenericCallbacks C M U) :=
  (callbacks.call op).map Prod.fst

/-- A call returns what it does on a list, and leaves the list that this leaves. -/
def BehavesAsList (callbacks : GenericCallbacks C M U) (op : CallbacksOp C M U) : Prop :=
  ∃ callbacks' outcome, callbacks.call op = some (callbacks', outcome) ∧
    op.callList callbacks.contents = (contents callbacks', outcome)

/-- A limit below zero is at least as far from `INT_MIN` as there are callbacks to remove, and there are at most
`INT_MAX` callbacks to run. -/
def Fits (callbacks : GenericCallbacks C M U) : CallbacksOp C M U → Prop
  | .add _ => True
  | .remove needle numSkip maxRemove =>
    maxRemove < 0 → (callbacks.contents.count needle - numSkip.toNat : ℕ) ≤ maxRemove.toInt - INT_MIN
  | .invoke event _ => (callbacks.contents.countP fun c => (c.eventMask &&& event) != 0) ≤ INT_MAX

end GenericCallbacks

end

/-! ## Numbers -/

section
variable {numSkip : ℕ} {maxRemove : ℤ}

theorem toInt_of_le {n : ℕ} (h : n ≤ INT_MAX) : toInt n = n := by
  have hmax : INT_MAX = 2147483647 := rfl
  exact Int.bmod_eq_of_le (show -2147483648 ≤ (n : ℤ) by omega) (show (n : ℤ) < 2147483648 by omega)

theorem removedNumbers_skip (h : 0 < numSkip) (n : ℕ) :
    removedNumbers numSkip maxRemove (n + 1) = removedNumbers (numSkip - 1) maxRemove n := by
  unfold removedNumbers
  congr 1
  · exact decide_eq_decide.2 (by omega)
  · congr 1
    exact decide_eq_decide.2 (by omega)

theorem removedNumbers_zero (h : maxRemove ≠ 0) : removedNumbers 0 maxRemove 0 = true := by
  unfold removedNumbers
  simp only [Nat.le_refl, decide_true, Bool.true_and, Bool.or_eq_true, decide_eq_true_eq]
  omega

theorem removedNumbers_next (h : maxRemove ≠ 0) (n : ℕ) :
    removedNumbers 0 maxRemove (n + 1) = (removedNumbers 0 (maxRemove - 1) n && decide (maxRemove ≠ 1)) := by
  unfold removedNumbers
  rw [Bool.eq_iff_iff]
  simp only [Nat.zero_le, decide_true, Bool.true_and, Bool.or_eq_true, Bool.and_eq_true, decide_eq_true_eq]
  omega

theorem countNumbers_of_neg (h : maxRemove < 0) (n : ℕ) :
    countNumbers (removedNumbers numSkip maxRemove) n = n - numSkip := by
  induction n with
  | zero => simp
  | succ n ih =>
    have hone : removedNumbers numSkip maxRemove n = decide (numSkip ≤ n) := by simp [removedNumbers, h]
    rw [countNumbers] at ih ⊢
    rw [List.range_succ, List.countP_append, ih, List.countP_singleton, hone]
    split <;> simp_all <;> omega

theorem countNumbers_of_pos (numSkip : ℕ) (h : 0 < maxRemove) (n : ℕ) :
    (countNumbers (removedNumbers numSkip maxRemove) n : ℤ) = min ((n - numSkip : ℕ) : ℤ) maxRemove := by
  induction n with
  | zero => simp; omega
  | succ n ih =>
    have hlimit : ¬ maxRemove < 0 := by omega
    have hone : removedNumbers numSkip maxRemove n =
        (decide (numSkip ≤ n) && decide ((n : ℤ) < numSkip + maxRemove)) := by
      simp [removedNumbers, hlimit]
    rw [countNumbers] at ih ⊢
    rw [List.range_succ, List.countP_append, List.countP_singleton, hone]
    split <;> simp_all <;> omega

end

namespace GenericCallbacks

variable {C M U : Type}

/-! ## Marking -/

section
variable {callbacks : GenericCallbacks C M U}

def Unmarked (callbacks : GenericCallbacks C M U) : Prop := ∀ entry ∈ callbacks, entry.shouldRemove = false

def kept (callbacks : GenericCallbacks C M U) : GenericCallbacks C M U :=
  callbacks.filter fun entry => !entry.shouldRemove

theorem kept_of_unmarked (h : Unmarked callbacks) : kept callbacks = callbacks :=
  List.filter_eq_self.2 fun entry hentry => by rw [h entry hentry]; rfl

theorem ofList_unmarked (callbacks : List (Callback C M U)) : Unmarked (ofList callbacks) := by
  intro entry hentry
  obtain ⟨c, -, rfl⟩ := List.mem_map.1 hentry
  rfl

theorem kept_unmarked : Unmarked (kept callbacks) := by
  intro entry hentry
  simpa using (List.mem_filter.1 hentry).2

theorem kept_cons {entry : CallbackEntry C M U} (h : entry.shouldRemove = false) :
    kept (entry :: callbacks) = entry :: kept callbacks := List.filter_cons_of_pos (by rw [h]; rfl)

end

/-- What the loop of `removeCallback` leaves: the entries to be removed are marked, and `found` tells whether there
are any. -/
structure Marks (callbacks marked : GenericCallbacks C M U) (found : Bool) (left : GenericCallbacks C M U) : Prop where
  length : marked.length = callbacks.length
  kept : kept marked = left
  found : found = false → marked = callbacks

/-- The limit is not counted down past `INT_MIN`. -/
def LimitFits (numSkip : ℕ) (maxRemove : ℤ) (count : ℕ) : Prop :=
  maxRemove < 0 → (count - numSkip : ℕ) ≤ maxRemove - INT_MIN

section
variable [DecidableEq C] [DecidableEq M] [DecidableEq U] {callbacks : GenericCallbacks C M U} {needle : Callback C M U}
  {numSkip : ℕ} {maxRemove : ℤ}

theorem markMatches_spec (hunmarked : Unmarked callbacks) (hmax : maxRemove ≠ 0)
    (hfits : LimitFits numSkip maxRemove (callbacks.countP (·.isMatch needle))) :
    ∃ marked found, markMatches needle numSkip maxRemove callbacks = some (marked, found) ∧
      Marks callbacks marked found
        (eraseNumbered (·.isMatch needle) (removedNumbers numSkip maxRemove) callbacks) := by
  induction callbacks generalizing numSkip maxRemove with
  | nil => exact ⟨[], false, rfl, rfl, rfl, fun _ => rfl⟩
  | cons entry callbacks ih =>
    obtain ⟨hentry, hrest⟩ := List.forall_mem_cons.1 hunmarked
    unfold markMatches
    cases hmatch : entry.isMatch needle with
    | false =>
      rw [List.countP_cons_of_neg (by simp [hmatch])] at hfits
      obtain ⟨marked, found, hmarked, hmarks⟩ := ih hrest hmax hfits
      rw [if_neg (by decide), hmarked,
        eraseNumbered_of_not (p := fun entry => CallbackEntry.isMatch entry needle) hmatch]
      refine ⟨entry :: marked, found, rfl, congrArg (· + 1) hmarks.length, ?_, fun h => ?_⟩
      · rw [kept_cons hentry, hmarks.kept]
      · rw [hmarks.found h]
    | true =>
      rw [List.countP_cons_of_pos (p := fun entry => CallbackEntry.isMatch entry needle) hmatch] at hfits
      rw [if_pos rfl]
      by_cases hskip : 0 < numSkip
      · have hzero : removedNumbers numSkip maxRemove 0 = false := by
          simp only [removedNumbers, Bool.and_eq_false_imp, decide_eq_true_eq]
          omega
        have hfits' : LimitFits (numSkip - 1) maxRemove (callbacks.countP (·.isMatch needle)) := by
          intro hneg
          have := hfits hneg
          omega
        obtain ⟨marked, found, hmarked, hmarks⟩ := ih hrest hmax hfits'
        rw [if_pos hskip, hmarked,
          eraseNumbered_of_kept (p := fun entry => CallbackEntry.isMatch entry needle) hmatch hzero,
          eraseNumbered_congr (removedNumbers_skip hskip)]
        refine ⟨entry :: marked, found, rfl, congrArg (· + 1) hmarks.length, ?_, fun h => ?_⟩
        · rw [kept_cons hentry, hmarks.kept]
        · rw [hmarks.found h]
      · obtain rfl : numSkip = 0 := by omega
        rw [if_neg hskip,
          eraseNumbered_of_erased (p := fun entry => CallbackEntry.isMatch entry needle) hmatch
            (removedNumbers_zero hmax),
          eraseNumbered_congr (removedNumbers_next hmax)]
        have hmin : maxRemove ≠ INT_MIN := by
          rintro rfl
          have := hfits (by decide)
          omega
        rw [decrement, if_neg hmin]
        by_cases hone : maxRemove = 1
        · subst hone
          have hnone : ∀ n, (removedNumbers 0 (1 - 1) n && decide ((1 : ℤ) ≠ 1)) = false := by simp
          dsimp only
          rw [if_pos (by decide), eraseNumbered_of_none fun n _ => hnone n]
          exact ⟨_, true, rfl, rfl, kept_of_unmarked hrest, nofun⟩
        · have hfits' : LimitFits 0 (maxRemove - 1) (callbacks.countP (·.isMatch needle)) := by
            intro hneg
            have := hfits (by omega)
            omega
          obtain ⟨marked, found, hmarked, hmarks⟩ := ih hrest (by omega) hfits'
          have hsame : ∀ n, (removedNumbers 0 (maxRemove - 1) n && decide (maxRemove ≠ 1)) =
              removedNumbers 0 (maxRemove - 1) n := by simp [hone]
          dsimp only
          rw [if_neg (by omega), hmarked, eraseNumbered_congr hsame]
          exact ⟨_, true, rfl, congrArg (· + 1) hmarks.length, hmarks.kept, nofun⟩

theorem markMatches_eq_none (hmin : INT_MIN ≤ maxRemove)
    (hfits : ¬ LimitFits numSkip maxRemove (callbacks.countP (·.isMatch needle))) :
    markMatches needle numSkip maxRemove callbacks = none := by
  obtain ⟨hneg, hover⟩ := Classical.not_imp.1 hfits
  induction callbacks generalizing numSkip maxRemove with
  | nil =>
    rw [List.countP_nil] at hover
    omega
  | cons entry callbacks ih =>
    unfold markMatches
    cases hmatch : entry.isMatch needle with
    | false =>
      rw [List.countP_cons_of_neg (by simp [hmatch])] at hfits hover
      rw [if_neg (by decide), ih hmin hfits hneg hover]
      rfl
    | true =>
      rw [List.countP_cons_of_pos (p := fun entry => CallbackEntry.isMatch entry needle) hmatch] at hfits hover
      rw [if_pos rfl]
      by_cases hskip : 0 < numSkip
      · have hover' : ¬ ((callbacks.countP (·.isMatch needle) - (numSkip - 1) : ℕ) : ℤ) ≤ maxRemove - INT_MIN := by
          omega
        rw [if_pos hskip, ih hmin (Classical.not_imp.2 ⟨hneg, hover'⟩) hneg hover']
        rfl
      · obtain rfl : numSkip = 0 := by omega
        rw [if_neg hskip, decrement]
        by_cases hend : maxRemove = INT_MIN
        · rw [if_pos hend]
        · have hover' : ¬ ((callbacks.countP (·.isMatch needle) - 0 : ℕ) : ℤ) ≤ maxRemove - 1 - INT_MIN := by omega
          rw [if_neg hend]
          dsimp only
          rw [if_neg (by omega), ih (by omega) (Classical.not_imp.2 ⟨by omega, hover'⟩) (by omega) hover']
          rfl

/-! ## Removing -/

theorem isMatch_eq (needle : Callback C M U) :
    (fun entry : CallbackEntry C M U => entry.isMatch needle) = fun entry => entry.toCallback == needle := by
  funext entry
  obtain ⟨c, marked⟩ := entry
  cases c
  cases needle
  rw [Bool.eq_iff_iff]
  simp [CallbackEntry.isMatch, and_assoc]

theorem countP_isMatch : callbacks.countP (·.isMatch needle) = callbacks.contents.count needle := by
  rw [isMatch_eq, contents, List.count, List.countP_map]
  rfl

theorem contents_eraseNumbered (numbers : ℕ → Bool) :
    contents (eraseNumbered (·.isMatch needle) numbers callbacks) =
      eraseNumbered (· == needle) numbers callbacks.contents := by
  rw [isMatch_eq]
  exact map_eraseNumbered (f := CallbackEntry.toCallback) (q := (· == needle))

variable {maxRemove : Int32}

theorem countNumbers_le (hzero : maxRemove.toInt ≠ 0) {count : ℕ} (hfits : LimitFits numSkip maxRemove.toInt count) :
    countNumbers (removedNumbers numSkip maxRemove.toInt) count ≤ INT_MAX := by
  have hmax : INT_MAX = 2147483647 := rfl
  have hmin : INT_MIN = -2147483648 := rfl
  have hlt := maxRemove.toInt_lt
  rcases Int.lt_or_gt_of_ne hzero with hneg | hpos
  · have hlimit := hfits hneg
    rw [countNumbers_of_neg hneg]
    omega
  · have hlimit := countNumbers_of_pos numSkip hpos count
    omega

theorem removeCallback_spec {numSkip : UInt32} (hunmarked : Unmarked callbacks)
    (hfits : LimitFits numSkip.toNat maxRemove.toInt (callbacks.contents.count needle)) :
    ∃ left, callbacks.removeCallback needle numSkip maxRemove =
        some (left, (callbacks.contents.length - (contents left).length : ℤ)) ∧ Unmarked left ∧
      contents left =
        eraseNumbered (· == needle) (removedNumbers numSkip.toNat maxRemove.toInt) callbacks.contents := by
  unfold removeCallback
  by_cases hzero : maxRemove = 0
  · subst hzero
    rw [if_pos rfl]
    refine ⟨callbacks, by rw [Int.sub_self], hunmarked, (eraseNumbered_of_none fun n _ => ?_).symm⟩
    simp [removedNumbers]
  · have hzero' : maxRemove.toInt ≠ 0 := fun h => hzero (Int32.toInt_inj.1 h)
    rw [← countP_isMatch] at hfits
    obtain ⟨marked, found, hmarked, hmarks⟩ := markMatches_spec hunmarked hzero' hfits
    have hlength : (eraseNumbered (CallbackEntry.isMatch · needle) (removedNumbers numSkip.toNat maxRemove.toInt)
        callbacks).length + _ = callbacks.length := length_eraseNumbered
    have hcount := countNumbers_le hzero' hfits
    rw [hmarks.kept.symm] at hlength
    rw [if_neg hzero, hmarked, ← contents_eraseNumbered, ← hmarks.kept]
    cases found with
    | false =>
      rw [hmarks.found rfl, kept_of_unmarked hunmarked]
      exact ⟨callbacks, by rw [Int.sub_self]; rfl, hunmarked, rfl⟩
    | true =>
      have hnumber : toInt (marked.length - (kept marked).length) =
          (callbacks.contents.length - (contents (kept marked)).length : ℤ) := by
        rw [toInt_of_le (by rw [hmarks.length]; omega), hmarks.length, contents, contents, List.length_map,
          List.length_map]
        omega
      refine ⟨kept marked, ?_, kept_unmarked, rfl⟩
      rw [← hnumber]
      rfl

theorem removeCallback_eq_none {numSkip : UInt32}
    (hfits : ¬ LimitFits numSkip.toNat maxRemove.toInt (callbacks.contents.count needle)) :
    callbacks.removeCallback needle numSkip maxRemove = none := by
  have hneg : maxRemove.toInt < 0 := (Classical.not_imp.1 hfits).1
  have hzero : maxRemove ≠ 0 := by
    rintro rfl
    exact absurd hneg (by decide)
  rw [← countP_isMatch] at hfits
  rw [removeCallback, if_neg hzero, markMatches_eq_none maxRemove.le_toInt hfits]
  rfl

end

/-! ## Invoking -/

section
variable [DecidableEq M] [AndOp M] [Zero M] {callbacks : GenericCallbacks C M U} {event : M} {invoker : ℕ → Bool}
  {ran : ℕ}

theorem countP_shouldInvoke (event : M) : callbacks.countP (·.shouldInvoke event) =
    callbacks.contents.countP fun c => (c.eventMask &&& event) != 0 := by
  rw [contents, List.countP_map]
  rfl

theorem invokeLoop_spec (invoker : ℕ → Bool) (hunmarked : Unmarked callbacks)
    (hfits : ran + callbacks.countP (·.shouldInvoke event) ≤ INT_MAX) :
    ∃ out, invokeLoop event invoker ran callbacks = some out ∧
      out.ran = ran + callbacks.countP (·.shouldInvoke event) ∧
      out.calls = (callbacks.filter (·.shouldInvoke event)).map (fun entry => (entry.callback, entry.userdata)) ∧
      kept out.callbacks =
        eraseNumbered (·.shouldInvoke event) (fun n => invoker (ran + n)) callbacks ∧
      (out.needPurge = false → out.callbacks = callbacks) := by
  induction callbacks generalizing ran with
  | nil => exact ⟨_, rfl, rfl, rfl, rfl, fun _ => rfl⟩
  | cons entry callbacks ih =>
    obtain ⟨hentry, hrest⟩ := List.forall_mem_cons.1 hunmarked
    unfold invokeLoop
    cases hinvoke : entry.shouldInvoke event with
    | false =>
      rw [List.countP_cons_of_neg (by simp [hinvoke])] at hfits ⊢
      obtain ⟨out, hout, hran, hcalls, hkept, hpurge⟩ := ih hrest hfits
      rw [if_neg (by decide), hout, List.filter_cons_of_neg (by simp [hinvoke]),
        eraseNumbered_of_not (p := fun entry => CallbackEntry.shouldInvoke entry event) hinvoke]
      refine ⟨_, rfl, hran, hcalls, ?_, fun h => ?_⟩
      · rw [kept_cons hentry, hkept]
      · exact congrArg (entry :: ·) (hpurge h)
    | true =>
      rw [List.countP_cons_of_pos (p := fun entry => CallbackEntry.shouldInvoke entry event) hinvoke] at hfits ⊢
      have hmax : ran ≠ INT_MAX := by omega
      obtain ⟨out, hout, hran, hcalls, hkept, hpurge⟩ := @ih (ran + 1) hrest (by omega)
      have hshift : (fun n => invoker (ran + 1 + n)) = fun n => invoker (ran + (n + 1)) :=
        funext fun n => congrArg invoker (by omega)
      rw [hshift] at hkept
      rw [if_pos rfl, increment, if_neg hmax]
      dsimp only
      rw [hout, List.filter_cons_of_pos (p := fun entry => CallbackEntry.shouldInvoke entry event) hinvoke]
      cases hremove : invoker ran with
      | false =>
        rw [eraseNumbered_of_kept (p := fun entry => CallbackEntry.shouldInvoke entry event) hinvoke hremove]
        refine ⟨_, rfl, by rw [hran]; omega, congrArg (_ :: ·) hcalls, ?_, fun h => ?_⟩
        · exact (kept_cons hentry).trans (congrArg (entry :: ·) hkept)
        · exact congrArg (entry :: ·) (hpurge h)
      | true =>
        rw [eraseNumbered_of_erased (p := fun entry => CallbackEntry.shouldInvoke entry event) hinvoke hremove]
        exact ⟨_, rfl, by rw [hran]; omega, congrArg (_ :: ·) hcalls, hkept, nofun⟩

theorem invokeLoop_eq_none (hran : ran ≤ INT_MAX)
    (hfits : INT_MAX < ran + callbacks.countP (·.shouldInvoke event)) :
    invokeLoop event invoker ran callbacks = none := by
  induction callbacks generalizing ran with
  | nil => exact absurd hran (Nat.not_le.2 hfits)
  | cons entry callbacks ih =>
    unfold invokeLoop
    cases hinvoke : entry.shouldInvoke event with
    | false =>
      rw [List.countP_cons_of_neg (by simp [hinvoke])] at hfits
      rw [if_neg (by decide), ih hran hfits]
      rfl
    | true =>
      rw [List.countP_cons_of_pos (p := fun entry => CallbackEntry.shouldInvoke entry event) hinvoke] at hfits
      rw [if_pos rfl, increment]
      by_cases hmax : ran = INT_MAX
      · rw [if_pos hmax]
      · rw [if_neg hmax]
        dsimp only
        rw [ih (by omega) (by omega)]
        rfl

end

/-! ## Runs -/

section
variable [DecidableEq C] [DecidableEq M] [DecidableEq U] [AndOp M] [Zero M] {callbacks : GenericCallbacks C M U}
  {op : CallbacksOp C M U}

theorem fits_remove_iff {needle : Callback C M U} {numSkip : UInt32} {maxRemove : Int32} :
    callbacks.Fits (.remove needle numSkip maxRemove) ↔
      LimitFits numSkip.toNat maxRemove.toInt (callbacks.contents.count needle) := by
  rw [Fits, LimitFits, Int32.lt_iff_toInt_lt]
  rfl

theorem call_spec (hunmarked : Unmarked callbacks) (hfits : callbacks.Fits op) :
    ∃ left outcome, callbacks.call op = some (left, outcome) ∧ Unmarked left ∧
      op.callList callbacks.contents = (contents left, outcome) := by
  cases op with
  | add c =>
    refine ⟨_, _, rfl, ?_, ?_⟩
    · intro entry hentry
      rcases List.mem_append.1 hentry with hold | hnew
      · exact hunmarked entry hold
      · rw [List.mem_singleton.1 hnew]
        rfl
    · rw [CallbacksOp.callList, contents, addCallback, contents, List.map_append]
      rfl
  | remove needle numSkip maxRemove =>
    obtain ⟨left, hleft, hkept, hcontents⟩ := removeCallback_spec hunmarked (fits_remove_iff.1 hfits)
    refine ⟨left, .removed (callbacks.contents.length - (contents left).length), ?_, hkept, ?_⟩
    · rw [call, hleft]
      rfl
    · rw [CallbacksOp.callList, ← hcontents]
  | invoke event invoker =>
    have hcount : 0 + callbacks.countP (·.shouldInvoke event) ≤ INT_MAX := by
      rw [countP_shouldInvoke, Nat.zero_add]
      exact hfits
    obtain ⟨out, hout, hran, hcalls, hkept, hpurge⟩ :=
      invokeLoop_spec invoker hunmarked hcount
    simp only [Nat.zero_add] at hran hkept
    have hleft : (if out.needPurge then (purgeMarkedCallbacks out.callbacks).1 else out.callbacks) =
        kept out.callbacks := by
      cases hneed : out.needPurge with
      | true => rfl
      | false =>
        rw [hpurge hneed, kept_of_unmarked hunmarked]
        rfl
    refine ⟨kept out.callbacks, .invoked out.calls out.ran, ?_, kept_unmarked, ?_⟩
    · rw [call, invokeCallbacks, hout, Option.map_some, Option.map_some, hleft]
    · have herased : contents (eraseNumbered (·.shouldInvoke event) invoker callbacks) =
          eraseNumbered (fun c => (c.eventMask &&& event) != 0) invoker callbacks.contents :=
        map_eraseNumbered (f := CallbackEntry.toCallback) (q := fun c => (c.eventMask &&& event) != 0)
      have hfilter : callbacks.contents.filter (fun c => (c.eventMask &&& event) != 0) =
          contents (callbacks.filter (·.shouldInvoke event)) := by
        rw [contents, List.filter_map]
        rfl
      rw [CallbacksOp.callList, hkept, herased, hcalls, hran, countP_shouldInvoke, List.countP_eq_length_filter,
        hfilter]
      refine congrArg (Prod.mk _) (congrArg (CallbacksOutcome.invoked · _) ?_)
      rw [contents, List.map_map]
      rfl

theorem call_eq_none (hfits : ¬ callbacks.Fits op) : callbacks.call op = none := by
  cases op with
  | add c => exact absurd trivial hfits
  | remove needle numSkip maxRemove =>
    rw [call, removeCallback_eq_none (mt fits_remove_iff.2 hfits)]
    rfl
  | invoke event invoker =>
    have hcount : INT_MAX < 0 + callbacks.countP (·.shouldInvoke event) := by
      rw [countP_shouldInvoke, Nat.zero_add]
      exact Nat.not_le.1 hfits
    rw [call, invokeCallbacks, invokeLoop_eq_none (Nat.zero_le _) hcount]
    rfl

theorem behavesAsList_iff (hunmarked : Unmarked callbacks) : callbacks.BehavesAsList op ↔ callbacks.Fits op := by
  constructor
  · rintro ⟨left, outcome, hcall, -⟩
    by_contra hfits
    rw [call_eq_none hfits] at hcall
    cases hcall
  · intro hfits
    obtain ⟨left, outcome, hcall, -, hlist⟩ := call_spec hunmarked hfits
    exact ⟨left, outcome, hcall, hlist⟩

theorem step_unmarked {left : GenericCallbacks C M U} (hunmarked : Unmarked callbacks) (hfits : callbacks.Fits op)
    (hstep : step callbacks op = some left) : Unmarked left := by
  obtain ⟨left', outcome, hcall, hleft, -⟩ := call_spec hunmarked hfits
  rw [step, hcall] at hstep
  cases hstep
  exact hleft

/-- Whatever callbacks there are, the calls do what they do on a list exactly as long as no number overflows. -/
theorem run_behavesAsList_iff (callbacks : List (Callback C M U)) (ops : List (CallbacksOp C M U)) :
    Along step BehavesAsList (ofList callbacks) ops ↔ Along step Fits (ofList callbacks) ops :=
  along_iff (I := Unmarked) (fun _ _ => behavesAsList_iff) (fun _ _ _ => step_unmarked) (ofList_unmarked callbacks) ops

end

/-- The lowest of the limits that stand for none is too low for one callback. -/
theorem lowestLimit_not_behavesAsList : ¬ Along step BehavesAsList (ofList [(⟨(), 1, ()⟩ : Callback Unit UInt8 Unit)])
    [.remove ⟨(), 1, ()⟩ 0 Int32.minValue] := by
  intro h
  obtain ⟨left, outcome, hcall, -⟩ := (along_cons.1 h).1
  have hnone : (ofList [(⟨(), 1, ()⟩ : Callback Unit UInt8 Unit)]).call (.remove ⟨(), 1, ()⟩ 0 Int32.minValue) =
      none := by
    decide
  rw [hnone] at hcall
  cases hcall

end GenericCallbacks

end AugmentedInsanity.Util
