/-
The frame sink that pairs left and right frames (`u_sink_force_genlock.c`). Each side has a slot for its last frame,
and a thread takes both, checks that they are close enough and pushes them downstream with one timestamp. Frames are
taken in the order that they come in on their side, and pairs are left then right (`Inv`); whether their timestamps go
up is up to the frames (`genlocked_iff`), as the timestamp that a pair is compared to stays the one of the start.
-/
import AugmentedInsanity.Lib.Checked64
import AugmentedInsanity.Lib.Runs
import Mathlib.Data.List.Pairwise

namespace AugmentedInsanity.Util

open Checked64 Runs

/-! ## The sink -/

def U_TIME_1MS_IN_NS : Int64 := 1000000

/-- `struct xrt_frame`, with the number that it has among the frames of its side. -/
structure GenlockFrame where
  number : ℕ
  timestamp : Int64
  deriving DecidableEq

inductive Side
  | left
  | right
  deriving DecidableEq

structure PushedFrame where
  side : Side
  number : ℕ
  timestamp : Int64
  deriving DecidableEq

/-- Where the thread of the sink is: about to lock the mutex, waiting, about to work on two frames, between pushing the
left frame and the right one, or at its end; or it has done what is undefined. -/
inductive GenlockThread
  | locking
  | waiting
  | working (left right : GenlockFrame)
  | pushing (right : GenlockFrame) (ts : Int64)
  | finished
  | undefined
  deriving DecidableEq

/-- `struct u_sink_force_genlock`, and what is not data of the source: how many frames have come in on each side, and
what has been pushed downstream. -/
structure ForceGenlock where
  left : Option GenlockFrame
  right : Option GenlockFrame
  lastTs : Int64
  running : Bool
  thread : GenlockThread
  lefts : ℕ
  rights : ℕ
  downstream : List PushedFrame
  deriving DecidableEq

namespace ForceGenlock

/-- `u_sink_force_genlock_create`. -/
def create : ForceGenlock where
  left := none
  right := none
  lastTs := 0
  running := true
  thread := .locking
  lefts := 0
  rights := 0
  downstream := []

def leftFrame (q : ForceGenlock) (timestamp : Int64) : ForceGenlock :=
  let xf : GenlockFrame := ⟨q.lefts, timestamp⟩
  { q with left := if q.running then some xf else q.left, lefts := q.lefts + 1 }

def rightFrame (q : ForceGenlock) (timestamp : Int64) : ForceGenlock :=
  let xf : GenlockFrame := ⟨q.rights, timestamp⟩
  { q with right := if q.running then some xf else q.right, rights := q.rights + 1 }

def breakApart (q : ForceGenlock) : ForceGenlock := { q with running := false, left := none, right := none }

/-- The check of the timestamps in `force_genlock_mainloop`, of the frames of both slots. -/
def examine (q : ForceGenlock) (left right : GenlockFrame) : ForceGenlock :=
  match sub? left.timestamp right.timestamp with
  | none => { q with thread := .undefined }
  | some diffNs =>
    if diffNs < -U_TIME_1MS_IN_NS ∨ U_TIME_1MS_IN_NS < diffNs then
      -- Save the most recent frame.
      if 0 < diffNs then { q with left := some left, right := none, thread := .locking }
      else { q with left := none, right := some right, thread := .locking }
    else { q with left := none, right := none, thread := .working left right }

/-- What `force_genlock_mainloop` does without the mutex. -/
def work (q : ForceGenlock) (left right : GenlockFrame) : ForceGenlock :=
  match sub? right.timestamp left.timestamp with
  | none => { q with thread := .undefined }
  | some diff =>
    match add? left.timestamp (diff / 2) with
    | none => { q with thread := .undefined }
    | some ts =>
      if ts = q.lastTs then { q with thread := .locking }
      else if ts < q.lastTs then { q with thread := .locking }
      else { q with downstream := q.downstream ++ [⟨.left, left.number, ts⟩], thread := .pushing right ts }

/-- `force_genlock_mainloop`, up to where the mutex is unlocked: it is the same after the mutex was locked as after a
wait, which may end at any time. -/
def take (q : ForceGenlock) : ForceGenlock :=
  if !q.running then { q with thread := .finished }
  else
    match q.left, q.right with
    | some left, some right => q.examine left right
    | _, _ => { q with thread := .waiting }

/-- A step of `force_genlock_mainloop`. -/
def mainloop (q : ForceGenlock) : Option ForceGenlock :=
  match q.thread with
  | .locking => some q.take
  | .waiting => some q.take
  | .working left right => some (q.work left right)
  | .pushing right ts =>
    some { q with downstream := q.downstream ++ [⟨.right, right.number, ts⟩], thread := .locking }
  | .finished => none
  | .undefined => none

inductive Action
  | left
  | right
  | mainloop
  | breakApart
  deriving DecidableEq

/-- A step, with the timestamps of the frames that come in on each side. -/
def step (lefts rights : List Int64) (q : ForceGenlock) : Action → Option ForceGenlock
  | .left => lefts[q.lefts]?.map q.leftFrame
  | .right => rights[q.rights]?.map q.rightFrame
  | .mainloop => q.mainloop
  | .breakApart => some q.breakApart

/-! ## Pairs -/

/-- A pair that is sent downstream: the numbers of its frames, and the timestamp of both. -/
structure Pair where
  left : ℕ
  right : ℕ
  timestamp : Int64
  deriving DecidableEq

def Pair.pushLeft (p : Pair) : PushedFrame := ⟨.left, p.left, p.timestamp⟩
def Pair.pushRight (p : Pair) : PushedFrame := ⟨.right, p.right, p.timestamp⟩

def remaining (q : ForceGenlock) : List PushedFrame :=
  match q.thread with
  | .pushing right ts => [⟨.right, right.number, ts⟩]
  | _ => []

/-- What is pushed downstream is pairs, the left frame of each before the right one. -/
def Sent (q : ForceGenlock) (pairs : List Pair) : Prop :=
  q.downstream ++ q.remaining = pairs.flatMap fun p => [p.pushLeft, p.pushRight]

/-- The frames of a pair came in with timestamps within the tolerance. -/
def Close (lefts rights : List Int64) (p : Pair) : Prop :=
  ∃ l r, lefts[p.left]? = some l ∧ rights[p.right]? = some r ∧ |l.toInt - r.toInt| ≤ U_TIME_1MS_IN_NS.toInt

/-- Everything that is to hold of what is sent downstream. -/
structure Genlocked (lefts rights : List Int64) (q : ForceGenlock) : Prop where
  defined : q.thread ≠ .undefined
  pairs : ∃ pairs : List Pair, q.Sent pairs ∧ (∀ p ∈ pairs, Close lefts rights p) ∧
    pairs.Pairwise (fun p p' => p.left ≠ p'.left ∧ p.right ≠ p'.right) ∧
    pairs.Pairwise fun p p' => p.timestamp < p'.timestamp

def middle (l r : Int64) : ℤ := l.toInt + (r.toInt - l.toInt).tdiv 2

/-- Two frames that make a pair: they are close enough, and it is not before the start. -/
def Match (l r : Int64) : Prop := |l.toInt - r.toInt| ≤ U_TIME_1MS_IN_NS.toInt ∧ 0 < middle l r

/-- The differences of the timestamps are in range, and of two pairs that can be made one after the other the second is
later. -/
structure Orderly (lefts rights : List Int64) : Prop where
  inRange : ∀ l ∈ lefts, ∀ r ∈ rights, -2 ^ 63 ≤ l.toInt - r.toInt ∧ l.toInt - r.toInt < 2 ^ 63
  later : ∀ {i i' j j' : ℕ} {l l' r r' : Int64}, i < i' → j < j' → lefts[i]? = some l → lefts[i']? = some l' →
    rights[j]? = some r → rights[j']? = some r' → Match l r → Match l' r' → middle l r < middle l' r'

/-! ## Runs -/

section
variable {lefts rights : List Int64} {q q' : ForceGenlock} {pairs : List Pair} {timestamp : Int64}
  {timestamps : List Int64}

structure Came (timestamps : List Int64) (n : ℕ) (xf : GenlockFrame) : Prop where
  timestamp : timestamps[xf.number]? = some xf.timestamp
  lt : xf.number < n

def Made (lefts rights : List Int64) (p : Pair) : Prop :=
  ∃ l r, lefts[p.left]? = some l ∧ rights[p.right]? = some r ∧ Match l r ∧ p.timestamp.toInt = middle l r

structure AtHand (lefts rights : List Int64) (q : ForceGenlock) (pairs : List Pair) (left right : GenlockFrame) :
    Prop where
  cameLeft : Came lefts q.lefts left
  cameRight : Came rights q.rights right
  close : |left.timestamp.toInt - right.timestamp.toInt| ≤ U_TIME_1MS_IN_NS.toInt
  after : ∀ p ∈ pairs, p.left < left.number ∧ p.right < right.number
  beforeLeft : ∀ xf ∈ q.left, left.number < xf.number
  beforeRight : ∀ xf ∈ q.right, right.number < xf.number

structure Inv (lefts rights : List Int64) (q : ForceGenlock) (pairs : List Pair) : Prop where
  defined : q.thread ≠ .undefined
  lastTs : q.lastTs = 0
  sent : q.Sent pairs
  made : ∀ p ∈ pairs, Made lefts rights p
  increasing : pairs.Pairwise fun p p' => p.left < p'.left ∧ p.right < p'.right
  before : ∀ p ∈ pairs, p.left < q.lefts ∧ p.right < q.rights
  left : ∀ xf ∈ q.left, Came lefts q.lefts xf ∧ ∀ p ∈ pairs, p.left < xf.number
  right : ∀ xf ∈ q.right, Came rights q.rights xf ∧ ∀ p ∈ pairs, p.right < xf.number
  atHand : ∀ left right, q.thread = .working left right → AtHand lefts rights q pairs left right

theorem create_inv : Inv lefts rights create [] where
  defined := by decide
  lastTs := rfl
  sent := rfl
  made _ hp := absurd hp List.not_mem_nil
  increasing := .nil
  before _ hp := absurd hp List.not_mem_nil
  left _ hxf := by cases hxf
  right _ hxf := by cases hxf
  atHand _ _ hthread := by cases hthread

theorem Came.mono {n m : ℕ} {xf : GenlockFrame} (h : Came timestamps n xf) (hle : n ≤ m) : Came timestamps m xf :=
  ⟨h.timestamp, Nat.lt_of_lt_of_le h.lt hle⟩

theorem Came.incoming {n : ℕ} {slot : Option GenlockFrame} {P : GenlockFrame → Prop} (running : Bool)
    (ht : timestamps[n]? = some timestamp) (hslot : ∀ xf ∈ slot, Came timestamps n xf ∧ P xf)
    (hnew : P ⟨n, timestamp⟩) :
    ∀ xf ∈ (if running then some ⟨n, timestamp⟩ else slot), Came timestamps (n + 1) xf ∧ P xf := by
  intro xf hxf
  split at hxf
  · cases hxf
    exact ⟨⟨ht, Nat.lt_succ_self n⟩, hnew⟩
  · exact ⟨(hslot xf hxf).1.mono (Nat.le_succ n), (hslot xf hxf).2⟩

/-! ### Frames -/

theorem Inv.leftFrame (h : Inv lefts rights q pairs) (ht : lefts[q.lefts]? = some timestamp) :
    Inv lefts rights (q.leftFrame timestamp) pairs where
  defined := h.defined
  lastTs := h.lastTs
  sent := h.sent
  made := h.made
  increasing := h.increasing
  before p hp := ⟨Nat.lt_succ_of_lt (h.before p hp).1, (h.before p hp).2⟩
  left := Came.incoming q.running ht h.left fun p hp => (h.before p hp).1
  right := h.right
  atHand left right hthread := by
    have hhand := h.atHand left right hthread
    have hslot := Came.incoming q.running ht (fun xf hxf => ⟨(h.left xf hxf).1, hhand.beforeLeft xf hxf⟩)
      hhand.cameLeft.lt
    exact ⟨hhand.cameLeft.mono (Nat.le_succ _), hhand.cameRight, hhand.close, hhand.after,
      fun xf hxf => (hslot xf hxf).2, hhand.beforeRight⟩

theorem Inv.rightFrame (h : Inv lefts rights q pairs) (ht : rights[q.rights]? = some timestamp) :
    Inv lefts rights (q.rightFrame timestamp) pairs where
  defined := h.defined
  lastTs := h.lastTs
  sent := h.sent
  made := h.made
  increasing := h.increasing
  before p hp := ⟨(h.before p hp).1, Nat.lt_succ_of_lt (h.before p hp).2⟩
  left := h.left
  right := Came.incoming q.running ht h.right fun p hp => (h.before p hp).2
  atHand left right hthread := by
    have hhand := h.atHand left right hthread
    have hslot := Came.incoming q.running ht (fun xf hxf => ⟨(h.right xf hxf).1, hhand.beforeRight xf hxf⟩)
      hhand.cameRight.lt
    exact ⟨hhand.cameLeft, hhand.cameRight.mono (Nat.le_succ _), hhand.close, hhand.after, hhand.beforeLeft,
      fun xf hxf => (hslot xf hxf).2⟩

theorem Inv.breakApart (h : Inv lefts rights q pairs) : Inv lefts rights q.breakApart pairs where
  defined := h.defined
  lastTs := h.lastTs
  sent := h.sent
  made := h.made
  increasing := h.increasing
  before := h.before
  left _ hxf := by cases hxf
  right _ hxf := by cases hxf
  atHand left right hthread := by
    have hhand := h.atHand left right hthread
    exact ⟨hhand.cameLeft, hhand.cameRight, hhand.close, hhand.after, fun _ hxf => (by cases hxf),
      fun _ hxf => (by cases hxf)⟩

/-! ### The thread -/

theorem Inv.of_thread (h : Inv lefts rights q pairs) (hremaining : q.remaining = []) {left right : Option GenlockFrame}
    {thread : GenlockThread} (hleft : ∀ xf ∈ left, xf ∈ q.left) (hright : ∀ xf ∈ right, xf ∈ q.right)
    (hdefined : thread ≠ .undefined) (hpushing : ∀ xf ts, thread ≠ .pushing xf ts)
    (hhand : ∀ l r, thread = .working l r → AtHand lefts rights { q with left, right, thread } pairs l r) :
    Inv lefts rights { q with left, right, thread } pairs where
  defined := hdefined
  lastTs := h.lastTs
  sent := by
    have hsent := h.sent
    have hnone : ({ q with left, right, thread } : ForceGenlock).remaining = [] := by
      unfold remaining
      split
      · rename_i xf ts hthread
        exact absurd hthread (hpushing xf ts)
      · rfl
    rw [Sent, hremaining] at hsent
    rw [Sent, hnone]
    exact hsent
  made := h.made
  increasing := h.increasing
  before := h.before
  left xf hxf := h.left xf (hleft xf hxf)
  right xf hxf := h.right xf (hright xf hxf)
  atHand := hhand

variable {left right : GenlockFrame} {l r : Int64}

theorem examine_inv (horderly : Orderly lefts rights) (h : Inv lefts rights q pairs) (hremaining : q.remaining = [])
    (hleft : q.left = some left) (hright : q.right = some right) : Inv lefts rights (q.examine left right) pairs := by
  obtain ⟨hcameLeft, hafterLeft⟩ := h.left left hleft
  obtain ⟨hcameRight, hafterRight⟩ := h.right right hright
  obtain ⟨diffNs, hdiff, hvalue⟩ := exists_ofInt? (horderly.inRange _ (List.mem_of_getElem? hcameLeft.timestamp) _
    (List.mem_of_getElem? hcameRight.timestamp))
  unfold examine
  rw [sub?, hdiff]
  show Inv lefts rights (if diffNs < -U_TIME_1MS_IN_NS ∨ U_TIME_1MS_IN_NS < diffNs then _ else _) pairs
  split
  · split
    · exact h.of_thread hremaining (fun xf hxf => hleft ▸ hxf) (fun _ hxf => by cases hxf) (by rintro ⟨⟩)
        (by rintro _ _ ⟨⟩) (by rintro _ _ ⟨⟩)
    · exact h.of_thread hremaining (fun _ hxf => by cases hxf) (fun xf hxf => hright ▸ hxf) (by rintro ⟨⟩)
        (by rintro _ _ ⟨⟩) (by rintro _ _ ⟨⟩)
  · rename_i hclose
    refine h.of_thread hremaining (fun _ hxf => by cases hxf) (fun _ hxf => by cases hxf) (by rintro ⟨⟩)
      (by rintro _ _ ⟨⟩) ?_
    rintro l r ⟨⟩
    refine ⟨hcameLeft, hcameRight, ?_, fun p hp => ⟨hafterLeft p hp, hafterRight p hp⟩, fun _ hxf => (by cases hxf),
      fun _ hxf => (by cases hxf)⟩
    rw [not_or, Int64.lt_iff_toInt_lt, Int64.lt_iff_toInt_lt, hvalue] at hclose
    exact abs_le.2 ⟨Int.not_lt.1 hclose.1, Int.not_lt.1 hclose.2⟩

theorem take_inv (horderly : Orderly lefts rights) (h : Inv lefts rights q pairs) (hremaining : q.remaining = []) :
    Inv lefts rights q.take pairs := by
  unfold take
  split
  · exact h.of_thread hremaining (fun _ hxf => hxf) (fun _ hxf => hxf) (by rintro ⟨⟩) (by rintro _ _ ⟨⟩)
      (by rintro _ _ ⟨⟩)
  · split
    · rename_i left right hleft hright
      exact examine_inv horderly h hremaining hleft hright
    · exact h.of_thread hremaining (fun _ hxf => hxf) (fun _ hxf => hxf) (by rintro ⟨⟩) (by rintro _ _ ⟨⟩)
        (by rintro _ _ ⟨⟩)

theorem tdiv_two (n : ℤ) : n.tdiv 2 = if 0 ≤ n then n / 2 else -(-n / 2) := by
  split
  · rename_i hn
    exact Int.tdiv_eq_ediv_of_nonneg hn
  · rename_i hn
    rw [← Int.tdiv_eq_ediv_of_nonneg (by omega), Int.neg_tdiv, Int.neg_neg]

theorem exists_middle (h : |l.toInt - r.toInt| ≤ U_TIME_1MS_IN_NS.toInt) :
    ∃ diff ts, sub? r l = some diff ∧ add? l (diff / 2) = some ts ∧ ts.toInt = middle l r := by
  have hms : U_TIME_1MS_IN_NS.toInt = 1000000 := by decide
  have hl := l.le_toInt
  have hl' := l.toInt_lt
  have hr := r.le_toInt
  have hr' := r.toInt_lt
  rw [hms] at h
  obtain ⟨hge, hle⟩ := abs_le.1 h
  obtain ⟨diff, hdiff, hvalue⟩ := exists_ofInt? (n := r.toInt - l.toInt) (by omega)
  have hhalf : (diff / 2).toInt = (r.toInt - l.toInt).tdiv 2 := by
    rw [Int64.toInt_div_of_ne_right _ _ (by decide), hvalue]
    rfl
  obtain ⟨ts, hts, hmiddle⟩ := exists_ofInt? (n := l.toInt + (diff / 2).toInt) (by
    rw [hhalf, tdiv_two]
    split <;> omega)
  exact ⟨diff, ts, hdiff, hts, hmiddle.trans (by rw [hhalf, middle])⟩

theorem Inv.work (h : Inv lefts rights q pairs) (hthread : q.thread = .working left right) :
    ∃ pairs', Inv lefts rights (q.work left right) pairs' := by
  have hhand := h.atHand left right hthread
  obtain ⟨diff, ts, hdiff, hts, hmiddle⟩ := exists_middle hhand.close
  have hremaining : q.remaining = [] := by
    unfold remaining
    rw [hthread]
  unfold ForceGenlock.work
  rw [hdiff]
  simp only [hts]
  split
  · exact ⟨pairs, h.of_thread hremaining (fun _ hxf => hxf) (fun _ hxf => hxf) (by rintro ⟨⟩) (by rintro _ _ ⟨⟩)
      (by rintro _ _ ⟨⟩)⟩
  · rename_i hne
    split
    · exact ⟨pairs, h.of_thread hremaining (fun _ hxf => hxf) (fun _ hxf => hxf) (by rintro ⟨⟩) (by rintro _ _ ⟨⟩)
        (by rintro _ _ ⟨⟩)⟩
    · -- the pair is sent
      rename_i hnlt
      have hpos : 0 < middle left.timestamp right.timestamp := by
        rw [h.lastTs] at hne hnlt
        rw [← hmiddle]
        have hzero : ts.toInt ≠ (0 : Int64).toInt := fun heq => hne (Int64.toInt_inj.1 heq)
        have hge : ¬ ts.toInt < (0 : Int64).toInt := fun hlt => hnlt (Int64.lt_iff_toInt_lt.2 hlt)
        have hvalue : (0 : Int64).toInt = 0 := rfl
        omega
      have hsent := h.sent
      rw [Sent, hremaining, List.append_nil] at hsent
      refine ⟨pairs ++ [⟨left.number, right.number, ts⟩], by rintro ⟨⟩, h.lastTs, ?_, ?_, ?_, ?_, ?_, ?_,
        by rintro _ _ ⟨⟩⟩
      · show q.downstream ++ [⟨.left, left.number, ts⟩] ++ [⟨.right, right.number, ts⟩] = _
        rw [hsent, List.flatMap_append, List.append_assoc]
        rfl
      · have hmade : Made lefts rights ⟨left.number, right.number, ts⟩ :=
          ⟨_, _, hhand.cameLeft.timestamp, hhand.cameRight.timestamp, ⟨hhand.close, hpos⟩, hmiddle⟩
        exact List.forall_mem_append.2 ⟨h.made, List.forall_mem_singleton.2 hmade⟩
      · refine List.pairwise_append.2 ⟨h.increasing, List.pairwise_singleton _ _, fun p hp p' hp' => ?_⟩
        cases List.mem_singleton.1 hp'
        exact hhand.after p hp
      · exact List.forall_mem_append.2
          ⟨h.before, List.forall_mem_singleton.2 ⟨hhand.cameLeft.lt, hhand.cameRight.lt⟩⟩
      · intro xf hxf
        obtain ⟨hcame, hafter⟩ := h.left xf hxf
        exact ⟨hcame, List.forall_mem_append.2 ⟨hafter, List.forall_mem_singleton.2 (hhand.beforeLeft xf hxf)⟩⟩
      · intro xf hxf
        obtain ⟨hcame, hafter⟩ := h.right xf hxf
        exact ⟨hcame, List.forall_mem_append.2 ⟨hafter, List.forall_mem_singleton.2 (hhand.beforeRight xf hxf)⟩⟩

theorem Inv.push {ts : Int64} (h : Inv lefts rights q pairs) (hthread : q.thread = .pushing right ts) :
    Inv lefts rights { q with
      downstream := q.downstream ++ [⟨.right, right.number, ts⟩], thread := .locking } pairs where
  defined := by rintro ⟨⟩
  lastTs := h.lastTs
  sent := by
    have hsent := h.sent
    rw [Sent, remaining, hthread] at hsent
    show (q.downstream ++ [⟨.right, right.number, ts⟩]) ++ [] = _
    rw [List.append_nil]
    exact hsent
  made := h.made
  increasing := h.increasing
  before := h.before
  left := h.left
  right := h.right
  atHand := by rintro _ _ ⟨⟩

theorem Inv.step {action : Action} (horderly : Orderly lefts rights) (h : Inv lefts rights q pairs)
    (hstep : q.step lefts rights action = some q') : ∃ pairs', Inv lefts rights q' pairs' := by
  cases action with
  | left =>
    obtain ⟨timestamp, ht, rfl⟩ := Option.map_eq_some_iff.1 hstep
    exact ⟨pairs, h.leftFrame ht⟩
  | right =>
    obtain ⟨timestamp, ht, rfl⟩ := Option.map_eq_some_iff.1 hstep
    exact ⟨pairs, h.rightFrame ht⟩
  | breakApart =>
    cases hstep
    exact ⟨pairs, h.breakApart⟩
  | mainloop =>
    change q.mainloop = some q' at hstep
    unfold mainloop at hstep
    split at hstep
    · rename_i hthread
      cases hstep
      exact ⟨pairs, take_inv horderly h (by unfold remaining; rw [hthread])⟩
    · rename_i hthread
      cases hstep
      exact ⟨pairs, take_inv horderly h (by unfold remaining; rw [hthread])⟩
    · rename_i left right hthread
      cases hstep
      exact h.work hthread
    · rename_i right ts hthread
      cases hstep
      exact ⟨pairs, h.push hthread⟩
    · cases hstep
    · cases hstep

theorem Inv.genlocked (horderly : Orderly lefts rights) (h : Inv lefts rights q pairs) :
    Genlocked lefts rights q := by
  refine ⟨h.defined, pairs, h.sent, fun p hp => ?_,
    h.increasing.imp fun hlt => ⟨Nat.ne_of_lt hlt.1, Nat.ne_of_lt hlt.2⟩,
    h.increasing.imp_of_mem fun {p p'} hp hp' hlt => ?_⟩
  · obtain ⟨l, r, hl, hr, hmatch, -⟩ := h.made p hp
    exact ⟨l, r, hl, hr, hmatch.1⟩
  · obtain ⟨l, r, hl, hr, hmatch, hts⟩ := h.made p hp
    obtain ⟨l', r', hl', hr', hmatch', hts'⟩ := h.made p' hp'
    rw [Int64.lt_iff_toInt_lt, hts, hts']
    exact horderly.later hlt.1 hlt.2 hl hl' hr hr' hmatch hmatch'

/-! ### Schedules -/

theorem reaches_frame {timestamps : List Int64} (action : Action) (state : ℕ → Option GenlockFrame → ForceGenlock)
    (hstep : ∀ n slot, (state n slot).step lefts rights action =
      timestamps[n]?.map fun timestamp => state (n + 1) (some ⟨n, timestamp⟩))
    {n i : ℕ} {timestamp : Int64} (hi : n ≤ i) (ht : timestamps[i]? = some timestamp) (slot : Option GenlockFrame) :
    ∃ actions, Reaches (ForceGenlock.step lefts rights) (state n slot) actions
      (state (i + 1) (some ⟨i, timestamp⟩)) := by
  induction hi using Nat.decreasingInduction generalizing slot with
  | self =>
    refine ⟨[action], _, ?_, rfl⟩
    rw [hstep, ht]
    rfl
  | of_succ n hlt ih =>
    have hbound : n < timestamps.length := hlt.trans (List.getElem?_eq_some_iff.1 ht).1
    obtain ⟨actions, hreach⟩ := ih (some ⟨n, timestamps[n]⟩)
    refine ⟨action :: actions, _, ?_, hreach⟩
    rw [hstep, List.getElem?_eq_getElem hbound]
    rfl

theorem reaches_left {i : ℕ} {l : Int64} (hrunning : q.running = true) (hi : q.lefts ≤ i) (hl : lefts[i]? = some l) :
    ∃ actions, Reaches (ForceGenlock.step lefts rights) q actions
      { q with left := some ⟨i, l⟩, lefts := i + 1 } := by
  refine reaches_frame .left (fun n slot => { q with left := slot, lefts := n })
    (fun n slot => congrArg (Option.map · lefts[n]?) (funext fun timestamp => ?_)) hi hl q.left
  unfold leftFrame
  rw [hrunning]
  rfl

theorem reaches_right {j : ℕ} {r : Int64} (hrunning : q.running = true) (hj : q.rights ≤ j)
    (hr : rights[j]? = some r) :
    ∃ actions, Reaches (ForceGenlock.step lefts rights) q actions
      { q with right := some ⟨j, r⟩, rights := j + 1 } := by
  refine reaches_frame .right (fun n slot => { q with right := slot, rights := n })
    (fun n slot => congrArg (Option.map · rights[n]?) (funext fun timestamp => ?_)) hj hr q.right
  unfold rightFrame
  rw [hrunning]
  rfl

theorem reaches_both {i j : ℕ} (hrunning : q.running = true) (hi : q.lefts ≤ i) (hj : q.rights ≤ j)
    (hl : lefts[i]? = some l) (hr : rights[j]? = some r) :
    ∃ actions, Reaches (ForceGenlock.step lefts rights) q actions
      { q with left := some ⟨i, l⟩, right := some ⟨j, r⟩, lefts := i + 1, rights := j + 1 } := by
  obtain ⟨actions, hleft⟩ := reaches_left hrunning hi hl
  obtain ⟨actions', hright⟩ := reaches_right
    (q := { q with left := some ⟨i, l⟩, lefts := i + 1 }) hrunning hj hr
  exact ⟨actions ++ actions', reaches_append.2 ⟨_, hleft, hright⟩⟩

theorem examine_of_close (hclose : |left.timestamp.toInt - right.timestamp.toInt| ≤ U_TIME_1MS_IN_NS.toInt) :
    q.examine left right = { q with left := none, right := none, thread := .working left right } := by
  have hms : U_TIME_1MS_IN_NS.toInt = 1000000 := by decide
  obtain ⟨hge, hle⟩ := abs_le.1 hclose
  rw [hms] at hge hle
  obtain ⟨diffNs, hdiff, hvalue⟩ := exists_ofInt? (n := left.timestamp.toInt - right.timestamp.toInt) (by omega)
  have hwithin : ¬ (diffNs < -U_TIME_1MS_IN_NS ∨ U_TIME_1MS_IN_NS < diffNs) := by
    rw [Int64.lt_iff_toInt_lt, Int64.lt_iff_toInt_lt, hvalue, hms, show (-U_TIME_1MS_IN_NS).toInt = -1000000 by decide]
    omega
  unfold examine
  rw [sub?, hdiff]
  exact if_neg hwithin

theorem work_of_match (left right : GenlockFrame) (hlast : q.lastTs = 0)
    (hmatch : Match left.timestamp right.timestamp) :
    ∃ ts : Int64, ts.toInt = middle left.timestamp right.timestamp ∧
      q.work left right = { q with
        downstream := q.downstream ++ [⟨.left, left.number, ts⟩], thread := .pushing right ts } := by
  obtain ⟨diff, ts, hdiff, hts, hmiddle⟩ := exists_middle hmatch.1
  have hpos := hmatch.2
  rw [← hmiddle] at hpos
  have hvalue : (0 : Int64).toInt = 0 := rfl
  refine ⟨ts, hmiddle, ?_⟩
  unfold ForceGenlock.work
  rw [hdiff]
  simp only [hts, hlast]
  rw [if_neg, if_neg]
  · rw [Int64.lt_iff_toInt_lt]
    omega
  · rintro rfl
    omega

theorem reaches_pair {i j : ℕ} (hthread : q.thread = .locking) (hrunning : q.running = true) (hlast : q.lastTs = 0)
    (hi : q.lefts ≤ i) (hj : q.rights ≤ j) (hl : lefts[i]? = some l) (hr : rights[j]? = some r) (hmatch : Match l r) :
    ∃ (actions : List Action) (ts : Int64), ts.toInt = middle l r ∧
      Reaches (ForceGenlock.step lefts rights) q actions
        { q with
          left := none
          right := none
          lefts := i + 1
          rights := j + 1
          downstream := q.downstream ++ [⟨.left, i, ts⟩, ⟨.right, j, ts⟩] } := by
  obtain ⟨actions, hboth⟩ := reaches_both hrunning hi hj hl hr
  obtain ⟨ts, hts, hwork⟩ := work_of_match
    (q := { q with left := none, right := none, lefts := i + 1, rights := j + 1, thread := .working ⟨i, l⟩ ⟨j, r⟩ })
    ⟨i, l⟩ ⟨j, r⟩ hlast hmatch
  refine ⟨actions ++ [.mainloop, .mainloop, .mainloop], ts, hts, reaches_append.2 ⟨_, hboth, ?_⟩⟩
  have htake : take { q with left := some ⟨i, l⟩, right := some ⟨j, r⟩, lefts := i + 1, rights := j + 1 } =
      { q with left := none, right := none, lefts := i + 1, rights := j + 1, thread := .working ⟨i, l⟩ ⟨j, r⟩ } := by
    unfold take
    rw [hrunning]
    exact examine_of_close hmatch.1
  have hfirst : mainloop { q with left := some ⟨i, l⟩, right := some ⟨j, r⟩, lefts := i + 1, rights := j + 1 } =
      some { q with
        left := none, right := none, lefts := i + 1, rights := j + 1, thread := .working ⟨i, l⟩ ⟨j, r⟩ } := by
    unfold mainloop
    simp only [hthread]
    exact congrArg some htake
  refine ⟨_, hfirst, _, congrArg some hwork, _, rfl, ?_⟩
  rw [hthread, List.append_assoc]
  rfl

theorem Sent.pairs_eq (p p' : Pair) (hthread : q.thread = .locking)
    (hdown : q.downstream = [p.pushLeft, p.pushRight, p'.pushLeft, p'.pushRight]) (h : q.Sent pairs) :
    pairs = [p, p'] := by
  have hremaining : q.remaining = [] := by
    unfold remaining
    rw [hthread]
  rw [Sent, hremaining, hdown, List.append_nil] at h
  rcases pairs with _ | ⟨p₁, _ | ⟨p₂, _ | ⟨p₃, pairs⟩⟩⟩
  · cases h
  · exact absurd (congrArg List.length h) (by simp)
  · obtain ⟨l₁, r₁, ts₁⟩ := p₁
    obtain ⟨l₂, r₂, ts₂⟩ := p₂
    obtain ⟨l, r, ts⟩ := p
    obtain ⟨l', r', ts'⟩ := p'
    cases h
    rfl
  · exact absurd (congrArg List.length h) (by simp)

end

/-- Whatever frames come in, and however the threads are scheduled: pairs are of one left frame and one right one that
are close, with the same timestamp, the left one first, and of frames that are in no other; and their timestamps go up,
exactly if the frames are in order. -/
theorem genlocked_iff (lefts rights : List Int64) :
    (∀ actions q, Reaches (ForceGenlock.step lefts rights) create actions q → Genlocked lefts rights q) ↔
      Orderly lefts rights := by
  constructor
  · intro h
    constructor
    · intro l hl r hr
      obtain ⟨i, hl⟩ := List.mem_iff_getElem?.1 hl
      obtain ⟨j, hr⟩ := List.mem_iff_getElem?.1 hr
      obtain ⟨actions, hboth⟩ := reaches_both (q := create) rfl (Nat.zero_le i) (Nat.zero_le j) hl hr
      by_contra hout
      have hnone : sub? l r = none := ofInt?_eq_none_iff.2 hout
      refine (h (actions ++ [.mainloop]) _ (reaches_snoc.2 ⟨_, hboth, rfl⟩)).defined ?_
      show (examine _ _ _).thread = _
      unfold examine
      rw [hnone]
    · intro i i' j j' l l' r r' hi hj hl hl' hr hr' hmatch hmatch'
      obtain ⟨actions, ts, hts, hfirst⟩ :=
        reaches_pair (q := create) rfl rfl rfl (Nat.zero_le i) (Nat.zero_le j) hl hr hmatch
      obtain ⟨actions', ts', hts', hsecond⟩ := reaches_pair (q := { create with
        lefts := i + 1, rights := j + 1, downstream := [⟨.left, i, ts⟩, ⟨.right, j, ts⟩] }) rfl rfl rfl hi hj hl' hr'
        hmatch'
      obtain ⟨pairs, hsent, -, -, hup⟩ := (h _ _ (reaches_append.2 ⟨_, hfirst, hsecond⟩)).pairs
      rw [hsent.pairs_eq ⟨i, j, ts⟩ ⟨i', j', ts'⟩ rfl rfl] at hup
      have hlt := (List.pairwise_cons.1 hup).1 _ List.mem_cons_self
      rwa [Int64.lt_iff_toInt_lt, hts, hts'] at hlt
  · intro horderly actions q hreach
    obtain ⟨pairs, hinv⟩ := inv_of_reaches (I := fun q => ∃ pairs, Inv lefts rights q pairs)
      (fun _ _ _ ⟨_, hinv⟩ hstep => hinv.step horderly hstep) ⟨[], create_inv⟩ hreach
    exact hinv.genlocked horderly

/-- Frames of five milliseconds after the start, and then of three. -/
theorem sent_backwards :
    ∃ q, Reaches (ForceGenlock.step [5000000, 3000000] [5000000, 3000000]) create
      [.left, .right, .mainloop, .mainloop, .mainloop, .left, .right, .mainloop, .mainloop, .mainloop] q ∧
        q.downstream = [⟨.left, 0, 5000000⟩, ⟨.right, 0, 5000000⟩, ⟨.left, 1, 3000000⟩, ⟨.right, 1, 3000000⟩] ∧
        ¬ Genlocked [5000000, 3000000] [5000000, 3000000] q := by
  refine ⟨_, reaches_iff_foldlM.2 rfl, rfl, fun h => ?_⟩
  obtain ⟨pairs, hsent, -, -, hup⟩ := h.pairs
  rw [hsent.pairs_eq ⟨0, 0, 5000000⟩ ⟨1, 1, 3000000⟩ rfl rfl] at hup
  exact absurd hup (by decide)

end ForceGenlock

end AugmentedInsanity.Util
