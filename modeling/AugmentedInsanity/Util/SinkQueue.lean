/-
The frame sink that queues frames for a consumer on a thread of its own (`u_sink_queue.c`). What is called with the mutex
locked is a function of the queue, and a step of the system is what a thread does between locking and unlocking, or what
the queue thread does in between.

Every reference that is taken is in the queue, with the queue thread or dropped, frames leave the queue in the order they
were pushed in, and those that are not dropped reach the consumer in that order (`sinkQueue_spec`).
-/
import AugmentedInsanity.Lib.CondVar
import AugmentedInsanity.Lib.LinkedQueue
import AugmentedInsanity.Lib.Runs

namespace AugmentedInsanity.Util

open LinkedQueue Runs

variable {F : Type}

/-! ## Queue -/

/-- `struct u_sink_queue`. Its `front` and `back` are `elems.next` and `elems.last`, and only the queue thread waits on
`cond`. -/
structure SinkQueue (F : Type) where
  elems : Queue F
  size : ℕ
  maxSize : ℕ
  cond : CondVar Unit
  running : Bool

namespace SinkQueue

/-- `u_sink_queue_create`, without the thread. -/
def create (maxSize : ℕ) : SinkQueue F where
  elems := ⟨none, none, fun _ => none⟩
  size := 0
  maxSize := maxSize
  cond := .empty
  running := true

def queueIsEmpty (q : SinkQueue F) : Bool := q.size = 0

def queueIsFull (q : SinkQueue F) : Bool :=
  let isUnbounded : Bool := q.maxSize = 0
  q.size ≥ q.maxSize && !isUnbounded

/-- `none` is a failed assertion, or a pointer that leads nowhere; so in all that follows. -/
def queuePop (q : SinkQueue F) : Option (F × SinkQueue F) :=
  if q.queueIsEmpty then none
  else
    match q.elems.next with
    | none => none
    | some oldFront =>
      match q.elems.heap oldFront with
      | none => none
      | some elem =>
        let q :=
          { q with
            elems :=
              { q.elems with
                next := elem.next
                heap := Function.update q.elems.heap oldFront none }
            size := q.size - 1 }
        if elem.next = none then
          if q.queueIsEmpty then some (elem.value, { q with elems := { q.elems with last := none } }) else none
        else some (elem.value, q)

/-- The first half of `queue_try_refpush`, with the frame that it drops. -/
def dropOldest (q : SinkQueue F) : Option (Option F × SinkQueue F) :=
  if q.queueIsFull then
    if !q.queueIsEmpty then q.queuePop.map fun (old, q) => (some old, q) else some (none, q)
  else some (none, q)

/-- The second half of `queue_try_refpush`, with the address that the allocation gives. -/
def append (q : SinkQueue F) (address : ℕ) (xf : F) : Option (SinkQueue F) :=
  let heap := Function.update q.elems.heap address (some ⟨none, xf⟩)
  match q.elems.last with
  | none => some { q with elems := ⟨some address, some address, heap⟩, size := q.size + 1 }
  | some back =>
    match heap back with
    | none => none
    | some elem =>
      some
        { q with
          elems := ⟨q.elems.next, some address, Function.update heap back (some ⟨some address, elem.value⟩)⟩
          size := q.size + 1 }

def queueTryRefpush (q : SinkQueue F) (address : ℕ) (xf : F) : Option (Option F × SinkQueue F) :=
  q.dropOldest.bind fun (old, q) => (q.append address xf).map fun q => (old, q)

/-- The loop of `queue_refclear`, with the frames whose references it drops; it is called with `size`. -/
def queueRefclear : ℕ → SinkQueue F → Option (List F × SinkQueue F)
  | 0, q => if q.queueIsEmpty then some ([], q) else none
  | fuel + 1, q =>
    if q.queueIsEmpty then some ([], q)
    else if decide (q.size > 1) ^^ decide (q.elems.next = q.elems.last) then
      q.queuePop.bind fun (xf, q) => (queueRefclear fuel q).map fun (dropped, q) => (xf :: dropped, q)
    else none

def signal (q : SinkQueue F) : SinkQueue F := { q with cond := q.cond.signal none }

/-! ## What the queue holds -/

/-- The queue holds these frames, the oldest one first. -/
structure Contains (q : SinkQueue F) (l : List F) : Prop where
  elems : Holds q.elems l
  size : q.size = l.length

variable {q : SinkQueue F} {l : List F}

theorem contains_create (maxSize : ℕ) : (create maxSize : SinkQueue F).Contains [] :=
  ⟨⟨[], .empty _, rfl⟩, rfl⟩

theorem Contains.isEmpty (h : q.Contains l) : q.queueIsEmpty = l.isEmpty := by
  unfold queueIsEmpty
  rw [h.size]
  cases l with
  | nil => rfl
  | cons xf l => rfl

theorem Contains.ne_nil (h : q.Contains l) (hfull : q.queueIsFull = true) : l ≠ [] := by
  rintro rfl
  have hsize := h.size
  simp only [queueIsFull, Bool.and_eq_true, Bool.not_eq_true', decide_eq_true_iff, decide_eq_false_iff_not] at hfull
  rw [List.length_nil] at hsize
  omega

theorem Contains.pop {xf : F} (h : q.Contains (xf :: l)) :
    ∃ elems, q.queuePop = some (xf, { q with elems := elems, size := l.length }) ∧
      ({ q with elems := elems, size := l.length } : SinkQueue F).Contains l := by
  obtain ⟨cells, hcells, hmap⟩ := h.elems
  obtain ⟨⟨p, a⟩, rest, rfl, rfl, rfl⟩ := List.map_eq_cons_iff.1 hmap
  have hsize : q.size = rest.length + 1 := by rw [h.size, List.length_cons, List.length_map]
  have hempty : q.queueIsEmpty = false := by rw [h.isEmpty]; rfl
  have hnodup := hcells.nodup
  rw [List.map_cons, List.nodup_cons] at hnodup
  have hsame : ∀ c ∈ rest, Function.update q.elems.heap p none c.1 = q.elems.heap c.1 := fun c hc =>
    Function.update_of_ne (fun heq => hnodup.1 (List.mem_map.2 ⟨c, hc, heq⟩)) ..
  obtain ⟨next, hp, htail⟩ := hcells.tail hsame
  have hfront : q.elems.next = some p := hcells.linked.head
  unfold queuePop
  rw [hempty]
  simp only [Bool.false_eq_true, if_false, hfront, hp, queueIsEmpty, hsize, Nat.add_sub_cancel]
  cases rest with
  | nil =>
    obtain rfl : none = next := htail.linked.head.symm
    rw [if_pos (show q.elems.last = some p from hcells.last)] at htail
    exact ⟨_, rfl, ⟨[], htail, rfl⟩, rfl⟩
  | cons c rest =>
    obtain rfl : some c.1 = next := htail.linked.head.symm
    have hlast : q.elems.last ≠ some p := by
      intro heq
      have hsome := htail.last
      rw [if_pos heq] at hsome
      cases List.getLast?_eq_none_iff.1 (Option.map_eq_none_iff.1 hsome.symm)
    rw [if_neg hlast] at htail
    rw [if_neg (Option.some_ne_none _), ← List.length_map Prod.snd]
    exact ⟨_, rfl, ⟨c :: rest, htail, rfl⟩, rfl⟩

theorem Contains.append (h : q.Contains l) {address : ℕ} (hfree : q.elems.heap address = none) (xf : F) :
    ∃ elems, q.append address xf = some { q with elems := elems, size := l.length + 1 } ∧
      ({ q with elems := elems, size := l.length + 1 } : SinkQueue F).Contains (l ++ [xf]) := by
  obtain ⟨cells, hcells, rfl⟩ := h.elems
  unfold SinkQueue.append
  rw [h.size]
  rcases List.eq_nil_or_concat' cells with rfl | ⟨cells, c, rfl⟩
  · rw [show q.elems.last = none from hcells.last]
    refine ⟨_, rfl, ⟨[(address, xf)], .single (Function.update_self ..), rfl⟩, rfl⟩
  · have hlast : q.elems.last = some c.1 := by
      rw [hcells.last, List.getLast?_concat]
      rfl
    obtain ⟨next, hnext⟩ := hcells.linked.mem (List.mem_append_right _ (List.mem_singleton_self c))
    have hne : c.1 ≠ address := by
      intro heq
      rw [heq, hfree] at hnext
      cases hnext
    have hback : Function.update q.elems.heap address (some ⟨none, xf⟩) c.1 = some ⟨next, c.2⟩ :=
      (Function.update_of_ne hne ..).trans hnext
    simp only [hlast, hback]
    refine ⟨_, rfl, ⟨_, hcells.snoc hfree, ?_⟩, ?_⟩
    · rw [List.map_append]
      rfl
    · rw [List.length_append, List.length_singleton]

theorem Contains.dropOldest (h : q.Contains l) :
    ∃ elems, q.dropOldest = some (if q.queueIsFull then l.head? else none,
        { q with elems := elems, size := (if q.queueIsFull then l.tail else l).length }) ∧
      ({ q with elems := elems, size := (if q.queueIsFull then l.tail else l).length } : SinkQueue F).Contains
        (if q.queueIsFull then l.tail else l) := by
  unfold SinkQueue.dropOldest
  cases hfull : q.queueIsFull with
  | false =>
    refine ⟨q.elems, ?_, h.elems, rfl⟩
    simp only [Bool.false_eq_true, if_false, ← h.size]
  | true =>
    simp only [if_true, h.isEmpty]
    cases l with
    | nil =>
      refine ⟨q.elems, ?_, h.elems, rfl⟩
      simp only [List.isEmpty_nil, Bool.not_true, Bool.false_eq_true, if_false, List.tail_nil, ← h.size]
      rfl
    | cons old l =>
      obtain ⟨elems, hpop, hrest⟩ := h.pop
      refine ⟨elems, ?_, hrest⟩
      simp only [List.isEmpty_cons, Bool.not_false, if_true, hpop]
      rfl

theorem Contains.refclear (h : q.Contains l) :
    ∃ elems, queueRefclear q.size q = some (l, { q with elems := elems, size := 0 }) ∧
      ({ q with elems := elems, size := 0 } : SinkQueue F).Contains [] := by
  rw [h.size]
  induction l generalizing q with
  | nil =>
    refine ⟨q.elems, ?_, h.elems, rfl⟩
    have hsize := h.size
    rw [List.length_nil] at hsize ⊢
    rw [queueRefclear, h.isEmpty, ← hsize]
    rfl
  | cons xf l ih =>
    obtain ⟨elems, hpop, hrest⟩ := h.pop
    obtain ⟨elems', hclear, hnone⟩ := ih hrest
    refine ⟨elems', ?_, hnone⟩
    -- one frame is left exactly if the first is the last one
    obtain ⟨cells, hcells, hmap⟩ := h.elems
    obtain ⟨c, rest, rfl, -, hl⟩ := List.map_eq_cons_iff.1 hmap
    have hone : (decide (q.size > 1) ^^ decide (q.elems.next = q.elems.last)) = true := by
      rw [h.size, ← hl]
      cases rest with
      | nil => rw [decide_eq_true (hcells.next_eq_last_iff.2 rfl)]; rfl
      | cons c' rest =>
        have hne : ¬q.elems.next = q.elems.last := fun heq => by cases hcells.next_eq_last_iff.1 heq
        rw [decide_eq_false hne, List.map_cons, List.length_cons, List.length_cons, decide_eq_true (by omega)]
        rfl
    rw [List.length_cons, queueRefclear, h.isEmpty, hone, hpop]
    simp only [List.isEmpty_cons, Bool.false_eq_true, if_false, if_true, Option.bind_some, hclear]
    rfl

end SinkQueue

/-! ## Threads -/

/-- Where the queue thread is: about to lock the mutex, waiting, about to call the consumer with a frame, about to drop
its reference to a frame after the call, or at its end. -/
inductive QueueThread (F : Type)
  | locking
  | waiting
  | delivering (xf : F)
  | delivered (xf : F)
  | finished
  deriving DecidableEq

/-- Whether `queue_break_apart` has been called, and has returned. -/
inductive BreakApart
  | no
  | joining
  | returned
  deriving DecidableEq

inductive Fate
  | consumed
  | dropped
  deriving DecidableEq

/-- The queue and its thread, and what is not data of the source: the frames that references were taken to, the frames
that have left the queue, those that the consumer was called with and those whose references were dropped, and whether
an assertion has failed. -/
structure SinkSystem (F : Type) where
  queue : SinkQueue F
  thread : QueueThread F
  breakApart : BreakApart
  taken : List F
  popped : List (F × Fate)
  consumed : List F
  released : List F
  aborted : Bool

namespace SinkSystem

def create (maxSize : ℕ) : SinkSystem F where
  queue := .create maxSize
  thread := .locking
  breakApart := .no
  taken := []
  popped := []
  consumed := []
  released := []
  aborted := false

/-- The references to these frames are dropped as they leave the queue. -/
def drop (s : SinkSystem F) (frames : List F) : SinkSystem F :=
  { s with
    popped := s.popped ++ frames.map fun xf => (xf, .dropped)
    released := s.released ++ frames }

/-- The loop of `queue_mainloop` with the mutex locked, up to where it is unlocked. It is the same after the mutex was
locked as after the thread was woken: it ends if the queue is not running, waits if it is empty and takes a frame. -/
def queueMainloop (s : SinkSystem F) : SinkSystem F :=
  if !s.queue.running then { s with thread := .finished }
  else if s.queue.queueIsEmpty then
    { s with queue := { s.queue with cond := s.queue.cond.wait () }, thread := .waiting }
  else
    match s.queue.queuePop with
    | none => { s with aborted := true }
    | some (xf, q) => { s with queue := q, thread := .delivering xf, popped := s.popped ++ [(xf, .consumed)] }

def queueFrame (s : SinkSystem F) (address : ℕ) (xf : F) : SinkSystem F :=
  if s.queue.running then
    match s.queue.queueTryRefpush address xf with
    | none => { s with aborted := true }
    | some (old, q) => { s with queue := q.signal, taken := s.taken ++ [xf] }.drop old.toList
  else { s with queue := s.queue.signal }

/-- `queue_break_apart`, up to where it waits for the thread. -/
def queueBreakApart (s : SinkSystem F) : SinkSystem F :=
  match SinkQueue.queueRefclear s.queue.size { s.queue with running := false } with
  | none => { s with aborted := true }
  | some (frames, q) => { s with queue := q.signal, breakApart := .joining }.drop frames

/-! ## Steps -/

/-- What can come next. A frame may be pushed by any thread, to an address that is free once the oldest frame has been
dropped. -/
inductive SinkAction (F : Type)
  | frame (address : ℕ) (xf : F)
  | breakApart
  | join
  | lock
  | wake
  | woken
  | pushFrame
  | unreference

def isFree (q : SinkQueue F) (address : ℕ) : Bool :=
  match q.dropOldest with
  | none => true
  | some (_, q) => (q.elems.heap address).isNone

def live (s : SinkSystem F) : SinkAction F → Option (SinkSystem F)
  | .frame address xf => if isFree s.queue address then some (s.queueFrame address xf) else none
  | .breakApart => if s.breakApart = .no then some s.queueBreakApart else none
  | .join =>
    match s.breakApart, s.thread with
    | .joining, .finished => some { s with breakApart := .returned }
    | _, _ => none
  | .lock =>
    match s.thread with
    | .locking => some s.queueMainloop
    | _ => none
  | .wake => (s.queue.cond.spurious ()).map fun cond => { s with queue := { s.queue with cond := cond } }
  | .woken =>
    match s.thread with
    | .waiting =>
      (s.queue.cond.resume ()).map fun cond => { s with queue := { s.queue with cond := cond } }.queueMainloop
    | _ => none
  | .pushFrame =>
    match s.thread with
    | .delivering xf => some { s with thread := .delivered xf, consumed := s.consumed ++ [xf] }
    | _ => none
  | .unreference =>
    match s.thread with
    | .delivered xf => some { s with thread := .locking, released := s.released ++ [xf] }
    | _ => none

def step (s : SinkSystem F) (a : SinkAction F) : Option (SinkSystem F) := if s.aborted then none else s.live a

theorem live_of_step {s s' : SinkSystem F} {a : SinkAction F} (halive : s.aborted = false)
    (hstep : s.step a = some s') : s.live a = some s' := by
  unfold step at hstep
  rwa [if_neg (Bool.eq_false_iff.1 halive)] at hstep

theorem live_frame {s s' : SinkSystem F} {address : ℕ} {xf : F} (hstep : s.live (.frame address xf) = some s') :
    isFree s.queue address ∧ s' = s.queueFrame address xf := by
  obtain ⟨hfree, hstep⟩ := Option.ite_none_right_eq_some.1 hstep
  exact ⟨hfree, (Option.some.inj hstep).symm⟩

/-! ## Where the references are -/

end SinkSystem

/-- The frame that the consumer is about to be called with. -/
def QueueThread.pending : QueueThread F → List F
  | .delivering xf => [xf]
  | _ => []

def QueueThread.held : QueueThread F → List F
  | .delivering xf => [xf]
  | .delivered xf => [xf]
  | _ => []

namespace SinkSystem

/-- Every frame that was pushed is in the queue or has left it, in this order, once; those that were not dropped reach the
consumer in this order; and every reference is in the queue, with the thread or has been dropped. -/
structure Accounted (maxSize : ℕ) (s : SinkSystem F) (l : List F) : Prop where
  alive : s.aborted = false
  queue : s.queue.Contains l
  order : s.taken = s.popped.map Prod.fst ++ l
  consumed : (s.popped.filter fun frame => frame.2 = .consumed).map Prod.fst = s.consumed ++ s.thread.pending
  references : ∀ P, s.taken.countP P = s.released.countP P + s.thread.held.countP P + l.countP P
  bound : s.queue.maxSize = maxSize
  bounded : maxSize ≠ 0 → l.length ≤ maxSize
  running : s.queue.running = true ↔ s.breakApart = .no
  cleared : s.breakApart ≠ .no → l = []
  joined : s.breakApart = .returned → s.thread = .finished

variable {maxSize : ℕ} {s s' : SinkSystem F} {l : List F} {a : SinkAction F}

theorem accounted_create (maxSize : ℕ) : (create maxSize : SinkSystem F).Accounted maxSize [] where
  alive := rfl
  queue := SinkQueue.contains_create maxSize
  order := rfl
  consumed := rfl
  references := fun _ => rfl
  bound := rfl
  bounded := fun _ => Nat.zero_le _
  running := iff_of_true rfl rfl
  cleared := fun _ => rfl
  joined := fun h => by cases h

theorem Accounted.consumed_sublist (h : s.Accounted maxSize l) : s.consumed.Sublist s.taken := by
  have hsub : (s.consumed ++ s.thread.pending).Sublist (s.popped.map Prod.fst) := by
    rw [← h.consumed]
    exact List.filter_sublist.map _
  rw [h.order]
  exact ((List.sublist_append_left ..).trans hsub).trans (List.sublist_append_left ..)

/-! ## Sections -/

theorem queueMainloop_cases (h : s.queue.Contains l) :
    (s.queue.running = false ∧ s.queueMainloop = { s with thread := .finished }) ∨
    (s.queue.running = true ∧ l = [] ∧
      s.queueMainloop = { s with queue := { s.queue with cond := s.queue.cond.wait () }, thread := .waiting }) ∨
    (s.queue.running = true ∧ ∃ xf rest elems, l = xf :: rest ∧
      ({ s.queue with elems := elems, size := rest.length } : SinkQueue F).Contains rest ∧
      s.queueMainloop =
        { s with
          queue := { s.queue with elems := elems, size := rest.length }
          thread := .delivering xf
          popped := s.popped ++ [(xf, .consumed)] }) := by
  unfold queueMainloop
  by_cases hrunning : s.queue.running = true
  · rw [if_neg (by rw [hrunning]; decide), h.isEmpty]
    cases l with
    | nil => exact .inr (.inl ⟨hrunning, rfl, rfl⟩)
    | cons xf rest =>
      obtain ⟨elems, hpop, hrest⟩ := h.pop
      refine .inr (.inr ⟨hrunning, xf, rest, elems, rfl, hrest, ?_⟩)
      rw [hpop]
      rfl
  · have hstopped := Bool.eq_false_iff.2 hrunning
    exact .inl ⟨hstopped, if_pos (by rw [hstopped]; rfl)⟩

theorem queueFrame_cases (h : s.queue.Contains l) {address : ℕ} (hfree : isFree s.queue address = true) (xf : F) :
    (s.queue.running = false ∧ s.queueFrame address xf = { s with queue := s.queue.signal }) ∨
    (s.queue.running = true ∧ ∃ q : SinkQueue F, q.Contains ((if s.queue.queueIsFull then l.tail else l) ++ [xf]) ∧
      q.maxSize = s.queue.maxSize ∧ q.running = true ∧
      s.queueFrame address xf =
        { s with queue := q, taken := s.taken ++ [xf] }.drop
          (if s.queue.queueIsFull then l.head? else none).toList) := by
  unfold queueFrame
  by_cases hrunning : s.queue.running = true
  · obtain ⟨elems, hdrop, hrest⟩ := h.dropOldest
    have hnone : elems.heap address = none := by
      unfold isFree at hfree
      rw [hdrop] at hfree
      exact Option.isNone_iff_eq_none.1 hfree
    obtain ⟨elems', happend, hall⟩ := hrest.append hnone xf
    have hpush := congrArg (Option.bind · fun (old, q) => (q.append address xf).map fun q => (old, q)) hdrop
    simp only [Option.bind_some, happend, Option.map_some] at hpush
    change s.queue.queueTryRefpush address xf = _ at hpush
    rw [if_pos hrunning, hpush]
    exact .inr ⟨hrunning, .signal { s.queue with elems := elems', size := _ }, ⟨hall.elems, hall.size⟩, rfl, hrunning,
      rfl⟩
  · rw [if_neg hrunning]
    exact .inl ⟨Bool.eq_false_iff.2 hrunning, rfl⟩

theorem queueBreakApart_eq (h : s.queue.Contains l) :
    ∃ q : SinkQueue F, q.Contains [] ∧ q.maxSize = s.queue.maxSize ∧ q.running = false ∧
      s.queueBreakApart = { s with queue := q, breakApart := .joining }.drop l := by
  have hstopped : ({ s.queue with running := false } : SinkQueue F).Contains l := ⟨h.elems, h.size⟩
  obtain ⟨elems, hclear, hnone⟩ := hstopped.refclear
  unfold queueBreakApart
  rw [hclear]
  exact ⟨.signal { s.queue with running := false, elems := elems, size := 0 }, ⟨hnone.elems, hnone.size⟩, rfl, rfl, rfl⟩

theorem Accounted.queueMainloop (h : s.Accounted maxSize l) (hthread : s.thread = .locking ∨ s.thread = .waiting) :
    ∃ l', s.queueMainloop.Accounted maxSize l' := by
  have hidle : s.thread.pending = [] ∧ s.thread.held = [] ∧ s.breakApart ≠ .returned := by
    rcases hthread with hthread | hthread
    all_goals
      refine ⟨by rw [hthread]; rfl, by rw [hthread]; rfl, fun hreturned => ?_⟩
      rw [h.joined hreturned] at hthread
      cases hthread
  obtain ⟨hpending, hheld, hnot⟩ := hidle
  have hconsumed := h.consumed
  have hreferences := h.references
  rw [hpending] at hconsumed
  simp only [hheld] at hreferences
  rcases queueMainloop_cases h.queue with ⟨-, heq⟩ | ⟨-, rfl, heq⟩ | ⟨hrunning, xf, rest, elems, rfl, hrest, heq⟩
  · rw [heq]
    exact ⟨l, h.alive, h.queue, h.order, hconsumed, hreferences, h.bound, h.bounded, h.running, h.cleared, fun _ => rfl⟩
  · rw [heq]
    exact ⟨[], h.alive, ⟨h.queue.elems, h.queue.size⟩, h.order, hconsumed, hreferences, h.bound, h.bounded, h.running,
      h.cleared, fun hreturned => absurd hreturned hnot⟩
  · rw [heq]
    refine ⟨rest, h.alive, hrest, ?_, ?_, fun P => ?_, h.bound, fun hmax => ?_, h.running, fun happart => ?_,
      fun hreturned => ?_⟩
    · rw [h.order, List.map_append, List.append_assoc]
      rfl
    · rw [List.filter_append, List.map_append, hconsumed, List.append_nil]
      rfl
    · have hP := hreferences P
      rw [List.countP_cons] at hP
      simp only [QueueThread.held, List.countP_cons, List.countP_nil] at hP ⊢
      omega
    · exact Nat.le_of_succ_le (h.bounded hmax)
    · exact absurd (h.running.1 hrunning) happart
    · exact absurd hreturned hnot

theorem Accounted.drop {q : SinkQueue F} {frames rest : List F} {breakApart : BreakApart} {taken : List F}
    (h : s.Accounted maxSize l) (hqueue : q.Contains rest) (htaken : taken = s.popped.map Prod.fst ++ (frames ++ rest))
    (hcount : ∀ P, taken.countP P + l.countP P = s.taken.countP P + (frames ++ rest).countP P)
    (hmax : q.maxSize = s.queue.maxSize) (hbounded : maxSize ≠ 0 → rest.length ≤ maxSize)
    (hrunning : q.running = true ↔ breakApart = .no) (hcleared : breakApart ≠ .no → rest = [])
    (hjoined : breakApart ≠ .returned) :
    ({ s with queue := q, breakApart := breakApart, taken := taken }.drop frames).Accounted maxSize rest := by
  refine ⟨h.alive, hqueue, ?_, ?_, fun P => ?_, hmax.trans h.bound, hbounded, hrunning, hcleared, fun hreturned => ?_⟩
  · change taken = (s.popped ++ frames.map fun xf => (xf, Fate.dropped)).map Prod.fst ++ rest
    rw [htaken, List.map_append, List.map_map, List.append_assoc]
    congr 2
    exact (List.map_id _).symm
  · change ((s.popped ++ frames.map fun xf => (xf, Fate.dropped)).filter _).map _ = _
    rw [List.filter_append, List.map_append, h.consumed, List.filter_eq_nil_iff.2 ?_]
    · exact List.append_nil _
    · intro frame hframe
      obtain ⟨xf, -, rfl⟩ := List.mem_map.1 hframe
      exact Bool.false_ne_true
  · have hP := h.references P
    have hframes := hcount P
    change taken.countP P = (s.released ++ frames).countP P + s.thread.held.countP P + rest.countP P
    rw [List.countP_append] at hframes ⊢
    omega
  · exact absurd hreturned hjoined

theorem Accounted.withCond (h : s.Accounted maxSize l) (cond : CondVar Unit) :
    ({ s with queue := { s.queue with cond := cond } } : SinkSystem F).Accounted maxSize l :=
  ⟨h.alive, ⟨h.queue.elems, h.queue.size⟩, h.order, h.consumed, h.references, h.bound, h.bounded, h.running, h.cleared,
    h.joined⟩

theorem Accounted.queueFrame (h : s.Accounted maxSize l) {address : ℕ} (hfree : isFree s.queue address = true) (xf : F) :
    ∃ l', (s.queueFrame address xf).Accounted maxSize l' := by
  rcases queueFrame_cases h.queue hfree xf with ⟨-, heq⟩ | ⟨hrunning, q, hq, hmax, hq', heq⟩
  · rw [heq]
    exact ⟨l, h.withCond _⟩
  · have hno := h.running.1 hrunning
    have hnot : s.breakApart ≠ .returned := by
      rw [hno]
      decide
    have hsplit : (if s.queue.queueIsFull then l.head? else none).toList ++
        ((if s.queue.queueIsFull then l.tail else l) ++ [xf]) = l ++ [xf] := by
      cases s.queue.queueIsFull with
      | true => cases l <;> rfl
      | false => rfl
    rw [heq]
    refine ⟨_, h.drop hq ?_ (fun P => ?_) hmax ?_ (iff_of_true hq' hno) (absurd hno) hnot⟩
    · rw [hsplit, h.order, List.append_assoc]
    · rw [hsplit, List.countP_append, List.countP_append]
      omega
    · intro hpos
      have hbounded := h.bounded hpos
      rw [List.length_append, List.length_singleton]
      cases hfull : s.queue.queueIsFull with
      | true =>
        rw [if_pos rfl, List.length_tail]
        omega
      | false =>
        rw [if_neg Bool.false_ne_true, ← h.queue.size]
        unfold SinkQueue.queueIsFull at hfull
        simp only [h.bound, hpos, decide_false, Bool.not_false, Bool.and_true, decide_eq_false_iff_not] at hfull
        omega

theorem Accounted.queueBreakApart (h : s.Accounted maxSize l) : s.queueBreakApart.Accounted maxSize [] := by
  obtain ⟨q, hq, hmax, hstopped, heq⟩ := queueBreakApart_eq h.queue
  rw [heq]
  refine h.drop hq ?_ (fun P => ?_) hmax (fun _ => Nat.zero_le _) ?_ (fun _ => rfl) (by decide)
  · rw [List.append_nil]
    exact h.order
  · rw [List.append_nil]
  · rw [hstopped]
    decide

theorem Accounted.pushFrame (h : s.Accounted maxSize l) {xf : F} (hthread : s.thread = .delivering xf) :
    ({ s with thread := .delivered xf, consumed := s.consumed ++ [xf] } : SinkSystem F).Accounted maxSize l := by
  have hconsumed := h.consumed
  have hreferences := h.references
  rw [hthread] at hconsumed hreferences
  refine ⟨h.alive, h.queue, h.order, ?_, hreferences, h.bound, h.bounded, h.running, h.cleared, fun hreturned => ?_⟩
  · rw [hconsumed]
    exact (List.append_nil _).symm
  · cases hthread.symm.trans (h.joined hreturned)

theorem Accounted.unreference (h : s.Accounted maxSize l) {xf : F} (hthread : s.thread = .delivered xf) :
    ({ s with thread := .locking, released := s.released ++ [xf] } : SinkSystem F).Accounted maxSize l := by
  have hconsumed := h.consumed
  rw [hthread] at hconsumed
  refine ⟨h.alive, h.queue, h.order, hconsumed, fun P => ?_, h.bound, h.bounded, h.running, h.cleared,
    fun hreturned => ?_⟩
  · have hP := h.references P
    rw [hthread] at hP
    simp only [QueueThread.held, List.countP_append, List.countP_nil] at hP ⊢
    omega
  · cases hthread.symm.trans (h.joined hreturned)

theorem Accounted.join (h : s.Accounted maxSize l) (hjoining : s.breakApart = .joining)
    (hfinished : s.thread = .finished) : ({ s with breakApart := .returned } : SinkSystem F).Accounted maxSize l := by
  refine ⟨h.alive, h.queue, h.order, h.consumed, h.references, h.bound, h.bounded, ?_, fun _ => h.cleared ?_,
    fun _ => hfinished⟩
  · rw [h.running, hjoining]
    refine iff_of_false ?_ ?_
    all_goals rintro ⟨⟩
  · rw [hjoining]
    decide

theorem Accounted.step (h : s.Accounted maxSize l) (hstep : s.step a = some s') : ∃ l', s'.Accounted maxSize l' := by
  replace hstep := live_of_step h.alive hstep
  cases a with
  | frame address xf =>
    obtain ⟨hfree, rfl⟩ := live_frame hstep
    exact h.queueFrame hfree xf
  | breakApart =>
    simp only [live] at hstep
    split at hstep
    · cases hstep
      exact ⟨[], h.queueBreakApart⟩
    · cases hstep
  | join =>
    simp only [live] at hstep
    split at hstep
    · rename_i hjoining hfinished
      cases hstep
      exact ⟨l, h.join hjoining hfinished⟩
    · cases hstep
  | lock =>
    simp only [live] at hstep
    split at hstep
    · rename_i hlocking
      cases hstep
      exact h.queueMainloop (.inl hlocking)
    · cases hstep
  | wake =>
    obtain ⟨cond, -, rfl⟩ := Option.map_eq_some_iff.1 hstep
    exact ⟨l, h.withCond cond⟩
  | woken =>
    simp only [live] at hstep
    split at hstep
    · rename_i hwaiting
      obtain ⟨cond, -, rfl⟩ := Option.map_eq_some_iff.1 hstep
      exact (h.withCond cond).queueMainloop (.inr hwaiting)
    · cases hstep
  | pushFrame =>
    simp only [live] at hstep
    split at hstep
    · rename_i xf hthread
      cases hstep
      exact ⟨l, h.pushFrame hthread⟩
    · cases hstep
  | unreference =>
    simp only [live] at hstep
    split at hstep
    · rename_i xf hthread
      cases hstep
      exact ⟨l, h.unreference hthread⟩
    · cases hstep

/-! ## What is promised -/

/-- What a push does: a queue that is not running does not take the frame, a full one drops its oldest frame, and any
other one drops none. -/
def PushOk (s : SinkSystem F) (a : SinkAction F) (s' : SinkSystem F) : Prop :=
  ∀ address xf l, a = .frame address xf → s.queue.Contains l →
    (s.queue.running = false → s'.taken = s.taken ∧ s'.popped = s.popped ∧ s'.queue.Contains l) ∧
    (s.queue.running = true → s'.taken = s.taken ++ [xf] ∧
      if s.queue.queueIsFull then
        ∃ old rest, l = old :: rest ∧ s'.popped = s.popped ++ [(old, .dropped)] ∧ s'.queue.Contains (rest ++ [xf])
      else s'.popped = s.popped ∧ s'.queue.Contains (l ++ [xf]))

/-- After `queue_break_apart` has returned no frame is taken or delivered. -/
def StaysApart (s s' : SinkSystem F) : Prop :=
  s.breakApart = .returned → s'.breakApart = .returned ∧ s'.taken = s.taken ∧ s'.consumed = s.consumed

theorem pushOk (halive : s.aborted = false) (hstep : s.step a = some s') : PushOk s a s' := by
  rintro address xf l rfl hl
  obtain ⟨hfree, rfl⟩ := live_frame (live_of_step halive hstep)
  rcases queueFrame_cases hl hfree xf with ⟨hstopped, heq⟩ | ⟨hrunning, q, hq, -, -, heq⟩
  · rw [heq]
    refine ⟨fun _ => ⟨rfl, rfl, hl.elems, hl.size⟩, fun hrunning => ?_⟩
    cases hstopped.symm.trans hrunning
  · rw [heq]
    refine ⟨fun hstopped => ?_, fun _ => ⟨rfl, ?_⟩⟩
    · cases hstopped.symm.trans hrunning
    · cases hfull : s.queue.queueIsFull with
      | true =>
        rw [hfull] at hq
        cases l with
        | nil => exact absurd rfl (hl.ne_nil hfull)
        | cons old rest => exact ⟨old, rest, rfl, rfl, hq⟩
      | false =>
        rw [hfull] at hq
        exact ⟨List.append_nil _, hq⟩

theorem staysApart (h : s.Accounted maxSize l) (hstep : s.step a = some s') : StaysApart s s' := by
  intro hreturned
  have hthread := h.joined hreturned
  have hstopped : ¬s.queue.running = true := by
    rw [h.running, hreturned]
    decide
  replace hstep := live_of_step h.alive hstep
  cases a with
  | frame address xf =>
    obtain ⟨-, rfl⟩ := live_frame hstep
    unfold SinkSystem.queueFrame
    rw [if_neg hstopped]
    exact ⟨hreturned, rfl, rfl⟩
  | breakApart | join =>
    simp only [live, hreturned] at hstep
    cases hstep
  | wake =>
    obtain ⟨cond, -, rfl⟩ := Option.map_eq_some_iff.1 hstep
    exact ⟨hreturned, rfl, rfl⟩
  | lock | woken | pushFrame | unreference =>
    simp only [live, hthread] at hstep
    cases hstep

structure SinkOk (maxSize : ℕ) (s : SinkSystem F) : Prop where
  accounted : ∃ l, s.Accounted maxSize l
  inOrder : s.consumed.Sublist s.taken

/-- In every run each frame that was pushed while the queue was running is in the queue, with the queue thread, was handed
to the consumer or was dropped, once; frames reach the consumer in the order they were pushed in; a queue with a bound
holds no more frames, and drops its oldest one when it is full; and after `queue_break_apart` has returned nothing is held
or delivered. -/
theorem sinkQueue_spec (maxSize : ℕ) (actions : List (SinkAction F)) :
    SinkOk maxSize (create maxSize : SinkSystem F) ∧
      Along step (fun s a => ∀ s', s.step a = some s' → SinkOk maxSize s' ∧ PushOk s a s' ∧ StaysApart s s')
        (create maxSize) actions := by
  have hcreate : SinkOk maxSize (create maxSize : SinkSystem F) :=
    ⟨⟨[], accounted_create maxSize⟩, List.nil_sublist _⟩
  have hstep : ∀ (s : SinkSystem F) a s', SinkOk maxSize s → s.step a = some s' → SinkOk maxSize s' := by
    rintro s a s' ⟨⟨l, h⟩, -⟩ hstep
    obtain ⟨l', h'⟩ := h.step hstep
    exact ⟨⟨l', h'⟩, h'.consumed_sublist⟩
  refine ⟨hcreate, along_of_inv' (fun s a h s' hs' => ?_) hstep hcreate actions⟩
  obtain ⟨l, haccounted⟩ := h.accounted
  exact ⟨hstep s a s' h hs', pushOk haccounted.alive hs', staysApart haccounted hs'⟩

/-- A queue whose bound is zero is not bounded. -/
theorem unbounded_holds_one :
    ∃ s, Reaches step (create 0 : SinkSystem ℕ) [.frame 0 7] s ∧ s.queue.Contains [7] ∧
      ¬[7].length ≤ s.queue.maxSize := by
  refine ⟨_, ⟨_, rfl, rfl⟩, ⟨⟨[(0, 7)], .single rfl, rfl⟩, rfl⟩, ?_⟩
  decide

end SinkSystem

end AugmentedInsanity.Util
