/-
The worker pool (`u_worker.c`). Workers take tasks from an array, and threads that wait for a group donate themselves:
as long as they wait, one more worker may work. Every function that is called with the mutex locked is a function of
the pool, and a step of the system is what a thread does between locking and unlocking (`step`).
-/
import AugmentedInsanity.Lib.CondVar
import AugmentedInsanity.Lib.Tables

namespace AugmentedInsanity.Util

open Tables

abbrev MAX_TASK_COUNT : ℕ := 64
abbrev MAX_THREAD_COUNT : ℕ := 16

/-- `struct task` of a slot in use; `func` is not NULL there. Groups are numbers. -/
structure WorkerTask (m : ℕ) where
  g : Fin m
  func : ℕ
  data : ℕ
  deriving DecidableEq

structure WorkerGroup (θ : Type) where
  currentTasksInArray : ℕ
  currentWorkingTasks : ℕ
  releasedCount : ℕ
  waitingCount : ℕ
  waitingCond : CondVar θ

/-- `struct pool`, with its groups; `n` worker threads, `m` groups. -/
structure WorkerPool (θ : Type) (n m : ℕ) where
  tasks : Fin MAX_TASK_COUNT → Option (WorkerTask m)
  tasksInArrayCount : ℕ
  availableCount : ℕ
  availableCond : CondVar (Fin n)
  initialWorkerLimit : ℕ
  workerLimit : ℕ
  workingCount : ℕ
  group : Fin m → WorkerGroup θ

namespace WorkerPool

variable {θ : Type} [DecidableEq θ] {n m : ℕ}

/-- `u_worker_thread_pool_create` and as many `u_worker_group_create`. -/
def create (startingWorkerCount : ℕ) : Option (WorkerPool θ n m) :=
  if startingWorkerCount ≤ n ∧ n ≤ MAX_THREAD_COUNT then
    some
      { tasks := fun _ => none
        tasksInArrayCount := 0
        availableCount := 0
        availableCond := .empty
        initialWorkerLimit := startingWorkerCount
        workerLimit := startingWorkerCount
        workingCount := 0
        group := fun _ => ⟨0, 0, 0, 0, .empty⟩ }
  else none

def setGroup (p : WorkerPool θ n m) (g : Fin m) (f : WorkerGroup θ → WorkerGroup θ) : WorkerPool θ n m :=
  { p with group := Function.update p.group g (f (p.group g)) }

/-! ## Internal pool functions -/

/-- `none` is a failed assertion. -/
def lockedPoolPopTask (p : WorkerPool θ n m) : Option (WorkerTask m × WorkerPool θ n m) :=
  if p.tasksInArrayCount > 0 then
    match firstIndex fun i => (p.tasks i).isSome with
    | none => none
    | some i =>
      match p.tasks i with
      | none => none
      | some task =>
        let p := { p with tasks := Function.update p.tasks i none, tasksInArrayCount := p.tasksInArrayCount - 1 }
        some (task, p.setGroup task.g fun g =>
          { g with
            currentTasksInArray := g.currentTasksInArray - 1
            currentWorkingTasks := g.currentWorkingTasks + 1 })
  else none

def lockedPoolPushTask (p : WorkerPool θ n m) (task : WorkerTask m) : Option (WorkerPool θ n m) :=
  if p.tasksInArrayCount < MAX_TASK_COUNT then
    match firstIndex fun i => (p.tasks i).isNone with
    | none => none
    | some i =>
      let p := { p with tasks := Function.update p.tasks i (some task), tasksInArrayCount := p.tasksInArrayCount + 1 }
      some (p.setGroup task.g fun g => { g with currentTasksInArray := g.currentTasksInArray + 1 })
  else none

/-- `os_cond_signal(&p->available.cond)`, and the worker it wakes if that one is blocked. -/
def signalAvailable (p : WorkerPool θ n m) (wakes : Option (Fin n)) : WorkerPool θ n m :=
  { p with availableCond := p.availableCond.signal wakes }

def lockedPoolWakeWorkerIfAllowed (p : WorkerPool θ n m) (wakes : Option (Fin n)) : WorkerPool θ n m :=
  if p.tasksInArrayCount = 0 then p
  else if p.workingCount ≥ p.workerLimit then p
  else if p.availableCount = 0 then p
  else p.signalAvailable wakes

/-! ## Thread group functions -/

omit [DecidableEq θ] in
def lockedGroupHasTasksWaitingOrInflight (p : WorkerPool θ n m) (g : Fin m) : Bool :=
  if (p.group g).currentTasksInArray = 0 ∧ (p.group g).currentWorkingTasks = 0 then false else true

def lockedGroupShouldWait (p : WorkerPool θ n m) (g : Fin m) (wakes : Option (Fin n)) : Bool × WorkerPool θ n m :=
  if p.lockedGroupHasTasksWaitingOrInflight g then
    if (p.group g).releasedCount > 0 then
      let p := p.setGroup g fun g => { g with releasedCount := g.releasedCount - 1 }
      let p := { p with workerLimit := p.workerLimit + 1 }
      (true, p.lockedPoolWakeWorkerIfAllowed wakes)
    else (true, p)
  else if (p.group g).releasedCount > 0 then
    (false, p.setGroup g fun g => { g with releasedCount := g.releasedCount - 1 })
  else (true, p)

def lockedGroupWakeWaiterIfAllowed (p : WorkerPool θ n m) (g : Fin m) (wakes : Option θ) :
    Option (WorkerPool θ n m) :=
  if p.lockedGroupHasTasksWaitingOrInflight g then some p
  else if (p.group g).waitingCount = 0 then some p
  else
    let p := p.setGroup g fun g => { g with waitingCond := g.waitingCond.signal wakes }
    if p.workerLimit > p.initialWorkerLimit then
      let p := { p with workerLimit := p.workerLimit - 1 }
      some (p.setGroup g fun g => { g with releasedCount := g.releasedCount + 1 })
    else none

/-- `locked_group_wait`, up to where the mutex is unlocked. -/
def lockedGroupWait (p : WorkerPool θ n m) (g : Fin m) (t : θ) : WorkerPool θ n m :=
  p.setGroup g fun g => { g with waitingCount := g.waitingCount + 1, waitingCond := g.waitingCond.wait t }

/-- The rest of `locked_group_wait`, of a thread that was woken. -/
def lockedGroupWoken (p : WorkerPool θ n m) (g : Fin m) (t : θ) : Option (WorkerPool θ n m) :=
  (p.group g).waitingCond.resume t |>.map fun cond =>
    p.setGroup g fun g => { g with waitingCount := g.waitingCount - 1, waitingCond := cond }

/-! ## Thread internal functions -/

omit [DecidableEq θ] in
def lockedThreadAllowedToWork (p : WorkerPool θ n m) : Bool :=
  if p.tasksInArrayCount = 0 then false else if p.workingCount ≥ p.workerLimit then false else true

omit [DecidableEq θ] in
/-- `locked_thread_wait_for_work`, up to where the mutex is unlocked. -/
def lockedThreadWaitForWork (p : WorkerPool θ n m) (w : Fin n) : WorkerPool θ n m :=
  { p with availableCount := p.availableCount + 1, availableCond := p.availableCond.wait w }

omit [DecidableEq θ] in
/-- The rest of `locked_thread_wait_for_work`, of a worker that was woken. -/
def lockedThreadWoken (p : WorkerPool θ n m) (w : Fin n) : Option (WorkerPool θ n m) :=
  p.availableCond.resume w |>.map fun cond =>
    { p with availableCount := p.availableCount - 1, availableCond := cond }

end WorkerPool

/-! ## Threads -/

/-- Where a worker thread is: at the head of the loop of `run_func`, waiting there for work, or working. -/
inductive WorkerState (m : ℕ)
  | looping
  | waiting
  | working (task : WorkerTask m)
  deriving DecidableEq

/-- Where a thread that uses the pool is: in no call, at the head of the loop of `u_worker_group_push`, in that loop
after it has found the array full, or waiting for a group, maybe to push afterwards. -/
inductive CallerState (m : ℕ)
  | outside
  | pushing (task : WorkerTask m)
  | full (task : WorkerTask m)
  | waiting (g : Fin m) (pushing : Option (WorkerTask m))
  deriving DecidableEq

/-- The pool and its threads, and what is not data of the source: the tasks that were pushed, started and finished, the
group whose `wait_all` returned in the last section, and whether an assertion has failed. -/
structure WorkerSystem (θ : Type) (n m : ℕ) where
  pool : WorkerPool θ n m
  worker : Fin n → WorkerState m
  caller : θ → CallerState m
  pushed : List (WorkerTask m)
  started : List (WorkerTask m)
  finished : List (WorkerTask m)
  returned : Option (Fin m)
  aborted : Bool

namespace WorkerSystem

variable {θ : Type} [DecidableEq θ] {n m : ℕ}

omit [DecidableEq θ] in
def create (startingWorkerCount : ℕ) : Option (WorkerSystem θ n m) :=
  (WorkerPool.create startingWorkerCount).map fun pool =>
    { pool := pool
      worker := fun _ => .looping
      caller := fun _ => .outside
      pushed := []
      started := []
      finished := []
      returned := none
      aborted := false }

def abort (s : WorkerSystem θ n m) : WorkerSystem θ n m := { s with aborted := true }

def setWorker (s : WorkerSystem θ n m) (w : Fin n) (state : WorkerState m) : WorkerSystem θ n m :=
  { s with worker := Function.update s.worker w state }

def setCaller (s : WorkerSystem θ n m) (t : θ) (state : CallerState m) : WorkerSystem θ n m :=
  { s with caller := Function.update s.caller t state }

/-- The loop of `run_func`, with the mutex locked, up to where it is unlocked: to wait, or to work. -/
def runFunc (s : WorkerSystem θ n m) (w : Fin n) (wakes : Option (Fin n)) : WorkerSystem θ n m :=
  if !s.pool.lockedThreadAllowedToWork then { s with pool := s.pool.lockedThreadWaitForWork w }.setWorker w .waiting
  else
    match s.pool.lockedPoolPopTask with
    | none => s.abort
    | some (task, p) =>
      let p := { p with workingCount := p.workingCount + 1 }
      { s with
        pool := p.lockedPoolWakeWorkerIfAllowed wakes
        started := task :: s.started }.setWorker w (.working task)

/-- A worker is done with a task, and goes on with the loop. -/
def complete (s : WorkerSystem θ n m) (w : Fin n) (task : WorkerTask m) (wakesWaiter : Option θ)
    (wakes : Option (Fin n)) : WorkerSystem θ n m :=
  let s := { s with finished := task :: s.finished }
  let p : WorkerPool θ n m := { s.pool with workingCount := s.pool.workingCount - 1 }
  let p := p.setGroup task.g fun g => { g with currentWorkingTasks := g.currentWorkingTasks - 1 }
  if (p.group task.g).currentTasksInArray ≤ p.tasksInArrayCount then
    match p.lockedGroupWakeWaiterIfAllowed task.g wakesWaiter with
    | none => s.abort
    | some p => ({ s with pool := p }.setWorker w .looping).runFunc w wakes
  else s.abort

/-- The section of `u_worker_group_push` at the head of its loop. -/
def push (s : WorkerSystem θ n m) (t : θ) (task : WorkerTask m) (wakes : Option (Fin n)) : WorkerSystem θ n m :=
  if s.pool.tasksInArrayCount ≥ MAX_TASK_COUNT then s.setCaller t (.full task)
  else
    match s.pool.lockedPoolPushTask task with
    | none => s.abort
    | some p =>
      let p := if p.availableCount > 0 then p.signalAvailable wakes else p
      { s with pool := p, pushed := task :: s.pushed }.setCaller t .outside

/-- A thread leaves `wait_all`; if it was called from a push, that goes on. -/
def leave (s : WorkerSystem θ n m) (t : θ) (g : Fin m) (pushing : Option (WorkerTask m)) : WorkerSystem θ n m :=
  { s with returned := some g }.setCaller t (pushing.elim .outside .pushing)

/-- The loop of `u_worker_group_wait_all`, up to where the mutex is unlocked. -/
def waitLoop (s : WorkerSystem θ n m) (t : θ) (g : Fin m) (pushing : Option (WorkerTask m)) (wakes : Option (Fin n)) :
    WorkerSystem θ n m :=
  match s.pool.lockedGroupShouldWait g wakes with
  | (true, p) => { s with pool := p.lockedGroupWait g t }.setCaller t (.waiting g pushing)
  | (false, p) => { s with pool := p }.leave t g pushing

def waitAll (s : WorkerSystem θ n m) (t : θ) (g : Fin m) (pushing : Option (WorkerTask m)) (wakes : Option (Fin n)) :
    WorkerSystem θ n m :=
  if !s.pool.lockedGroupHasTasksWaitingOrInflight g then s.leave t g pushing
  else
    let p := s.pool.setGroup g fun g => { g with releasedCount := g.releasedCount + 1 }
    { s with pool := p }.waitLoop t g pushing wakes

/-! ## Steps -/

/-- What can come next; `wakes` is whom the system wakes when a condition variable is signalled. -/
inductive Action (θ : Type) (n m : ℕ)
  | beginPush (t : θ) (task : WorkerTask m)
  | push (t : θ) (wakes : Option (Fin n))
  | waitAll (t : θ) (g : Fin m) (wakes : Option (Fin n))
  | waitFull (t : θ) (wakes : Option (Fin n))
  | wakeWaiter (t : θ)
  | resumeWaiter (t : θ) (wakes : Option (Fin n))
  | startWorker (w : Fin n) (wakes : Option (Fin n))
  | wakeWorker (w : Fin n)
  | resumeWorker (w : Fin n) (wakes : Option (Fin n))
  | complete (w : Fin n) (wakesWaiter : Option θ) (wakes : Option (Fin n))

/-- One section of one thread, or a wake-up for no reason. -/
def live (s : WorkerSystem θ n m) : Action θ n m → Option (WorkerSystem θ n m)
  | .beginPush t task => if s.caller t = .outside then some (s.setCaller t (.pushing task)) else none
  | .push t wakes =>
    match s.caller t with
    | .pushing task => some (s.push t task wakes)
    | _ => none
  | .waitAll t g wakes => if s.caller t = .outside then some (s.waitAll t g none wakes) else none
  | .waitFull t wakes =>
    match s.caller t with
    | .full task => some (s.waitAll t task.g (some task) wakes)
    | _ => none
  | .wakeWaiter t =>
    match s.caller t with
    | .waiting g _ =>
      ((s.pool.group g).waitingCond.spurious t).map fun cond =>
        { s with pool := s.pool.setGroup g fun g => { g with waitingCond := cond } }
    | _ => none
  | .resumeWaiter t wakes =>
    match s.caller t with
    | .waiting g pushing => (s.pool.lockedGroupWoken g t).map fun p => { s with pool := p }.waitLoop t g pushing wakes
    | _ => none
  | .startWorker w wakes => if s.worker w = .looping then some (s.runFunc w wakes) else none
  | .wakeWorker w =>
    (s.pool.availableCond.spurious w).map fun cond => { s with pool := { s.pool with availableCond := cond } }
  | .resumeWorker w wakes =>
    if s.worker w = .waiting then
      (s.pool.lockedThreadWoken w).map fun p => ({ s with pool := p }.setWorker w .looping).runFunc w wakes
    else none
  | .complete w wakesWaiter wakes =>
    match s.worker w with
    | .working task => some (s.complete w task wakesWaiter wakes)
    | _ => none

def step (s : WorkerSystem θ n m) (a : Action θ n m) : Option (WorkerSystem θ n m) :=
  if s.aborted then none else { s with returned := none }.live a

end WorkerSystem

end AugmentedInsanity.Util
