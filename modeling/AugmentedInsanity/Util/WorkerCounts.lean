/-
The books of the worker pool: its counters are the numbers of tasks in the array, of workers at work and of threads that
wait, and every task that was pushed is in the array, being worked on or finished, once (`Counts`). They hold in every
run, as long as no assertion fails.
-/
import AugmentedInsanity.Util.Worker

namespace AugmentedInsanity.Util

open Tables CondVar

variable {θ : Type} {n m : ℕ}

/-! ## What functions of the pool do -/

def WorkerState.worksOn (P : WorkerTask m → Bool) : WorkerState m → Bool
  | .working task => P task
  | _ => false

namespace WorkerPool

variable {p : WorkerPool θ n m}

@[simp] theorem setGroup_self (g : Fin m) (f : WorkerGroup θ → WorkerGroup θ) :
    (p.setGroup g f).group g = f (p.group g) := Function.update_self ..

theorem setGroup_of_ne {g g' : Fin m} (h : g' ≠ g) (f : WorkerGroup θ → WorkerGroup θ) :
    (p.setGroup g f).group g' = p.group g' := Function.update_of_ne h ..

variable {f : WorkerGroup θ → WorkerGroup θ} {g : Fin m}

theorem setGroup_keeps {α : Type} (proj : WorkerGroup θ → α) (h : proj (f (p.group g)) = proj (p.group g))
    (g' : Fin m) : proj ((p.setGroup g f).group g') = proj (p.group g') := by
  by_cases hg : g' = g
  · rw [hg, setGroup_self, h]
  · rw [setGroup_of_ne hg]

theorem setGroup_up (proj : WorkerGroup θ → ℕ) (h : proj (f (p.group g)) = proj (p.group g) + 1) (g' : Fin m) :
    proj ((p.setGroup g f).group g') = proj (p.group g') + (g == g').toNat := by
  by_cases hg : g' = g
  · rw [hg, setGroup_self, h, beq_self_eq_true, Bool.toNat_true]
  · rw [setGroup_of_ne hg, beq_eq_false_iff_ne.2 (Ne.symm hg), Bool.toNat_false, Nat.add_zero]

theorem setGroup_down (proj : WorkerGroup θ → ℕ) (h : proj (f (p.group g)) + 1 = proj (p.group g)) (g' : Fin m) :
    proj ((p.setGroup g f).group g') + (g == g').toNat = proj (p.group g') := by
  by_cases hg : g' = g
  · rw [hg, setGroup_self, beq_self_eq_true, Bool.toNat_true, h]
  · rw [setGroup_of_ne hg, beq_eq_false_iff_ne.2 (Ne.symm hg), Bool.toNat_false, Nat.add_zero]

def queued (p : WorkerPool θ n m) (P : WorkerTask m → Bool) : ℕ := tally fun i => (p.tasks i).any P

theorem exists_task (h : p.tasksInArrayCount = p.queued fun _ => true) (hpos : 0 < p.tasksInArrayCount) :
    ∃ i task, firstIndex (fun i => (p.tasks i).isSome) = some i ∧ p.tasks i = some task := by
  have hsome : ∃ i, (p.tasks i).isSome = true := by
    by_contra hnone
    have hzero : p.queued (fun _ => true) = 0 := tally_eq_zero.2 fun i => by
      cases htask : p.tasks i with
      | none => rfl
      | some task => exact absurd ⟨i, by rw [htask]; rfl⟩ hnone
    omega
  obtain ⟨i, hi⟩ := hsome
  obtain ⟨j, hj⟩ := exists_firstIndex (p := fun i => (p.tasks i).isSome) hi
  obtain ⟨task, htask⟩ := Option.isSome_iff_exists.1 (firstIndex_spec hj)
  exact ⟨j, task, hj, htask⟩

theorem exists_free (h : p.tasksInArrayCount = p.queued fun _ => true) (hroom : p.tasksInArrayCount < MAX_TASK_COUNT) :
    ∃ i, firstIndex (fun i => (p.tasks i).isNone) = some i ∧ p.tasks i = none := by
  have hnone : ∃ i, (p.tasks i).isNone = true := by
    by_contra hsome
    have hall : ∀ i, (p.tasks i).any (fun _ => true) = true := fun i => by
      cases htask : p.tasks i with
      | none => exact absurd ⟨i, by rw [htask]; rfl⟩ hsome
      | some task => rfl
    have hfull : p.queued (fun _ => true) = MAX_TASK_COUNT := by
      unfold queued tally
      rw [Finset.filter_true_of_mem fun i _ => hall i, Finset.card_univ, Fintype.card_fin]
    omega
  obtain ⟨i, hi⟩ := hnone
  obtain ⟨j, hj⟩ := exists_firstIndex (p := fun i => (p.tasks i).isNone) hi
  exact ⟨j, hj, Option.isNone_iff_eq_none.1 (firstIndex_spec hj)⟩

def taken (p : WorkerPool θ n m) (i : Fin MAX_TASK_COUNT) (task : WorkerTask m) : WorkerPool θ n m :=
  { p with tasks := Function.update p.tasks i none, tasksInArrayCount := p.tasksInArrayCount - 1 }.setGroup task.g
    fun g =>
      { g with
        currentTasksInArray := g.currentTasksInArray - 1
        currentWorkingTasks := g.currentWorkingTasks + 1 }

def put (p : WorkerPool θ n m) (i : Fin MAX_TASK_COUNT) (task : WorkerTask m) : WorkerPool θ n m :=
  { p with
    tasks := Function.update p.tasks i (some task)
    tasksInArrayCount := p.tasksInArrayCount + 1 }.setGroup task.g
    fun g => { g with currentTasksInArray := g.currentTasksInArray + 1 }

theorem pop_eq (h : p.tasksInArrayCount = p.queued fun _ => true) (hpos : 0 < p.tasksInArrayCount) :
    ∃ i task, p.tasks i = some task ∧ p.lockedPoolPopTask = some (task, p.taken i task) := by
  obtain ⟨i, task, hi, htask⟩ := exists_task h hpos
  refine ⟨i, task, htask, ?_⟩
  simp only [lockedPoolPopTask, gt_iff_lt, hpos, if_true, hi, htask]
  rfl

theorem push_eq (h : p.tasksInArrayCount = p.queued fun _ => true) (hroom : p.tasksInArrayCount < MAX_TASK_COUNT)
    (task : WorkerTask m) : ∃ i, p.tasks i = none ∧ p.lockedPoolPushTask task = some (p.put i task) := by
  obtain ⟨i, hi, hfree⟩ := exists_free h hroom
  refine ⟨i, hfree, ?_⟩
  simp only [lockedPoolPushTask, hroom, if_true, hi]
  rfl

theorem queued_update (p : WorkerPool θ n m) (i : Fin MAX_TASK_COUNT) (task : Option (WorkerTask m))
    (P : WorkerTask m → Bool) :
    tally (fun j => (Function.update p.tasks i task j).any P) + ((p.tasks i).any P).toNat =
      p.queued P + (task.any P).toNat :=
  tally_update (Option.any P) p.tasks i task

theorem queued_taken {i : Fin MAX_TASK_COUNT} {task : WorkerTask m} (h : p.tasks i = some task)
    (P : WorkerTask m → Bool) : (p.taken i task).queued P + (P task).toNat = p.queued P := by
  have hupdate := p.queued_update i none P
  rw [h] at hupdate
  exact hupdate

theorem queued_put {i : Fin MAX_TASK_COUNT} {task : WorkerTask m} (h : p.tasks i = none) (P : WorkerTask m → Bool) :
    (p.put i task).queued P = p.queued P + (P task).toNat := by
  have hupdate := p.queued_update i (some task) P
  rw [h] at hupdate
  exact hupdate

/-- The pool after a worker is done with a task of the group. -/
def done (p : WorkerPool θ n m) (g : Fin m) : WorkerPool θ n m :=
  { p with workingCount := p.workingCount - 1 }.setGroup g
    fun g => { g with currentWorkingTasks := g.currentWorkingTasks - 1 }

theorem queued_le (p : WorkerPool θ n m) (P : WorkerTask m → Bool) : p.queued P ≤ p.queued fun _ => true := by
  refine tally_mono fun i hany => ?_
  cases htask : p.tasks i with
  | none =>
    rw [htask] at hany
    cases hany
  | some task => rfl

section Fields

variable {i : Fin MAX_TASK_COUNT} {task : WorkerTask m} (g : Fin m)

theorem currentTasksInArray_taken (h : 0 < (p.group task.g).currentTasksInArray) :
    ((p.taken i task).group g).currentTasksInArray + (task.g == g).toNat = (p.group g).currentTasksInArray :=
  setGroup_down (p := { p with tasks := _, tasksInArrayCount := _ }) (·.currentTasksInArray) (Nat.sub_add_cancel h) g

theorem currentWorkingTasks_taken :
    ((p.taken i task).group g).currentWorkingTasks = (p.group g).currentWorkingTasks + (task.g == g).toNat :=
  setGroup_up (p := { p with tasks := _, tasksInArrayCount := _ }) (·.currentWorkingTasks) rfl g

theorem waitingCount_taken : ((p.taken i task).group g).waitingCount = (p.group g).waitingCount :=
  setGroup_keeps (p := { p with tasks := _, tasksInArrayCount := _ }) (·.waitingCount) rfl g

theorem waitingCond_taken : ((p.taken i task).group g).waitingCond = (p.group g).waitingCond :=
  setGroup_keeps (p := { p with tasks := _, tasksInArrayCount := _ }) (·.waitingCond) rfl g

theorem releasedCount_taken : ((p.taken i task).group g).releasedCount = (p.group g).releasedCount :=
  setGroup_keeps (p := { p with tasks := _, tasksInArrayCount := _ }) (·.releasedCount) rfl g

theorem currentTasksInArray_put :
    ((p.put i task).group g).currentTasksInArray = (p.group g).currentTasksInArray + (task.g == g).toNat :=
  setGroup_up (p := { p with tasks := _, tasksInArrayCount := _ }) (·.currentTasksInArray) rfl g

theorem currentWorkingTasks_put :
    ((p.put i task).group g).currentWorkingTasks = (p.group g).currentWorkingTasks :=
  setGroup_keeps (p := { p with tasks := _, tasksInArrayCount := _ }) (·.currentWorkingTasks) rfl g

theorem waitingCount_put : ((p.put i task).group g).waitingCount = (p.group g).waitingCount :=
  setGroup_keeps (p := { p with tasks := _, tasksInArrayCount := _ }) (·.waitingCount) rfl g

theorem waitingCond_put : ((p.put i task).group g).waitingCond = (p.group g).waitingCond :=
  setGroup_keeps (p := { p with tasks := _, tasksInArrayCount := _ }) (·.waitingCond) rfl g

theorem releasedCount_put : ((p.put i task).group g).releasedCount = (p.group g).releasedCount :=
  setGroup_keeps (p := { p with tasks := _, tasksInArrayCount := _ }) (·.releasedCount) rfl g

theorem currentTasksInArray_done :
    ((p.done task.g).group g).currentTasksInArray = (p.group g).currentTasksInArray :=
  setGroup_keeps (p := { p with workingCount := _ }) (·.currentTasksInArray) rfl g

theorem currentWorkingTasks_done (h : 0 < (p.group task.g).currentWorkingTasks) :
    ((p.done task.g).group g).currentWorkingTasks + (task.g == g).toNat = (p.group g).currentWorkingTasks :=
  setGroup_down (p := { p with workingCount := _ }) (·.currentWorkingTasks) (Nat.sub_add_cancel h) g

theorem waitingCount_done : ((p.done task.g).group g).waitingCount = (p.group g).waitingCount :=
  setGroup_keeps (p := { p with workingCount := _ }) (·.waitingCount) rfl g

theorem waitingCond_done : ((p.done task.g).group g).waitingCond = (p.group g).waitingCond :=
  setGroup_keeps (p := { p with workingCount := _ }) (·.waitingCond) rfl g

theorem releasedCount_done : ((p.done task.g).group g).releasedCount = (p.group g).releasedCount :=
  setGroup_keeps (p := { p with workingCount := _ }) (·.releasedCount) rfl g

end Fields

theorem wake_eq (p : WorkerPool θ n m) (wakes : Option (Fin n)) :
    ∃ cond, p.lockedPoolWakeWorkerIfAllowed wakes = { p with availableCond := cond } ∧ Roused p.availableCond cond ∧
      (p.lockedThreadAllowedToWork = true → p.availableCount ≠ 0 → p.availableCond.waiting ≠ [] → cond.woken ≠ []) := by
  unfold lockedPoolWakeWorkerIfAllowed lockedThreadAllowedToWork
  split
  · exact ⟨_, rfl, .refl _, fun h => by cases h⟩
  · split
    · exact ⟨_, rfl, .refl _, fun h => by cases h⟩
    · split
      · rename_i hnone
        exact ⟨_, rfl, .refl _, fun _ h => absurd hnone h⟩
      · exact ⟨_, rfl, roused_signal, fun _ _ h => woken_signal_ne_nil h⟩

/-- What waking a worker has done: only the threads that wait for work have changed, and if there is work and one of
them waits, one is awake. -/
structure WakesWorker (p : WorkerPool θ n m) (cond : CondVar (Fin n)) : Prop where
  roused : Roused p.availableCond cond
  woken : p.lockedThreadAllowedToWork = true → p.availableCount ≠ 0 → p.availableCond.waiting ≠ [] → cond.woken ≠ []

theorem setGroup_setGroup (p : WorkerPool θ n m) (g : Fin m) (f f' : WorkerGroup θ → WorkerGroup θ) :
    (p.setGroup g f).setGroup g f' = p.setGroup g fun G => f' (f G) := by
  simp only [setGroup, Function.update_self, Function.update_idem]

theorem idle_iff (p : WorkerPool θ n m) (g : Fin m) :
    p.lockedGroupHasTasksWaitingOrInflight g = false ↔
      (p.group g).currentTasksInArray = 0 ∧ (p.group g).currentWorkingTasks = 0 := by
  unfold lockedGroupHasTasksWaitingOrInflight
  split
  · rename_i h
    exact iff_of_true rfl h
  · rename_i h
    exact iff_of_false (by decide) h

theorem hasTasks_setGroup (htasks : (f (p.group g)).currentTasksInArray = (p.group g).currentTasksInArray)
    (hworking : (f (p.group g)).currentWorkingTasks = (p.group g).currentWorkingTasks) :
    (p.setGroup g f).lockedGroupHasTasksWaitingOrInflight g = p.lockedGroupHasTasksWaitingOrInflight g := by
  simp only [lockedGroupHasTasksWaitingOrInflight, setGroup_self, htasks, hworking]

section Donating

variable (p : WorkerPool θ n m) (g : Fin m) (wakes : Option (Fin n))

theorem shouldWait_cases :
    (p.lockedGroupHasTasksWaitingOrInflight g = true ∧ 0 < (p.group g).releasedCount ∧
      ∃ cond,
        WakesWorker
          { p.setGroup g (fun G => { G with releasedCount := G.releasedCount - 1 }) with
            workerLimit := p.workerLimit + 1 } cond ∧
        p.lockedGroupShouldWait g wakes =
          (true,
            { p.setGroup g (fun G => { G with releasedCount := G.releasedCount - 1 }) with
              workerLimit := p.workerLimit + 1
              availableCond := cond })) ∨
    ((p.group g).releasedCount = 0 ∧ p.lockedGroupShouldWait g wakes = (true, p)) ∨
    (p.lockedGroupHasTasksWaitingOrInflight g = false ∧ 0 < (p.group g).releasedCount ∧
      p.lockedGroupShouldWait g wakes =
        (false, p.setGroup g fun G => { G with releasedCount := G.releasedCount - 1 })) := by
  unfold lockedGroupShouldWait
  cases hbusy : p.lockedGroupHasTasksWaitingOrInflight g with
  | true =>
    rw [if_pos rfl]
    by_cases hreleased : (p.group g).releasedCount > 0
    · obtain ⟨cond, hwake, hroused, hwoken⟩ := wake_eq
        { p.setGroup g (fun G => { G with releasedCount := G.releasedCount - 1 }) with
          workerLimit := p.workerLimit + 1 } wakes
      rw [if_pos hreleased]
      exact .inl ⟨rfl, hreleased, cond, ⟨hroused, hwoken⟩, congrArg (Prod.mk true) hwake⟩
    · rw [if_neg hreleased]
      exact .inr (.inl ⟨Nat.eq_zero_of_not_pos hreleased, rfl⟩)
  | false =>
    rw [if_neg Bool.false_ne_true]
    by_cases hreleased : (p.group g).releasedCount > 0
    · rw [if_pos hreleased]
      exact .inr (.inr ⟨rfl, hreleased, rfl⟩)
    · rw [if_neg hreleased]
      exact .inr (.inl ⟨Nat.eq_zero_of_not_pos hreleased, rfl⟩)

theorem wakeWaiter_cases [DecidableEq θ] (wakes : Option θ) :
    ((p.lockedGroupHasTasksWaitingOrInflight g = true ∨ (p.group g).waitingCount = 0) ∧
      p.lockedGroupWakeWaiterIfAllowed g wakes = some p) ∨
    (p.lockedGroupHasTasksWaitingOrInflight g = false ∧ 0 < (p.group g).waitingCount ∧
      p.initialWorkerLimit < p.workerLimit ∧
      p.lockedGroupWakeWaiterIfAllowed g wakes =
        some
          { p.setGroup g (fun G =>
              { G with waitingCond := G.waitingCond.signal wakes, releasedCount := G.releasedCount + 1 }) with
            workerLimit := p.workerLimit - 1 }) ∨
    (p.lockedGroupHasTasksWaitingOrInflight g = false ∧ 0 < (p.group g).waitingCount ∧
      p.workerLimit ≤ p.initialWorkerLimit ∧ p.lockedGroupWakeWaiterIfAllowed g wakes = none) := by
  unfold lockedGroupWakeWaiterIfAllowed
  cases hbusy : p.lockedGroupHasTasksWaitingOrInflight g with
  | true => exact .inl ⟨.inl rfl, if_pos rfl⟩
  | false =>
    rw [if_neg Bool.false_ne_true]
    by_cases hwaiting : (p.group g).waitingCount = 0
    · exact .inl ⟨.inr hwaiting, if_pos hwaiting⟩
    · have hpos := Nat.pos_of_ne_zero hwaiting
      rw [if_neg hwaiting]
      by_cases hlimit : p.workerLimit > p.initialWorkerLimit
      · refine .inr (.inl ⟨rfl, hpos, hlimit, (if_pos hlimit).trans (congrArg some ?_)⟩)
        simp only [setGroup, Function.update_self, Function.update_idem]
      · exact .inr (.inr ⟨rfl, hpos, Nat.not_lt.1 hlimit, if_neg hlimit⟩)

end Donating

end WorkerPool

/-! ## The books -/

namespace WorkerSystem

/-- The number of tasks of a kind that are being worked on. -/
def running (s : WorkerSystem θ n m) (P : WorkerTask m → Bool) : ℕ := tally fun w => (s.worker w).worksOn P

structure Counts (s : WorkerSystem θ n m) : Prop where
  tasks : s.pool.tasksInArrayCount = s.pool.queued fun _ => true
  groupTasks : ∀ g, (s.pool.group g).currentTasksInArray = s.pool.queued fun task => task.g == g
  working : s.pool.workingCount = s.running fun _ => true
  groupWorking : ∀ g, (s.pool.group g).currentWorkingTasks = s.running fun task => task.g == g
  available : s.pool.availableCount = s.pool.availableCond.waiting.length
  waiting : ∀ g, (s.pool.group g).waitingCount = (s.pool.group g).waitingCond.waiting.length
  pushed : ∀ P, s.pushed.countP P = s.pool.queued P + s.started.countP P
  started : ∀ P, s.started.countP P = s.running P + s.finished.countP P
  limit : s.pool.workingCount ≤ s.pool.workerLimit

variable {s : WorkerSystem θ n m}

@[simp] theorem pool_setCaller [DecidableEq θ] (t : θ) (state : CallerState m) : (s.setCaller t state).pool = s.pool :=
  rfl
@[simp] theorem pool_leave [DecidableEq θ] (t : θ) (g : Fin m) (pushing : Option (WorkerTask m)) :
    (s.leave t g pushing).pool = s.pool := rfl

theorem running_setWorker (w : Fin n) (state : WorkerState m) (P : WorkerTask m → Bool) :
    (s.setWorker w state).running P + ((s.worker w).worksOn P).toNat = s.running P + (state.worksOn P).toNat :=
  tally_update (WorkerState.worksOn P) s.worker w state

theorem countP_cons_toNat {α : Type} (P : α → Bool) (a : α) (l : List α) :
    (a :: l).countP P = l.countP P + (P a).toNat := by
  rw [List.countP_cons]
  cases P a <;> rfl

theorem runFunc_cases (htasks : s.pool.tasksInArrayCount = s.pool.queued fun _ => true) (w : Fin n)
    (wakes : Option (Fin n)) :
    (s.pool.lockedThreadAllowedToWork = false ∧
      s.runFunc w wakes = { s with pool := s.pool.lockedThreadWaitForWork w }.setWorker w .waiting) ∨
    ∃ i task cond, s.pool.tasks i = some task ∧ s.pool.workingCount < s.pool.workerLimit ∧
      Roused s.pool.availableCond cond ∧
      s.runFunc w wakes =
        { s with
          pool := { s.pool.taken i task with workingCount := s.pool.workingCount + 1, availableCond := cond }
          started := task :: s.started }.setWorker w (.working task) := by
  unfold runFunc
  cases hallowed : s.pool.lockedThreadAllowedToWork with
  | false => exact .inl ⟨rfl, if_pos rfl⟩
  | true =>
    have hpos : 0 < s.pool.tasksInArrayCount ∧ s.pool.workingCount < s.pool.workerLimit := by
      simp only [WorkerPool.lockedThreadAllowedToWork] at hallowed
      split at hallowed
      · cases hallowed
      · split at hallowed
        · cases hallowed
        · omega
    obtain ⟨i, task, htask, hpop⟩ := WorkerPool.pop_eq htasks hpos.1
    rw [if_neg (by decide), hpop]
    obtain ⟨cond, hwake, hroused, -⟩ := WorkerPool.wake_eq
      { s.pool.taken i task with workingCount := s.pool.workingCount + 1 } wakes
    refine .inr ⟨i, task, cond, htask, hpos.2, hroused, ?_⟩
    exact congrArg (fun p => ({ s with pool := p, started := task :: s.started } : WorkerSystem θ n m).setWorker w
      (.working task)) hwake

theorem waitLoop_cases [DecidableEq θ] (s : WorkerSystem θ n m) (t : θ) (g : Fin m) (pushing : Option (WorkerTask m))
    (wakes : Option (Fin n)) :
    (s.pool.lockedGroupHasTasksWaitingOrInflight g = true ∧ 0 < (s.pool.group g).releasedCount ∧
      ∃ cond,
        WorkerPool.WakesWorker
          { s.pool.setGroup g (fun G => { G with releasedCount := G.releasedCount - 1 }) with
            workerLimit := s.pool.workerLimit + 1 } cond ∧
        s.waitLoop t g pushing wakes =
          { s with
            pool :=
              { s.pool.setGroup g (fun G =>
                  { G with
                    releasedCount := G.releasedCount - 1
                    waitingCount := G.waitingCount + 1
                    waitingCond := G.waitingCond.wait t }) with
                workerLimit := s.pool.workerLimit + 1
                availableCond := cond } }.setCaller t (.waiting g pushing)) ∨
    ((s.pool.group g).releasedCount = 0 ∧
      s.waitLoop t g pushing wakes = { s with pool := s.pool.lockedGroupWait g t }.setCaller t (.waiting g pushing)) ∨
    (s.pool.lockedGroupHasTasksWaitingOrInflight g = false ∧ 0 < (s.pool.group g).releasedCount ∧
      s.waitLoop t g pushing wakes =
        { s with pool := s.pool.setGroup g fun G => { G with releasedCount := G.releasedCount - 1 } }.leave t g
          pushing) := by
  unfold waitLoop
  rcases s.pool.shouldWait_cases g wakes with ⟨hbusy, hreleased, cond, hwakes, heq⟩ | ⟨hreleased, heq⟩ |
    ⟨hidle, hreleased, heq⟩
  · refine .inl ⟨hbusy, hreleased, cond, hwakes, ?_⟩
    rw [heq]
    have hgroup := s.pool.setGroup_setGroup g (fun G => { G with releasedCount := G.releasedCount - 1 })
      fun G => { G with waitingCount := G.waitingCount + 1, waitingCond := G.waitingCond.wait t }
    exact congrArg (fun p : WorkerPool θ n m =>
      ({ s with
        pool := { p with workerLimit := s.pool.workerLimit + 1, availableCond := cond } } :
        WorkerSystem θ n m).setCaller t (.waiting g pushing)) hgroup
  · refine .inr (.inl ⟨hreleased, ?_⟩)
    rw [heq]
  · refine .inr (.inr ⟨hidle, hreleased, ?_⟩)
    rw [heq]

theorem waitAll_cases [DecidableEq θ] (s : WorkerSystem θ n m) (t : θ) (g : Fin m) (pushing : Option (WorkerTask m))
    (wakes : Option (Fin n)) :
    (s.pool.lockedGroupHasTasksWaitingOrInflight g = false ∧
      s.waitAll t g pushing wakes = s.leave t g pushing) ∨
    (s.pool.lockedGroupHasTasksWaitingOrInflight g = true ∧
      ∃ cond, WorkerPool.WakesWorker { s.pool with workerLimit := s.pool.workerLimit + 1 } cond ∧
        s.waitAll t g pushing wakes =
          { s with
            pool :=
              { s.pool.lockedGroupWait g t with
                workerLimit := s.pool.workerLimit + 1
                availableCond := cond } }.setCaller t (.waiting g pushing)) := by
  unfold waitAll
  cases hbusy : s.pool.lockedGroupHasTasksWaitingOrInflight g with
  | false => exact .inl ⟨rfl, if_pos rfl⟩
  | true =>
    rw [if_neg (by decide)]
    refine .inr ⟨rfl, ?_⟩
    have hself := WorkerPool.setGroup_self (p := s.pool) g fun G => { G with releasedCount := G.releasedCount + 1 }
    rcases waitLoop_cases
      { s with pool := s.pool.setGroup g fun G => { G with releasedCount := G.releasedCount + 1 } } t g pushing wakes with
      ⟨-, -, cond, hwakes, heq⟩ | ⟨hreleased, -⟩ | ⟨hidle, -⟩
    · refine ⟨cond, ⟨hwakes.roused, hwakes.woken⟩, ?_⟩
      rw [heq]
      simp only [WorkerPool.setGroup_setGroup]
      rfl
    · rw [hself] at hreleased
      cases hreleased
    · have hsame := WorkerPool.hasTasks_setGroup (p := s.pool) (g := g)
        (f := fun G => { G with releasedCount := G.releasedCount + 1 }) rfl rfl
      rw [hsame, hbusy] at hidle
      cases hidle

namespace Counts

variable {w : Fin n}

theorem waitForWork (h : s.Counts) (hw : s.worker w = .looping) :
    ({ s with pool := s.pool.lockedThreadWaitForWork w }.setWorker w .waiting).Counts := by
  have hrunning : ∀ P, ({ s with pool := s.pool.lockedThreadWaitForWork w }.setWorker w .waiting).running P =
      s.running P := by
    intro P
    have hset := running_setWorker (s := { s with pool := s.pool.lockedThreadWaitForWork w }) w .waiting P
    rw [show ({ s with pool := s.pool.lockedThreadWaitForWork w } : WorkerSystem θ n m).worker w = .looping from hw]
      at hset
    exact hset
  exact
    { tasks := h.tasks
      groupTasks := h.groupTasks
      working := h.working.trans (hrunning _).symm
      groupWorking := fun g => (h.groupWorking g).trans (hrunning _).symm
      available := congrArg (· + 1) h.available
      waiting := h.waiting
      pushed := h.pushed
      started := fun P => by rw [hrunning]; exact h.started P
      limit := h.limit }

variable {cond : CondVar (Fin n)}

theorem take (h : s.Counts) (hw : s.worker w = .looping) {i : Fin MAX_TASK_COUNT} {task : WorkerTask m}
    (htask : s.pool.tasks i = some task) (hlimit : s.pool.workingCount < s.pool.workerLimit)
    (hcond : Roused s.pool.availableCond cond) :
    ({ s with
      pool := { s.pool.taken i task with workingCount := s.pool.workingCount + 1, availableCond := cond }
      started := task :: s.started }.setWorker w (.working task)).Counts := by
  set t := { s with
    pool := { s.pool.taken i task with workingCount := s.pool.workingCount + 1, availableCond := cond }
    started := task :: s.started }.setWorker w (.working task)
  have hrunning : ∀ P, t.running P = s.running P + (P task).toNat := by
    intro P
    have hset := running_setWorker (s := s) w (.working task) P
    rw [hw] at hset
    exact hset
  have hqueued : ∀ P, t.pool.queued P + (P task).toNat = s.pool.queued P := WorkerPool.queued_taken htask
  have hstarted : ∀ P, t.started.countP P = s.started.countP P + (P task).toNat := fun P => countP_cons_toNat ..
  constructor
  · have hall := hqueued fun _ => true
    rw [Bool.toNat_true, ← h.tasks] at hall
    exact (Nat.eq_sub_of_add_eq hall).symm
  · intro g
    have hg := hqueued fun task => task.g == g
    have hpos : 0 < (s.pool.group task.g).currentTasksInArray := by
      have hself := hqueued fun task' => task'.g == task.g
      rw [beq_self_eq_true, Bool.toNat_true, ← h.groupTasks] at hself
      omega
    rw [← h.groupTasks, ← WorkerPool.currentTasksInArray_taken (i := i) g hpos] at hg
    exact (Nat.add_right_cancel hg).symm
  · rw [hrunning, ← h.working]
    rfl
  · intro g
    rw [hrunning, ← h.groupWorking]
    exact WorkerPool.currentWorkingTasks_taken g
  · exact h.available.trans hcond.waiting.length_eq.symm
  · intro g
    have hwaiting := h.waiting g
    rw [← @WorkerPool.waitingCount_taken θ n m s.pool i task g, ← @WorkerPool.waitingCond_taken θ n m s.pool i task g]
      at hwaiting
    exact hwaiting
  · intro P
    rw [hstarted, ← Nat.add_assoc, Nat.add_right_comm, hqueued]
    exact h.pushed P
  · intro P
    rw [hstarted, h.started, hrunning]
    exact Nat.add_right_comm ..
  · exact hlimit

theorem runFunc [DecidableEq θ] (h : s.Counts) (hw : s.worker w = .looping) (wakes : Option (Fin n)) :
    (s.runFunc w wakes).Counts := by
  rcases runFunc_cases h.tasks w wakes with ⟨-, heq⟩ | ⟨i, task, cond, htask, hlimit, hcond, heq⟩
  · rw [heq]
    exact h.waitForWork hw
  · rw [heq]
    exact h.take hw htask hlimit hcond

theorem congr (h : s.Counts) {p : WorkerPool θ n m} (htasks : p.tasks = s.pool.tasks)
    (hcount : p.tasksInArrayCount = s.pool.tasksInArrayCount) (hworking : p.workingCount = s.pool.workingCount)
    (hgroup : ∀ g, (p.group g).currentTasksInArray = (s.pool.group g).currentTasksInArray ∧
      (p.group g).currentWorkingTasks = (s.pool.group g).currentWorkingTasks)
    (havailable : p.availableCount = p.availableCond.waiting.length)
    (hwaiting : ∀ g, (p.group g).waitingCount = (p.group g).waitingCond.waiting.length)
    (hlimit : p.workingCount ≤ p.workerLimit) : ({ s with pool := p } : WorkerSystem θ n m).Counts := by
  have hqueued : ∀ P, p.queued P = s.pool.queued P := fun P => by rw [WorkerPool.queued, htasks]; rfl
  exact
    { tasks := by rw [hcount, h.tasks, hqueued]
      groupTasks := fun g => by rw [(hgroup g).1, h.groupTasks, hqueued]
      working := hworking.trans h.working
      groupWorking := fun g => (hgroup g).2.trans (h.groupWorking g)
      available := havailable
      waiting := hwaiting
      pushed := fun P => by rw [hqueued]; exact h.pushed P
      started := h.started
      limit := hlimit }

theorem setGroup (h : s.Counts) {g : Fin m} {f : WorkerGroup θ → WorkerGroup θ} {limit : ℕ}
    (htasks : (f (s.pool.group g)).currentTasksInArray = (s.pool.group g).currentTasksInArray)
    (hworking : (f (s.pool.group g)).currentWorkingTasks = (s.pool.group g).currentWorkingTasks)
    (hwaiting : (f (s.pool.group g)).waitingCount = (f (s.pool.group g)).waitingCond.waiting.length)
    (hlimit : s.pool.workingCount ≤ limit) (hcond : Roused s.pool.availableCond cond) :
    ({ s with pool := { s.pool.setGroup g f with workerLimit := limit, availableCond := cond } } :
      WorkerSystem θ n m).Counts := by
  refine h.congr rfl rfl rfl (fun g' => ⟨?_, ?_⟩) (h.available.trans hcond.waiting.length_eq.symm) (fun g' => ?_) hlimit
  · exact WorkerPool.setGroup_keeps (·.currentTasksInArray) htasks g'
  · exact WorkerPool.setGroup_keeps (·.currentWorkingTasks) hworking g'
  · change ((s.pool.setGroup g f).group g').waitingCount = ((s.pool.setGroup g f).group g').waitingCond.waiting.length
    by_cases hg : g' = g
    · rw [hg, WorkerPool.setGroup_self]
      exact hwaiting
    · rw [WorkerPool.setGroup_of_ne hg]
      exact h.waiting g'

theorem setCaller [DecidableEq θ] (h : s.Counts) (t : θ) (state : CallerState m) : (s.setCaller t state).Counts :=
  ⟨h.tasks, h.groupTasks, h.working, h.groupWorking, h.available, h.waiting, h.pushed, h.started, h.limit⟩

theorem leave [DecidableEq θ] (h : s.Counts) (t : θ) (g : Fin m) (pushing : Option (WorkerTask m)) :
    (s.leave t g pushing).Counts :=
  ⟨h.tasks, h.groupTasks, h.working, h.groupWorking, h.available, h.waiting, h.pushed, h.started, h.limit⟩

theorem waitLoop [DecidableEq θ] (h : s.Counts) (t : θ) (g : Fin m) (pushing : Option (WorkerTask m))
    (wakes : Option (Fin n)) : (s.waitLoop t g pushing wakes).Counts := by
  have hwait := congrArg (· + 1) (h.waiting g)
  rcases s.waitLoop_cases t g pushing wakes with ⟨-, -, cond, hwakes, heq⟩ | ⟨-, heq⟩ | ⟨-, -, heq⟩
  · rw [heq]
    exact (h.setGroup (f := fun G => { G with
      releasedCount := G.releasedCount - 1
      waitingCount := G.waitingCount + 1
      waitingCond := G.waitingCond.wait t }) rfl rfl hwait (Nat.le_succ_of_le h.limit) hwakes.roused).setCaller t _
  · rw [heq]
    exact (h.setGroup (f := fun G => { G with
      waitingCount := G.waitingCount + 1
      waitingCond := G.waitingCond.wait t }) rfl rfl hwait h.limit (.refl _)).setCaller t _
  · rw [heq]
    exact (h.setGroup (f := fun G => { G with releasedCount := G.releasedCount - 1 }) rfl rfl (h.waiting g) h.limit
      (.refl _)).leave t g pushing

theorem waitAll [DecidableEq θ] (h : s.Counts) (t : θ) (g : Fin m) (pushing : Option (WorkerTask m))
    (wakes : Option (Fin n)) : (s.waitAll t g pushing wakes).Counts := by
  unfold WorkerSystem.waitAll
  split
  · exact h.leave t g pushing
  · exact (h.setGroup (f := fun G => { G with releasedCount := G.releasedCount + 1 }) rfl rfl (h.waiting g) h.limit
      (.refl _)).waitLoop t g pushing wakes

theorem woken [DecidableEq θ] (h : s.Counts) {t : θ} {g : Fin m} {p : WorkerPool θ n m}
    (hp : s.pool.lockedGroupWoken g t = some p) : ({ s with pool := p } : WorkerSystem θ n m).Counts := by
  obtain ⟨cond, hresume, rfl⟩ := Option.map_eq_some_iff.1 hp
  have hlength := (waiting_resume hresume).length_eq
  refine h.setGroup (f := fun G => { G with waitingCount := G.waitingCount - 1, waitingCond := cond }) rfl rfl ?_ h.limit
    (.refl _)
  have hwaiting := h.waiting g
  rw [List.length_cons] at hlength
  change (s.pool.group g).waitingCount - 1 = cond.waiting.length
  omega

theorem workerWoken (h : s.Counts) [DecidableEq θ] (hw : s.worker w = .waiting) {p : WorkerPool θ n m}
    (hp : s.pool.lockedThreadWoken w = some p) : ({ s with pool := p }.setWorker w .looping).Counts := by
  obtain ⟨cond, hresume, rfl⟩ := Option.map_eq_some_iff.1 hp
  have hlength := (waiting_resume hresume).length_eq
  rw [List.length_cons, ← h.available] at hlength
  have hrunning : ∀ P, (s.setWorker w .looping).running P = s.running P := by
    intro P
    have hset := running_setWorker (s := s) w .looping P
    rw [hw] at hset
    exact hset
  exact
    { tasks := h.tasks
      groupTasks := h.groupTasks
      working := h.working.trans (hrunning _).symm
      groupWorking := fun g => (h.groupWorking g).trans (hrunning _).symm
      available := (Nat.eq_sub_of_add_eq hlength.symm).symm
      waiting := h.waiting
      pushed := h.pushed
      started := fun P => (h.started P).trans (congrArg (· + _) (hrunning P).symm)
      limit := h.limit }

theorem done (h : s.Counts) {task : WorkerTask m} (hw : s.worker w = .working task) :
    ({ s with pool := s.pool.done task.g, finished := task :: s.finished }.setWorker w .looping).Counts ∧
      (s.pool.done task.g).workingCount < s.pool.workerLimit ∧
      ((s.pool.done task.g).group task.g).currentTasksInArray ≤ s.pool.tasksInArrayCount := by
  set t := { s with pool := s.pool.done task.g, finished := task :: s.finished }.setWorker w .looping
  have hrunning : ∀ P, t.running P + (P task).toNat = s.running P := by
    intro P
    have hset := running_setWorker (s := s) w .looping P
    rw [hw] at hset
    exact hset
  have hfinished : ∀ P, t.finished.countP P = s.finished.countP P + (P task).toNat := fun P => countP_cons_toNat ..
  have hall := hrunning fun _ => true
  rw [Bool.toNat_true, ← h.working] at hall
  have hlimit : (s.pool.done task.g).workingCount < s.pool.workerLimit := by
    have hle := h.limit
    change s.pool.workingCount - 1 < _
    omega
  have hself := hrunning fun task' => task'.g == task.g
  rw [beq_self_eq_true, Bool.toNat_true, ← h.groupWorking] at hself
  have hpos : 0 < (s.pool.group task.g).currentWorkingTasks := Nat.lt_of_lt_of_eq (Nat.succ_pos _) hself
  refine ⟨?_, hlimit, ?_⟩
  · constructor
    · exact h.tasks
    · exact fun g => (WorkerPool.currentTasksInArray_done g).trans (h.groupTasks g)
    · exact (Nat.eq_sub_of_add_eq hall).symm
    · intro g
      have hg := hrunning fun task => task.g == g
      rw [← h.groupWorking, ← WorkerPool.currentWorkingTasks_done g hpos] at hg
      exact (Nat.add_right_cancel hg).symm
    · exact h.available
    · intro g
      have hwaiting := h.waiting g
      rw [← @WorkerPool.waitingCount_done θ n m s.pool task g, ← @WorkerPool.waitingCond_done θ n m s.pool task g]
        at hwaiting
      exact hwaiting
    · exact h.pushed
    · intro P
      rw [hfinished, ← Nat.add_assoc, Nat.add_right_comm, hrunning]
      exact h.started P
    · exact Nat.le_of_lt hlimit
  · rw [h.tasks]
    rw [WorkerPool.currentTasksInArray_done, h.groupTasks]
    exact WorkerPool.queued_le ..

theorem push (h : s.Counts) {i : Fin MAX_TASK_COUNT} (hi : s.pool.tasks i = none) (task : WorkerTask m)
    (hcond : Roused s.pool.availableCond cond) :
    ({ s with pool := { s.pool.put i task with availableCond := cond }, pushed := task :: s.pushed } :
      WorkerSystem θ n m).Counts := by
  have hqueued := @WorkerPool.queued_put θ n m s.pool i task hi
  constructor
  · refine (congrArg (· + 1) h.tasks).trans ?_
    exact (hqueued fun _ => true).symm
  · intro g
    refine (WorkerPool.currentTasksInArray_put g).trans ?_
    rw [h.groupTasks]
    exact (hqueued fun task => task.g == g).symm
  · exact h.working
  · exact fun g => (WorkerPool.currentWorkingTasks_put g).trans (h.groupWorking g)
  · exact h.available.trans hcond.waiting.length_eq.symm
  · intro g
    have hwaiting := h.waiting g
    rw [← @WorkerPool.waitingCount_put θ n m s.pool i task g, ← @WorkerPool.waitingCond_put θ n m s.pool i task g]
      at hwaiting
    exact hwaiting
  · intro P
    have hpushed := h.pushed P
    change (task :: s.pushed).countP P = (s.pool.put i task).queued P + s.started.countP P
    rw [countP_cons_toNat, hqueued, hpushed]
    exact Nat.add_right_comm ..
  · exact h.started
  · exact h.limit

end Counts

/-! ## Every section keeps the books -/

def afterTask (s : WorkerSystem θ n m) (w : Fin n) (task : WorkerTask m) : WorkerSystem θ n m :=
  { s with pool := s.pool.done task.g, finished := task :: s.finished }.setWorker w .looping

section Sections

variable [DecidableEq θ]

theorem complete_cases (h : s.Counts) {w : Fin n} {task : WorkerTask m} (hw : s.worker w = .working task)
    (wakesWaiter : Option θ) (wakes : Option (Fin n)) :
    ((((s.pool.done task.g).lockedGroupHasTasksWaitingOrInflight task.g = true ∨
        (s.pool.group task.g).waitingCount = 0)) ∧
      s.complete w task wakesWaiter wakes = (s.afterTask w task).runFunc w wakes) ∨
    ((s.pool.done task.g).lockedGroupHasTasksWaitingOrInflight task.g = false ∧
      0 < (s.pool.group task.g).waitingCount ∧
      s.complete w task wakesWaiter wakes =
        { s.afterTask w task with
          pool :=
            { (s.pool.done task.g).setGroup task.g (fun G =>
                { G with waitingCond := G.waitingCond.signal wakesWaiter, releasedCount := G.releasedCount + 1 }) with
              workerLimit := s.pool.workerLimit - 1 } }.runFunc w wakes) ∨
    ((s.pool.done task.g).lockedGroupHasTasksWaitingOrInflight task.g = false ∧
      0 < (s.pool.group task.g).waitingCount ∧ s.pool.workerLimit ≤ s.pool.initialWorkerLimit ∧
      s.complete w task wakesWaiter wakes = { s with finished := task :: s.finished }.abort) := by
  have hassert : ((s.pool.done task.g).group task.g).currentTasksInArray ≤ (s.pool.done task.g).tasksInArrayCount :=
    (h.done hw).2.2
  have hcomplete : s.complete w task wakesWaiter wakes =
      ((s.pool.done task.g).lockedGroupWakeWaiterIfAllowed task.g wakesWaiter).elim
        { s with finished := task :: s.finished }.abort fun p =>
          { s.afterTask w task with pool := p }.runFunc w wakes := by
    unfold complete
    refine (if_pos hassert).trans ?_
    generalize hwake : WorkerPool.lockedGroupWakeWaiterIfAllowed _ task.g wakesWaiter = r
    have hdone : (s.pool.done task.g).lockedGroupWakeWaiterIfAllowed task.g wakesWaiter = r := hwake
    rw [hdone]
    cases r <;> rfl
  have hwaiting := @WorkerPool.waitingCount_done θ n m s.pool task task.g
  rcases (s.pool.done task.g).wakeWaiter_cases task.g wakesWaiter with ⟨hnot, heq⟩ | ⟨hidle, hpos, -, heq⟩ |
    ⟨hidle, hpos, hlimit, heq⟩
  · rw [heq] at hcomplete
    rw [hwaiting] at hnot
    exact .inl ⟨hnot, hcomplete⟩
  · rw [heq] at hcomplete
    rw [hwaiting] at hpos
    exact .inr (.inl ⟨hidle, hpos, hcomplete⟩)
  · rw [heq] at hcomplete
    rw [hwaiting] at hpos
    exact .inr (.inr ⟨hidle, hpos, hlimit, hcomplete⟩)

theorem push_cases (h : s.Counts) (t : θ) (task : WorkerTask m) (wakes : Option (Fin n)) :
    s.push t task wakes = s.setCaller t (.full task) ∨
    ∃ i cond, s.pool.tasks i = none ∧ Roused s.pool.availableCond cond ∧
      (s.pool.availableCount ≠ 0 → s.pool.availableCond.waiting ≠ [] → cond.woken ≠ []) ∧
      s.push t task wakes =
        { s with
          pool := { s.pool.put i task with availableCond := cond }
          pushed := task :: s.pushed }.setCaller t .outside := by
  unfold push
  split
  · exact .inl rfl
  · rename_i hroom
    obtain ⟨i, hi, hpush⟩ := WorkerPool.push_eq h.tasks (Nat.lt_of_not_le hroom) task
    rw [hpush]
    by_cases havailable : (s.pool.put i task).availableCount > 0
    · refine .inr ⟨i, s.pool.availableCond.signal wakes, hi, roused_signal, fun _ hne => woken_signal_ne_nil hne, ?_⟩
      simp only
      rw [if_pos havailable]
      rfl
    · refine .inr ⟨i, s.pool.availableCond, hi, .refl _, fun hne => absurd (Nat.pos_of_ne_zero hne) havailable, ?_⟩
      simp only
      rw [if_neg havailable]
      rfl

inductive Does (s : WorkerSystem θ n m) : Action θ n m → WorkerSystem θ n m → Prop
  | call {a : Action θ n m} (t : θ) (state : CallerState m)
      (ha : (∃ task, a = .beginPush t task) ∨ ∃ wakes, a = .push t wakes) : Does s a (s.setCaller t state)
  | push {i : Fin MAX_TASK_COUNT} {cond : CondVar (Fin n)} (t : θ) (task : WorkerTask m) (wakes : Option (Fin n))
      (hi : s.pool.tasks i = none) (hcond : Roused s.pool.availableCond cond)
      (hwoken : s.pool.availableCount ≠ 0 → s.pool.availableCond.waiting ≠ [] → cond.woken ≠ []) :
      Does s (.push t wakes)
        ({ s with
          pool := { s.pool.put i task with availableCond := cond }
          pushed := task :: s.pushed }.setCaller t .outside)
  | waitAll {a : Action θ n m} (t : θ) (g : Fin m) (pushing : Option (WorkerTask m)) (wakes : Option (Fin n))
      (ha : a = .waitAll t g wakes ∨ a = .waitFull t wakes) : Does s a (s.waitAll t g pushing wakes)
  | wakeWaiter {t : θ} {g : Fin m} {cond : CondVar θ} (hspurious : (s.pool.group g).waitingCond.spurious t = some cond) :
      Does s (.wakeWaiter t) { s with pool := s.pool.setGroup g fun G => { G with waitingCond := cond } }
  | resumeWaiter {t : θ} {g : Fin m} {pushing : Option (WorkerTask m)} {p : WorkerPool θ n m} (wakes : Option (Fin n))
      (ht : s.caller t = .waiting g pushing) (hp : s.pool.lockedGroupWoken g t = some p) :
      Does s (.resumeWaiter t wakes) ({ s with pool := p }.waitLoop t g pushing wakes)
  | startWorker {w : Fin n} (wakes : Option (Fin n)) (hw : s.worker w = .looping) :
      Does s (.startWorker w wakes) (s.runFunc w wakes)
  | wakeWorker {w : Fin n} {cond : CondVar (Fin n)} (hspurious : s.pool.availableCond.spurious w = some cond) :
      Does s (.wakeWorker w) { s with pool := { s.pool with availableCond := cond } }
  | resumeWorker {w : Fin n} {p : WorkerPool θ n m} (wakes : Option (Fin n)) (hw : s.worker w = .waiting)
      (hp : s.pool.lockedThreadWoken w = some p) :
      Does s (.resumeWorker w wakes) (({ s with pool := p }.setWorker w .looping).runFunc w wakes)

variable {s' : WorkerSystem θ n m} {a : Action θ n m}

theorem Does.ne_complete (h : s.Does a s') (w : Fin n) (wakesWaiter : Option θ) (wakes : Option (Fin n)) :
    a ≠ .complete w wakesWaiter wakes := by
  rintro rfl
  cases h with
  | call t state ha =>
    rcases ha with ⟨task, ha⟩ | ⟨wakes', ha⟩
    · cases ha
    · cases ha
  | waitAll t g pushing wakes' ha =>
    rcases ha with ha | ha
    · cases ha
    · cases ha

theorem Counts.live_cases (h : s.Counts) (hstep : s.live a = some s') :
    s.Does a s' ∨ ∃ w task wakesWaiter wakes, a = .complete w wakesWaiter wakes ∧ s.worker w = .working task ∧
      s' = s.complete w task wakesWaiter wakes := by
  cases a with
  | beginPush t task =>
    simp only [live] at hstep
    split at hstep
    · cases hstep
      exact .inl (.call t _ (.inl ⟨task, rfl⟩))
    · cases hstep
  | push t wakes =>
    simp only [live] at hstep
    split at hstep
    · rename_i task _
      cases hstep
      rcases push_cases h t task wakes with heq | ⟨i, cond, hi, hcond, hwoken, heq⟩
      · rw [heq]
        exact .inl (.call t _ (.inr ⟨wakes, rfl⟩))
      · rw [heq]
        exact .inl (.push t task wakes hi hcond hwoken)
    · cases hstep
  | waitAll t g wakes =>
    simp only [live] at hstep
    split at hstep
    · cases hstep
      exact .inl (.waitAll t g none wakes (.inl rfl))
    · cases hstep
  | waitFull t wakes =>
    simp only [live] at hstep
    split at hstep
    · cases hstep
      exact .inl (.waitAll t _ _ wakes (.inr rfl))
    · cases hstep
  | wakeWaiter t =>
    simp only [live] at hstep
    split at hstep
    · obtain ⟨cond, hspurious, rfl⟩ := Option.map_eq_some_iff.1 hstep
      exact .inl (.wakeWaiter hspurious)
    · cases hstep
  | resumeWaiter t wakes =>
    simp only [live] at hstep
    split at hstep
    · rename_i ht
      obtain ⟨p, hp, rfl⟩ := Option.map_eq_some_iff.1 hstep
      exact .inl (.resumeWaiter wakes ht hp)
    · cases hstep
  | startWorker w wakes =>
    simp only [live] at hstep
    split at hstep
    · rename_i hw
      cases hstep
      exact .inl (.startWorker wakes hw)
    · cases hstep
  | wakeWorker w =>
    obtain ⟨cond, hspurious, rfl⟩ := Option.map_eq_some_iff.1 hstep
    exact .inl (.wakeWorker hspurious)
  | resumeWorker w wakes =>
    simp only [live] at hstep
    split at hstep
    · rename_i hw
      obtain ⟨p, hp, rfl⟩ := Option.map_eq_some_iff.1 hstep
      exact .inl (.resumeWorker wakes hw hp)
    · cases hstep
  | complete w wakesWaiter wakes =>
    simp only [live] at hstep
    split at hstep
    · rename_i task hw
      cases hstep
      exact .inr ⟨w, task, wakesWaiter, wakes, rfl, hw, rfl⟩
    · cases hstep

theorem Counts.does (h : s.Counts) (hdoes : s.Does a s') : s'.Counts := by
  cases hdoes with
  | call t state => exact h.setCaller t state
  | push t task wakes hi hcond => exact (h.push hi task hcond).setCaller t _
  | waitAll t g pushing wakes => exact h.waitAll t g pushing wakes
  | wakeWaiter hspurious =>
    rename_i t g cond
    refine h.setGroup (f := fun G => { G with waitingCond := cond }) rfl rfl ?_ h.limit (.refl _)
    exact (h.waiting g).trans (waiting_spurious hspurious).length_eq.symm
  | resumeWaiter wakes ht hp => exact (h.woken hp).waitLoop _ _ _ wakes
  | startWorker wakes hw => exact h.runFunc hw wakes
  | wakeWorker hspurious =>
    refine h.congr rfl rfl rfl (fun _ => ⟨rfl, rfl⟩) ?_ h.waiting h.limit
    exact h.available.trans (waiting_spurious hspurious).length_eq.symm
  | resumeWorker wakes hw hp => exact (h.workerWoken hw hp).runFunc (Function.update_self ..) wakes

theorem Counts.released (h : s.Counts) {w : Fin n} {task : WorkerTask m} (hw : s.worker w = .working task)
    (wakesWaiter : Option θ) :
    ({ s.afterTask w task with
      pool :=
        { (s.pool.done task.g).setGroup task.g (fun G =>
            { G with waitingCond := G.waitingCond.signal wakesWaiter, releasedCount := G.releasedCount + 1 }) with
          workerLimit := s.pool.workerLimit - 1 } } : WorkerSystem θ n m).Counts := by
  obtain ⟨hdone, hroom, -⟩ := h.done hw
  refine hdone.setGroup (f := fun G => { G with
    waitingCond := G.waitingCond.signal wakesWaiter
    releasedCount := G.releasedCount + 1 }) rfl rfl ?_ (Nat.le_sub_one_of_lt hroom) (.refl _)
  exact (hdone.waiting task.g).trans waiting_signal.length_eq.symm

theorem Counts.step (h : s.Counts) (hstep : s.step a = some s') (halive : s'.aborted = false) : s'.Counts := by
  unfold WorkerSystem.step at hstep
  split at hstep
  · cases hstep
  · have h' : ({ s with returned := none } : WorkerSystem θ n m).Counts :=
      ⟨h.tasks, h.groupTasks, h.working, h.groupWorking, h.available, h.waiting, h.pushed, h.started, h.limit⟩
    rcases h'.live_cases hstep with hdoes | ⟨w, task, wakesWaiter, wakes, -, hw, rfl⟩
    · exact h'.does hdoes
    · rcases complete_cases h' hw wakesWaiter wakes with ⟨-, heq⟩ | ⟨-, -, heq⟩ | ⟨-, -, -, heq⟩
      · rw [heq]
        exact (h'.done hw).1.runFunc (Function.update_self ..) wakes
      · rw [heq]
        exact (h'.released hw wakesWaiter).runFunc (Function.update_self ..) wakes
      · rw [heq] at halive
        cases halive

omit [DecidableEq θ] in
theorem counts_create {startingWorkerCount : ℕ} {s : WorkerSystem θ n m} (h : create startingWorkerCount = some s) :
    s.Counts ∧ s.aborted = false := by
  obtain ⟨p, hp, rfl⟩ := Option.map_eq_some_iff.1 h
  unfold WorkerPool.create at hp
  split at hp
  · cases hp
    have hqueued : ∀ P : WorkerTask m → Bool, tally (fun _ : Fin MAX_TASK_COUNT => (none : Option (WorkerTask m)).any P)
      = 0 := fun P => tally_eq_zero.2 fun _ => rfl
    have hrunning : ∀ P : WorkerTask m → Bool, tally (fun _ : Fin n => WorkerState.looping.worksOn P) = 0 :=
      fun P => tally_eq_zero.2 fun _ => rfl
    refine ⟨?_, rfl⟩
    constructor
    · exact (hqueued _).symm
    · exact fun _ => (hqueued _).symm
    · exact (hrunning _).symm
    · exact fun _ => (hrunning _).symm
    · rfl
    · exact fun _ => rfl
    · exact fun P => (congrArg (· + 0) (hqueued P)).symm
    · exact fun P => (congrArg (· + 0) (hrunning P)).symm
    · exact Nat.zero_le _
  · cases hp

end Sections

end WorkerSystem

end AugmentedInsanity.Util
