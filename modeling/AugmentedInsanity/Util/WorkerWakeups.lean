/-
Whether wake-ups are lost. A worker that waits is woken whenever there is something for it to do. But finishing the last
task of a group releases only one of the threads that wait for it, and the others are woken by nothing, once that one has
gone. As long as nobody goes who is the last to be released and leaves others behind, no thread is stuck (`wakeups_kept`).
-/
import AugmentedInsanity.Lib.Runs
import AugmentedInsanity.Util.WorkerCounts

namespace AugmentedInsanity.Util

open Runs CondVar

variable {θ : Type} {n m : ℕ}

/-! ## Who waits for what -/

/-- One of the threads that wait for a group with nothing to do has been released. -/
def WorkerGroup.Released (G : WorkerGroup θ) : Prop :=
  G.currentTasksInArray = 0 → G.currentWorkingTasks = 0 → G.waitingCond.waiting ≠ [] → 0 < G.releasedCount

theorem released_update {group : Fin m → WorkerGroup θ} (h : ∀ g, (group g).Released) {g : Fin m} {G : WorkerGroup θ}
    (hself : G.Released) (g' : Fin m) : (Function.update group g G g').Released := by
  by_cases hg : g' = g
  · rw [hg, Function.update_self]
    exact hself
  · rw [Function.update_of_ne hg]
    exact h g'

namespace WorkerSystem

open WorkerPool

variable {s s' : WorkerSystem θ n m} {a : Action θ n m}

/-- A thread is blocked in `wait_all`, its group has nothing to do, and nothing will wake it. -/
def WaiterStuck (s : WorkerSystem θ n m) (g : Fin m) : Prop :=
  s.pool.lockedGroupHasTasksWaitingOrInflight g = false ∧ (s.pool.group g).waitingCond.blocked ≠ [] ∧
    (s.pool.group g).releasedCount = 0 ∧ (s.pool.group g).waitingCond.woken = []

/-- There is a task and one more may work, but all workers are blocked, and nothing will wake them. -/
def WorkersStuck (s : WorkerSystem θ n m) : Prop :=
  0 < s.pool.tasksInArrayCount ∧ s.pool.workingCount < s.pool.workerLimit ∧ (∀ w, s.worker w = .waiting) ∧
    s.pool.availableCond.woken = []

/-- Who leaves `wait_all` as the last one that has been released leaves nobody behind. -/
def LeavesNobody (s : WorkerSystem θ n m) (a : Action θ n m) : Prop :=
  ∀ t wakes g pushing, a = .resumeWaiter t wakes → s.caller t = .waiting g pushing →
    s.pool.lockedGroupHasTasksWaitingOrInflight g = false → (s.pool.group g).releasedCount = 1 →
    (s.pool.group g).waitingCount ≤ 1

/-- Workers that wait are on the condition variable, and if all of them wait while there is something to do, one is
awake. -/
structure WorkersWoken (s : WorkerSystem θ n m) : Prop where
  enlisted : ∀ w, s.worker w = .waiting → w ∈ s.pool.availableCond.waiting
  woken : (∀ w, s.worker w = .waiting) → s.pool.lockedThreadAllowedToWork = true → s.pool.availableCond.woken ≠ []

namespace WorkersWoken

theorem available (h : s.WorkersWoken) (hcounts : s.Counts) (hn : 0 < n) (hall : ∀ w, s.worker w = .waiting) :
    s.pool.availableCount ≠ 0 ∧ s.pool.availableCond.waiting ≠ [] := by
  have hmem := h.enlisted ⟨0, hn⟩ (hall _)
  have hne := List.ne_nil_of_mem hmem
  rw [hcounts.available]
  exact ⟨fun hzero => hne (List.eq_nil_of_length_eq_zero hzero), hne⟩

theorem congr (h : s.WorkersWoken) (hworker : s'.worker = s.worker)
    (hallowed : s'.pool.lockedThreadAllowedToWork = s.pool.lockedThreadAllowedToWork)
    (hcond : Roused s.pool.availableCond s'.pool.availableCond) : s'.WorkersWoken := by
  constructor
  · intro w hw
    rw [hworker] at hw
    exact hcond.waiting.mem_iff.2 (h.enlisted w hw)
  · intro hall hwork
    rw [hworker] at hall
    rw [hallowed] at hwork
    exact hcond.woken (h.woken hall hwork)

theorem wakes (h : s.WorkersWoken) (hcounts : s.Counts) (hn : 0 < n) (hworker : s'.worker = s.worker)
    (hcond : Roused s.pool.availableCond s'.pool.availableCond)
    (hwoken : s'.pool.lockedThreadAllowedToWork = true → s.pool.availableCount ≠ 0 → s.pool.availableCond.waiting ≠ [] →
      s'.pool.availableCond.woken ≠ []) : s'.WorkersWoken := by
  constructor
  · intro w hw
    rw [hworker] at hw
    exact hcond.waiting.mem_iff.2 (h.enlisted w hw)
  · intro hall hwork
    rw [hworker] at hall
    obtain ⟨hcount, hne⟩ := h.available hcounts hn hall
    exact hwoken hwork hcount hne

theorem runFunc (htasks : s.pool.tasksInArrayCount = s.pool.queued fun _ => true) {w : Fin n}
    (h : ∀ w', w' ≠ w → s.worker w' = .waiting → w' ∈ s.pool.availableCond.waiting) (wakes : Option (Fin n)) :
    (s.runFunc w wakes).WorkersWoken := by
  rcases runFunc_cases htasks w wakes with ⟨hnot, heq⟩ | ⟨i, task, cond, -, -, hcond, heq⟩
  · rw [heq]
    constructor
    · intro w' hw'
      change w' ∈ w :: s.pool.availableCond.waiting
      by_cases hw : w' = w
      · rw [hw]
        exact List.mem_cons_self
      · refine List.mem_cons_of_mem _ (h w' hw ?_)
        rw [← hw']
        exact (Function.update_of_ne hw ..).symm
    · intro _ hwork
      exact absurd (hnot.symm.trans hwork) (by decide)
  · rw [heq]
    constructor
    · intro w' hw'
      refine hcond.waiting.mem_iff.2 ?_
      by_cases hw : w' = w
      · rw [hw] at hw'
        cases (Function.update_self ..).symm.trans hw'
      · refine h w' hw ?_
        rw [← hw']
        exact (Function.update_of_ne hw ..).symm
    · intro hall
      cases (Function.update_self ..).symm.trans (hall w)

end WorkersWoken

/-! ## Sections -/

theorem released_runFunc (htasks : s.pool.tasksInArrayCount = s.pool.queued fun _ => true)
    (h : ∀ g, (s.pool.group g).Released) (w : Fin n) (wakes : Option (Fin n)) (g : Fin m) :
    ((s.runFunc w wakes).pool.group g).Released := by
  rcases runFunc_cases htasks w wakes with ⟨-, heq⟩ | ⟨i, task, cond, -, -, -, heq⟩
  · rw [heq]
    exact h g
  · rw [heq]
    refine released_update h ?_ g
    intro _ hworking
    cases hworking

theorem workersWoken_does [DecidableEq θ] (h : s.WorkersWoken) (hcounts : s.Counts) (hn : 0 < n)
    (hdoes : s.Does a s') : s'.WorkersWoken := by
  cases hdoes with
  | call t state ha => exact h.congr rfl rfl (.refl _)
  | push t task wakes hi hcond hwoken => exact h.wakes hcounts hn rfl hcond fun _ => hwoken
  | waitAll t g pushing wakes ha =>
    rcases s.waitAll_cases t g pushing wakes with ⟨-, heq⟩ | ⟨-, cond, hwakes, heq⟩
    · rw [heq]
      exact h.congr rfl rfl (.refl _)
    · rw [heq]
      exact h.wakes hcounts hn rfl hwakes.roused hwakes.woken
  | wakeWaiter hspurious => exact h.congr rfl rfl (.refl _)
  | resumeWaiter wakes ht hp =>
    rename_i t g pushing p
    obtain ⟨cond, -, rfl⟩ := Option.map_eq_some_iff.1 hp
    rcases waitLoop_cases
      { s with
        pool := s.pool.setGroup g fun G => { G with waitingCount := G.waitingCount - 1, waitingCond := cond } } t g
      pushing wakes with ⟨-, -, cond', hwakes, heq⟩ | ⟨-, heq⟩ | ⟨-, -, heq⟩
    · rw [heq]
      exact h.wakes hcounts hn rfl hwakes.roused hwakes.woken
    · rw [heq]
      exact h.congr rfl rfl (.refl _)
    · rw [heq]
      exact h.congr rfl rfl (.refl _)
  | startWorker wakes hw => exact .runFunc hcounts.tasks (fun w' _ hw' => h.enlisted w' hw') wakes
  | wakeWorker hspurious => exact h.congr rfl rfl (roused_spurious hspurious)
  | resumeWorker wakes hw hp =>
    rename_i w p
    refine .runFunc (hcounts.workerWoken hw hp).tasks (fun w' hne hw' => ?_) wakes
    obtain ⟨cond, hresume, rfl⟩ := Option.map_eq_some_iff.1 hp
    have hw'' : s.worker w' = .waiting := by
      rw [← hw']
      exact (Function.update_of_ne hne ..).symm
    -- it is one of those that wait, and not the one that goes on
    rcases List.mem_cons.1 ((waiting_resume hresume).mem_iff.1 (h.enlisted w' hw'')) with heq | hmem
    · exact absurd heq hne
    · exact hmem

theorem released_does [DecidableEq θ] (h : ∀ g, (s.pool.group g).Released) (hcounts : s.Counts)
    (ha : s.LeavesNobody a) (hdoes : s.Does a s') : ∀ g, (s'.pool.group g).Released := by
  cases hdoes with
  | call t state => exact h
  | push t task wakes hi hcond hwoken =>
    refine released_update h ?_
    intro htasks
    cases htasks
  | waitAll t g pushing wakes =>
    rcases s.waitAll_cases t g pushing wakes with ⟨-, heq⟩ | ⟨hbusy, cond, -, heq⟩
    · rw [heq]
      exact h
    · rw [heq]
      refine released_update h ?_
      intro htasks hworking
      exact absurd (hbusy.symm.trans ((idle_iff s.pool g).2 ⟨htasks, hworking⟩)) (by decide)
  | wakeWaiter hspurious =>
    rename_i t g cond
    refine released_update h ?_
    intro htasks hworking hsome
    refine h g htasks hworking fun hnone => hsome ?_
    have hperm := waiting_spurious hspurious
    rw [hnone] at hperm
    exact hperm.eq_nil
  | resumeWaiter wakes ht hp =>
    rename_i t g pushing p
    obtain ⟨cond, hresume, rfl⟩ := Option.map_eq_some_iff.1 hp
    have hperm := waiting_resume hresume
    have hlength := hperm.length_eq
    rw [← hcounts.waiting, List.length_cons] at hlength
    rcases waitLoop_cases
      { s with
        pool := s.pool.setGroup g fun G => { G with waitingCount := G.waitingCount - 1, waitingCond := cond } } t g
      pushing wakes with ⟨hbusy, -, cond', -, heq⟩ | ⟨hreleased, heq⟩ | ⟨hidle, hreleased, heq⟩
    · rw [heq]
      simp only [pool_setCaller, setGroup_setGroup]
      refine released_update h ?_
      intro htasks hworking
      rw [hasTasks_setGroup rfl rfl] at hbusy
      exact absurd (hbusy.symm.trans ((idle_iff s.pool g).2 ⟨htasks, hworking⟩)) (by decide)
    · -- nobody is released, so there is work
      rw [heq]
      simp only [pool_setCaller, lockedGroupWait, setGroup_setGroup, setGroup_self] at hreleased ⊢
      refine released_update h ?_
      intro htasks hworking
      have hsome := h g htasks hworking fun hnone => by
        rw [hnone] at hperm
        cases hperm.nil_eq
      omega
    · rw [heq]
      simp only [pool_leave, setGroup_setGroup, setGroup_self] at hreleased ⊢
      rw [hasTasks_setGroup rfl rfl] at hidle
      have hlast := ha t wakes g pushing rfl ht hidle
      refine released_update h ?_
      intro _ _ hothers
      have hpos := List.length_pos_of_ne_nil hothers
      simp only at hpos ⊢
      omega
  | startWorker wakes hw => exact released_runFunc hcounts.tasks h _ wakes
  | wakeWorker hspurious => exact h
  | resumeWorker wakes hw hp =>
    refine released_runFunc (hcounts.workerWoken hw hp).tasks ?_ _ wakes
    obtain ⟨cond, -, rfl⟩ := Option.map_eq_some_iff.1 hp
    exact h

theorem workersWoken_complete [DecidableEq θ] (h : s.WorkersWoken) (hcounts : s.Counts) {w : Fin n}
    {task : WorkerTask m} (hw : s.worker w = .working task) (wakesWaiter : Option θ) (wakes : Option (Fin n)) :
    (s.complete w task wakesWaiter wakes).WorkersWoken := by
  have hothers : ∀ w', w' ≠ w → (s.afterTask w task).worker w' = .waiting → w' ∈ s.pool.availableCond.waiting := by
    intro w' hne hw'
    refine h.enlisted w' ?_
    rw [← hw']
    exact (Function.update_of_ne hne ..).symm
  rcases complete_cases hcounts hw wakesWaiter wakes with ⟨-, heq⟩ | ⟨-, -, heq⟩ | ⟨-, -, -, heq⟩
  · rw [heq]
    exact .runFunc (hcounts.done hw).1.tasks hothers wakes
  · rw [heq]
    exact .runFunc (hcounts.released hw wakesWaiter).tasks hothers wakes
  · rw [heq]
    refine ⟨h.enlisted, fun hall => ?_⟩
    cases hw.symm.trans (hall w)

theorem released_complete [DecidableEq θ] (h : ∀ g, (s.pool.group g).Released) (hcounts : s.Counts) {w : Fin n}
    {task : WorkerTask m} (hw : s.worker w = .working task) (wakesWaiter : Option θ) (wakes : Option (Fin n)) :
    ∀ g, ((s.complete w task wakesWaiter wakes).pool.group g).Released := by
  rcases complete_cases hcounts hw wakesWaiter wakes with ⟨hnot, heq⟩ | ⟨-, -, heq⟩ | ⟨-, -, -, heq⟩
  · rw [heq]
    refine released_runFunc (hcounts.done hw).1.tasks (released_update h ?_) w wakes
    intro htasks hworking hsome
    rcases hnot with hbusy | hnobody
    · refine absurd (hbusy.symm.trans ((idle_iff _ _).2 ?_)) (by decide)
      simp only [done, setGroup_self]
      exact ⟨htasks, hworking⟩
    · rw [hcounts.waiting] at hnobody
      exact absurd (List.eq_nil_of_length_eq_zero hnobody) hsome
  · rw [heq]
    refine released_runFunc (hcounts.released hw wakesWaiter).tasks ?_ w wakes
    simp only [done, setGroup_setGroup]
    refine released_update h ?_
    intro _ _ _
    exact Nat.succ_pos _
  · rw [heq]
    exact h

/-! ## Runs -/

structure Wakes (s : WorkerSystem θ n m) : Prop where
  counts : s.aborted = false → s.Counts
  waiters : ∀ g, (s.pool.group g).Released
  workers : s.WorkersWoken

theorem Wakes.not_stuck (h : s.Wakes) : (∀ g, ¬s.WaiterStuck g) ∧ ¬s.WorkersStuck := by
  constructor
  · rintro g ⟨hidle, hblocked, hreleased, -⟩
    obtain ⟨htasks, hworking⟩ := (idle_iff s.pool g).1 hidle
    have hsome := h.waiters g htasks hworking (List.append_ne_nil_of_left_ne_nil hblocked _)
    omega
  · rintro ⟨htasks, hroom, hall, hnone⟩
    refine h.workers.woken hall ?_ hnone
    unfold lockedThreadAllowedToWork
    rw [if_neg (Nat.ne_of_gt htasks), if_neg (Nat.not_le_of_lt hroom)]

variable [DecidableEq θ]

theorem Wakes.step (h : s.Wakes) (hn : 0 < n) (ha : s.LeavesNobody a) (hstep : s.step a = some s') : s'.Wakes := by
  have hkept := fun halive => h.counts halive |>.step hstep
  unfold WorkerSystem.step at hstep
  split at hstep
  · cases hstep
  · rename_i halive
    have hcounts' := h.counts (Bool.eq_false_iff.2 halive)
    have hcounts : ({ s with returned := none } : WorkerSystem θ n m).Counts :=
      ⟨hcounts'.tasks, hcounts'.groupTasks, hcounts'.working, hcounts'.groupWorking, hcounts'.available,
        hcounts'.waiting, hcounts'.pushed, hcounts'.started, hcounts'.limit⟩
    have hworkers : ({ s with returned := none } : WorkerSystem θ n m).WorkersWoken := h.workers.congr rfl rfl (.refl _)
    have hwaiters : ∀ g, (({ s with returned := none } : WorkerSystem θ n m).pool.group g).Released := h.waiters
    refine ⟨hkept (Bool.eq_false_iff.2 halive), ?_, ?_⟩
    · rcases hcounts.live_cases hstep with hdoes | ⟨w, task, wakesWaiter, wakes, -, hw, rfl⟩
      · exact released_does hwaiters hcounts ha hdoes
      · exact released_complete hwaiters hcounts hw wakesWaiter wakes
    · rcases hcounts.live_cases hstep with hdoes | ⟨w, task, wakesWaiter, wakes, -, hw, rfl⟩
      · exact workersWoken_does hworkers hcounts hn hdoes
      · exact workersWoken_complete hworkers hcounts hw wakesWaiter wakes

omit [DecidableEq θ] in
theorem wakes_create {startingWorkerCount : ℕ} (h : create startingWorkerCount = some s) (hn : 0 < n) : s.Wakes := by
  obtain ⟨hcounts, -⟩ := counts_create h
  refine ⟨fun _ => hcounts, ?_, ?_⟩
  · obtain ⟨p, hp, rfl⟩ := Option.map_eq_some_iff.1 h
    unfold WorkerPool.create at hp
    split at hp
    · cases hp
      intro g _ _ hsome
      exact absurd rfl hsome
    · cases hp
  · obtain ⟨p, -, rfl⟩ := Option.map_eq_some_iff.1 h
    constructor
    · intro w hw
      cases hw
    · intro hall
      cases hall ⟨0, hn⟩

/-- In a run of a pool with workers, in which who leaves as the last one that has been released leaves nobody behind, no
thread is ever stuck in `wait_all`, and the workers never all wait for something that they could do. -/
theorem wakeups_kept {startingWorkerCount : ℕ} {s₀ : WorkerSystem θ n m} (hcreate : create startingWorkerCount = some s₀)
    (hn : 0 < n) (l : List (Action θ n m)) (hleaves : Along step LeavesNobody s₀ l) (s : WorkerSystem θ n m)
    (hreaches : Reaches step s₀ l s) : (∀ g, ¬s.WaiterStuck g) ∧ ¬s.WorkersStuck :=
  (inv_of_along (fun _ _ _ h ha hstep => Wakes.step h hn ha hstep) (wakes_create hcreate hn) hleaves hreaches).not_stuck

/-! ## Two threads wait for one task -/

/-- One worker. Thread `0` pushes a task and waits for it, and goes when it is finished. -/
def oneWaits : List (Action ℕ 1 1) :=
  [.beginPush 0 ⟨Fin.last 0, 0, 0⟩, .push 0 none, .startWorker (Fin.last 0) none, .waitAll 0 (Fin.last 0) none,
    .complete (Fin.last 0) none none, .resumeWaiter 0 none]

theorem wakeups_kept_oneWaits :
    ∃ s₀ : WorkerSystem ℕ 1 1, create 1 = some s₀ ∧
      ∃ s, Reaches step s₀ oneWaits s ∧ (∀ g, ¬s.WaiterStuck g) ∧ ¬s.WorkersStuck := by
  have hcreate : (create 1 : Option (WorkerSystem ℕ 1 1)) = some _ := rfl
  refine ⟨_, hcreate, Exists.imp (fun s hs => ⟨hs, wakeups_kept hcreate Nat.zero_lt_one oneWaits ?_ s hs⟩)
    ⟨_, _, rfl, _, rfl, _, rfl, _, rfl, _, rfl, _, rfl, rfl⟩⟩
  refine ⟨?_, ?_, ?_, ?_, ?_, ?_, trivial⟩
  · rintro t wakes g pushing ⟨⟩
  · rintro t wakes g pushing ⟨⟩
  · rintro t wakes g pushing ⟨⟩
  · rintro t wakes g pushing ⟨⟩
  · rintro t wakes g pushing ⟨⟩
  · rintro t wakes g pushing ⟨⟩ ⟨⟩ - -
    exact Nat.le_refl 1

/-- Thread `1` waits as well. -/
def twoWait : List (Action ℕ 1 1) :=
  [.beginPush 0 ⟨Fin.last 0, 0, 0⟩, .push 0 none, .startWorker (Fin.last 0) none, .waitAll 0 (Fin.last 0) none,
    .waitAll 1 (Fin.last 0) none, .complete (Fin.last 0) none none, .resumeWaiter 1 none]

/-- Thread `1` is woken and goes, and nothing wakes thread `0`. -/
theorem twoWait_stuck :
    ∃ s₀ s : WorkerSystem ℕ 1 1, create 1 = some s₀ ∧ Reaches step s₀ twoWait s ∧ s.WaiterStuck (Fin.last 0) := by
  refine ⟨_, _, rfl, ⟨_, rfl, _, rfl, _, rfl, _, rfl, _, rfl, _, rfl, _, rfl, rfl⟩, rfl, ?_, rfl, rfl⟩
  exact List.cons_ne_nil _ _

end WorkerSystem

end AugmentedInsanity.Util
