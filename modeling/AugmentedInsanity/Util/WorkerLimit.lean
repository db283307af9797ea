/-
Who waits donates a worker. The limit of the pool is the initial one and one more for every thread that waits for a group
and has not been released, as long as no thread is released twice: that happens if the last task of a group is finished
while all threads that wait for it have been released but have not gone yet. All that the pool asserts and promises holds
in a run exactly if this does not happen in it (`workerPool_iff`).
-/
import Mathlib.Algebra.BigOperators.Ring.Finset
import Mathlib.Algebra.Order.BigOperators.Group.Finset
import Mathlib.Algebra.Order.Ring.Int
import AugmentedInsanity.Lib.Runs
import AugmentedInsanity.Util.WorkerCounts

namespace AugmentedInsanity.Util

open Runs Tables CondVar

variable {θ : Type} {n m : ℕ}

/-! ## What is donated -/

def WorkerGroup.debt (G : WorkerGroup θ) : ℤ := (G.waitingCount : ℤ) - G.releasedCount

namespace WorkerPool

def balance (p : WorkerPool θ n m) : ℤ :=
  (p.workerLimit : ℤ) - p.initialWorkerLimit - ∑ g, (p.group g).debt

structure Donated (p : WorkerPool θ n m) : Prop where
  balance : p.balance = 0
  released : ∀ g, (p.group g).releasedCount ≤ (p.group g).waitingCount

variable {p : WorkerPool θ n m} {p' : WorkerPool θ n m} {f : WorkerGroup θ → WorkerGroup θ}

theorem balance_setGroup (p : WorkerPool θ n m) (g : Fin m) (f : WorkerGroup θ → WorkerGroup θ) (limit : ℕ)
    (cond : CondVar (Fin n)) :
    ({ p.setGroup g f with workerLimit := limit, availableCond := cond } : WorkerPool θ n m).balance =
      p.balance + ((limit : ℤ) - p.workerLimit) - ((f (p.group g)).debt - (p.group g).debt) := by
  have hsum := sum_update WorkerGroup.debt p.group g (f (p.group g))
  unfold balance
  change (limit : ℤ) - p.initialWorkerLimit - ∑ j, (Function.update p.group g (f (p.group g)) j).debt = _
  rw [hsum]
  omega

theorem Donated.setGroup (h : p.Donated) {g : Fin m} {limit : ℕ}
    (hlimit : (limit : ℤ) - p.workerLimit = (f (p.group g)).debt - (p.group g).debt)
    (hreleased : (f (p.group g)).releasedCount ≤ (f (p.group g)).waitingCount) (cond : CondVar (Fin n)) :
    ({ p.setGroup g f with workerLimit := limit, availableCond := cond } : WorkerPool θ n m).Donated := by
  constructor
  · rw [balance_setGroup, h.balance, hlimit]
    omega
  · intro g'
    change ((p.setGroup g f).group g').releasedCount ≤ ((p.setGroup g f).group g').waitingCount
    by_cases hg : g' = g
    · rw [hg, setGroup_self]
      exact hreleased
    · rw [setGroup_of_ne hg]
      exact h.released g'

theorem Donated.setGroup_of_debt (h : p.Donated) {g : Fin m} (hdebt : (f (p.group g)).debt = (p.group g).debt)
    (hreleased : (f (p.group g)).releasedCount ≤ (f (p.group g)).waitingCount) : (p.setGroup g f).Donated := by
  refine h.setGroup (?_ : ((p.workerLimit : ℕ) : ℤ) - _ = _) hreleased p.availableCond
  rw [hdebt]
  omega

theorem Donated.debt_le (h : p.Donated) (g : Fin m) :
    (p.group g).debt ≤ (p.workerLimit : ℤ) - p.initialWorkerLimit := by
  have hnonneg : ∀ g ∈ Finset.univ, 0 ≤ (p.group g).debt := fun g _ => by
    have hle := h.released g
    unfold WorkerGroup.debt
    omega
  have hsum := Finset.single_le_sum hnonneg (Finset.mem_univ g)
  have hbalance := h.balance
  unfold WorkerPool.balance at hbalance
  omega

structure SameDonations (p p' : WorkerPool θ n m) : Prop where
  limit : p'.workerLimit = p.workerLimit
  initial : p'.initialWorkerLimit = p.initialWorkerLimit
  released : ∀ g, (p'.group g).releasedCount = (p.group g).releasedCount
  waiting : ∀ g, (p'.group g).waitingCount = (p.group g).waitingCount

theorem SameDonations.debt (h : SameDonations p p') (g : Fin m) : (p'.group g).debt = (p.group g).debt := by
  rw [WorkerGroup.debt, h.released, h.waiting]
  rfl

theorem SameDonations.balance (h : SameDonations p p') : p'.balance = p.balance := by
  unfold WorkerPool.balance
  rw [h.limit, h.initial, Finset.sum_congr rfl fun g _ => h.debt g]

theorem Donated.congr (h : p.Donated) (hsame : SameDonations p p') : p'.Donated := by
  refine ⟨hsame.balance.trans h.balance, fun g => ?_⟩
  rw [hsame.released, hsame.waiting]
  exact h.released g

theorem sameDonations_done (p : WorkerPool θ n m) (g : Fin m) : SameDonations p (p.done g) :=
  ⟨rfl, rfl, setGroup_keeps (p := { p with workingCount := _ }) (·.releasedCount) rfl,
    setGroup_keeps (p := { p with workingCount := _ }) (·.waitingCount) rfl⟩

end WorkerPool

namespace WorkerSystem

variable {s s' : WorkerSystem θ n m} {a : Action θ n m}

open WorkerPool

theorem sameDonations_runFunc (hcounts : s.Counts) (w : Fin n) (wakes : Option (Fin n)) :
    SameDonations s.pool (s.runFunc w wakes).pool := by
  rcases runFunc_cases hcounts.tasks w wakes with ⟨-, heq⟩ | ⟨i, task, cond, -, -, -, heq⟩
  · rw [heq]
    exact ⟨rfl, rfl, fun _ => rfl, fun _ => rfl⟩
  · rw [heq]
    exact ⟨rfl, rfl, fun g => releasedCount_taken g, fun g => waitingCount_taken g⟩

theorem donated_does [DecidableEq θ] (hcounts : s.Counts) (h : s.pool.Donated) (hdoes : s.Does a s') : s'.pool.Donated := by
  cases hdoes with
  | call t state => exact h
  | push t task wakes hi hcond hwoken => exact h.congr ⟨rfl, rfl, fun g => releasedCount_put g, fun g => waitingCount_put g⟩
  | waitAll t g pushing wakes =>
    rcases s.waitAll_cases t g pushing wakes with ⟨-, heq⟩ | ⟨-, cond, -, heq⟩
    · rw [heq]
      exact h
    · rw [heq]
      refine h.setGroup ?_ (Nat.le_succ_of_le (h.released g)) cond
      simp only [WorkerGroup.debt]
      omega
  | wakeWaiter hspurious =>
    rename_i t g cond
    exact h.setGroup_of_debt (f := fun G => { G with waitingCond := cond }) rfl (h.released g)
  | resumeWaiter wakes ht hp =>
    rename_i t g pushing p
    obtain ⟨cond, hresume, rfl⟩ := Option.map_eq_some_iff.1 hp
    have hlength := (waiting_resume hresume).length_eq
    rw [← hcounts.waiting, List.length_cons] at hlength
    have hreleased := h.released g
    -- it waits no longer, and then again or not
    rcases waitLoop_cases
      { s with
        pool := s.pool.setGroup g fun G => { G with waitingCount := G.waitingCount - 1, waitingCond := cond } } t g
      pushing wakes with ⟨-, hpos, cond', -, heq⟩ | ⟨-, heq⟩ | ⟨-, hpos, heq⟩
    · rw [heq]
      simp only [setGroup_setGroup, setGroup_self] at hpos ⊢
      refine h.setGroup ?_ ?_ cond'
      · simp only [WorkerGroup.debt]
        change ((s.pool.workerLimit + 1 : ℕ) : ℤ) - _ = _
        omega
      · simp only
        omega
    · rw [heq]
      simp only [pool_setCaller, lockedGroupWait, setGroup_setGroup]
      refine h.setGroup_of_debt ?_ ?_
      · simp only [WorkerGroup.debt]
        omega
      · simp only
        omega
    · rw [heq]
      simp only [pool_leave, setGroup_setGroup, setGroup_self] at hpos ⊢
      refine h.setGroup_of_debt ?_ ?_
      · simp only [WorkerGroup.debt]
        omega
      · simp only
        omega
  | startWorker wakes hw => exact h.congr (sameDonations_runFunc hcounts _ wakes)
  | wakeWorker hspurious => exact h.congr ⟨rfl, rfl, fun _ => rfl, fun _ => rfl⟩
  | resumeWorker wakes hw hp =>
    rename_i w p
    have hsame := sameDonations_runFunc (hcounts.workerWoken hw hp) w wakes
    obtain ⟨cond, -, rfl⟩ := Option.map_eq_some_iff.1 hp
    exact h.congr ⟨hsame.limit, hsame.initial, hsame.released, hsame.waiting⟩

/-! ## Who returns finds nothing to do -/

theorem returned_runFunc (hcounts : s.Counts) (w : Fin n) (wakes : Option (Fin n)) :
    (s.runFunc w wakes).returned = s.returned := by
  rcases runFunc_cases hcounts.tasks w wakes with ⟨-, heq⟩ | ⟨i, task, cond, -, -, -, heq⟩
  · rw [heq]
    rfl
  · rw [heq]
    rfl

theorem idle_of_returned [DecidableEq θ] (hcounts : s.Counts) (hnone : s.returned = none) (hdoes : s.Does a s')
    {g : Fin m} (hreturned : s'.returned = some g) :
    s'.pool.lockedGroupHasTasksWaitingOrInflight g = false := by
  cases hdoes with
  | call t state => exact absurd (hnone.symm.trans hreturned) (by rintro ⟨⟩)
  | push t task wakes hi hcond hwoken => exact absurd (hnone.symm.trans hreturned) (by rintro ⟨⟩)
  | waitAll t g' pushing wakes =>
    rcases s.waitAll_cases t g' pushing wakes with ⟨hidle, heq⟩ | ⟨-, cond, -, heq⟩
    · rw [heq] at hreturned ⊢
      cases hreturned
      exact hidle
    · rw [heq] at hreturned
      exact absurd (hnone.symm.trans hreturned) (by rintro ⟨⟩)
  | wakeWaiter hspurious => exact absurd (hnone.symm.trans hreturned) (by rintro ⟨⟩)
  | resumeWaiter wakes ht hp =>
    rename_i t g' pushing p
    rcases waitLoop_cases { s with pool := p } t g' pushing wakes with ⟨-, -, cond, -, heq⟩ | ⟨-, heq⟩ |
      ⟨hidle, -, heq⟩
    · rw [heq] at hreturned
      exact absurd (hnone.symm.trans hreturned) (by rintro ⟨⟩)
    · rw [heq] at hreturned
      exact absurd (hnone.symm.trans hreturned) (by rintro ⟨⟩)
    · rw [heq] at hreturned ⊢
      cases hreturned
      rw [pool_leave, hasTasks_setGroup rfl rfl]
      exact hidle
  | startWorker wakes hw =>
    rw [returned_runFunc hcounts, hnone] at hreturned
    cases hreturned
  | wakeWorker hspurious => exact absurd (hnone.symm.trans hreturned) (by rintro ⟨⟩)
  | resumeWorker wakes hw hp =>
    rw [returned_runFunc (hcounts.workerWoken hw hp)] at hreturned
    exact absurd (hnone.symm.trans hreturned) (by rintro ⟨⟩)

/-! ## What the pool promises -/

/-- The number of threads inside `wait_all` that have not been released. -/
def unreleased (s : WorkerSystem θ n m) : ℕ :=
  ∑ g, ((s.pool.group g).waitingCond.waiting.length - (s.pool.group g).releasedCount)

/-- What is promised of a state: no assertion has failed, the limit is what the waiting threads donate, no more tasks run
at once, no task is started or finished more often than it was pushed, and whoever returns from `wait_all` finds all
that was pushed to its group run. -/
structure Promised (s : WorkerSystem θ n m) : Prop where
  assertions : s.aborted = false
  donated : (s.pool.workerLimit : ℤ) - s.pool.initialWorkerLimit = s.unreleased
  limit : s.running (fun _ => true) ≤ s.pool.workerLimit
  once : ∀ P, s.finished.countP P ≤ s.started.countP P ∧ s.started.countP P ≤ s.pushed.countP P
  waited : ∀ g, s.returned = some g → ∀ P, (∀ task, P task = true → task.g = g) →
    s.finished.countP P = s.pushed.countP P ∧ s.started.countP P = s.pushed.countP P

/-- When the last task of a group is finished, one of the threads that wait for it has not been released. -/
def LeavesWaiter (s : WorkerSystem θ n m) (a : Action θ n m) : Prop :=
  ∀ w wakesWaiter wakes task, a = .complete w wakesWaiter wakes → s.worker w = .working task →
    (s.pool.done task.g).lockedGroupHasTasksWaitingOrInflight task.g = false →
    0 < (s.pool.group task.g).waitingCount →
    (s.pool.group task.g).releasedCount < (s.pool.group task.g).waitingCount

theorem unreleased_eq (hcounts : s.Counts) : (s.unreleased : ℤ) = ∑ g, max (s.pool.group g).debt 0 := by
  rw [unreleased, Nat.cast_sum]
  refine Finset.sum_congr rfl fun g _ => ?_
  rw [← hcounts.waiting g, WorkerGroup.debt]
  omega

theorem donated_iff (hcounts : s.Counts) (hbalance : s.pool.balance = 0) :
    (s.pool.workerLimit : ℤ) - s.pool.initialWorkerLimit = s.unreleased ↔
      ∀ g, (s.pool.group g).releasedCount ≤ (s.pool.group g).waitingCount := by
  have hlimit : (s.pool.workerLimit : ℤ) - s.pool.initialWorkerLimit = ∑ g, (s.pool.group g).debt := by
    unfold balance at hbalance
    omega
  rw [hlimit, unreleased_eq hcounts, Finset.sum_eq_sum_iff_of_le fun g _ => le_max_left _ _]
  refine forall_congr' fun g => ?_
  simp only [Finset.mem_univ, forall_const, WorkerGroup.debt]
  omega

theorem Counts.finished_of_idle (hcounts : s.Counts) {g : Fin m}
    (hidle : s.pool.lockedGroupHasTasksWaitingOrInflight g = false) {P : WorkerTask m → Bool}
    (hP : ∀ task, P task = true → task.g = g) :
    s.finished.countP P = s.pushed.countP P ∧ s.started.countP P = s.pushed.countP P := by
  obtain ⟨htasks, hworking⟩ := (idle_iff s.pool g).1 hidle
  rw [hcounts.groupTasks] at htasks
  rw [hcounts.groupWorking] at hworking
  have hqueued : s.pool.queued P ≤ s.pool.queued fun task => task.g == g := tally_mono fun i hi => by
    cases htask : s.pool.tasks i with
    | none =>
      rw [htask] at hi
      cases hi
    | some task =>
      rw [htask] at hi
      exact beq_iff_eq.2 (hP task hi)
  have hrunning : s.running P ≤ s.running fun task => task.g == g := tally_mono fun w hw => by
    cases hworker : s.worker w with
    | looping | waiting =>
      rw [hworker] at hw
      cases hw
    | working task =>
      rw [hworker] at hw
      exact beq_iff_eq.2 (hP task hw)
  have hpushed := hcounts.pushed P
  have hstarted := hcounts.started P
  omega

structure PoolInv (s : WorkerSystem θ n m) : Prop where
  counts : s.Counts
  donated : s.pool.Donated
  alive : s.aborted = false

theorem promised_iff (hcounts : s.Counts) (hbalance : s.pool.balance = 0) (halive : s.aborted = false)
    (hreturned : ∀ g, s.returned = some g → s.pool.lockedGroupHasTasksWaitingOrInflight g = false) :
    s.Promised ↔ s.pool.Donated := by
  constructor
  · intro h
    exact ⟨hbalance, (donated_iff hcounts hbalance).1 h.donated⟩
  · intro h
    refine ⟨halive, (donated_iff hcounts hbalance).2 h.released, ?_, fun P => ⟨?_, ?_⟩, fun g hg P hP => ?_⟩
    · rw [← hcounts.working]
      exact hcounts.limit
    · rw [hcounts.started P]
      exact Nat.le_add_left ..
    · rw [hcounts.pushed P]
      exact Nat.le_add_left ..
    · exact hcounts.finished_of_idle (hreturned g hg) hP

section Runs

variable [DecidableEq θ]

omit [DecidableEq θ] in
theorem alive_runFunc (hcounts : s.Counts) (w : Fin n) (wakes : Option (Fin n)) :
    (s.runFunc w wakes).aborted = s.aborted := by
  rcases runFunc_cases hcounts.tasks w wakes with ⟨-, heq⟩ | ⟨i, task, cond, -, -, -, heq⟩
  · rw [heq]
    rfl
  · rw [heq]
    rfl

theorem alive_does (hcounts : s.Counts) (hdoes : s.Does a s') : s'.aborted = s.aborted := by
  cases hdoes with
  | call t state => rfl
  | push t task wakes hi hcond hwoken => rfl
  | waitAll t g pushing wakes =>
    rcases s.waitAll_cases t g pushing wakes with ⟨-, heq⟩ | ⟨-, cond, -, heq⟩
    · rw [heq]
      rfl
    · rw [heq]
      rfl
  | wakeWaiter hspurious => rfl
  | resumeWaiter wakes ht hp =>
    rename_i t g pushing p
    rcases waitLoop_cases { s with pool := p } t g pushing wakes with ⟨-, -, cond, -, heq⟩ | ⟨-, heq⟩ | ⟨-, -, heq⟩
    · rw [heq]
      rfl
    · rw [heq]
      rfl
    · rw [heq]
      rfl
  | startWorker wakes hw => exact alive_runFunc hcounts _ wakes
  | wakeWorker hspurious => rfl
  | resumeWorker wakes hw hp => exact alive_runFunc (hcounts.workerWoken hw hp) _ wakes

theorem donated_released_iff (h : s.PoolInv) {w : Fin n} {task : WorkerTask m} (hw : s.worker w = .working task)
    (wakesWaiter : Option θ) {p : WorkerPool θ n m}
    (hp : p =
      { (s.pool.done task.g).setGroup task.g (fun G =>
          { G with waitingCond := G.waitingCond.signal wakesWaiter, releasedCount := G.releasedCount + 1 }) with
        workerLimit := s.pool.workerLimit - 1 }) :
    p.balance = 0 ∧ (p.Donated ↔ (s.pool.group task.g).releasedCount < (s.pool.group task.g).waitingCount) := by
  have hdonations := sameDonations_done s.pool task.g
  have hbalance : p.balance = 0 := by
    have hroom := (h.counts.done hw).2.1
    rw [hp]
    refine (balance_setGroup (s.pool.done task.g) task.g _ (s.pool.workerLimit - 1)
      (s.pool.done task.g).availableCond).trans ?_
    rw [hdonations.balance, h.donated.balance, hdonations.limit]
    simp only [WorkerGroup.debt]
    omega
  refine ⟨hbalance, fun hdonated => ?_, fun hlt => ⟨hbalance, fun g => ?_⟩⟩
  · have hself := hdonated.released task.g
    rw [hp] at hself
    simp only [setGroup_self, waitingCount_done, releasedCount_done] at hself
    exact hself
  · rw [hp]
    simp only
    by_cases hg : g = task.g
    · rw [hg, setGroup_self]
      simp only [waitingCount_done, releasedCount_done]
      exact hlt
    · rw [setGroup_of_ne hg, waitingCount_done, releasedCount_done]
      exact h.donated.released g

theorem promised_complete_iff (h : s.PoolInv) (hnone : s.returned = none) {w : Fin n} {task : WorkerTask m}
    (hw : s.worker w = .working task) (wakesWaiter : Option θ) (wakes : Option (Fin n)) :
    ((s.complete w task wakesWaiter wakes).Promised ↔
      ((s.pool.done task.g).lockedGroupHasTasksWaitingOrInflight task.g = false →
        0 < (s.pool.group task.g).waitingCount →
        (s.pool.group task.g).releasedCount < (s.pool.group task.g).waitingCount)) ∧
    ((s.complete w task wakesWaiter wakes).Promised → (s.complete w task wakesWaiter wakes).PoolInv) := by
  have hlooping : (s.afterTask w task).worker w = .looping := Function.update_self ..
  have hdone : (s.afterTask w task).Counts := (h.counts.done hw).1
  have hdonations := sameDonations_done s.pool task.g
  rcases complete_cases h.counts hw wakesWaiter wakes with ⟨hnot, heq⟩ | ⟨hidle, hpos, heq⟩ | ⟨hidle, hpos, hle, heq⟩
  · have hcounts := hdone.runFunc hlooping wakes
    have hdonated : ((s.afterTask w task).runFunc w wakes).pool.Donated :=
      (h.donated.congr hdonations).congr (sameDonations_runFunc hdone w wakes)
    have halive := (alive_runFunc hdone w wakes).trans h.alive
    rw [heq, promised_iff hcounts hdonated.balance halive fun g hg => by
      rw [returned_runFunc hdone] at hg
      exact absurd (hnone.symm.trans hg) (by rintro ⟨⟩)]
    refine ⟨iff_of_true hdonated fun hidle hpos => ?_, fun _ => ⟨hcounts, hdonated, halive⟩⟩
    rcases hnot with hbusy | hzero
    · rw [hbusy] at hidle
      cases hidle
    · omega
  · -- a thread is released, and what it donated is taken back
    set r := { s.afterTask w task with
      pool :=
        { (s.pool.done task.g).setGroup task.g (fun G =>
            { G with waitingCond := G.waitingCond.signal wakesWaiter, releasedCount := G.releasedCount + 1 }) with
          workerLimit := s.pool.workerLimit - 1 } } with hr
    have hreleased : r.Counts := h.counts.released hw wakesWaiter
    have hcounts := hreleased.runFunc (w := w) hlooping wakes
    have hsame := sameDonations_runFunc hreleased w wakes
    obtain ⟨hbalance, hdonatedIff⟩ := donated_released_iff h hw wakesWaiter (congrArg WorkerSystem.pool hr)
    have halive := (alive_runFunc hreleased w wakes).trans h.alive
    have hiff := promised_iff hcounts (hsame.balance.trans hbalance) halive fun g hg => by
      rw [returned_runFunc hreleased] at hg
      exact absurd (hnone.symm.trans hg) (by rintro ⟨⟩)
    rw [heq, hiff]
    refine ⟨⟨fun hdonated _ _ => ?_, fun hroom => ?_⟩, fun hdonated => ⟨hcounts, hdonated, halive⟩⟩
    · refine hdonatedIff.1 ⟨hbalance, fun g => ?_⟩
      rw [← hsame.released, ← hsame.waiting]
      exact hdonated.released g
    · exact (hdonatedIff.2 (hroom hidle hpos)).congr hsame
  · -- there is nothing to take back, so all that wait are released
    refine ⟨iff_of_false (fun hpromised => ?_) fun hroom => ?_, fun hpromised => ?_⟩
    · rw [heq] at hpromised
      cases hpromised.assertions
    · have hlt := hroom hidle hpos
      have hdebt := h.donated.debt_le task.g
      unfold WorkerGroup.debt at hdebt
      omega
    · rw [heq] at hpromised
      cases hpromised.assertions

/-! ## Runs -/

theorem PoolInv.step_iff (h : s.PoolInv) (hstep : s.step a = some s') :
    (s'.Promised ↔ s.LeavesWaiter a) ∧ (s'.Promised → s'.PoolInv) := by
  unfold step at hstep
  rw [if_neg (Bool.eq_false_iff.1 h.alive)] at hstep
  set t : WorkerSystem θ n m := { s with returned := none }
  have hcounts : t.Counts :=
    ⟨h.counts.tasks, h.counts.groupTasks, h.counts.working, h.counts.groupWorking, h.counts.available,
      h.counts.waiting, h.counts.pushed, h.counts.started, h.counts.limit⟩
  rcases hcounts.live_cases hstep with hdoes | ⟨w, task, wakesWaiter, wakes, rfl, hw, rfl⟩
  · have hinv : s'.PoolInv :=
      ⟨hcounts.does hdoes, donated_does hcounts h.donated hdoes, (alive_does hcounts hdoes).trans h.alive⟩
    have hpromised : s'.Promised :=
      (promised_iff hinv.counts hinv.donated.balance hinv.alive fun g hg => idle_of_returned hcounts rfl hdoes hg).2
        hinv.donated
    refine ⟨iff_of_true hpromised ?_, fun _ => hinv⟩
    rintro w wakesWaiter wakes task ha
    exact absurd ha (hdoes.ne_complete w wakesWaiter wakes)
  · have hinv : t.PoolInv := ⟨hcounts, h.donated, h.alive⟩
    obtain ⟨hiff, hkeeps⟩ := promised_complete_iff hinv rfl hw wakesWaiter wakes
    refine ⟨hiff.trans ⟨?_, fun hroom => hroom w wakesWaiter wakes task rfl hw⟩, hkeeps⟩
    rintro hroom w' wakesWaiter' wakes' task' ha hw'
    cases ha
    cases (hw.symm.trans hw' : WorkerState.working task = .working task')
    exact hroom

theorem PoolInv.promised_step_iff (h : s.PoolInv) (a : Action θ n m) :
    (∀ s', s.step a = some s' → s'.Promised) ↔ s.LeavesWaiter a := by
  cases hstep : s.step a with
  | some s' =>
    rw [← (h.step_iff hstep).1]
    constructor
    · intro hpromised
      exact hpromised s' rfl
    · rintro hpromised s'' ⟨⟩
      exact hpromised
  | none =>
    refine iff_of_true (by rintro s' ⟨⟩) ?_
    rintro w wakesWaiter wakes task rfl hw
    unfold step at hstep
    rw [if_neg (Bool.eq_false_iff.1 h.alive)] at hstep
    simp only [live, hw] at hstep
    cases hstep

theorem PoolInv.step (h : s.PoolInv) (hroom : s.LeavesWaiter a) (hstep : s.step a = some s') :
    s'.PoolInv :=
  (h.step_iff hstep).2 ((h.step_iff hstep).1.2 hroom)

omit [DecidableEq θ] in
theorem poolInv_create {startingWorkerCount : ℕ} (h : create startingWorkerCount = some s) : s.PoolInv := by
  obtain ⟨hcounts, halive⟩ := counts_create h
  refine ⟨hcounts, ?_, halive⟩
  obtain ⟨p, hp, rfl⟩ := Option.map_eq_some_iff.1 h
  unfold WorkerPool.create at hp
  split at hp
  · cases hp
    constructor
    · unfold WorkerPool.balance
      rw [Finset.sum_eq_zero fun g _ => (rfl : (⟨0, 0, 0, 0, .empty⟩ : WorkerGroup θ).debt = 0)]
      simp only
      omega
    · exact fun g => le_refl 0
  · cases hp

/-- The assertions of the pool, its limit and what it does with tasks are as promised all along a run exactly if, in
that run, no task is the last one of a group that others wait for while all of those have been released. -/
theorem workerPool_iff {startingWorkerCount : ℕ} {s₀ : WorkerSystem θ n m} (h : create startingWorkerCount = some s₀)
    (l : List (Action θ n m)) :
    s₀.Promised ∧
      (Along step (fun s a => ∀ s', s.step a = some s' → s'.Promised) s₀ l ↔ Along step LeavesWaiter s₀ l) := by
  have hinv := poolInv_create h
  refine ⟨?_, along_iff (fun s a hs => hs.promised_step_iff a) (fun s a s' hs hroom hstep => hs.step hroom hstep) hinv l⟩
  refine (promised_iff hinv.counts hinv.donated.balance hinv.alive fun g hg => ?_).2 hinv.donated
  obtain ⟨p, -, rfl⟩ := Option.map_eq_some_iff.1 h
  cases hg

/-! ## Two tasks, one after the other -/

/-- One worker. Thread `0` pushes a task, waits for it and is released. -/
def firstTask : List (Action ℕ 1 1) :=
  [.beginPush 0 ⟨0, 0, 0⟩, .push 0 none, .startWorker 0 none, .waitAll 0 0 none, .complete 0 none none]

theorem workerPool_iff_firstTask :
    ∃ s₀ : WorkerSystem ℕ 1 1, create 1 = some s₀ ∧
      Along step (fun s a => ∀ s', s.step a = some s' → s'.Promised) s₀ firstTask := by
  have hcreate : (create 1 : Option (WorkerSystem ℕ 1 1)) = some _ := rfl
  refine ⟨_, hcreate, (workerPool_iff hcreate firstTask).2.2 ⟨?_, ?_, ?_, ?_, ?_, trivial⟩⟩
  · rintro w wakesWaiter wakes task ⟨⟩
  · rintro w wakesWaiter wakes task ⟨⟩
  · rintro w wakesWaiter wakes task ⟨⟩
  · rintro w wakesWaiter wakes task ⟨⟩
  · rintro w wakesWaiter wakes task ⟨⟩ ⟨⟩ - -
    exact Nat.zero_lt_one

/-- Before it goes on, thread `1` pushes another task to the group, which the worker takes and finishes. -/
def secondTask : List (Action ℕ 1 1) :=
  firstTask ++ [.beginPush 1 ⟨0, 1, 1⟩, .push 1 none, .resumeWorker 0 none, .complete 0 none none]

/-- The limit is the initial one again, which the pool asserts it is not. -/
theorem secondTask_aborts :
    ∃ s₀ : WorkerSystem ℕ 1 1, create 1 = some s₀ ∧
      ¬Along step (fun s a => ∀ s', s.step a = some s' → s'.Promised) s₀ secondTask := by
  refine ⟨_, rfl, ?_⟩
  rintro ⟨-, -, -, -, -, -, -, -, hpromised, -⟩
  cases (hpromised _ rfl).assertions

end Runs

end WorkerSystem

end AugmentedInsanity.Util
