/-
The use count of a swapchain image, with the threads that raise it, lower it, and wait until nobody uses the image
(`swapchain_inc_image_use`, `swapchain_dec_image_use` and `swapchain_wait_image` of `comp_swapchain.c`). A step is one
instruction of one thread: the count is loaded and stored in two of them, so that only the mutex keeps updates apart. The
thread that lowers the count to zero unlocks the mutex to wake who waits, and then unlocks it again. All goes well as
long as none gets to that second unlock, and the count does not wrap around (`imageUse_iff`).
-/
import AugmentedInsanity.Lib.CondVar
import AugmentedInsanity.Lib.Monitor
import AugmentedInsanity.Lib.Runs
import AugmentedInsanity.Xrt.Defines
import Mathlib.Data.Fintype.Basic

namespace AugmentedInsanity.Comp

open Runs Xrt

/-! ## Threads -/

/-- What `pthread_cond_timedwait` returns: 0, `ETIMEDOUT`, or another error. -/
inductive CondRet
  | woken
  | timedOut
  | error
  deriving DecidableEq

/-- Where a thread is: outside of the three functions, or before one of their instructions. -/
inductive ImagePlace
  | outside
  | incLock
  | incLoad
  | incStore (useCount : UInt32)
  | incUnlock
  | decLock
  | decAssert
  | decLoad
  | decStore (useCount : UInt32)
  | decTest
  | decUnlockEarly
  | decBroadcast
  | decUnlock (early : Bool)
  | waitLock (timeoutNs : Int64)
  | waitTest (timeoutNs : Int64)
  | waitStart (timeoutNs : Int64)
  | loopTest (endWaitRt : Int64)
  | timedwait (endWaitRt : Int64)
  | waiting (endWaitRt : Int64)
  | returned (endWaitRt : Int64) (ret : CondRet)
  | waitUnlock (result : XrtResult)
  deriving DecidableEq

/-- `struct comp_swapchain_image`, as far as the three functions use it, with the threads, how often the count was raised
and lowered, and whether the assertion has failed. -/
structure ImageThreads (θ : Type) where
  useCount : UInt32
  useMutex : Option θ
  useCond : CondVar θ
  place : θ → ImagePlace
  increments : ℕ
  decrements : ℕ
  aborted : Bool

/-- What can come next: a thread calls one of the functions, it goes on, at a time that it may read from the clock, it is
woken by its timeout or for no reason, or it has the mutex again after it was woken. -/
inductive ImageAction (θ : Type)
  | incImageUse (t : θ)
  | decImageUse (t : θ)
  | waitImage (t : θ) (timeoutNs : Int64)
  | run (t : θ) (nowRt : Int64)
  | wake (t : θ)
  | resume (t : θ) (ret : CondRet)
  deriving DecidableEq

/-- The end of a wait that starts now, which does not wrap on big or indefinite timeouts. -/
def endWaitRt (startWaitRt timeoutNs : Int64) : Int64 :=
  if startWaitRt > Int64.maxValue - timeoutNs then Int64.maxValue else startWaitRt + timeoutNs

namespace ImageThreads

variable {θ : Type}

def create : ImageThreads θ := ⟨0, none, .empty, fun _ => .outside, 0, 0, false⟩

variable [DecidableEq θ]

def goTo (s : ImageThreads θ) (t : θ) (p : ImagePlace) : ImageThreads θ := { s with place := Function.update s.place t p }

theorem place_goTo (s : ImageThreads θ) (t : θ) (p : ImagePlace) : (s.goTo t p).place t = p := Function.update_self ..

theorem place_goTo_of_ne (s : ImageThreads θ) {t u : θ} (h : u ≠ t) (p : ImagePlace) :
    (s.goTo t p).place u = s.place u := Function.update_of_ne h ..

/-- `os_mutex_lock`, for which a thread waits while the mutex is held. -/
def lock (s : ImageThreads θ) (t : θ) (p : ImagePlace) : Option (ImageThreads θ) :=
  match s.useMutex with
  | none => some ({ s with useMutex := some t }.goTo t p)
  | some _ => none

/-- `os_mutex_unlock`, which frees the mutex whoever holds it. -/
def unlock (s : ImageThreads θ) (t : θ) (p : ImagePlace) : ImageThreads θ := { s with useMutex := none }.goTo t p

def run (s : ImageThreads θ) (t : θ) (nowRt : Int64) : Option (ImageThreads θ) :=
  match s.place t with
  | .outside => none
  -- `swapchain_inc_image_use`
  | .incLock => s.lock t .incLoad
  | .incLoad => some (s.goTo t (.incStore s.useCount))
  | .incStore useCount =>
    some ({ s with useCount := useCount + 1, increments := s.increments + 1 }.goTo t .incUnlock)
  | .incUnlock => some (s.unlock t .outside)
  -- `swapchain_dec_image_use`
  | .decLock => s.lock t .decAssert
  | .decAssert => some (if s.useCount > 0 then s.goTo t .decLoad else { s with aborted := true })
  | .decLoad => some (s.goTo t (.decStore s.useCount))
  | .decStore useCount =>
    some ({ s with useCount := useCount - 1, decrements := s.decrements + 1 }.goTo t .decTest)
  | .decTest => some (s.goTo t (if s.useCount = 0 then .decUnlockEarly else .decUnlock false))
  | .decUnlockEarly => some (s.unlock t .decBroadcast)
  | .decBroadcast => some ({ s with useCond := s.useCond.broadcast }.goTo t (.decUnlock true))
  | .decUnlock _ => some (s.unlock t .outside)
  -- `swapchain_wait_image`
  | .waitLock timeoutNs => s.lock t (.waitTest timeoutNs)
  | .waitTest timeoutNs => some (s.goTo t (if s.useCount = 0 then .waitUnlock .success else .waitStart timeoutNs))
  | .waitStart timeoutNs => some (s.goTo t (.loopTest (endWaitRt nowRt timeoutNs)))
  | .loopTest endWaitRt => some (s.goTo t (if s.useCount > 0 then .timedwait endWaitRt else .waitUnlock .success))
  | .timedwait endWaitRt => some ({ s with useCond := s.useCond.wait t }.unlock t (.waiting endWaitRt))
  | .waiting _ => none
  | .returned endWaitRt .woken =>
    some (s.goTo t (if s.useCount = 0 then .waitUnlock .success else .loopTest endWaitRt))
  | .returned endWaitRt .timedOut =>
    some (s.goTo t (if nowRt ≥ endWaitRt then .waitUnlock .timeout else .loopTest endWaitRt))
  | .returned _ .error => some (s.goTo t (.waitUnlock .errorVulkan))
  | .waitUnlock _ => some (s.unlock t .outside)

def live (s : ImageThreads θ) : ImageAction θ → Option (ImageThreads θ)
  | .incImageUse t => if s.place t = .outside then some (s.goTo t .incLock) else none
  | .decImageUse t => if s.place t = .outside then some (s.goTo t .decLock) else none
  | .waitImage t timeoutNs => if s.place t = .outside then some (s.goTo t (.waitLock timeoutNs)) else none
  | .run t nowRt => s.run t nowRt
  | .wake t => (s.useCond.spurious t).map fun cond => { s with useCond := cond }
  | .resume t ret =>
    match s.place t, s.useCond.resume t with
    | .waiting endWaitRt, some cond => { s with useCond := cond }.lock t (.returned endWaitRt ret)
    | _, _ => none

def step (s : ImageThreads θ) (a : ImageAction θ) : Option (ImageThreads θ) := if s.aborted then none else s.live a

end ImageThreads

/-! ## The promises -/

def ImagePlace.unlocks : ImagePlace → Bool
  | .incUnlock | .decUnlockEarly | .decUnlock _ | .timedwait _ | .waitUnlock _ => true
  | _ => false

def ImagePlace.wakes : ImagePlace → Bool
  | .decTest | .decUnlockEarly | .decBroadcast => true
  | _ => false

namespace ImageThreads

variable {θ : Type}

/-- The mutex is only unlocked by the thread that holds it. -/
def UnlocksOwned (s : ImageThreads θ) : ImageAction θ → Prop
  | .run t _ => (s.place t).unlocks = true → s.useMutex = some t
  | _ => True

/-- Waiting returns success, with the last unlock, only while nobody uses the image. -/
def SuccessAtZero (s : ImageThreads θ) : ImageAction θ → Prop
  | .run t _ => s.place t = .waitUnlock .success → s.useCount = 0
  | _ => True

def CountKept (s : ImageThreads θ) : Prop := (s.useCount.toNat : ℤ) = s.increments - s.decrements

/-- If nobody uses the image, nobody is blocked, or somebody will broadcast. -/
def NobodyStuck (s : ImageThreads θ) : Prop :=
  s.useCount = 0 → s.useCond.blocked ≠ [] → ∃ t, (s.place t).wakes = true

variable [DecidableEq θ]

def Promised (s : ImageThreads θ) (a : ImageAction θ) : Prop :=
  match s.step a with
  | none => True
  | some s' => s.UnlocksOwned a ∧ s.SuccessAtZero a ∧ s'.CountKept ∧ s'.NobodyStuck

/-- No thread that has lowered the count to zero gets to the unlock behind the broadcast, and the count is not raised
beyond the greatest number that it can hold. -/
def Sound (s : ImageThreads θ) (a : ImageAction θ) : Prop :=
  match s.step a with
  | none => True
  | some _ => ∀ t nowRt, a = .run t nowRt → s.place t ≠ .decUnlock true ∧ s.place t ≠ .incStore 4294967295

end ImageThreads

/-! ## The invariant -/

/-- The thread has the mutex there. It has not between the two unlocks of a decrement, nor at the second one. -/
def ImagePlace.holds : ImagePlace → Bool
  | .outside | .incLock | .decLock | .decBroadcast | .decUnlock true | .waitLock _ | .waiting _ => false
  | _ => true

def ImagePlace.Knows (n : UInt32) : ImagePlace → Prop
  | .incStore useCount => n = useCount
  | .decLoad => n ≠ 0
  | .decStore useCount => n = useCount ∧ n ≠ 0
  | .timedwait _ => n ≠ 0
  | .waitUnlock .success => n = 0
  | _ => True

def useMonitor : Monitor ImagePlace UInt32 where
  Holds p := p.holds = true
  Knows p n := p.Knows n
  outside p n h := by
    cases p <;> trivial

namespace ImageThreads

variable {θ : Type} {s s' : ImageThreads θ} {a : ImageAction θ} {t : θ} {p q : ImagePlace}

structure Inv (s : ImageThreads θ) : Prop where
  monitor : useMonitor.Kept s.useMutex s.place s.useCount
  count : s.CountKept
  awake : s.NobodyStuck

theorem create_inv : (create : ImageThreads θ).Inv :=
  ⟨Monitor.kept_init Bool.false_ne_true 0, rfl, fun _ h => absurd rfl h⟩

variable [DecidableEq θ]

theorem NobodyStuck.goTo (h : s.NobodyStuck) (hplace : s.place t = q) (hwakes : q.wakes = true → p.wakes = true) :
    (s.goTo t p).NobodyStuck := by
  intro hzero hblocked
  obtain ⟨u, hu⟩ := h hzero hblocked
  by_cases hut : u = t
  · refine ⟨t, ?_⟩
    rw [hut, hplace] at hu
    rw [place_goTo]
    exact hwakes hu
  · refine ⟨u, ?_⟩
    rw [place_goTo_of_ne _ hut]
    exact hu

theorem Inv.goTo (h : s.Inv) (hplace : s.place t = q) (hholds : p.holds = q.holds) (hknows : p.Knows s.useCount)
    (hwakes : q.wakes = true → p.wakes = true) : (s.goTo t p).Inv := by
  refine ⟨h.monitor.move ?_ hknows, h.count, h.awake.goTo hplace hwakes⟩
  rw [hplace]
  exact iff_of_eq (congrArg (· = true) hholds)

theorem Inv.lock (h : s.Inv) (hplace : s.place t = q) (hs : s.lock t p = some s') (hp : p.holds = true)
    (hknows : p.Knows s.useCount) (hwakes : q.wakes = true → p.wakes = true) : s'.Inv := by
  unfold ImageThreads.lock at hs
  split at hs
  · rename_i hfree
    cases hs
    have hmonitor := h.monitor
    rw [hfree] at hmonitor
    exact ⟨hmonitor.acquire hp hknows, h.count, h.awake.goTo hplace hwakes⟩
  · cases hs

theorem Inv.unlock (h : s.Inv) (hplace : s.place t = q) (hheld : q.holds = true) (hp : p.holds = false)
    (hwakes : q.wakes = true → p.wakes = true) : (s.unlock t p).Inv := by
  have hnot : ¬ p.holds = true := by
    rw [hp]
    exact Bool.false_ne_true
  exact ⟨h.monitor.release (hplace ▸ hheld) hnot, h.count, h.awake.goTo hplace hwakes⟩

theorem toNat_greatest : (4294967295 : UInt32).toNat = 4294967295 := by decide

theorem wraps_greatest : ((4294967295 : UInt32) + 1).toNat = 0 := by decide

theorem toNat_succ {n : UInt32} (h : n ≠ 4294967295) : (n + 1).toNat = n.toNat + 1 := by
  have hlt := n.toNat_lt
  have hne : n.toNat ≠ 4294967295 := fun heq => h (UInt32.toNat_inj.1 heq)
  rw [UInt32.toNat_add]
  exact Nat.mod_eq_of_lt (by simp only [UInt32.toNat_one]; omega)

theorem toNat_pred {n : UInt32} (h : n ≠ 0) : (n - 1).toNat + 1 = n.toNat := by
  have hpos : n.toNat ≠ 0 := fun heq => h (UInt32.toNat_inj.1 heq)
  have hle : (1 : UInt32) ≤ n := by
    rw [UInt32.le_iff_toNat_le, UInt32.toNat_one]
    omega
  rw [UInt32.toNat_sub_of_le _ _ hle, UInt32.toNat_one]
  omega

theorem countKept_incStore (n : UInt32) :
    ({ s with useCount := n, increments := s.increments + 1 }.goTo t p).CountKept ↔
      (n.toNat : ℤ) = (s.increments + 1 : ℕ) - s.decrements := Iff.rfl

theorem countKept_decStore (n : UInt32) :
    ({ s with useCount := n, decrements := s.decrements + 1 }.goTo t p).CountKept ↔
      (n.toNat : ℤ) = s.increments - (s.decrements + 1 : ℕ) := Iff.rfl

theorem Inv.incStore (h : s.Inv) {useCount : UInt32} (hplace : s.place t = .incStore useCount)
    (hmax : useCount ≠ 4294967295) :
    ({ s with useCount := useCount + 1, increments := s.increments + 1 }.goTo t .incUnlock).Inv := by
  have hloaded := h.monitor.knows t
  rw [hplace] at hloaded
  have hcount := h.count
  obtain rfl : s.useCount = useCount := hloaded
  have hsucc := toNat_succ hmax
  refine ⟨h.monitor.write ?_ ?_ trivial, ?_, ?_⟩
  · rw [hplace]
    rfl
  · rfl
  · rw [countKept_incStore]
    unfold CountKept at hcount
    omega
  · -- The count is not zero any more, whoever waits.
    intro hzero
    have hval : (s.useCount + 1).toNat = 0 := congrArg UInt32.toNat hzero
    omega

theorem Inv.decStore (h : s.Inv) {useCount : UInt32} (hplace : s.place t = .decStore useCount) :
    ({ s with useCount := useCount - 1, decrements := s.decrements + 1 }.goTo t .decTest).Inv := by
  have hloaded := h.monitor.knows t
  rw [hplace] at hloaded
  have hcount := h.count
  obtain ⟨rfl, hne⟩ : s.useCount = useCount ∧ s.useCount ≠ 0 := hloaded
  have hpred := toNat_pred hne
  refine ⟨h.monitor.write ?_ ?_ trivial, ?_, ?_⟩
  · rw [hplace]
    rfl
  · rfl
  · rw [countKept_decStore]
    unfold CountKept at hcount
    omega
  · -- The thread itself is going to look whether to broadcast.
    intro _ _
    refine ⟨t, ?_⟩
    rw [place_goTo]
    rfl

theorem Inv.timedwait (h : s.Inv) {endWaitRt : Int64} (hplace : s.place t = .timedwait endWaitRt) :
    ({ s with useCond := s.useCond.wait t }.unlock t (.waiting endWaitRt)).Inv := by
  have hused := h.monitor.knows t
  rw [hplace] at hused
  refine ⟨h.monitor.release ?_ Bool.false_ne_true, h.count, fun hzero => absurd hzero hused⟩
  rw [hplace]
  rfl

theorem Inv.decBroadcast (h : s.Inv) (hplace : s.place t = .decBroadcast) :
    ({ s with useCond := s.useCond.broadcast }.goTo t (.decUnlock true)).Inv := by
  refine ⟨h.monitor.move ?_ trivial, h.count, fun _ hblocked => absurd rfl hblocked⟩
  rw [hplace]
  exact Iff.rfl

theorem Inv.decAssert (h : s.Inv) (hplace : s.place t = .decAssert) :
    (if s.useCount > 0 then s.goTo t .decLoad else { s with aborted := true }).Inv := by
  split
  · rename_i hpos
    exact h.goTo hplace rfl (UInt32.pos_iff_ne_zero.1 hpos) id
  · exact ⟨h.monitor, h.count, h.awake⟩

theorem Inv.decTest (h : s.Inv) (hplace : s.place t = .decTest) :
    (s.goTo t (if s.useCount = 0 then .decUnlockEarly else .decUnlock false)).Inv := by
  split
  · exact h.goTo hplace rfl trivial id
  · rename_i hused
    refine ⟨h.monitor.move ?_ trivial, h.count, fun hzero => absurd hzero hused⟩
    rw [hplace]
    exact Iff.rfl

theorem Inv.succeedOr (h : s.Inv) (hplace : s.place t = q) (hheld : q.holds = true) (hwakes : q.wakes = false)
    (hp : p.holds = true) (hknows : s.useCount ≠ 0 → p.Knows s.useCount) :
    (s.goTo t (if s.useCount = 0 then .waitUnlock .success else p)).Inv := by
  have hnot : q.wakes = true → False := fun hw => Bool.false_ne_true (hwakes.symm.trans hw)
  split
  · rename_i hzero
    exact h.goTo hplace hheld.symm hzero fun hw => (hnot hw).elim
  · rename_i hused
    exact h.goTo hplace (hp.trans hheld.symm) (hknows hused) fun hw => (hnot hw).elim

theorem Inv.loopTest (h : s.Inv) {endWaitRt : Int64} (hplace : s.place t = .loopTest endWaitRt) :
    (s.goTo t (if s.useCount > 0 then .timedwait endWaitRt else .waitUnlock .success)).Inv := by
  have hflip : (if s.useCount > 0 then ImagePlace.timedwait endWaitRt else .waitUnlock .success) =
      if s.useCount = 0 then .waitUnlock .success else .timedwait endWaitRt := by
    simp only [gt_iff_lt, UInt32.pos_iff_ne_zero, ne_eq, ite_not]
  rw [hflip]
  exact h.succeedOr hplace rfl rfl rfl id

/-! ## Steps -/

theorem Inv.run (h : s.Inv) {nowRt : Int64} (hs : s.run t nowRt = some s') (hsecond : s.place t ≠ .decUnlock true)
    (hmax : s.place t ≠ .incStore 4294967295) : s'.Inv := by
  have hknows := h.monitor.knows t
  unfold ImageThreads.run at hs
  generalize hplace : s.place t = q at hs hsecond hmax hknows
  cases q with
  | outside | waiting endWaitRt => cases hs
  | incLock | decLock | waitLock timeoutNs => exact h.lock hplace hs rfl trivial id
  | incLoad =>
    cases hs
    exact h.goTo hplace rfl rfl id
  | incStore useCount =>
    cases hs
    exact h.incStore hplace fun heq => hmax (congrArg _ heq)
  | decAssert =>
    cases hs
    exact h.decAssert hplace
  | decLoad =>
    cases hs
    exact h.goTo hplace rfl ⟨rfl, hknows⟩ id
  | decStore useCount =>
    cases hs
    exact h.decStore hplace
  | decTest =>
    cases hs
    exact h.decTest hplace
  | decBroadcast =>
    cases hs
    exact h.decBroadcast hplace
  | incUnlock | decUnlockEarly | waitUnlock result =>
    cases hs
    exact h.unlock hplace rfl rfl id
  | decUnlock early =>
    cases hs
    cases early with
    | false => exact h.unlock hplace rfl rfl id
    | true => exact absurd rfl hsecond
  | waitTest timeoutNs =>
    cases hs
    exact h.succeedOr hplace rfl rfl rfl fun _ => trivial
  | waitStart timeoutNs =>
    cases hs
    exact h.goTo hplace rfl trivial id
  | loopTest endWaitRt =>
    cases hs
    exact h.loopTest hplace
  | timedwait endWaitRt =>
    cases hs
    exact h.timedwait hplace
  | returned endWaitRt ret =>
    cases ret with
    | woken =>
      cases hs
      exact h.succeedOr hplace rfl rfl rfl fun _ => trivial
    | timedOut =>
      -- Whether the time is really over makes no difference to who has the mutex.
      cases hs
      split
      · exact h.goTo hplace rfl trivial id
      · exact h.goTo hplace rfl trivial id
    | error =>
      cases hs
      exact h.goTo hplace rfl trivial id

theorem live_of_step (hs : s.step a = some s') : s.live a = some s' := by
  unfold ImageThreads.step at hs
  split at hs
  · cases hs
  · exact hs

theorem Inv.enter (h : s.Inv) (hs : (if s.place t = .outside then some (s.goTo t p) else none) = some s')
    (hp : p.holds = false) (hknows : p.Knows s.useCount) : s'.Inv := by
  split at hs
  · rename_i hplace
    cases hs
    refine h.goTo hplace hp hknows fun hw => ?_
    cases hw
  · cases hs

theorem Inv.step (h : s.Inv) (hsound : s.Sound a) (hs : s.step a = some s') : s'.Inv := by
  have hlive := live_of_step hs
  unfold Sound at hsound
  rw [hs] at hsound
  cases a with
  | incImageUse t => exact h.enter hlive rfl trivial
  | decImageUse t => exact h.enter hlive rfl trivial
  | waitImage t timeoutNs => exact h.enter hlive rfl trivial
  | run t nowRt =>
    obtain ⟨hsecond, hmax⟩ := hsound t nowRt rfl
    exact h.run hlive hsecond hmax
  | wake t =>
    obtain ⟨cond, hcond, rfl⟩ := Option.map_eq_some_iff.1 hlive
    refine ⟨h.monitor, h.count, fun hzero hblocked => h.awake hzero fun hnil => hblocked ?_⟩
    exact CondVar.blocked_spurious hcond hnil
  | resume t ret =>
    simp only [live] at hlive
    split at hlive
    · rename_i endWaitRt cond hplace hcond
      have hback : ({ s with useCond := cond } : ImageThreads θ).Inv := by
        refine ⟨h.monitor, h.count, fun hzero hblocked => h.awake hzero ?_⟩
        rwa [← CondVar.blocked_resume hcond]
      exact hback.lock hplace hlive rfl trivial id
    · cases hlive

omit [DecidableEq θ] in
theorem Inv.unlocksOwned (h : s.Inv) (hsecond : ∀ t nowRt, a = .run t nowRt → s.place t ≠ .decUnlock true) :
    s.UnlocksOwned a := by
  cases a with
  | run t nowRt =>
    intro hunlocks
    refine (h.monitor.holds t).1 ?_
    have hne := hsecond t nowRt rfl
    show (s.place t).holds = true
    cases hplace : s.place t with
    | decUnlock early =>
      cases early with
      | false => rfl
      | true => exact absurd hplace hne
    | incUnlock | decUnlockEarly | timedwait endWaitRt | waitUnlock result => rfl
    | _ =>
      rw [hplace] at hunlocks
      cases hunlocks
  | _ => exact trivial

omit [DecidableEq θ] in
theorem Inv.successAtZero (h : s.Inv) (a : ImageAction θ) : s.SuccessAtZero a := by
  cases a with
  | run t nowRt =>
    intro hplace
    have hknows := h.monitor.knows t
    rw [hplace] at hknows
    exact hknows
  | _ => exact trivial

theorem Inv.promised_iff (h : s.Inv) (a : ImageAction θ) : s.Promised a ↔ s.Sound a := by
  cases hs : s.step a with
  | none => rw [Promised, Sound, hs]
  | some s' =>
    constructor
    · intro hpromised
      unfold Promised at hpromised
      rw [hs] at hpromised
      obtain ⟨howned, -, hcount, -⟩ := hpromised
      unfold Sound
      rw [hs]
      rintro t nowRt rfl
      have hlive : s.run t nowRt = some s' := live_of_step hs
      constructor
      · -- The mutex was freed by the first unlock.
        intro hplace
        have hheld := (h.monitor.holds t).2 (howned (hplace ▸ rfl))
        rw [hplace] at hheld
        cases hheld
      · -- The count would wrap around to zero.
        intro hplace
        have hloaded := h.monitor.knows t
        rw [hplace] at hloaded
        have hfull : s.useCount = 4294967295 := hloaded
        have hbefore := h.count
        unfold ImageThreads.run at hlive
        rw [hplace] at hlive
        cases hlive
        rw [countKept_incStore, wraps_greatest] at hcount
        rw [CountKept, hfull, toNat_greatest] at hbefore
        omega
    · intro hsound
      have hnext := h.step hsound hs
      unfold Sound at hsound
      rw [hs] at hsound
      unfold Promised
      rw [hs]
      exact ⟨h.unlocksOwned fun t nowRt ha => (hsound t nowRt ha).1, h.successAtZero a, hnext.count, hnext.awake⟩

/-- The promises hold along a run exactly when no decrement to zero gets to its second unlock, and the count does not
wrap around. -/
theorem imageUse_iff (actions : List (ImageAction θ)) :
    Along step Promised (create : ImageThreads θ) actions ↔ Along step Sound (create : ImageThreads θ) actions :=
  along_iff (fun _ a h => Inv.promised_iff h a) (fun _ _ _ h hsound hs => Inv.step h hsound hs) create_inv actions

/-! ## Two unlocks -/

/-- Thread `0` uses the image and stops using it, up to the second unlock; before that, thread `1` has locked the mutex
and loaded the count. -/
def toSecondUnlock : List (ImageAction ℕ) :=
  [.incImageUse 0, .run 0 0, .run 0 0, .run 0 0, .run 0 0, .decImageUse 0, .run 0 0, .run 0 0, .run 0 0, .run 0 0,
    .run 0 0, .run 0 0, .incImageUse 1, .run 1 0, .run 1 0, .run 0 0]

/-- The second unlock lets thread `2` in, whose increment thread `1` then overwrites. -/
def fromSecondUnlock : List (ImageAction ℕ) :=
  [.run 0 0, .incImageUse 2, .run 2 0, .run 2 0, .run 2 0, .run 2 0, .run 1 0]

theorem secondUnlock_loses :
    ∃ u s : ImageThreads ℕ, Reaches step create toSecondUnlock u ∧ ¬ u.UnlocksOwned (.run 0 0) ∧
      Reaches step u fromSecondUnlock s ∧ s.increments = 3 ∧ s.decrements = 1 ∧ s.useCount = 1 ∧ ¬ s.CountKept := by
  refine ⟨_, _, ⟨_, rfl, _, rfl, _, rfl, _, rfl, _, rfl, _, rfl, _, rfl, _, rfl, _, rfl, _, rfl, _, rfl, _, rfl, _, rfl,
    _, rfl, _, rfl, _, rfl, rfl⟩, ?_, ⟨_, rfl, _, rfl, _, rfl, _, rfl, _, rfl, _, rfl, _, rfl, rfl⟩, rfl, rfl, rfl, ?_⟩
  · intro howned
    have hother : some 1 = some 0 := howned rfl
    cases hother
  · intro hkept
    cases hkept

end ImageThreads

end AugmentedInsanity.Comp
