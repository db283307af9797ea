/-
The counters of a client's swapchains and compositor semaphores against the tables they count. The
swapchain counter is kept by all handlers but the destroy one, which trusts its id; the semaphore
counter is only ever decremented. Along a client's calls the counters agree with the tables, and every
call returns and fails cleanly, exactly when each call fits (`countersKept_iff`).
-/
import AugmentedInsanity.Ipc.Server.Process
import AugmentedInsanity.Ipc.Server.Resources
import AugmentedInsanity.Lib.Runs

namespace AugmentedInsanity.Ipc

open Xrt Tables Runs

/-! ## The law -/

structure CountersAgree (ics : IpcClientState) : Prop where
  swapchains : ics.swapchainCount.toNat = tally ics.swapchainActive
  semaphores : ics.compositorSemaphoreCount.toNat = tally ics.semaphoreLive

def CountsDown (ics ics' : IpcClientState) : ResourceCall → Prop
  | .swapchainDestroy _ => ics'.swapchainCount < ics.swapchainCount
  | .semaphoreDestroy _ => ics'.compositorSemaphoreCount < ics.compositorSemaphoreCount
  | _ => True

/-- A create call that the compositor grants fails exactly when its table is full. -/
def FailsWhenFull (ics : IpcClientState) (failed : Bool) : ResourceCall → Prop
  | .swapchainCreate _ (.ok _) => failed = true ↔ ∀ i, ics.swapchainActive i = true
  | .swapchainImport _ _ (.ok _) => failed = true ↔ ∀ i, ics.swapchainActive i = true
  | .semaphoreCreate (.ok _) => ics.xc.isSome = true → (failed = true ↔ ∀ i, ics.semaphoreLive i = true)
  | _ => True

/-- What the counters ask of one call: it returns; when it fails it changes nothing; the counters
agree with the tables afterwards and do not wrap. -/
def KeepsCounters (ics : IpcClientState) (call : ResourceCall) : Prop :=
  match handleResourceCall ics call with
  | .error _ => False
  | .ok (.error _, ics') => ics' = ics ∧ CountersAgree ics ∧ FailsWhenFull ics true call
  | .ok (.ok _, ics') => CountersAgree ics' ∧ CountsDown ics ics' call ∧ FailsWhenFull ics false call

def IpcClientState.SwapchainsFull (ics : IpcClientState) : Prop := ∀ i, ics.swapchainActive i = true

/-- When a call does what the counters ask. Swapchains are created with a compositor, imported from no
more handles than a swapchain has images and destroyed by the id of one in use; no semaphore is
created, and the id of a semaphore destroy call is one of the table. -/
def CallFits (ics : IpcClientState) : ResourceCall → Prop
  | .sessionCreate .. => True
  | .sessionDestroy => True
  | .swapchainCreate .. => ics.SwapchainsFull ∨ ics.xc.isSome = true
  | .swapchainImport _ handleCount _ =>
    ics.SwapchainsFull ∨ (handleCount ≤ XRT_MAX_SWAPCHAIN_IMAGES ∧ ics.xc.isSome = true)
  | .swapchainDestroy id =>
    ics.xc.isNone = true ∨ ∃ h : id.toNat < IPC_MAX_CLIENT_SWAPCHAINS, ics.swapchainActive ⟨id.toNat, h⟩ = true
  | .semaphoreCreate created => ics.xc.isNone = true ∨ ∃ xret, created = .error xret
  | .semaphoreDestroy id => ics.xc.isNone = true ∨ id.toNat < IPC_MAX_CLIENT_SEMAPHORES

def resourceStep (ics : IpcClientState) (call : ResourceCall) : Option IpcClientState :=
  (handleResourceCall ics call).toOption.map Prod.snd

/-! ## What carries it -/

structure CountersInv (ics : IpcClientState) : Prop where
  swapchains : ics.swapchainCount.toNat = tally ics.swapchainActive
  noCount : ics.compositorSemaphoreCount = 0
  noSemaphore : ∀ i, ics.semaphoreLive i = false

variable {ics : IpcClientState} {index : Fin IPC_MAX_CLIENT_SWAPCHAINS}

theorem CountersInv.agree (h : CountersInv ics) : CountersAgree ics :=
  ⟨h.swapchains, by rw [h.noCount, tally_eq_zero.2 h.noSemaphore]; rfl⟩

theorem freshClient_inv (i : Fin IPC_MAX_CLIENTS) (id : UInt32) (ipcHandle : Int) :
    CountersInv (freshClient i id ipcHandle) :=
  ⟨(tally_eq_zero.2 fun _ => rfl).symm, rfl, fun _ => rfl⟩

theorem validateSwapchainState_full (h : ics.SwapchainsFull) :
    validateSwapchainState ics = .error .errorIpcFailure := by
  unfold validateSwapchainState
  rw [firstIndex_eq_none.2 fun i => by rw [h i]; rfl]

theorem validateSwapchainState_free (h : ¬ ics.SwapchainsFull) :
    ∃ index, validateSwapchainState ics = .ok index ∧ ics.swapchainActive index = false := by
  obtain ⟨i, hi⟩ := not_forall.1 h
  obtain ⟨j, hj⟩ := exists_firstIndex (p := fun i => !ics.swapchainActive i) (i := i) (by simpa using hi)
  refine ⟨j, ?_, by simpa using firstIndex_spec hj⟩
  unfold validateSwapchainState
  rw [hj]

theorem setSwapchainInfo_active (hfree : ics.swapchainActive index = false) (info : XrtSwapchainCreateInfo)
    (xsc : XrtSwapchain) :
    tally (setSwapchainInfo ics index info xsc).swapchainActive = tally ics.swapchainActive + 1 := by
  refine tally_flip (i := index) hfree ?_ ?_
  · simp [IpcClientState.swapchainActive, setSwapchainInfo]
  · intro j hj; simp [IpcClientState.swapchainActive, setSwapchainInfo, Function.update_of_ne hj]

theorem setSwapchainInfo_inv (hinv : CountersInv ics) (hfree : ics.swapchainActive index = false)
    (info : XrtSwapchainCreateInfo) (xsc : XrtSwapchain) :
    CountersInv (setSwapchainInfo { ics with swapchainCount := ics.swapchainCount + 1 } index info xsc) := by
  refine ⟨?_, hinv.noCount, hinv.noSemaphore⟩
  have htally : tally (setSwapchainInfo { ics with swapchainCount := ics.swapchainCount + 1 } index info
      xsc).swapchainActive = tally ics.swapchainActive + 1 := setSwapchainInfo_active hfree info xsc
  have hle := tally_le ics.swapchainActive
  have hcount := hinv.swapchains
  rw [htally]
  show (ics.swapchainCount + 1).toNat = tally ics.swapchainActive + 1
  rw [UInt32.toNat_add, hcount]
  simp only [IPC_MAX_CLIENT_SWAPCHAINS, XRT_MAX_LAYERS] at hle
  simp only [UInt32.toNat_one]
  omega

/-! ## Call by call

For each call, under the invariant: it keeps the counters exactly when it fits, and then it keeps the
invariant. -/

def Settled (ics : IpcClientState) (call : ResourceCall) : Prop :=
  (KeepsCounters ics call ↔ CallFits ics call) ∧
    (CallFits ics call → ∀ r ics', handleResourceCall ics call = .ok (r, ics') → CountersInv ics')

variable {call : ResourceCall}

theorem settled_of_error (hinv : CountersInv ics) {xret : XrtResult}
    (h : handleResourceCall ics call = .ok (.error xret, ics)) (hfits : CallFits ics call)
    (hfull : FailsWhenFull ics true call) : Settled ics call := by
  refine ⟨⟨fun _ => hfits, fun _ => ?_⟩, ?_⟩
  · unfold KeepsCounters; rw [h]; exact ⟨rfl, hinv.agree, hfull⟩
  · intro _ r ics' h'
    rw [h] at h'
    cases h'; exact hinv

theorem settled_of_ok {ics' : IpcClientState} (h : handleResourceCall ics call = .ok (.ok (), ics'))
    (hinv' : CountersInv ics') (hfits : CallFits ics call) (hdown : CountsDown ics ics' call)
    (hfull : FailsWhenFull ics false call) : Settled ics call := by
  refine ⟨⟨fun _ => hfits, fun _ => ?_⟩, ?_⟩
  · unfold KeepsCounters; rw [h]; exact ⟨hinv'.agree, hdown, hfull⟩
  · intro _ r ics'' h'
    rw [h] at h'
    cases h'; exact hinv'

theorem settled_of_not (hkeeps : ¬ KeepsCounters ics call) (hfits : ¬ CallFits ics call) : Settled ics call :=
  ⟨⟨fun h => absurd h hkeeps, fun h => absurd h hfits⟩, fun h => absurd h hfits⟩

theorem not_keeps_of_fault {f : Fault} (h : handleResourceCall ics call = .error f) : ¬ KeepsCounters ics call := by
  unfold KeepsCounters; rw [h]; exact id

theorem swapchainDestroy_inBounds {id : UInt32} (hxc : ics.xc.isSome = true)
    (hid : id.toNat < IPC_MAX_CLIENT_SWAPCHAINS) :
    handleResourceCall ics (.swapchainDestroy id) = .ok (.ok (), { ics with
      swapchainCount := ics.swapchainCount - 1
      xscs := Function.update ics.xscs ⟨id.toNat, hid⟩ none
      swapchainData := Function.update ics.swapchainData ⟨id.toNat, hid⟩
        { ics.swapchainData ⟨id.toNat, hid⟩ with active := false } }) := by
  have hne : ¬ ics.xc.isNone = true := by rw [← Option.not_isSome, hxc]; decide
  simp only [handleResourceCall, ipcHandleSwapchainDestroy, if_neg hne, writeAt_of_lt hid, readAt_of_lt hid]
  rfl

section
variable (hinv : CountersInv ics)
include hinv

theorem sessionCreate_settled (isOverlay : Bool) (zOrder : UInt32) (created : Except XrtResult (ℕ × Option ℕ)) :
    Settled ics (.sessionCreate isOverlay zOrder created) := by
  by_cases hxs : ics.xs.isSome = true
  · exact settled_of_error hinv (if_pos hxs) trivial trivial
  · rcases created with xret | ⟨xs, xcn⟩
    · exact settled_of_error hinv (if_neg hxs) trivial trivial
    · have h : handleResourceCall ics (.sessionCreate isOverlay zOrder (.ok (xs, xcn))) = .ok (.ok (), { ics with
          clientState := { ics.clientState with sessionOverlay := isOverlay, zOrder := zOrder }
          xs := some xs
          xc := xcn }) := if_neg hxs
      exact settled_of_ok h ⟨hinv.swapchains, hinv.noCount, hinv.noSemaphore⟩ trivial trivial trivial

theorem sessionDestroy_settled : Settled ics .sessionDestroy := by
  by_cases hxs : ics.xs.isNone = true
  · exact settled_of_error hinv (if_pos hxs) trivial trivial
  · have h : handleResourceCall ics .sessionDestroy = .ok (.ok (), destroySessionAndCompositor ics) := if_neg hxs
    exact settled_of_ok h ⟨(tally_eq_zero.2 fun _ => rfl).symm, hinv.noCount, fun _ => rfl⟩ trivial trivial trivial

theorem swapchainCreate_settled (info : XrtSwapchainCreateInfo) (created : Except XrtResult XrtSwapchain) :
    Settled ics (.swapchainCreate info created) := by
  by_cases hfull : ics.SwapchainsFull
  · have h : handleResourceCall ics (.swapchainCreate info created) = .ok (.error .errorIpcFailure, ics) := by
      simp only [handleResourceCall, ipcHandleSwapchainCreate, validateSwapchainState_full hfull]
      rfl
    refine settled_of_error hinv h (Or.inl hfull) ?_
    cases created with
    | error xret => trivial
    | ok xsc => exact iff_of_true rfl hfull
  obtain ⟨index, hval, hfree⟩ := validateSwapchainState_free hfull
  rcases hxc : ics.xc with _ | xc
  · have h : handleResourceCall ics (.swapchainCreate info created) = .error .nullDeref := by
      simp only [handleResourceCall, ipcHandleSwapchainCreate, hval, hxc]
      rfl
    refine settled_of_not (not_keeps_of_fault h) ?_
    rintro (hf | hx)
    · exact hfull hf
    · rw [hxc] at hx; cases hx
  have hfits : CallFits ics (.swapchainCreate info created) := Or.inr (by rw [hxc]; rfl)
  cases created with
  | error xret =>
    have h : handleResourceCall ics (.swapchainCreate info (.error xret)) = .ok (.error xret, ics) := by
      simp only [handleResourceCall, ipcHandleSwapchainCreate, hval, hxc]
      rfl
    exact settled_of_error hinv h hfits trivial
  | ok xsc =>
    refine settled_of_ok ?_ (setSwapchainInfo_inv hinv hfree info xsc) hfits trivial ?_
    · simp only [handleResourceCall, ipcHandleSwapchainCreate, hval, hxc]
      rfl
    · exact iff_of_false (by decide) hfull

theorem swapchainImport_settled (info : XrtSwapchainCreateInfo) (handleCount : ℕ)
    (created : Except XrtResult XrtSwapchain) : Settled ics (.swapchainImport info handleCount created) := by
  by_cases hfull : ics.SwapchainsFull
  · have h : handleResourceCall ics (.swapchainImport info handleCount created) =
        .ok (.error .errorIpcFailure, ics) := by
      simp only [handleResourceCall, ipcHandleSwapchainImport, validateSwapchainState_full hfull]
      rfl
    refine settled_of_error hinv h (Or.inl hfull) ?_
    cases created with
    | error xret => trivial
    | ok xsc => exact iff_of_true rfl hfull
  obtain ⟨index, hval, hfree⟩ := validateSwapchainState_free hfull
  by_cases hcount : XRT_MAX_SWAPCHAIN_IMAGES < handleCount
  · have h : handleResourceCall ics (.swapchainImport info handleCount created) =
        .error (.outOfBounds .importImages XRT_MAX_SWAPCHAIN_IMAGES) := by
      simp only [handleResourceCall, ipcHandleSwapchainImport, hval, if_pos hcount]
      rfl
    refine settled_of_not (not_keeps_of_fault h) ?_
    rintro (hf | ⟨hle, _⟩)
    · exact hfull hf
    · omega
  rcases hxc : ics.xc with _ | xc
  · have h : handleResourceCall ics (.swapchainImport info handleCount created) = .error .nullDeref := by
      simp only [handleResourceCall, ipcHandleSwapchainImport, hval, if_neg hcount, hxc]
      rfl
    refine settled_of_not (not_keeps_of_fault h) ?_
    rintro (hf | ⟨_, hx⟩)
    · exact hfull hf
    · rw [hxc] at hx; cases hx
  have hfits : CallFits ics (.swapchainImport info handleCount created) :=
    Or.inr ⟨not_lt.1 hcount, by rw [hxc]; rfl⟩
  cases created with
  | error xret =>
    have h : handleResourceCall ics (.swapchainImport info handleCount (.error xret)) = .ok (.error xret, ics) := by
      simp only [handleResourceCall, ipcHandleSwapchainImport, hval, if_neg hcount, hxc]
      rfl
    exact settled_of_error hinv h hfits trivial
  | ok xsc =>
    refine settled_of_ok ?_ (setSwapchainInfo_inv hinv hfree info xsc) hfits trivial ?_
    · simp only [handleResourceCall, ipcHandleSwapchainImport, hval, if_neg hcount, hxc]
      rfl
    · exact iff_of_false (by decide) hfull

theorem swapchainDestroy_settled (id : UInt32) : Settled ics (.swapchainDestroy id) := by
  rcases hxc : ics.xc with _ | xc
  · exact settled_of_error hinv (if_pos (by rw [hxc]; rfl)) (Or.inl (by rw [hxc]; rfl)) trivial
  have hnone : ¬ ics.xc.isNone = true := by simp [hxc]
  by_cases hid : id.toNat < IPC_MAX_CLIENT_SWAPCHAINS
  · have h := swapchainDestroy_inBounds (show ics.xc.isSome = true by rw [hxc]; rfl) hid
    set i : Fin IPC_MAX_CLIENT_SWAPCHAINS := ⟨id.toNat, hid⟩ with hi
    set ics' : IpcClientState := { ics with
      swapchainCount := ics.swapchainCount - 1
      xscs := Function.update ics.xscs i none
      swapchainData := Function.update ics.swapchainData i { ics.swapchainData i with active := false } } with hics'
    have hcount := hinv.swapchains
    have hle := tally_le ics.swapchainActive
    have hother : ∀ j, j ≠ i → ics.swapchainActive j = ics'.swapchainActive j := by
      intro j hj; simp [IpcClientState.swapchainActive, hics', Function.update_of_ne hj]
    have hgone : ics'.swapchainActive i = false := by simp [IpcClientState.swapchainActive, hics']
    by_cases hact : ics.swapchainActive i = true
    · have hflip : tally ics.swapchainActive = tally ics'.swapchainActive + 1 := tally_flip hgone hact hother
      have hsub : (ics.swapchainCount - 1).toNat = ics.swapchainCount.toNat - 1 :=
        UInt32.toNat_sub_of_le _ _ (by rw [UInt32.le_iff_toNat_le, UInt32.toNat_one]; omega)
      refine settled_of_ok h ⟨?_, hinv.noCount, hinv.noSemaphore⟩ (Or.inr ⟨hid, hact⟩) ?_ trivial
      · show (ics.swapchainCount - 1).toNat = tally ics'.swapchainActive
        omega
      · show ics.swapchainCount - 1 < ics.swapchainCount
        rw [UInt32.lt_iff_toNat_lt]; omega
    · -- the counter goes down although no slot is freed
      have hsame : tally ics'.swapchainActive = tally ics.swapchainActive :=
        tally_congr fun j => by
          by_cases hj : j = i
          · subst hj; rw [hgone, Bool.eq_false_iff.2 hact]
          · exact (hother j hj).symm
      refine settled_of_not ?_ ?_
      · unfold KeepsCounters
        rw [h]
        rintro ⟨hagree, hdown, -⟩
        have hnow : (ics.swapchainCount - 1).toNat = tally ics'.swapchainActive := hagree.swapchains
        have hlt : ics.swapchainCount - 1 < ics.swapchainCount := hdown
        rw [UInt32.lt_iff_toNat_lt] at hlt
        omega
      · rintro (hn | ⟨_, ha⟩)
        · exact hnone hn
        · exact hact ha
  · have h : handleResourceCall ics (.swapchainDestroy id) = .error (.outOfBounds .xscs id.toNat) := by
      simp only [handleResourceCall, ipcHandleSwapchainDestroy, if_neg hnone, writeAt_of_ge hid]
      rfl
    refine settled_of_not (not_keeps_of_fault h) ?_
    rintro (hn | ⟨hlt, _⟩)
    · exact hnone hn
    · exact hid hlt

theorem semaphoreCreate_settled (created : Except XrtResult ℕ) : Settled ics (.semaphoreCreate created) := by
  rcases hxc : ics.xc with _ | xc
  · have h : handleResourceCall ics (.semaphoreCreate created) =
        .ok (.error .errorIpcSessionNotCreated, ics) := by
      simp only [handleResourceCall, ipcHandleCompositorSemaphoreCreate, hxc]
      rfl
    refine settled_of_error hinv h (Or.inl (by rw [hxc]; rfl)) ?_
    cases created with
    | error xret => trivial
    | ok xcsem => intro hx; rw [hxc] at hx; cases hx
  have hnone : ¬ ics.xc.isNone = true := by simp [hxc]
  obtain ⟨index, hindex⟩ := exists_firstIndex (p := fun i => !ics.semaphoreLive i) (i := 0)
    (by rw [hinv.noSemaphore 0]; rfl)
  cases created with
  | error xret =>
    have h : handleResourceCall ics (.semaphoreCreate (.error xret)) = .ok (.error xret, ics) := by
      simp only [handleResourceCall, ipcHandleCompositorSemaphoreCreate, if_neg hnone, hindex]
      rfl
    exact settled_of_error hinv h (Or.inr ⟨xret, rfl⟩) trivial
  | ok xcsem =>
    -- the new semaphore is not counted
    refine settled_of_not ?_ ?_
    · unfold KeepsCounters
      simp only [handleResourceCall, ipcHandleCompositorSemaphoreCreate, if_neg hnone, hindex]
      rintro ⟨hagree, -⟩
      have hcount : ics.compositorSemaphoreCount.toNat = _ := hagree.semaphores
      rw [hinv.noCount] at hcount
      have hlive := tally_eq_zero.1 hcount.symm index
      simp [IpcClientState.semaphoreLive] at hlive
    · rintro (hn | ⟨xret, hx⟩)
      · exact hnone hn
      · cases hx

theorem semaphoreDestroy_settled (id : UInt32) : Settled ics (.semaphoreDestroy id) := by
  rcases hxc : ics.xc with _ | xc
  · exact settled_of_error hinv (if_pos (by rw [hxc]; rfl)) (Or.inl (by rw [hxc]; rfl)) trivial
  have hnone : ¬ ics.xc.isNone = true := by simp [hxc]
  by_cases hid : id.toNat < IPC_MAX_CLIENT_SEMAPHORES
  · have hempty : ics.xcsems ⟨id.toNat, hid⟩ = none := by
      have := hinv.noSemaphore ⟨id.toNat, hid⟩
      unfold IpcClientState.semaphoreLive at this
      exact Option.not_isSome_iff_eq_none.1 (by rw [this]; decide)
    have h : handleResourceCall ics (.semaphoreDestroy id) = .ok (.error .errorIpcFailure, ics) := by
      simp only [handleResourceCall, ipcHandleCompositorSemaphoreDestroy, if_neg hnone, readAt_of_lt hid, hempty]
      rfl
    exact settled_of_error hinv h (Or.inr hid) trivial
  · have h : handleResourceCall ics (.semaphoreDestroy id) = .error (.outOfBounds .xcsems id.toNat) := by
      simp only [handleResourceCall, ipcHandleCompositorSemaphoreDestroy, if_neg hnone, readAt_of_ge hid]
      rfl
    refine settled_of_not (not_keeps_of_fault h) ?_
    rintro (hn | hlt)
    · exact hnone hn
    · exact hid hlt

theorem resourceCall_settled : ∀ call, Settled ics call
  | .sessionCreate isOverlay zOrder created => sessionCreate_settled hinv isOverlay zOrder created
  | .sessionDestroy => sessionDestroy_settled hinv
  | .swapchainCreate info created => swapchainCreate_settled hinv info created
  | .swapchainImport info handleCount created => swapchainImport_settled hinv info handleCount created
  | .swapchainDestroy id => swapchainDestroy_settled hinv id
  | .semaphoreCreate created => semaphoreCreate_settled hinv created
  | .semaphoreDestroy id => semaphoreDestroy_settled hinv id

end

/-! ## Runs -/

theorem resourceStep_inv {ics' : IpcClientState} (hinv : CountersInv ics) (hfits : CallFits ics call)
    (h : resourceStep ics call = some ics') : CountersInv ics' := by
  unfold resourceStep at h
  rcases hc : handleResourceCall ics call with f | ⟨r, ics''⟩
  · rw [hc] at h; cases h
  · rw [hc] at h
    obtain rfl : ics'' = ics' := Option.some.inj h
    exact (resourceCall_settled hinv call).2 hfits r ics'' hc

/-- Along the calls of a client that just connected, every call keeps the counters exactly when every
call fits. -/
theorem countersKept_iff (i : Fin IPC_MAX_CLIENTS) (id : UInt32) (ipcHandle : Int) (calls : List ResourceCall) :
    Along resourceStep KeepsCounters (freshClient i id ipcHandle) calls ↔
      Along resourceStep CallFits (freshClient i id ipcHandle) calls :=
  along_iff (fun _ call hinv => (resourceCall_settled hinv call).1)
    (fun _ _ _ hinv hfits h => resourceStep_inv hinv hfits h) (freshClient_inv i id ipcHandle) calls

/-- A session with a compositor, then the destruction of a swapchain that was never created: the counter
wraps. -/
theorem destroyUnused_not_kept :
    ¬ Along resourceStep KeepsCounters (freshClient 0 1 5)
      [.sessionCreate false 0 (.ok (1, some 1)), .swapchainDestroy 5] := by
  intro h
  have hinv := (resourceCall_settled (freshClient_inv 0 1 5) (.sessionCreate false 0 (.ok (1, some 1)))).2
    trivial _ _ rfl
  have hkeeps := (along_cons.1 ((along_cons.1 h).2 _ rfl)).1
  rcases (resourceCall_settled hinv (.swapchainDestroy 5)).1.1 hkeeps with hnone | ⟨_, hactive⟩
  · exact absurd hnone (by decide)
  · exact Bool.false_ne_true hactive

end AugmentedInsanity.Ipc
