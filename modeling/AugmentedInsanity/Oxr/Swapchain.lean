/-
The images of an OpenXR swapchain (`oxr_swapchain.c`, `oxr_swapchain_vk.c`): each is ready, acquired or waited on, and
a queue, a count, the image in flight and the released image tell the same. A call that the compositor fails
in its middle returns an error after it has changed some of these; that apart, they agree (`swapchain_iff`).
-/
import AugmentedInsanity.Lib.RingFifo
import AugmentedInsanity.Lib.Runs
import AugmentedInsanity.Lib.Tables
import AugmentedInsanity.Oxr.Errors
import AugmentedInsanity.Xrt.Defines

namespace AugmentedInsanity.Oxr

open Xrt Runs RingFifo Tables

/-! ## Swapchains -/

inductive OxrImageState
  | ready
  | acquired
  | waited
  deriving DecidableEq

abbrev U_MAX_FIFO_INDICES : ℕ := 16

/-- The images that are acquired: how many, and which to wait on next. -/
structure AcquiredImages where
  num : ℕ
  fifo : Ring U_MAX_FIFO_INDICES ℕ

structure MarkedImage where
  yes : Bool
  index : ℤ
  deriving DecidableEq

/-- Which functions a swapchain has: those of `oxr_swapchain.c`, or those of Vulkan. -/
inductive SwapchainFunctions
  | implicit
  | vulkan
  deriving DecidableEq

/-- `struct oxr_swapchain`, with the number of images of the compositor's swapchain. -/
structure OxrSwapchain where
  width : UInt32
  height : UInt32
  arrayLayerCount : UInt32
  faceCount : UInt32
  imageCount : ℕ
  imageCount_le : imageCount ≤ XRT_MAX_SWAPCHAIN_IMAGES
  images : ℕ → OxrImageState
  acquired : AcquiredImages
  inflight : MarkedImage
  released : MarkedImage
  isStatic : Bool
  functions : SwapchainFunctions

/-- A swapchain, and whether its session has been lost. -/
structure SwapchainState where
  sc : OxrSwapchain
  hasLost : Bool

inductive SwapchainOutcome
  | acquired (index : ℕ)
  | waited
  | timeoutExpired
  | released
  deriving DecidableEq

abbrev SwapchainResult (α : Type) := SwapchainState × Except XrError α

/-- The error that `OXR_CHECK_XRET` returns. -/
def xretError (xret : XrtResult) : XrError :=
  if xret = .errorIpcFailure then .instanceLost else .runtimeFailure

/-- The rest of `OXR_CHECK_XRET`. -/
def SwapchainState.fail {α : Type} (s : SwapchainState) (xret : XrtResult) : SwapchainResult α :=
  ({ s with hasLost := s.hasLost || xret == .errorIpcFailure }, .error (xretError xret))

namespace OxrSwapchain

/-- What `oxr_swapchain_common_acquire` checks before it asks the compositor. -/
def acquireError (sc : OxrSwapchain) : Option XrError :=
  if sc.imageCount ≤ sc.acquired.num then some .callOrderInvalid
  else if sc.isStatic && (sc.released.yes || sc.images 0 != .ready) then some .callOrderInvalid
  else none

def verifyWaitState (sc : OxrSwapchain) : Option XrError :=
  if sc.inflight.yes then some .callOrderInvalid
  else if sc.acquired.fifo.isEmpty then some .callOrderInvalid
  else none

/-- What `implicit_release_image` checks before it asks the compositor. -/
def releaseError (sc : OxrSwapchain) : Option XrError :=
  if !sc.inflight.yes then some .callOrderInvalid
  else if sc.inflight.index < 0 then some .runtimeFailure
  else if sc.images sc.inflight.index.toNat != .waited then some .callOrderInvalid
  else none

/-- An image is acquired; that the queue may be full is not looked at. -/
def markAcquired (sc : OxrSwapchain) (index : ℕ) : OxrSwapchain :=
  { sc with
    acquired := ⟨sc.acquired.num + 1, (sc.acquired.fifo.push index).getD sc.acquired.fifo⟩
    images := Function.update sc.images index .acquired
    released := if sc.released.index = index then ⟨false, -1⟩ else sc.released }

def dequeue (sc : OxrSwapchain) (fifo : Ring U_MAX_FIFO_INDICES ℕ) : OxrSwapchain :=
  { sc with acquired := { sc.acquired with fifo := fifo } }

def markWaited (sc : OxrSwapchain) (index : ℕ) : OxrSwapchain :=
  { sc with inflight := ⟨true, index⟩, images := Function.update sc.images index .waited }

def clearInflight (sc : OxrSwapchain) : OxrSwapchain := { sc with inflight := ⟨false, -1⟩ }

def markReleased (sc : OxrSwapchain) (index : ℕ) : OxrSwapchain :=
  { sc with
    acquired := { sc.acquired with num := sc.acquired.num - 1 }
    released := ⟨true, index⟩
    images := Function.update sc.images index .ready }

end OxrSwapchain

namespace SwapchainState

/-! ## Functions

The answers of the compositor come with a call. -/

def commonAcquire (s : SwapchainState) (xret : XrtResult) (index : ℕ) : SwapchainResult ℕ :=
  match s.sc.acquireError with
  | some e => (s, .error e)
  | none =>
    if xret ≠ .success then s.fail xret
    else if s.sc.images index ≠ .ready then (s, .error .runtimeFailure)
    else ({ s with sc := s.sc.markAcquired index }, .ok index)

def commonWait (s : SwapchainState) (xret : XrtResult) : SwapchainResult SwapchainOutcome :=
  match s.sc.acquired.fifo.peek with
  | none => (s, .error .runtimeFailure)
  | some _ =>
    if xret = .timeout then (s, .ok .timeoutExpired)
    else
      match s.sc.acquired.fifo.pop with
      | none => (s, .error .runtimeFailure)
      | some (index, fifo) =>
        let s := { s with sc := s.sc.dequeue fifo }
        if xret ≠ .success then s.fail xret else ({ s with sc := s.sc.markWaited index }, .ok .waited)

def commonRelease (s : SwapchainState) (xret : XrtResult) : SwapchainResult SwapchainOutcome :=
  if s.sc.inflight.index < 0 then (s, .error .runtimeFailure)
  else
    let index := s.sc.inflight.index.toNat
    let s := { s with sc := s.sc.clearInflight }
    if xret ≠ .success then s.fail xret else ({ s with sc := s.sc.markReleased index }, .ok .released)

/-- `acquire_image` and `vk_implicit_acquire_image`: the latter waits and changes the layout of the image. -/
def acquireImage (s : SwapchainState) (xret : XrtResult) (index : ℕ) (wait barrier : XrtResult) :
    SwapchainResult SwapchainOutcome :=
  match s.commonAcquire xret index with
  | (s, .error e) => (s, .error e)
  | (s, .ok index) =>
    match s.sc.functions with
    | .implicit => (s, .ok (.acquired index))
    | .vulkan =>
      if wait ≠ .success then s.fail wait
      else if barrier ≠ .success then s.fail barrier
      else (s, .ok (.acquired index))

/-- `implicit_wait_image` and `vk_implicit_wait_image`: the latter has waited before. -/
def waitImage (s : SwapchainState) (xret barrier : XrtResult) : SwapchainResult SwapchainOutcome :=
  match s.sc.verifyWaitState with
  | some e => (s, .error e)
  | none =>
    match s.sc.functions with
    | .implicit =>
      match s.commonWait xret with
      | (s, .ok .waited) =>
        if s.sc.inflight.index < 0 then (s, .error .runtimeFailure)
        else if barrier ≠ .success then s.fail barrier
        else (s, .ok .waited)
      | result => result
    | .vulkan =>
      match s.sc.acquired.fifo.pop with
      | none => (s, .error .runtimeFailure)
      | some (index, fifo) => ({ s with sc := (s.sc.dequeue fifo).markWaited index }, .ok .waited)

def releaseImage (s : SwapchainState) (barrier xret : XrtResult) : SwapchainResult SwapchainOutcome :=
  match s.sc.releaseError with
  | some e => (s, .error e)
  | none => if barrier ≠ .success then s.fail barrier else s.commonRelease xret

end SwapchainState

/-! ## Runs -/

/-- A call, with the answers of the compositor. The timeout of a wait only goes to the compositor, which answers
as it likes. -/
inductive SwapchainCall
  | acquire (xret : XrtResult) (index : ℕ) (wait barrier : XrtResult)
  | wait (xret barrier : XrtResult)
  | release (barrier xret : XrtResult)
  deriving DecidableEq

/-- `xrAcquireSwapchainImage`, `xrWaitSwapchainImage` and `xrReleaseSwapchainImage`. -/
def SwapchainState.call (s : SwapchainState) (call : SwapchainCall) : SwapchainResult SwapchainOutcome :=
  if s.hasLost then (s, .error .sessionLost)
  else
    match call with
    | .acquire xret index wait barrier => s.acquireImage xret index wait barrier
    | .wait xret barrier => s.waitImage xret barrier
    | .release barrier xret => s.releaseImage barrier xret

/-- The swapchain, with the images that were acquired and those that were waited on, in this order. -/
structure SwapchainRun where
  s : SwapchainState
  acquires : List ℕ
  waits : List ℕ

def SwapchainCall.ofCompositor (imageCount : ℕ) : SwapchainCall → Bool
  | .acquire _ index _ _ => decide (index < imageCount)
  | .wait _ _ => true
  | .release _ _ => true

def swapchainStep (r : SwapchainRun) (call : SwapchainCall) : Option SwapchainRun :=
  if call.ofCompositor r.s.sc.imageCount then
    match r.s.call call with
    | (s, .ok (.acquired index)) => some ⟨s, r.acquires ++ [index], r.waits⟩
    | (s, .ok .waited) => some ⟨s, r.acquires, r.waits ++ [s.sc.inflight.index.toNat]⟩
    | (s, _) => some ⟨s, r.acquires, r.waits⟩
  else none

def failed : Except XrError SwapchainOutcome → Bool
  | .ok .timeoutExpired => true
  | .ok _ => false
  | .error _ => true

/-- The records agree: the queue holds the acquired images in the order of acquiring, the waited image is the one in
flight, the count is that of the images that are not ready, and the released image is ready. -/
structure SwapchainRun.Consistent (r : SwapchainRun) : Prop where
  order : r.acquires = r.waits ++ r.s.sc.acquired.fifo.contents
  nodup : r.s.sc.acquired.fifo.contents.Nodup
  queued : ∀ i, i ∈ r.s.sc.acquired.fifo.contents ↔ i < r.s.sc.imageCount ∧ r.s.sc.images i = .acquired
  waited : ∀ i < r.s.sc.imageCount,
    r.s.sc.images i = .waited ↔ r.s.sc.inflight.yes = true ∧ r.s.sc.inflight.index = i
  inflight : r.s.sc.inflight.yes = true → ∃ i < r.s.sc.imageCount, r.s.sc.inflight.index = i
  num : r.s.sc.acquired.num = tally fun i : Fin r.s.sc.imageCount => r.s.sc.images i != .ready
  released : r.s.sc.released.yes = true →
    ∃ i < r.s.sc.imageCount, r.s.sc.released.index = i ∧ r.s.sc.images i = .ready

/-- After the call the records agree, and if it failed nothing has changed. -/
def SwapchainRun.Kept (r : SwapchainRun) (call : SwapchainCall) : Prop :=
  ∀ r', swapchainStep r call = some r' →
    r'.Consistent ∧ (failed (r.s.call call).2 = true → r'.s.sc = r.s.sc)

/-- The compositor does not fail in the middle of the call. -/
def SwapchainRun.Obliging (r : SwapchainRun) : SwapchainCall → Prop
  | .acquire xret index wait barrier =>
    index < r.s.sc.imageCount → r.s.hasLost = false → r.s.sc.functions = .vulkan → r.s.sc.acquireError = none →
      xret = .success → r.s.sc.images index = .ready → wait = .success ∧ barrier = .success
  | .wait xret barrier =>
    r.s.hasLost = false → r.s.sc.functions = .implicit → r.s.sc.verifyWaitState = none →
      xret = .timeout ∨ xret = .success ∧ barrier = .success
  | .release barrier xret =>
    r.s.hasLost = false → r.s.sc.releaseError = none → barrier = .success → xret = .success

def OxrSwapchain.ReleasedNonneg (sc : OxrSwapchain) : Prop := sc.released.yes = true → 0 ≤ sc.released.index

structure OxrSwapchain.IndicesInRange (sc : OxrSwapchain) : Prop where
  queued : ∀ i ∈ sc.acquired.fifo.contents, i < sc.imageCount
  inflight : sc.inflight.yes = true → 0 ≤ sc.inflight.index ∧ sc.inflight.index < sc.imageCount
  released : sc.released.yes = true → 0 ≤ sc.released.index ∧ sc.released.index < sc.imageCount

/-- `oxr_swapchain_common_create`, and what Vulkan sets: the rest of the memory is zero. -/
def SwapchainRun.create (width height arrayLayerCount faceCount : UInt32) (imageCount : ℕ)
    (h : imageCount ≤ XRT_MAX_SWAPCHAIN_IMAGES) (isStatic : Bool) (functions : SwapchainFunctions) : SwapchainRun where
  s :=
    { sc :=
        { width := width
          height := height
          arrayLayerCount := arrayLayerCount
          faceCount := faceCount
          imageCount := imageCount
          imageCount_le := h
          images := fun _ => .ready
          acquired := ⟨0, .empty (fun _ => 0) (by decide)⟩
          inflight := ⟨false, 0⟩
          released := ⟨false, 0⟩
          isStatic := isStatic
          functions := functions }
      hasLost := false }
  acquires := []
  waits := []

/-! ## What a call does -/

namespace SwapchainState

variable (s : SwapchainState)

@[simp] theorem sc_fail {α : Type} (xret : XrtResult) : (s.fail xret : SwapchainResult α).1.sc = s.sc := rfl

theorem fail_eq {α : Type} (xret : XrtResult) :
    ∃ s' e, (s.fail xret : SwapchainResult α) = (s', .error e) ∧ s'.sc = s.sc := ⟨_, _, rfl, rfl⟩

theorem acquireImage_spec (xret : XrtResult) (index : ℕ) (wait barrier : XrtResult) :
    (s.sc.acquireError = none ∧ xret = .success ∧ s.sc.images index = .ready ∧
      if s.sc.functions = .vulkan ∧ ¬ (wait = .success ∧ barrier = .success) then
        ∃ s' e, s.acquireImage xret index wait barrier = (s', .error e) ∧ s'.sc = s.sc.markAcquired index
      else s.acquireImage xret index wait barrier = ({ s with sc := s.sc.markAcquired index }, .ok (.acquired index))) ∨
    ¬ (s.sc.acquireError = none ∧ xret = .success ∧ s.sc.images index = .ready) ∧
      ∃ s' e, s.acquireImage xret index wait barrier = (s', .error e) ∧ s'.sc = s.sc := by
  cases herror : s.sc.acquireError with
  | some e =>
    refine Or.inr ⟨by rintro ⟨⟨⟩, -⟩, s, e, ?_, rfl⟩
    simp only [acquireImage, commonAcquire, herror]
  | none =>
    by_cases hxret : xret = .success
    · by_cases hready : s.sc.images index = .ready
      · refine Or.inl ⟨rfl, hxret, hready, ?_⟩
        have hcommon : s.commonAcquire xret index = ({ s with sc := s.sc.markAcquired index }, .ok index) := by
          simp only [commonAcquire, herror, hxret, hready, ne_eq, not_true, if_false]
        have hfunctions : (s.sc.markAcquired index).functions = s.sc.functions := rfl
        simp only [acquireImage, hcommon, hfunctions]
        cases s.sc.functions with
        | implicit => rw [if_neg (by rintro ⟨⟨⟩, -⟩)]
        | vulkan =>
          by_cases hwait : wait = .success
          · by_cases hbarrier : barrier = .success
            · rw [if_neg (fun h => h.2 ⟨hwait, hbarrier⟩)]
              simp only [hwait, hbarrier, ne_eq, not_true, if_false]
            · rw [if_pos ⟨rfl, fun h => hbarrier h.2⟩]
              simp only [hwait, ne_eq, not_true, if_false, if_pos hbarrier]
              exact fail_eq _ barrier
          · rw [if_pos ⟨rfl, fun h => hwait h.1⟩]
            simp only [ne_eq, if_pos hwait]
            exact fail_eq _ wait
      · refine Or.inr ⟨fun h => hready h.2.2, s, .runtimeFailure, ?_, rfl⟩
        simp only [acquireImage, commonAcquire, herror, hxret, ne_eq, not_true, if_false, if_pos hready]
    · obtain ⟨s', e, hfail, hsc⟩ := fail_eq (α := ℕ) s xret
      refine Or.inr ⟨fun h => hxret h.2.1, s', e, ?_, hsc⟩
      simp only [acquireImage, commonAcquire, herror, ne_eq, if_pos hxret, hfail]

theorem waitImage_spec (xret barrier : XrtResult) :
    (∃ index fifo, s.sc.verifyWaitState = none ∧ s.sc.acquired.fifo.pop = some (index, fifo) ∧
      (s.sc.functions = .implicit → xret ≠ .timeout) ∧
      if s.sc.functions = .implicit ∧ ¬ (xret = .success ∧ barrier = .success) then
        ∃ s' e, s.waitImage xret barrier = (s', .error e) ∧ s'.sc.acquired.fifo = fifo
      else
        s.waitImage xret barrier = ({ s with sc := (s.sc.dequeue fifo).markWaited index }, .ok .waited)) ∨
    (s.sc.verifyWaitState = none → s.sc.functions = .implicit ∧ xret = .timeout) ∧
      ∃ result, s.waitImage xret barrier = (s, result) ∧ failed result = true := by
  cases hverify : s.sc.verifyWaitState with
  | some e =>
    refine Or.inr ⟨by rintro ⟨⟩, .error e, ?_, rfl⟩
    simp only [waitImage, hverify]
  | none =>
    have hempty : s.sc.acquired.fifo.isEmpty = false := by
      cases hempty : s.sc.acquired.fifo.isEmpty with
      | false => rfl
      | true =>
        rw [OxrSwapchain.verifyWaitState, hempty, if_pos rfl] at hverify
        split at hverify <;> cases hverify
    obtain ⟨index, fifo, hpop, hpeek⟩ := Ring.exists_pop hempty
    cases hfunctions : s.sc.functions with
    | vulkan =>
      refine Or.inl ⟨index, fifo, rfl, hpop, by rintro ⟨⟩, ?_⟩
      rw [if_neg (by rintro ⟨⟨⟩, -⟩)]
      simp only [waitImage, hverify, hfunctions, hpop]
    | implicit =>
      by_cases htimeout : xret = .timeout
      · refine Or.inr ⟨fun _ => ⟨rfl, htimeout⟩, .ok .timeoutExpired, ?_, rfl⟩
        simp only [waitImage, hverify, hfunctions, commonWait, hpeek, if_pos htimeout]
      · refine Or.inl ⟨index, fifo, rfl, hpop, fun _ => htimeout, ?_⟩
        have hindex : ¬ (index : ℤ) < 0 := by omega
        by_cases hxret : xret = .success
        · by_cases hbarrier : barrier = .success
          · rw [if_neg (fun h => h.2 ⟨hxret, hbarrier⟩)]
            simp only [waitImage, hverify, hfunctions, commonWait, hpeek, hpop, hxret, hbarrier, reduceCtorEq, ne_eq,
              not_true, if_false, OxrSwapchain.markWaited, if_neg hindex]
          · rw [if_pos ⟨rfl, fun h => hbarrier h.2⟩]
            simp only [waitImage, hverify, hfunctions, commonWait, hpeek, hpop, hxret, hbarrier, reduceCtorEq, ne_eq,
              not_true, not_false_iff, if_true, if_false, OxrSwapchain.markWaited, if_neg hindex]
            exact ⟨_, _, rfl, rfl⟩
        · rw [if_pos ⟨rfl, fun h => hxret h.1⟩]
          simp only [waitImage, hverify, hfunctions, commonWait, hpeek, hpop, if_neg htimeout, ne_eq, if_pos hxret,
            fail]
          exact ⟨_, _, rfl, rfl⟩

theorem releaseImage_spec (barrier xret : XrtResult) :
    (s.sc.releaseError = none ∧ barrier = .success ∧
      if xret = .success then
        s.releaseImage barrier xret =
          ({ s with sc := s.sc.clearInflight.markReleased s.sc.inflight.index.toNat }, .ok .released)
      else ∃ s' e, s.releaseImage barrier xret = (s', .error e) ∧ s'.sc = s.sc.clearInflight) ∨
    ¬ (s.sc.releaseError = none ∧ barrier = .success) ∧
      ∃ s' e, s.releaseImage barrier xret = (s', .error e) ∧ s'.sc = s.sc := by
  cases herror : s.sc.releaseError with
  | some e =>
    refine Or.inr ⟨by rintro ⟨⟨⟩, -⟩, s, e, ?_, rfl⟩
    simp only [releaseImage, herror]
  | none =>
    have hindex : ¬ s.sc.inflight.index < 0 := by
      intro hindex
      rw [OxrSwapchain.releaseError, if_pos hindex] at herror
      split at herror <;> cases herror
    by_cases hbarrier : barrier = .success
    · refine Or.inl ⟨rfl, hbarrier, ?_⟩
      simp only [releaseImage, herror, hbarrier, ne_eq, not_true, if_false, commonRelease, if_neg hindex]
      by_cases hxret : xret = .success
      · simp only [if_pos hxret]
        rw [if_neg (fun h => h hxret)]
      · simp only [if_neg hxret]
        rw [if_pos hxret]
        exact fail_eq _ xret
    · obtain ⟨s', e, hfail, hsc⟩ := fail_eq (α := SwapchainOutcome) s barrier
      refine Or.inr ⟨fun h => hbarrier h.2, s', e, ?_, hsc⟩
      simp only [releaseImage, herror, ne_eq, if_pos hbarrier, hfail]

theorem sc_commonWait (xret : XrtResult) : (s.commonWait xret).1.sc = s.sc ∨
    ∃ index fifo, s.sc.acquired.fifo.pop = some (index, fifo) ∧
      ((s.commonWait xret).1.sc = s.sc.dequeue fifo ∨
        (s.commonWait xret).1.sc = (s.sc.dequeue fifo).markWaited index) := by
  unfold commonWait
  cases s.sc.acquired.fifo.peek with
  | none => exact .inl rfl
  | some _ =>
    by_cases htimeout : xret = .timeout
    · exact .inl (by simp [htimeout])
    · cases s.sc.acquired.fifo.pop with
      | none => exact .inl (by simp [htimeout])
      | some next =>
        refine .inr ⟨next.1, next.2, rfl, ?_⟩
        by_cases hxret : xret = .success
        · exact .inr (by simp [hxret])
        · exact .inl (by simp [htimeout, hxret])

theorem sc_waitImage (xret barrier : XrtResult) : (s.waitImage xret barrier).1.sc = s.sc ∨
    ∃ index fifo, s.sc.acquired.fifo.pop = some (index, fifo) ∧
      ((s.waitImage xret barrier).1.sc = s.sc.dequeue fifo ∨
        (s.waitImage xret barrier).1.sc = (s.sc.dequeue fifo).markWaited index) := by
  unfold waitImage
  cases s.sc.verifyWaitState with
  | some e => exact .inl rfl
  | none =>
    cases s.sc.functions with
    | implicit =>
      have hwait := s.sc_commonWait xret
      dsimp only
      split
      · rename_i s' heq
        rw [heq] at hwait
        split
        · exact hwait
        · split <;> exact hwait
      · exact hwait
    | vulkan =>
      cases s.sc.acquired.fifo.pop with
      | none => exact .inl rfl
      | some next => exact .inr ⟨next.1, next.2, rfl, .inr rfl⟩

end SwapchainState

/-! ## The indices -/

namespace OxrSwapchain.IndicesInRange

variable {sc : OxrSwapchain} {index : ℕ}

theorem markAcquired (h : sc.IndicesInRange) (hindex : index < sc.imageCount) :
    (sc.markAcquired index).IndicesInRange := by
  refine ⟨fun i hi => ?_, h.inflight, fun hyes => ?_⟩
  · simp only [OxrSwapchain.markAcquired] at hi ⊢
    cases hpush : sc.acquired.fifo.push index with
    | none => exact h.queued i (by simpa [hpush] using hi)
    | some fifo =>
      rw [hpush, Option.getD_some, Ring.contents_push hpush] at hi
      rcases List.mem_append.1 hi with hi | hi
      · exact h.queued i hi
      · rwa [List.mem_singleton.1 hi]
  · simp only [OxrSwapchain.markAcquired] at hyes ⊢
    split at hyes
    · cases hyes
    · rename_i hne
      rw [if_neg hne]
      exact h.released hyes

theorem dequeue (h : sc.IndicesInRange) {fifo : Ring U_MAX_FIFO_INDICES ℕ}
    (hpop : sc.acquired.fifo.pop = some (index, fifo)) : (sc.dequeue fifo).IndicesInRange :=
  ⟨fun i hi => h.queued i (by rw [Ring.contents_pop hpop]; exact List.mem_cons_of_mem _ hi), h.inflight, h.released⟩

theorem markWaited (h : sc.IndicesInRange) (hindex : index < sc.imageCount) : (sc.markWaited index).IndicesInRange :=
  ⟨h.queued, fun _ => ⟨Int.natCast_nonneg _, Int.ofNat_lt.2 hindex⟩, h.released⟩

theorem clearInflight (h : sc.IndicesInRange) : sc.clearInflight.IndicesInRange := ⟨h.queued, nofun, h.released⟩

theorem markReleased (h : sc.IndicesInRange) (hindex : index < sc.imageCount) :
    (sc.markReleased index).IndicesInRange :=
  ⟨h.queued, h.inflight, fun _ => ⟨Int.natCast_nonneg _, Int.ofNat_lt.2 hindex⟩⟩

theorem call {s : SwapchainState} (h : s.sc.IndicesInRange) {call : SwapchainCall}
    (hcompositor : call.ofCompositor s.sc.imageCount = true) : (s.call call).1.sc.IndicesInRange := by
  cases hlost : s.hasLost with
  | true => simpa only [SwapchainState.call, hlost, if_true] using h
  | false =>
    simp only [SwapchainState.call, hlost, Bool.false_eq_true, if_false]
    cases call with
    | acquire xret index wait barrier =>
      have hacquired := h.markAcquired (of_decide_eq_true hcompositor)
      dsimp only
      rcases s.acquireImage_spec xret index wait barrier with ⟨-, -, -, hspec⟩ | ⟨-, _, _, hspec, hsc⟩
      · split at hspec
        · obtain ⟨_, _, hspec, hsc⟩ := hspec
          rwa [hspec, hsc]
        · rwa [hspec]
      · rwa [hspec, hsc]
    | wait xret barrier =>
      dsimp only
      rcases s.sc_waitImage xret barrier with hsc | ⟨index, fifo, hpop, hsc | hsc⟩
      · rwa [hsc]
      · rw [hsc]
        exact h.dequeue hpop
      · rw [hsc]
        exact (h.dequeue hpop).markWaited (h.queued index (by rw [Ring.contents_pop hpop]; exact List.mem_cons_self ..))
    | release barrier xret =>
      dsimp only
      rcases s.releaseImage_spec barrier xret with ⟨herror, -, hspec⟩ | ⟨-, _, _, hspec, hsc⟩
      · split at hspec
        · have hyes : s.sc.inflight.yes = true := by
            by_contra hno
            rw [Bool.not_eq_true] at hno
            simp [OxrSwapchain.releaseError, hno] at herror
          rw [hspec]
          exact h.clearInflight.markReleased (by have := h.inflight hyes; simp only [OxrSwapchain.clearInflight]; omega)
        · obtain ⟨_, _, hspec, hsc⟩ := hspec
          rw [hspec, hsc]
          exact h.clearInflight
      · rwa [hspec, hsc]

end OxrSwapchain.IndicesInRange

/-! ## The records agree -/

namespace SwapchainRun

theorem tally_images (images : ℕ → OxrImageState) {n index : ℕ} (h : index < n) (state : OxrImageState) :
    (tally fun i : Fin n => Function.update images index state i != .ready) + (images index != .ready).toNat =
      (tally fun i : Fin n => images i != .ready) + (state != .ready).toNat := by
  rw [← tally_update (fun state => state != .ready) (fun i : Fin n => images i) ⟨index, h⟩ state]
  congr 1
  apply tally_congr
  intro i
  by_cases hi : i = ⟨index, h⟩
  · subst hi
    rw [Function.update_self, Function.update_self]
  · rw [Function.update_of_ne hi, Function.update_of_ne fun heq => hi (Fin.ext heq)]

variable {r : SwapchainRun} {index : ℕ}

theorem Consistent.of_eq {r' : SwapchainRun} (h : r.Consistent) (hsc : r'.s.sc = r.s.sc)
    (hacquires : r'.acquires = r.acquires) (hwaits : r'.waits = r.waits) : r'.Consistent := by
  obtain ⟨⟨sc, hasLost⟩, acquires, waits⟩ := r
  obtain ⟨⟨sc', hasLost'⟩, acquires', waits'⟩ := r'
  obtain rfl : sc' = sc := hsc
  obtain rfl : acquires' = acquires := hacquires
  obtain rfl : waits' = waits := hwaits
  exact ⟨h.order, h.nodup, h.queued, h.waited, h.inflight, h.num, h.released⟩

theorem Consistent.exists_push (h : r.Consistent) (hindex : index < r.s.sc.imageCount)
    (hready : r.s.sc.images index = .ready) :
    index ∉ r.s.sc.acquired.fifo.contents ∧ ∃ fifo, r.s.sc.acquired.fifo.push index = some fifo := by
  have hnot : index ∉ r.s.sc.acquired.fifo.contents := by
    rw [h.queued, hready]
    rintro ⟨-, ⟨⟩⟩
  refine ⟨hnot, Option.ne_none_iff_exists'.1 ?_⟩
  rw [Ne, Ring.push_eq_none_iff]
  intro hfull
  have hsize : r.s.sc.acquired.fifo.size + 1 = 16 := hfull
  have hsub : (index :: r.s.sc.acquired.fifo.contents).Subperm (List.range r.s.sc.imageCount) := by
    refine List.subperm_of_subset (List.nodup_cons.2 ⟨hnot, h.nodup⟩) fun i hi => List.mem_range.2 ?_
    rcases List.mem_cons.1 hi with rfl | hi
    · exact hindex
    · exact ((h.queued i).1 hi).1
  have hlength := hsub.length_le
  rw [List.length_cons, Ring.length_contents, List.length_range] at hlength
  have hcount : r.s.sc.imageCount ≤ 8 := r.s.sc.imageCount_le
  omega

theorem Consistent.markAcquired (h : r.Consistent) (hindex : index < r.s.sc.imageCount)
    (hready : r.s.sc.images index = .ready) :
    Consistent ⟨{ r.s with sc := r.s.sc.markAcquired index }, r.acquires ++ [index], r.waits⟩ := by
  obtain ⟨hnot, fifo, hpush⟩ := h.exists_push hindex hready
  have hcontents := Ring.contents_push hpush
  have hnum := tally_images r.s.sc.images hindex .acquired
  rw [hready] at hnum
  refine ⟨?_, ?_, ?_, ?_, h.inflight, ?_, ?_⟩
  · simp only [OxrSwapchain.markAcquired, hpush, Option.getD_some, hcontents, h.order, List.append_assoc]
  · simp only [OxrSwapchain.markAcquired, hpush, Option.getD_some, hcontents]
    exact List.nodup_append.2 ⟨h.nodup, List.nodup_singleton _, fun a ha b hb hab => by
      rw [List.mem_singleton] at hb
      exact hnot (hb ▸ hab ▸ ha)⟩
  · intro i
    simp only [OxrSwapchain.markAcquired, hpush, Option.getD_some, hcontents, List.mem_append, List.mem_singleton,
      h.queued]
    by_cases hi : i = index
    · subst hi
      simp [hindex]
    · simp [hi]
  · intro i hi
    simp only [OxrSwapchain.markAcquired]
    by_cases heq : i = index
    · subst heq
      have := h.waited i hi
      rw [hready] at this
      simpa using this
    · rw [Function.update_of_ne heq]
      exact h.waited i hi
  · simp only [OxrSwapchain.markAcquired, h.num]
    exact hnum.symm
  · simp only [OxrSwapchain.markAcquired]
    split
    · rintro ⟨⟩
    · rename_i hne
      intro hyes
      obtain ⟨i, hi, hreleased, hstate⟩ := h.released hyes
      refine ⟨i, hi, hreleased, ?_⟩
      rw [Function.update_of_ne (fun heq => hne (by rw [hreleased, heq])), hstate]

theorem Consistent.markWaited (h : r.Consistent) {fifo : Ring U_MAX_FIFO_INDICES ℕ}
    (hfree : r.s.sc.inflight.yes = false) (hpop : r.s.sc.acquired.fifo.pop = some (index, fifo)) :
    Consistent ⟨{ r.s with sc := (r.s.sc.dequeue fifo).markWaited index }, r.acquires, r.waits ++ [index]⟩ := by
  have hcontents := Ring.contents_pop hpop
  obtain ⟨hindex, hstate⟩ := (h.queued index).1 (by rw [hcontents]; exact List.mem_cons_self ..)
  have hnodup := h.nodup
  rw [hcontents, List.nodup_cons] at hnodup
  have hnum := tally_images r.s.sc.images hindex .waited
  rw [hstate] at hnum
  refine ⟨?_, hnodup.2, ?_, ?_, fun _ => ⟨index, hindex, rfl⟩, ?_, ?_⟩
  · simp only [OxrSwapchain.markWaited, OxrSwapchain.dequeue, h.order, hcontents, List.append_assoc, List.singleton_append]
  · intro i
    have hqueued := h.queued i
    rw [hcontents, List.mem_cons] at hqueued
    simp only [OxrSwapchain.markWaited, OxrSwapchain.dequeue]
    by_cases heq : i = index
    · subst heq
      simp [hnodup.1]
    · rw [Function.update_of_ne heq, ← hqueued]
      simp [heq]
  · intro i hi
    simp only [OxrSwapchain.markWaited, OxrSwapchain.dequeue]
    by_cases heq : i = index
    · subst heq
      simp
    · have hwaited := h.waited i hi
      rw [hfree] at hwaited
      rw [Function.update_of_ne heq, hwaited]
      simp only [Bool.false_eq_true, false_and, true_and, false_iff]
      intro hcast
      exact heq (Int.ofNat.inj hcast).symm
  · simp only [OxrSwapchain.markWaited, OxrSwapchain.dequeue, h.num]
    exact (Nat.add_right_cancel hnum).symm
  · intro hyes
    obtain ⟨i, hi, hreleased, hready⟩ := h.released hyes
    refine ⟨i, hi, hreleased, ?_⟩
    have hne : i ≠ index := by
      rintro rfl
      rw [hstate] at hready
      cases hready
    simp only [OxrSwapchain.markWaited, OxrSwapchain.dequeue, Function.update_of_ne hne, hready]

theorem Consistent.markReleased (h : r.Consistent) (hyes : r.s.sc.inflight.yes = true)
    (hinflight : r.s.sc.inflight.index = index) (hindex : index < r.s.sc.imageCount) :
    Consistent ⟨{ r.s with sc := r.s.sc.clearInflight.markReleased index }, r.acquires, r.waits⟩ := by
  have hstate := (h.waited index hindex).2 ⟨hyes, hinflight⟩
  have hnum := tally_images r.s.sc.images hindex .ready
  rw [hstate] at hnum
  refine ⟨h.order, h.nodup, ?_, ?_, by rintro ⟨⟩, ?_, fun _ => ⟨index, hindex, rfl, ?_⟩⟩
  · intro i
    have hqueued := h.queued i
    simp only [OxrSwapchain.markReleased, OxrSwapchain.clearInflight]
    by_cases heq : i = index
    · subst heq
      rw [hqueued, hstate]
      simp
    · rw [Function.update_of_ne heq, hqueued]
  · intro i hi
    simp only [OxrSwapchain.markReleased, OxrSwapchain.clearInflight]
    by_cases heq : i = index
    · subst heq
      simp
    · have hwaited := h.waited i hi
      rw [hinflight] at hwaited
      rw [Function.update_of_ne heq, hwaited]
      simp only [Bool.false_eq_true, false_and, iff_false, not_and]
      intro _ hcast
      exact heq (Int.ofNat.inj hcast).symm
  · simp only [OxrSwapchain.markReleased, OxrSwapchain.clearInflight, h.num]
    have hready : (OxrImageState.ready != .ready) = false := rfl
    have hwaited : (OxrImageState.waited != .ready) = true := rfl
    rw [hready, hwaited, Bool.toNat_true, Bool.toNat_false] at hnum
    omega
  · simp only [OxrSwapchain.markReleased, OxrSwapchain.clearInflight, Function.update_self]

/-! ## Calls -/

variable {result : Except XrError SwapchainOutcome} {call : SwapchainCall} {s : SwapchainState}

theorem step_eq (hcompositor : call.ofCompositor r.s.sc.imageCount = true) (hcall : r.s.call call = (s, result))
    (hfailed : failed result = true) : swapchainStep r call = some ⟨s, r.acquires, r.waits⟩ := by
  unfold swapchainStep
  rw [if_pos hcompositor, hcall]
  match result, hfailed with
  | .ok .timeoutExpired, _ => rfl
  | .error _, _ => rfl

theorem Consistent.kept_of_failed (h : r.Consistent) (hcall : r.s.call call = (s, result))
    (hfailed : failed result = true) (hsc : s.sc = r.s.sc) : r.Kept call := by
  intro r' hr'
  have hcompositor : call.ofCompositor r.s.sc.imageCount = true := by
    unfold swapchainStep at hr'
    split at hr'
    · assumption
    · cases hr'
  rw [step_eq hcompositor hcall hfailed] at hr'
  cases hr'
  exact ⟨h.of_eq hsc rfl rfl, fun _ => hsc⟩

theorem not_kept_of_failed (hcompositor : call.ofCompositor r.s.sc.imageCount = true)
    (hcall : r.s.call call = (s, result)) (hfailed : failed result = true) (hsc : s.sc ≠ r.s.sc) : ¬ r.Kept call := by
  intro hkept
  refine hsc ((hkept _ (step_eq hcompositor hcall hfailed)).2 ?_)
  rw [hcall]
  exact hfailed

theorem Consistent.kept_of_lost (h : r.Consistent) (hlost : r.s.hasLost = true) (call : SwapchainCall) :
    r.Kept call := by
  have hcall : r.s.call call = (r.s, .error .sessionLost) := by
    simp only [SwapchainState.call, hlost, if_true]
  exact h.kept_of_failed hcall rfl rfl

theorem Consistent.acquire_kept_iff (h : r.Consistent) (xret : XrtResult) (index : ℕ) (wait barrier : XrtResult) :
    r.Kept (.acquire xret index wait barrier) ↔ r.Obliging (.acquire xret index wait barrier) := by
  by_cases hindex : index < r.s.sc.imageCount
  swap
  · refine iff_of_true (fun r' hr' => ?_) fun hlt => absurd hlt hindex
    rw [swapchainStep, if_neg (by simpa [SwapchainCall.ofCompositor] using hindex)] at hr'
    cases hr'
  have hcompositor : (SwapchainCall.acquire xret index wait barrier).ofCompositor r.s.sc.imageCount = true :=
    decide_eq_true hindex
  cases hlost : r.s.hasLost with
  | true =>
    refine iff_of_true (h.kept_of_lost hlost _) fun _ hnot => ?_
    rw [hlost] at hnot
    cases hnot
  | false =>
    have hcall : r.s.call (.acquire xret index wait barrier) = r.s.acquireImage xret index wait barrier := by
      rw [SwapchainState.call, hlost, if_neg Bool.false_ne_true]
    rcases r.s.acquireImage_spec xret index wait barrier with ⟨herror, hxret, hready, hspec⟩ | ⟨hnot, s, e, hspec, hsc⟩
    · split at hspec
      · rename_i hdefect
        obtain ⟨s, e, hspec, hsc⟩ := hspec
        refine iff_of_false (not_kept_of_failed hcompositor (hcall.trans hspec) rfl ?_) fun hobliging =>
          hdefect.2 (hobliging hindex hlost hdefect.1 herror hxret hready)
        rw [hsc]
        intro hsame
        have hnum : r.s.sc.acquired.num + 1 = r.s.sc.acquired.num :=
          congrArg (fun sc : OxrSwapchain => sc.acquired.num) hsame
        omega
      · rename_i hfine
        refine iff_of_true (fun r' hr' => ?_) fun _ _ hvulkan _ _ _ => ?_
        · rw [swapchainStep, if_pos hcompositor, hcall, hspec] at hr'
          cases hr'
          refine ⟨h.markAcquired hindex hready, fun hfailed => ?_⟩
          rw [hcall, hspec] at hfailed
          cases hfailed
        · by_contra hdefect
          exact hfine ⟨hvulkan, hdefect⟩
    · exact iff_of_true (h.kept_of_failed (hcall.trans hspec) rfl hsc)
        fun _ _ _ herror hxret hready => absurd ⟨herror, hxret, hready⟩ hnot

theorem Consistent.wait_kept_iff (h : r.Consistent) (xret barrier : XrtResult) :
    r.Kept (.wait xret barrier) ↔ r.Obliging (.wait xret barrier) := by
  cases hlost : r.s.hasLost with
  | true =>
    refine iff_of_true (h.kept_of_lost hlost _) fun hnot => ?_
    rw [hlost] at hnot
    cases hnot
  | false =>
    have hcall : r.s.call (.wait xret barrier) = r.s.waitImage xret barrier := by
      rw [SwapchainState.call, hlost, if_neg Bool.false_ne_true]
    rcases r.s.waitImage_spec xret barrier with
      ⟨index, fifo, hverify, hpop, htimeout, hspec⟩ | ⟨hnot, result, hspec, hfailed⟩
    · split at hspec
      · rename_i hdefect
        obtain ⟨s, e, hspec, hfifo⟩ := hspec
        refine iff_of_false (not_kept_of_failed rfl (hcall.trans hspec) rfl fun hsc => ?_) fun hobliging => ?_
        · have hcontents := Ring.contents_pop hpop
          rw [hsc] at hfifo
          rw [hfifo] at hcontents
          exact List.cons_ne_self _ _ hcontents.symm
        · rcases hobliging hlost hdefect.1 hverify with hxret | hfine
          · exact htimeout hdefect.1 hxret
          · exact hdefect.2 hfine
      · rename_i hfine
        refine iff_of_true (fun r' hr' => ?_) fun _ himplicit _ => ?_
        · have hfree : r.s.sc.inflight.yes = false := by
            cases hyes : r.s.sc.inflight.yes with
            | false => rfl
            | true =>
              rw [OxrSwapchain.verifyWaitState, if_pos hyes] at hverify
              cases hverify
          have hcompositor : (SwapchainCall.wait xret barrier).ofCompositor r.s.sc.imageCount = true := rfl
          rw [swapchainStep, if_pos hcompositor, hcall, hspec] at hr'
          cases hr'
          refine ⟨h.markWaited hfree hpop, fun hfailed => ?_⟩
          rw [hcall, hspec] at hfailed
          cases hfailed
        · by_contra hdefect
          exact hfine ⟨himplicit, fun hsuccess => hdefect (Or.inr hsuccess)⟩
    · exact iff_of_true (h.kept_of_failed (hcall.trans hspec) hfailed rfl) fun _ _ hverify => Or.inl (hnot hverify).2

theorem Consistent.release_kept_iff (h : r.Consistent) (barrier xret : XrtResult) :
    r.Kept (.release barrier xret) ↔ r.Obliging (.release barrier xret) := by
  cases hlost : r.s.hasLost with
  | true =>
    refine iff_of_true (h.kept_of_lost hlost _) fun hnot => ?_
    rw [hlost] at hnot
    cases hnot
  | false =>
    have hcall : r.s.call (.release barrier xret) = r.s.releaseImage barrier xret := by
      rw [SwapchainState.call, hlost, if_neg Bool.false_ne_true]
    rcases r.s.releaseImage_spec barrier xret with ⟨herror, hbarrier, hspec⟩ | ⟨hnot, s, e, hspec, hsc⟩
    · have hyes : r.s.sc.inflight.yes = true := by
        cases hyes : r.s.sc.inflight.yes with
        | true => rfl
        | false =>
          simp [OxrSwapchain.releaseError, hyes] at herror
      obtain ⟨index, hindex, hinflight⟩ := h.inflight hyes
      split at hspec
      · rename_i hxret
        refine iff_of_true (fun r' hr' => ?_) fun _ _ _ => hxret
        rw [hinflight, Int.toNat_natCast] at hspec
        have hcompositor : (SwapchainCall.release barrier xret).ofCompositor r.s.sc.imageCount = true := rfl
        rw [swapchainStep, if_pos hcompositor, hcall, hspec] at hr'
        cases hr'
        refine ⟨h.markReleased hyes hinflight hindex, fun hfailed => ?_⟩
        rw [hcall, hspec] at hfailed
        cases hfailed
      · rename_i hxret
        obtain ⟨s, e, hspec, hsc⟩ := hspec
        refine iff_of_false (not_kept_of_failed rfl (hcall.trans hspec) rfl fun hsame => ?_) fun hobliging =>
          hxret (hobliging hlost herror hbarrier)
        rw [hsc] at hsame
        have hcleared : false = r.s.sc.inflight.yes := congrArg (fun sc : OxrSwapchain => sc.inflight.yes) hsame
        rw [hyes] at hcleared
        cases hcleared
    · exact iff_of_true (h.kept_of_failed (hcall.trans hspec) rfl hsc)
        fun _ herror hbarrier => absurd ⟨herror, hbarrier⟩ hnot

theorem Consistent.kept_iff (h : r.Consistent) (call : SwapchainCall) : r.Kept call ↔ r.Obliging call := by
  cases call with
  | acquire xret index wait barrier => exact h.acquire_kept_iff xret index wait barrier
  | wait xret barrier => exact h.wait_kept_iff xret barrier
  | release barrier xret => exact h.release_kept_iff barrier xret

/-! ## From the start -/

section
variable (width height arrayLayerCount faceCount : UInt32) (imageCount : ℕ)
  (himages : imageCount ≤ XRT_MAX_SWAPCHAIN_IMAGES) (isStatic : Bool) (functions : SwapchainFunctions)

theorem consistent_create :
    (create width height arrayLayerCount faceCount imageCount himages isStatic functions).Consistent := by
  refine ⟨rfl, List.nodup_nil, ?_, ?_, by rintro ⟨⟩, ?_, by rintro ⟨⟩⟩
  · intro i
    simp [create]
  · intro i _
    simp [create]
  · exact (tally_eq_zero.2 fun _ => rfl).symm

/-- In every run of a swapchain the records agree after each call, and a call that fails changes nothing, exactly when
the compositor never fails in the middle of a call. -/
theorem swapchain_iff (calls : List SwapchainCall) :
    Along swapchainStep Kept (create width height arrayLayerCount faceCount imageCount himages isStatic functions)
        calls ↔
      Along swapchainStep Obliging
        (create width height arrayLayerCount faceCount imageCount himages isStatic functions) calls :=
  along_iff (fun _ call h => h.kept_iff call)
    (fun _ _ r' h hobliging hstep => (((h.kept_iff _).2 hobliging) r' hstep).1)
    (consistent_create width height arrayLayerCount faceCount imageCount himages isStatic functions) calls

end

/-- An image is acquired, waited on and released. -/
theorem release_kept :
    Along swapchainStep Kept (create 16 16 1 1 3 (by decide) false .implicit)
      [.acquire .success 0 .success .success, .wait .success .success, .release .success .success] := by
  refine (swapchain_iff 16 16 1 1 3 (by decide) false .implicit _).2 (along_cons.2 ⟨fun _ _ h => ?_, fun _ _ => ?_⟩)
  · cases h
  · refine along_cons.2 ⟨fun _ _ _ => Or.inr ⟨rfl, rfl⟩, fun _ _ => along_cons.2 ⟨fun _ _ _ => rfl, fun _ _ => trivial⟩⟩

/-- Whatever the compositor answers, also when it fails in the middle of a call: the indices that the records keep
are those of images. -/
theorem indicesInRange_run (width height arrayLayerCount faceCount : UInt32) (imageCount : ℕ)
    (himages : imageCount ≤ XRT_MAX_SWAPCHAIN_IMAGES) (isStatic : Bool) (functions : SwapchainFunctions)
    {calls : List SwapchainCall} {r : SwapchainRun}
    (hr : Reaches swapchainStep (create width height arrayLayerCount faceCount imageCount himages isStatic functions)
      calls r) : r.s.sc.IndicesInRange := by
  refine inv_of_reaches (I := fun r => r.s.sc.IndicesInRange) (fun r call r' h hstep => ?_)
    ⟨by simp [create], nofun, nofun⟩ hr
  unfold swapchainStep at hstep
  split at hstep
  · rename_i hcompositor
    have hcall := h.call hcompositor
    split at hstep <;> cases hstep
    · simpa [*] using hcall
    · simpa [*] using hcall
    · simpa [*] using hcall
  · cases hstep

theorem indicesInRange_run_failedWait :
    let s := (create 16 16 1 1 3 (by decide) false .implicit).s
    ((s.call (.acquire .success 2 .success .success)).1.call (.wait .errorVulkan .success)).1.sc.IndicesInRange :=
  indicesInRange_run 16 16 1 1 3 (by decide) false .implicit
    (show Reaches swapchainStep _ [.acquire .success 2 .success .success, .wait .errorVulkan .success]
      ⟨_, [2], []⟩ from ⟨_, rfl, _, rfl, rfl⟩)

/-- A wait that the compositor fails: the image is out of the queue, and cannot be waited on again. -/
theorem failedWait_not_kept :
    ¬ Along swapchainStep Kept (create 16 16 1 1 3 (by decide) false .implicit)
      [.acquire .success 0 .success .success, .wait .errorVulkan .success] := by
  intro h
  obtain ⟨-, h⟩ := along_cons.1 h
  obtain ⟨hkept, -⟩ := along_cons.1 (h _ rfl)
  have hqueued := ((hkept _ rfl).1.queued 0).2 ⟨by decide, rfl⟩
  cases hqueued

end SwapchainRun

end AugmentedInsanity.Oxr
