/-
Parts of a mapped buffer that are given out one after the other until the frame ends (`render_sub_alloc.c`). They do not
overlap, so what is written to one stays (`subAlloc_run`).
-/
import Mathlib.Data.List.Pairwise
import Mathlib.Data.Nat.Bitwise
import Mathlib.Tactic.Common

namespace AugmentedInsanity.Comp

/-! ## The tracker -/

abbrev RENDER_ALWAYS_SAFE_UBO_ALIGNMENT : UInt64 := 256

def alignPaddingPot (size alignment : UInt64) : UInt64 := (size + alignment - 1) &&& ~~~(alignment - 1)

structure RenderSubAlloc where
  buffer : ℕ
  size : UInt64
  offset : UInt64
  deriving DecidableEq

structure RenderSubAllocTracker where
  buffer : ℕ
  used : UInt64
  totalSize : UInt64
  mapped : Bool
  deriving DecidableEq

namespace RenderSubAllocTracker

def init (buffer : ℕ) (size : UInt64) (mapped : Bool) : RenderSubAllocTracker := ⟨buffer, 0, size, mapped⟩

/-- `render_sub_alloc_ubo_alloc_and_get_ptr`; the pointer is the offset, if the buffer is mapped. -/
def uboAlloc (rsat : RenderSubAllocTracker) (size : UInt64) : Option (RenderSubAllocTracker × RenderSubAlloc) :=
  let spaceLeft := rsat.totalSize - rsat.used
  if spaceLeft < size then none
  else
    let paddedUsed := alignPaddingPot (rsat.used + size) RENDER_ALWAYS_SAFE_UBO_ALIGNMENT
    some
      ({ rsat with used := if rsat.totalSize < paddedUsed then rsat.totalSize else paddedUsed },
        ⟨rsat.buffer, size, rsat.used⟩)

end RenderSubAllocTracker

def memcpy (mem : ℕ → UInt8) (dst : ℕ) (src : List UInt8) : ℕ → UInt8 :=
  fun i => if dst ≤ i then src[i - dst]?.getD (mem i) else mem i

/-- `render_sub_alloc_ubo_alloc_and_write`. -/
def uboAllocAndWrite (rsat : RenderSubAllocTracker) (mem : ℕ → UInt8) (src : List UInt8) (size : UInt64) :
    Option (RenderSubAllocTracker × RenderSubAlloc × (ℕ → UInt8)) :=
  if !rsat.mapped then none
  else
    match rsat.uboAlloc size with
    | none => none
    | some (rsat, rsa) => some (rsat, rsa, memcpy mem rsa.offset.toNat (src.take size.toNat))

/-! ## Frames -/

inductive SubAllocCall
  | getPtr (size : UInt64)
  | write (src : List UInt8) (size : UInt64)

/-- The parts that have been given out, with what was written to them. -/
structure SubAllocRun where
  rsat : RenderSubAllocTracker
  mem : ℕ → UInt8
  given : List (RenderSubAlloc × List UInt8)

def SubAllocRun.step (r : SubAllocRun) : SubAllocCall → SubAllocRun
  | .getPtr size =>
    match r.rsat.uboAlloc size with
    | none => r
    | some (rsat, rsa) => ⟨rsat, r.mem, r.given ++ [(rsa, [])]⟩
  | .write src size =>
    match uboAllocAndWrite r.rsat r.mem src size with
    | none => r
    | some (rsat, rsa, mem) => ⟨rsat, mem, r.given ++ [(rsa, src.take size.toNat)]⟩

/-- All before `used` is given out, in the order of the calls. -/
structure SubAllocRun.Sound (total : UInt64) (r : SubAllocRun) : Prop where
  size : r.rsat.totalSize = total
  used_le : r.rsat.used.toNat ≤ total.toNat
  aligned : r.rsat.used.toNat % 256 = 0 ∨ r.rsat.used = total
  order : r.given.Pairwise fun a b => a.1.offset.toNat + a.1.size.toNat ≤ b.1.offset.toNat
  before : ∀ g ∈ r.given, g.1.offset.toNat + g.1.size.toNat ≤ r.rsat.used.toNat
  offset : ∀ g ∈ r.given, g.1.size ≠ 0 → g.1.offset.toNat % 256 = 0
  length : ∀ g ∈ r.given, g.2.length ≤ g.1.size.toNat
  kept : ∀ g ∈ r.given, ∀ k (hk : k < g.2.length), r.mem (g.1.offset.toNat + k) = g.2[k]

theorem and_mask {n : ℕ} (h : n < 2 ^ 64) : n &&& (2 ^ 64 - 256) = n / 256 * 256 := by
  have hmask : 2 ^ 64 - 256 = (2 ^ 56 - 1) <<< 8 := by rfl
  have hround : n / 256 * 256 = (n >>> 8) <<< 8 := by rw [Nat.shiftRight_eq_div_pow, Nat.shiftLeft_eq]
  rw [hmask, hround]
  apply Nat.eq_of_testBit_eq
  intro i
  rw [Nat.testBit_and, Nat.testBit_shiftLeft, Nat.testBit_shiftLeft, Nat.testBit_shiftRight, Nat.testBit_two_pow_sub_one]
  by_cases hi : 8 ≤ i
  · by_cases hhigh : i < 64
    · have : i - 8 < 56 := by omega
      simp [hi, this]
    · have hn : n.testBit i = false := Nat.testBit_lt_two_pow (h.trans_le (Nat.pow_le_pow_right (by omega) (by omega)))
      simp [hi, hn]
  · simp [hi]

variable {size : UInt64}

theorem toNat_alignPaddingPot (h : size.toNat + 255 < 2 ^ 64) :
    (alignPaddingPot size RENDER_ALWAYS_SAFE_UBO_ALIGNMENT).toNat = (size.toNat + 255) / 256 * 256 := by
  have hsum : (size + 256 - 1 : UInt64).toNat = size.toNat + 255 := by
    rw [UInt64.toNat_sub, UInt64.toNat_add, show (256 : UInt64).toNat = 256 by rfl, show (1 : UInt64).toNat = 1 by rfl]
    omega
  have hmask : (~~~(256 - 1) : UInt64).toNat = 2 ^ 64 - 256 := by rfl
  rw [alignPaddingPot, UInt64.toNat_and, hsum, hmask, and_mask h]

/-- What is left to give out starts behind the new part. -/
theorem uboAlloc_spec {rsat rsat' : RenderSubAllocTracker} {rsa : RenderSubAlloc}
    (hused : rsat.used.toNat ≤ rsat.totalSize.toNat) (htotal : rsat.totalSize.toNat + 255 < 2 ^ 64)
    (h : rsat.uboAlloc size = some (rsat', rsa)) :
    rsa = ⟨rsat.buffer, size, rsat.used⟩ ∧ rsat'.totalSize = rsat.totalSize ∧
      rsat.used.toNat + size.toNat ≤ rsat'.used.toNat ∧ rsat'.used.toNat ≤ rsat.totalSize.toNat ∧
      (rsat'.used.toNat % 256 = 0 ∨ rsat'.used = rsat.totalSize) := by
  unfold RenderSubAllocTracker.uboAlloc at h
  dsimp only at h
  split at h
  · cases h
  · next hleft =>
    cases h
    have hfits : rsat.used.toNat + size.toNat ≤ rsat.totalSize.toNat := by
      rw [UInt64.lt_iff_toNat_lt, UInt64.toNat_sub_of_le _ _ (UInt64.le_iff_toNat_le.2 hused)] at hleft
      omega
    have hsum : (rsat.used + size).toNat = rsat.used.toNat + size.toNat := by
      rw [UInt64.toNat_add]
      exact Nat.mod_eq_of_lt (by omega)
    have hpadded := toNat_alignPaddingPot (show (rsat.used + size).toNat + 255 < 2 ^ 64 by omega)
    rw [hsum] at hpadded
    refine ⟨rfl, rfl, ?_⟩
    dsimp only
    split
    · exact ⟨hfits, le_rfl, Or.inr rfl⟩
    · next hle =>
      rw [UInt64.lt_iff_toNat_lt] at hle
      refine ⟨?_, ?_, Or.inl ?_⟩
      all_goals omega

variable {src : List UInt8}

theorem memcpy_before {mem : ℕ → UInt8} {dst i : ℕ} (h : i < dst) : memcpy mem dst src i = mem i :=
  if_neg (Nat.not_le.2 h)

theorem memcpy_at {mem : ℕ → UInt8} {dst k : ℕ} (h : k < src.length) : memcpy mem dst src (dst + k) = src[k] := by
  simp [memcpy, h]

/-- Another part is given out, and written to or not. -/
theorem SubAllocRun.Sound.give {total : UInt64} {r : SubAllocRun} (h : r.Sound total)
    (htotal : total.toNat + 255 < 2 ^ 64) {rsat : RenderSubAllocTracker} {rsa : RenderSubAlloc}
    (halloc : r.rsat.uboAlloc size = some (rsat, rsa)) (hsrc : src.length ≤ size.toNat) :
    Sound total ⟨rsat, memcpy r.mem rsa.offset.toNat src, r.given ++ [(rsa, src)]⟩ := by
  have hused := h.used_le
  rw [← h.size] at htotal hused
  obtain ⟨rfl, hsame, hbehind, hle, haligned⟩ := uboAlloc_spec hused htotal halloc
  rw [h.size] at hsame hle haligned
  refine ⟨hsame, hle, haligned, ?_, ?_, ?_, ?_, ?_⟩
  · rw [List.pairwise_append]
    refine ⟨h.order, List.pairwise_singleton _ _, ?_⟩
    intro g hg _ hnew
    rw [List.mem_singleton.1 hnew]
    exact h.before g hg
  all_goals
    intro g hg
    rcases List.mem_append.1 hg with hg | hg
  · have := h.before g hg
    dsimp only
    omega
  · rw [List.mem_singleton.1 hg]
    exact hbehind
  · exact h.offset g hg
  · rw [List.mem_singleton.1 hg]
    intro hsize
    -- a part that is not empty does not start at the end of the buffer
    refine h.aligned.resolve_right fun heq => hsize ?_
    rw [← UInt64.toNat_inj, UInt64.toNat_zero]
    rw [heq] at hbehind
    dsimp only
    omega
  · exact h.length g hg
  · rw [List.mem_singleton.1 hg]
    exact hsrc
  · intro k hk
    have hbefore := h.before g hg
    have hlength := h.length g hg
    have hplace : g.1.offset.toNat + k < r.rsat.used.toNat := by omega
    exact (memcpy_before hplace).trans (h.kept g hg k hk)
  · rw [List.mem_singleton.1 hg]
    intro k hk
    exact memcpy_at hk

theorem memcpy_nil (mem : ℕ → UInt8) (dst : ℕ) : memcpy mem dst [] = mem := by
  funext i
  simp [memcpy]

theorem SubAllocRun.Sound.step {total : UInt64} {r : SubAllocRun} (h : r.Sound total) (htotal : total.toNat + 255 < 2 ^ 64)
    (call : SubAllocCall) : (r.step call).Sound total := by
  cases call with
  | getPtr size =>
    rw [SubAllocRun.step]
    split
    · exact h
    · next rsat rsa halloc =>
      have hgive := h.give htotal halloc (show ([] : List UInt8).length ≤ size.toNat from Nat.zero_le _)
      rwa [memcpy_nil] at hgive
  | write src size =>
    rw [SubAllocRun.step]
    unfold uboAllocAndWrite
    cases r.rsat.mapped with
    | false => exact h
    | true =>
      cases halloc : r.rsat.uboAlloc size with
      | none => exact h
      | some given => exact h.give htotal halloc (List.length_take_le _ _)

/-- In every run of calls on a buffer, the parts that are given out lie in the buffer, one behind the other, each that is
not empty at an offset that is aligned; and what was written to a part is still there. -/
theorem subAlloc_run (buffer : ℕ) {total : UInt64} (htotal : total.toNat + 255 < 2 ^ 64) (mapped : Bool) (mem : ℕ → UInt8)
    (calls : List SubAllocCall) :
    (calls.foldl SubAllocRun.step ⟨.init buffer total mapped, mem, []⟩).Sound total := by
  have hinit : SubAllocRun.Sound total ⟨.init buffer total mapped, mem, []⟩ := by
    constructor <;> simp [RenderSubAllocTracker.init]
  generalize (⟨.init buffer total mapped, mem, []⟩ : SubAllocRun) = r at hinit
  induction calls generalizing r with
  | nil => exact hinit
  | cons call calls ih => exact ih _ (hinit.step htotal call)

/-- A part of 100 bytes and one of 200, in a buffer of 4096. -/
theorem subAlloc_run_two :
    ([.getPtr 100, .write (List.replicate 200 7) 200].foldl SubAllocRun.step
      ⟨.init 1 4096 true, fun _ => 0, []⟩).Sound 4096 :=
  subAlloc_run 1 (by decide) true (fun _ => 0) _

end AugmentedInsanity.Comp
