/-
The camera stream of a WMR headset (`wmr_camera.c`): a frame comes as one transfer, cut into slices with a header each,
and is put together again. Whether any frame ever is depends on the sizes of the sensors alone (`imgXferCb_frames`).
-/
import AugmentedInsanity.Lib.LittleEndian
import Mathlib.Algebra.BigOperators.Ring.List

namespace AugmentedInsanity.Drivers.Wmr

open LittleEndian

/-! ## Sizes -/

abbrev CHUNK_SIZE : ℕ := 0x6000 - 32

/-- `STR_TO_U32("Dlo+")`. -/
abbrev WMR_MAGIC : ℕ := 0x2b6f6c44

/-- The extent of a tracking camera, `config->roi.extent`. -/
structure Extent where
  w : ℕ
  h : ℕ
  deriving DecidableEq

structure WmrCamera where
  frameXferSize : ℕ
  xferSize : ℕ
  frameWidth : ℕ
  frameHeight : ℕ
  lastSeq : UInt8
  lastFrameTs : UInt64
  frameSequence : UInt64
  deriving DecidableEq

/-- The size of the transfer of `F` bytes. -/
def transferSize (F : ℕ) : ℕ := F / CHUNK_SIZE * 0x6000 + 32 + F % CHUNK_SIZE

/-- `compute_frame_size`; `epPktSize` is what the endpoint descriptor says. -/
def computeFrameSize (epPktSize : Int) (extents : List Extent) (cam : WmrCamera) : Option WmrCamera :=
  if epPktSize < 0 then none
  else
    match extents with
    | [] => none
    | first :: rest =>
      if ∃ e ∈ rest, first.h ≠ e.h then none
      else
        let width := ((first :: rest).map Extent.w).sum
        if width < 1280 ∨ first.h < 480 then none
        else
          let frameXferSize := transferSize (26 + ((first :: rest).map fun e => e.w * (e.h + 1)).sum)
          some { cam with
            frameXferSize := frameXferSize
            xferSize := frameXferSize + (epPktSize.toNat - frameXferSize % epPktSize.toNat)
            frameWidth := width
            frameHeight := first.h }

/-! ## Transfers -/

/-- The loop of `img_xfer_cb`: the bytes of the frame, and what follows in the buffer. -/
def copyToFrame (src : List UInt8) (dstRemain : ℕ) : Option (List UInt8 × List UInt8) :=
  if 0x20 ≤ dstRemain then
    let toCopy := min dstRemain CHUNK_SIZE
    if ofBytes (src.take 4) ≠ WMR_MAGIC then none
    else
      let src := src.drop 0x20
      (copyToFrame (src.drop toCopy) (dstRemain - toCopy)).map fun (dst, rest) => (src.take toCopy ++ dst, rest)
  else some ([], src)
termination_by dstRemain
decreasing_by
  unfold CHUNK_SIZE
  omega

/-- What is told of a frame when it is pushed; `slam` for frames of type 0. -/
structure CameraFrame where
  data : List UInt8
  sourceSequence : UInt64
  timestamp : Int64
  sourceTimestamp : UInt64
  slam : Bool
  deriving DecidableEq

def read64 (src : List UInt8) (offset : ℕ) : UInt64 := UInt64.ofNat (ofBytes ((src.drop offset).take 8))

/-- A frame that is whole, with the footer behind it. -/
def WmrCamera.pushFrame (cam : WmrCamera) (data src : List UInt8) : WmrCamera × CameraFrame :=
  let frameStartTs := read64 src 0 * 100
  let frameEndTs := read64 src 8 * 100
  let delta := (frameEndTs - frameStartTs).toInt64
  let frametype := ofBytes ((src.drop 24).take 2)
  let seq := data.getD 89 0
  let seqDelta := seq - cam.lastSeq
  let frameSequence := cam.frameSequence + seqDelta.toUInt64
  ({ cam with lastFrameTs := frameStartTs, lastSeq := seq, frameSequence := frameSequence },
    { data := data
      sourceSequence := frameSequence
      timestamp := (frameStartTs + (delta / 2).toUInt64).toInt64
      sourceTimestamp := frameStartTs
      slam := frametype = 0 })

/-- `img_xfer_cb`; `buffer` is as long as what was received. -/
def imgXferCb (cam : WmrCamera) (completed : Bool) (buffer : List UInt8) : WmrCamera × Option CameraFrame :=
  if !completed then (cam, none)
  else if buffer.length < cam.frameXferSize then (cam, none)
  else
    match copyToFrame buffer (cam.frameWidth * (cam.frameHeight + 1)) with
    | none => (cam, none)
    | some (data, src) =>
      -- the place of `src` in the buffer is what the buffer has more than it
      if src.length + cam.frameXferSize ≠ 26 + buffer.length then (cam, none)
      else
        let (cam, frame) := cam.pushFrame data src
        (cam, some frame)

/-! ## What is sent -/

/-- A frame as it is sent, the `k`-th slice behind `header k`. -/
def slices (header : ℕ → List UInt8) (k : ℕ) (bytes : List UInt8) : List UInt8 :=
  if bytes.length < CHUNK_SIZE then header k ++ bytes
  else header k ++ (bytes.take CHUNK_SIZE ++ slices header (k + 1) (bytes.drop CHUNK_SIZE))
termination_by bytes.length
decreasing_by
  rw [List.length_drop]
  unfold CHUNK_SIZE at *
  omega

structure Headers (header : ℕ → List UInt8) : Prop where
  length : ∀ k, (header k).length = 32
  magic : ∀ k, ofBytes ((header k).take 4) = WMR_MAGIC

/-- The frame ends, and is followed by the footer, in the last slice, behind at least 32 bytes of its own. -/
def Fits (size : ℕ) : Prop := 32 ≤ size % CHUNK_SIZE ∧ size % CHUNK_SIZE + 26 < CHUNK_SIZE

/-- How far the loop goes in the buffer. -/
def consumed (size : ℕ) : ℕ :=
  size / CHUNK_SIZE * 0x6000 + if 32 ≤ size % CHUNK_SIZE then 32 + size % CHUNK_SIZE else 0

theorem consumed_fits (size : ℕ) : consumed size + 26 = transferSize (26 + size) ↔ Fits size := by
  unfold consumed transferSize Fits CHUNK_SIZE
  split <;> omega

theorem consumed_le (size : ℕ) : consumed size ≤ transferSize (26 + size) := by
  unfold consumed transferSize CHUNK_SIZE
  split <;> omega

variable {size : ℕ}

theorem consumed_step (h : 0x20 ≤ size) :
    consumed size = 0x20 + (min size CHUNK_SIZE + consumed (size - min size CHUNK_SIZE)) := by
  unfold consumed CHUNK_SIZE
  split <;> split <;> omega

theorem copyToFrame_step {src : List UInt8} (h : 0x20 ≤ size) (hmagic : ofBytes (src.take 4) = WMR_MAGIC) :
    copyToFrame src size =
      (copyToFrame ((src.drop 0x20).drop (min size CHUNK_SIZE)) (size - min size CHUNK_SIZE)).map
        fun (dst, rest) => ((src.drop 0x20).take (min size CHUNK_SIZE) ++ dst, rest) := by
  rw [copyToFrame, if_pos h]
  exact if_neg (not_not.2 hmagic)

theorem copyToFrame_done {src : List UInt8} (h : ¬ 0x20 ≤ size) : copyToFrame src size = some ([], src) := by
  rw [copyToFrame, if_neg h]

/-- How far the loop goes does not depend on the buffer. -/
theorem copyToFrame_rest {src dst rest : List UInt8} (h : copyToFrame src size = some (dst, rest)) :
    rest = src.drop (consumed size) := by
  induction size using Nat.strong_induction_on generalizing src dst rest with
  | _ size ih =>
    by_cases hsize : 0x20 ≤ size
    · by_cases hmagic : ofBytes (src.take 4) = WMR_MAGIC
      · rw [copyToFrame_step hsize hmagic, Option.map_eq_some_iff] at h
        obtain ⟨⟨dst', rest'⟩, hrec, heq⟩ := h
        cases heq
        have hless : size - min size CHUNK_SIZE < size := by
          unfold CHUNK_SIZE
          omega
        rw [ih _ hless hrec, List.drop_drop, List.drop_drop, consumed_step hsize]
      · rw [copyToFrame, if_pos hsize] at h
        simp [hmagic] at h
    · rw [copyToFrame_done hsize] at h
      cases h
      have hzero : consumed size = 0 := by
        unfold consumed CHUNK_SIZE
        split <;> omega
      rw [hzero, List.drop_zero]

section

variable {header : ℕ → List UInt8} (hheader : Headers header) {pixels footer : List UInt8}
include hheader

theorem Headers.take_append (k : ℕ) (rest : List UInt8) : ofBytes ((header k ++ rest).take 4) = WMR_MAGIC := by
  rw [List.take_append_of_le_length (by rw [hheader.length]; omega), hheader.magic]

theorem Headers.drop_append (k : ℕ) (rest : List UInt8) : (header k ++ rest).drop 0x20 = rest := by
  rw [← hheader.length k, List.drop_left]

theorem length_slices (k : ℕ) (bytes : List UInt8) : (slices header k bytes).length = transferSize bytes.length := by
  induction k, bytes using slices.induct with
  | case1 k bytes h =>
    rw [slices, if_pos h, List.length_append, hheader.length, transferSize, Nat.div_eq_of_lt h, Nat.mod_eq_of_lt h]
  | case2 k bytes h ih =>
    rw [slices, if_neg h, List.length_append, List.length_append, ih, hheader.length, List.length_take, List.length_drop]
    unfold transferSize CHUNK_SIZE at *
    omega

theorem copyToFrame_slices (hfits : Fits pixels.length) (hfooter : footer.length = 26) (trailing : List UInt8) (k : ℕ) :
    copyToFrame (slices header k (pixels ++ footer) ++ trailing) pixels.length = some (pixels, footer ++ trailing) := by
  induction hn : pixels.length / CHUNK_SIZE generalizing pixels k with
  | zero =>
    have hlt : pixels.length < CHUNK_SIZE := by
      unfold CHUNK_SIZE at *
      omega
    obtain ⟨hlow, hhigh⟩ := hfits
    rw [Nat.mod_eq_of_lt hlt] at hlow hhigh
    rw [slices, if_pos (by rw [List.length_append, hfooter]; exact hhigh), List.append_assoc,
      copyToFrame_step hlow (hheader.take_append k _), hheader.drop_append k, Nat.min_eq_left hlt.le, Nat.sub_self, copyToFrame_done (by omega)]
    simp
  | succ n ih =>
    have hge : CHUNK_SIZE ≤ pixels.length := by
      unfold CHUNK_SIZE at *
      omega
    have hrest : (pixels.drop CHUNK_SIZE).length = pixels.length - CHUNK_SIZE := List.length_drop
    have hfits' : Fits (pixels.drop CHUNK_SIZE).length := by
      rw [hrest]
      unfold Fits CHUNK_SIZE at *
      omega
    have ih := ih hfits' (k + 1) (by rw [hrest]; unfold CHUNK_SIZE at *; omega)
    have hmin : min pixels.length CHUNK_SIZE = (pixels.take CHUNK_SIZE).length := by
      rw [List.length_take, Nat.min_comm]
    rw [slices, if_neg (by rw [List.length_append]; omega), List.take_append_of_le_length hge,
      List.drop_append_of_le_length hge, List.append_assoc, List.append_assoc,
      copyToFrame_step (by unfold CHUNK_SIZE at *; omega) (hheader.take_append k _), hheader.drop_append k, hmin, List.drop_left, List.take_left,
      ← hmin, Nat.min_eq_right hge, ← hrest, ih]
    simp

theorem imgXferCb_slices {cam : WmrCamera}
    (hsize : cam.frameXferSize = transferSize (26 + cam.frameWidth * (cam.frameHeight + 1)))
    (hfits : Fits (cam.frameWidth * (cam.frameHeight + 1)))
    (hpixels : pixels.length = cam.frameWidth * (cam.frameHeight + 1)) (hfooter : footer.length = 26)
    (trailing : List UInt8) :
    imgXferCb cam true (slices header 0 (pixels ++ footer) ++ trailing) =
      ((cam.pushFrame pixels (footer ++ trailing)).1, some (cam.pushFrame pixels (footer ++ trailing)).2) := by
  have hlength : (slices header 0 (pixels ++ footer)).length = cam.frameXferSize := by
    rw [length_slices hheader, hsize, List.length_append, hpixels, hfooter, Nat.add_comm]
  have hcopy := copyToFrame_slices hheader (hpixels ▸ hfits) hfooter trailing 0
  rw [hpixels] at hcopy
  rw [imgXferCb, if_neg (by simp), if_neg (by rw [List.length_append]; omega), hcopy]
  simp only [List.length_append, hlength, hfooter]
  rw [if_neg (by omega)]

end

/-! ## Frames -/

theorem computeFrameSize_sizes {epPktSize : Int} {extents : List Extent} {cam₀ cam : WmrCamera}
    (h : computeFrameSize epPktSize extents cam₀ = some cam) :
    cam.frameXferSize = transferSize (26 + cam.frameWidth * (cam.frameHeight + 1)) := by
  unfold computeFrameSize at h
  split at h
  · cases h
  · split at h
    · cases h
    · next first rest =>
      split at h
      · cases h
      · next hheight =>
        push Not at hheight
        dsimp only at h
        split at h
        · cases h
        · cases h
          have hsum : ((first :: rest).map fun e => e.w * (e.h + 1)) =
              ((first :: rest).map Extent.w).map (· * (first.h + 1)) := by
            rw [List.map_map]
            apply List.map_congr_left
            intro e he
            rcases List.mem_cons.1 he with rfl | he
            · rfl
            · simp [hheight e he]
          simp only [hsum, List.sum_map_mul_right, List.map_id']

/-- A camera whose frames fit gets every frame that is sent, pixel by pixel; one whose frames do not fit never gets a
frame. -/
theorem imgXferCb_frames {epPktSize : Int} {extents : List Extent} {cam₀ cam : WmrCamera}
    (h : computeFrameSize epPktSize extents cam₀ = some cam) :
    (Fits (cam.frameWidth * (cam.frameHeight + 1)) → ∀ header, Headers header → ∀ pixels footer trailing : List UInt8,
      pixels.length = cam.frameWidth * (cam.frameHeight + 1) → footer.length = 26 →
        imgXferCb cam true (slices header 0 (pixels ++ footer) ++ trailing) =
          ((cam.pushFrame pixels (footer ++ trailing)).1, some (cam.pushFrame pixels (footer ++ trailing)).2)) ∧
    (¬ Fits (cam.frameWidth * (cam.frameHeight + 1)) → ∀ completed buffer, imgXferCb cam completed buffer = (cam, none)) := by
  have hsize := computeFrameSize_sizes h
  constructor
  · intro hfits header hheader pixels footer trailing hpixels hfooter
    exact imgXferCb_slices hheader hsize hfits hpixels hfooter trailing
  · intro hfits completed buffer
    unfold imgXferCb
    split
    · rfl
    · split
      · rfl
      · next hlength =>
        split
        · rfl
        · next data src hcopy =>
          have hle := consumed_le (cam.frameWidth * (cam.frameHeight + 1))
          have hne := mt (consumed_fits (cam.frameWidth * (cam.frameHeight + 1))).1 hfits
          rw [← hsize] at hle hne
          rw [if_pos]
          rw [copyToFrame_rest hcopy, List.length_drop]
          omega

def blankHeader : List UInt8 := toBytes 4 WMR_MAGIC ++ List.replicate 28 0

theorem headers_blank : Headers fun _ => blankHeader := ⟨fun _ => rfl, fun _ => rfl⟩

/-- Two sensors of 640 by 480. -/
theorem imgXferCb_frames_vga :
    let cam : WmrCamera := ⟨616538, 617472, 1280, 480, 0, 0, 0⟩
    let header := fun _ => blankHeader
    let pixels := List.replicate 615680 0
    let footer := List.replicate 26 0
    imgXferCb cam true (slices header 0 (pixels ++ footer) ++ []) =
      ((cam.pushFrame pixels (footer ++ [])).1, some (cam.pushFrame pixels (footer ++ [])).2) :=
  (imgXferCb_frames (show computeFrameSize 1024 [⟨640, 480⟩, ⟨640, 480⟩] ⟨0, 0, 0, 0, 0, 0, 0⟩ = some _ from rfl)).1
    ⟨by decide, by decide⟩ _ headers_blank _ _ [] List.length_replicate rfl

/-! ## Sequence numbers -/

/-- The frames that come of transfers. -/
def imgXfers (cam : WmrCamera) : List (Bool × List UInt8) → List CameraFrame
  | [] => []
  | (completed, buffer) :: transfers =>
    let (cam, frame) := imgXferCb cam completed buffer
    frame.toList ++ imgXfers cam transfers

theorem imgXferCb_cases (cam : WmrCamera) (completed : Bool) (buffer : List UInt8) :
    imgXferCb cam completed buffer = (cam, none) ∨
      ∃ data src, imgXferCb cam completed buffer = ((cam.pushFrame data src).1, some (cam.pushFrame data src).2) := by
  unfold imgXferCb
  split
  · exact Or.inl rfl
  · split
    · exact Or.inl rfl
    · split
      · exact Or.inl rfl
      · split
        · exact Or.inl rfl
        · exact Or.inr ⟨_, _, rfl⟩

/-- The counter of the camera, of which a frame has the lowest byte. -/
theorem sequence_step {m n : ℕ} (h : m ≤ n ∧ n < m + 256) :
    UInt64.ofNat m + (UInt8.ofNat n - UInt8.ofNat m).toUInt64 = UInt64.ofNat n := by
  rw [← UInt64.toNat_inj]
  simp only [UInt64.toNat_add, UInt64.toNat_ofNat', UInt8.toNat_toUInt64, UInt8.toNat_sub, UInt8.toNat_ofNat']
  omega

/-- The frames are numbered as the camera counted them, as long as fewer than 256 are lost in a row. -/
theorem imgXfers_sourceSequence (transfers : List (Bool × List UInt8)) {cam : WmrCamera} {count : ℕ}
    (hsequence : cam.frameSequence = UInt64.ofNat count) (hseq : cam.lastSeq = UInt8.ofNat count) {counts : List ℕ}
    (hcounts : List.Forall₂ (fun frame n => frame.data.getD 89 0 = UInt8.ofNat n) (imgXfers cam transfers) counts)
    (hlost : List.IsChain (fun m n => m ≤ n ∧ n < m + 256) (count :: counts)) :
    (imgXfers cam transfers).map CameraFrame.sourceSequence = counts.map UInt64.ofNat := by
  induction transfers generalizing cam count counts with
  | nil =>
    cases hcounts
    rfl
  | cons transfer transfers ih =>
    obtain ⟨completed, buffer⟩ := transfer
    rw [imgXfers] at hcounts ⊢
    rcases imgXferCb_cases cam completed buffer with heq | ⟨data, src, heq⟩
    · rw [heq] at hcounts ⊢
      exact ih hsequence hseq hcounts hlost
    · rw [heq] at hcounts ⊢
      cases hcounts with
      | @cons _ n _ counts hn hrest =>
        rw [List.isChain_cons_cons] at hlost
        have hnext : cam.frameSequence + (data.getD 89 0 - cam.lastSeq).toUInt64 = UInt64.ofNat n := by
          have hn : data.getD 89 0 = UInt8.ofNat n := hn
          rw [hn, hsequence, hseq, sequence_step hlost.1]
        have ih := ih hnext hn hrest hlost.2
        simp only [Option.toList_some, List.cons_append, List.nil_append, List.map_cons, ih]
        rw [show (cam.pushFrame data src).2.sourceSequence = _ from hnext]

/-- A frame is lost, and one transfer fails. -/
theorem imgXfers_sourceSequence_lost :
    (imgXfers ⟨154, 512, 96, 0, 5, 0, 261⟩ [(false, []), (true, slices (fun _ => blankHeader) 0
      (List.replicate 89 0 ++ 7 :: List.replicate 6 0 ++ List.replicate 26 0) ++ [])]).map
        CameraFrame.sourceSequence = [263] := by
  have hframe := imgXferCb_slices headers_blank
    (show (⟨154, 512, 96, 0, 5, 0, 261⟩ : WmrCamera).frameXferSize = transferSize (26 + 96 * (0 + 1)) from rfl)
    ⟨by decide, by decide⟩ (show (List.replicate 89 0 ++ 7 :: List.replicate 6 0 : List UInt8).length = 96 from rfl)
    (show (List.replicate 26 0 : List UInt8).length = 26 from rfl) []
  have hlost (cam : WmrCamera) : imgXferCb cam false [] = (cam, none) := rfl
  refine imgXfers_sourceSequence _ (show (261 : UInt64) = UInt64.ofNat 261 from rfl) rfl
    (show List.Forall₂ _ _ [263] from ?_) (by simp)
  simp only [imgXfers, hlost, hframe]
  exact .cons rfl .nil

end AugmentedInsanity.Drivers.Wmr
