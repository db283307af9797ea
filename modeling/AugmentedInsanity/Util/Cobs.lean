/-
`u_cobs_encode` and the decoder of `u_cobs.c`. The encoder writes the blocks of `Lib.Stuffing`, the decoder
joins them, with no look at the code byte 0xFF: a packet comes back when `Stuffing.Stuffable` holds of it.
Of the room that the encoder needs, every data byte is compared with the size of the output before it is written,
a code byte is not: it goes past the end when the blocks before it fill the buffer and its own block is empty.
-/
import AugmentedInsanity.Lib.Stuffing

namespace AugmentedInsanity.Util

open Stuffing

def PACKET_DELIMITER : UInt8 := 0x00

/-! ## The encoder -/

/-- `-ENOSPC`, and a write past the end of the output buffer. -/
inductive EncodeError
  | noSpace
  | outOfBounds
  deriving DecidableEq

/-- The inner loop: what is left of the input, the code and the output. -/
def writeRun (output_size : ℕ) : List UInt8 → UInt8 → List UInt8 → Except EncodeError (List UInt8 × UInt8 × List UInt8)
  | [], code, output => .ok ([], code, output)
  | byte :: input, code, output =>
    if byte ≠ 0x00 ∧ code < 0xFF then
      if output_size ≤ output.length then .error .noSpace
      else writeRun output_size input (code + 1) (output ++ [byte])
    else .ok (byte :: input, code, output)

theorem code_succ {code : UInt8} (h : code < 0xFF) : (code + 1).toNat = code.toNat + 1 := by
  rw [UInt8.lt_iff_toNat_lt] at h
  rw [UInt8.toNat_add]
  simp at h ⊢
  omega

variable {byte code : UInt8}

theorem block_stop {input : List UInt8} (h : ¬ (byte ≠ 0x00 ∧ code < 0xFF)) :
    block 0x00 (255 - code.toNat) (byte :: input) = [] := by
  apply block_eq_nil
  by_cases hbyte : byte = 0x00
  · exact Or.inl hbyte
  · right
    have hcode : ¬ code < 0xFF := fun hlt => h ⟨hbyte, hlt⟩
    rw [UInt8.lt_iff_toNat_lt] at hcode
    simp at hcode
    omega

theorem block_go {input : List UInt8} (h : byte ≠ 0x00 ∧ code < 0xFF) :
    block 0x00 (255 - code.toNat) (byte :: input) = byte :: block 0x00 (255 - (code + 1).toNat) input := by
  have hnext := code_succ h.2
  have hcap : 255 - code.toNat = 255 - (code + 1).toNat + 1 := by
    have hcode := UInt8.lt_iff_toNat_lt.1 h.2
    simp at hcode
    omega
  rw [hcap, block_cons _ h.1]

variable {output_size : ℕ}

theorem writeRun_ok {input left output out : List UInt8} {code c : UInt8}
    (h : writeRun output_size input code output = .ok (left, c, out)) :
    left = input.drop (block 0x00 (255 - code.toNat) input).length ∧
      c.toNat = code.toNat + (block 0x00 (255 - code.toNat) input).length ∧
      out = output ++ block 0x00 (255 - code.toNat) input := by
  induction input generalizing code output with
  | nil =>
    simp only [writeRun, Except.ok.injEq, Prod.mk.injEq] at h
    simp [← h.1, ← h.2.1, ← h.2.2, block]
  | cons byte input ih =>
    simp only [writeRun] at h
    split at h
    · rename_i hgo
      split at h
      · cases h
      · obtain ⟨h1, h2, h3⟩ := ih h
        rw [block_go hgo]
        refine ⟨by simpa using h1, ?_, by simpa using h3⟩
        rw [h2, code_succ hgo.2, List.length_cons]
        omega
    · rename_i hstop
      simp only [Except.ok.injEq, Prod.mk.injEq] at h
      rw [block_stop hstop]
      simp [← h.1, ← h.2.1, ← h.2.2]

/-- The outer loop, with what is left of the input and the output so far. The code byte is written last, at
the index that was kept for it; nothing compares this index with the size. -/
def writeBlocks (output_size : ℕ) : List UInt8 → List UInt8 → Except EncodeError (List UInt8)
  | [], output => .ok output
  | byte :: input, output =>
    match _h : writeRun output_size (byte :: input) 1 (output ++ [0]) with
    | .error e => .error e
    | .ok (left, code, out) =>
      if output.length < output_size then writeBlocks output_size (skipZero 0x00 left) (out.set output.length code)
      else .error .outOfBounds
termination_by input => input.length
decreasing_by
  have := (writeRun_ok _h).1
  subst this
  exact afterBlock_length 0x00 254 byte input

/-- The bytes written, as many as the function returns. -/
def u_cobs_encode (input : List UInt8) (output_size : ℕ) : Except EncodeError (List UInt8) :=
  if output_size < input.length + 1 then .error .noSpace
  else
    match writeBlocks output_size input [] with
    | .error e => .error e
    | .ok output => if output_size ≤ output.length then .error .noSpace else .ok (output ++ [PACKET_DELIMITER])

/-- The bytes of the blocks, each behind its code byte. -/
def stuffed (bs : List (List UInt8)) : List UInt8 := bs.flatMap fun b => UInt8.ofNat (b.length + 1) :: b

theorem writeBlocks_step {input output left out : List UInt8}
    (hrun : writeRun output_size (byte :: input) 1 (output ++ [0]) = .ok (left, code, out)) :
    skipZero 0x00 left = afterBlock 0x00 254 (byte :: input) ∧
      out.set output.length code = output ++ stuffed [block 0x00 254 (byte :: input)] := by
  obtain ⟨rfl, hcode, rfl⟩ := writeRun_ok hrun
  have hbyte : code = UInt8.ofNat ((block 0x00 254 (byte :: input)).length + 1) := by
    apply UInt8.toNat_inj.1
    rw [hcode, UInt8.toNat_ofNat']
    have : (block 0x00 254 (byte :: input)).length ≤ 254 := List.length_take_le _ _
    simp
    omega
  refine ⟨rfl, ?_⟩
  simp [stuffed, hbyte]

theorem writeBlocks_ok {input output out : List UInt8} (h : writeBlocks output_size input output = .ok out) :
    out = output ++ stuffed (blocks 0x00 254 input) := by
  induction input, output using writeBlocks.induct output_size with
  | case1 output =>
    simp only [writeBlocks, Except.ok.injEq] at h
    simp [blocks, stuffed, h]
  | case2 byte input output e he =>
    rw [writeBlocks] at h
    split at h <;> simp_all
  | case3 byte input output left code o hrun hsize ih =>
    obtain ⟨hafter, hset⟩ := writeBlocks_step hrun
    rw [writeBlocks] at h
    split at h
    · simp_all
    · rename_i hrun'
      rw [hrun, Except.ok.injEq, Prod.mk.injEq, Prod.mk.injEq] at hrun'
      obtain ⟨rfl, rfl, rfl⟩ := hrun'
      rw [if_pos hsize] at h
      rw [ih h, hset, hafter, blocks, List.append_assoc]
      simp [stuffed]
  | case4 byte input output left code o hrun hsize =>
    rw [writeBlocks] at h
    split at h
    · simp_all
    · rename_i hrun'
      rw [hrun, Except.ok.injEq, Prod.mk.injEq, Prod.mk.injEq] at hrun'
      obtain ⟨rfl, rfl, rfl⟩ := hrun'
      rw [if_neg hsize] at h
      cases h

theorem u_cobs_encode_ok {input out : List UInt8} (h : u_cobs_encode input output_size = .ok out) :
    out = stuffed (blocks 0x00 254 input) ++ [PACKET_DELIMITER] := by
  unfold u_cobs_encode at h
  split at h
  · cases h
  · split at h
    · cases h
    · rename_i output hwrite
      split at h
      · cases h
      · rw [Except.ok.injEq] at h
        rw [← h, writeBlocks_ok hwrite, List.nil_append]

/-! ## The decoder -/

/-- The first `read_bytes` bytes of the buffer stand for it. -/
structure u_cobs_decoder where
  buffer_size : ℕ
  buffer : List UInt8
  bytes_until_next_code : ℕ
  error_recovery : Bool
  deriving DecidableEq

def u_cobs_decoder_create (buffer_size : ℕ) : u_cobs_decoder :=
  { buffer_size, buffer := [], bytes_until_next_code := 0, error_recovery := false }

/-- `0`, `-EINVAL` and `-ENOSPC`. -/
inductive CobsRet
  | success
  | invalid
  | noSpace
  deriving DecidableEq

/-- The decoder after a push, the packets given to the callback and what is returned. -/
structure Pushed where
  cobs : u_cobs_decoder
  packets : List (List UInt8)
  ret : CobsRet
  deriving DecidableEq

namespace u_cobs_decoder

def restart (cobs : u_cobs_decoder) : u_cobs_decoder :=
  { cobs with error_recovery := false, buffer := [], bytes_until_next_code := 0 }

/-- A byte that is no delimiter, with room in the buffer. -/
def readByte (cobs : u_cobs_decoder) (byte : UInt8) : u_cobs_decoder :=
  if cobs.bytes_until_next_code = 0 then
    { cobs with
      bytes_until_next_code := byte.toNat - 1
      buffer := if 0 < cobs.buffer.length then cobs.buffer ++ [0x00] else cobs.buffer }
  else
    { cobs with buffer := cobs.buffer ++ [byte], bytes_until_next_code := cobs.bytes_until_next_code - 1 }

/-- The buffer is full. The loop that looks for a delimiter tests `byte` and not `data[i]`, so that its first
turn decides. -/
def recover (cobs : u_cobs_decoder) (byte : UInt8) : u_cobs_decoder :=
  if byte = PACKET_DELIMITER then restart { cobs with error_recovery := true }
  else { cobs with error_recovery := true }

end u_cobs_decoder

def u_cobs_push_bytes (cobs : u_cobs_decoder) : List UInt8 → Pushed
  | [] => { cobs, packets := [], ret := .success }
  | byte :: data =>
    if byte = PACKET_DELIMITER then
      if cobs.error_recovery then u_cobs_push_bytes cobs.restart data
      else if cobs.bytes_until_next_code ≠ 0 then { cobs := { cobs with buffer := [] }, packets := [], ret := .invalid }
      else if 0 < cobs.buffer.length then
        let pushed := u_cobs_push_bytes { cobs with buffer := [] } data
        { pushed with packets := cobs.buffer :: pushed.packets }
      else u_cobs_push_bytes cobs data
    else if cobs.error_recovery then u_cobs_push_bytes cobs data
    else if cobs.buffer_size ≤ cobs.buffer.length then
      if (cobs.recover byte).error_recovery then { cobs := cobs.recover byte, packets := [], ret := .noSpace }
      else u_cobs_push_bytes ((cobs.recover byte).readByte byte) data
    else u_cobs_push_bytes (cobs.readByte byte) data

/-- Bytes that arrive in several pieces, each pushed whatever the push before it returned. -/
def feed (cobs : u_cobs_decoder) : List (List UInt8) → List (List UInt8)
  | [] => []
  | piece :: pieces =>
    (u_cobs_push_bytes cobs piece).packets ++ feed (u_cobs_push_bytes cobs piece).cobs pieces

/-! ## Without an error -/

namespace u_cobs_decoder

def Fits : u_cobs_decoder → List UInt8 → Prop
  | _, [] => True
  | cobs, byte :: data => cobs.buffer.length < cobs.buffer_size ∧ (cobs.readByte byte).Fits data

@[simp] theorem readByte_buffer_size (cobs : u_cobs_decoder) (byte : UInt8) :
    (cobs.readByte byte).buffer_size = cobs.buffer_size := by unfold readByte; split <;> rfl

@[simp] theorem readByte_error_recovery (cobs : u_cobs_decoder) (byte : UInt8) :
    (cobs.readByte byte).error_recovery = cobs.error_recovery := by unfold readByte; split <;> rfl

@[simp] theorem foldl_readByte_error_recovery (cobs : u_cobs_decoder) (data : List UInt8) :
    (data.foldl readByte cobs).error_recovery = cobs.error_recovery := by
  induction data generalizing cobs with
  | nil => rfl
  | cons byte data ih => rw [List.foldl_cons, ih, readByte_error_recovery]

theorem readByte_grows (cobs : u_cobs_decoder) (byte : UInt8) (h : 0 < cobs.buffer.length) :
    (cobs.readByte byte).buffer.length = cobs.buffer.length + 1 := by
  unfold readByte
  split <;> simp only [List.length_append, List.length_singleton]

theorem foldl_readByte_grows (cobs : u_cobs_decoder) (data : List UInt8) :
    cobs.buffer.length ≤ (data.foldl readByte cobs).buffer.length := by
  induction data generalizing cobs with
  | nil => exact le_rfl
  | cons byte data ih =>
    have hstep : cobs.buffer.length ≤ (cobs.readByte byte).buffer.length := by
      by_cases h : 0 < cobs.buffer.length
      · rw [readByte_grows cobs byte h]
        omega
      · omega
    exact le_trans hstep (ih _)

theorem fits_of_foldl {cobs : u_cobs_decoder} {data : List UInt8} (hpos : 0 < cobs.buffer_size)
    (h : (data.foldl readByte cobs).buffer.length ≤ cobs.buffer_size) : cobs.Fits data := by
  induction data generalizing cobs with
  | nil => trivial
  | cons byte data ih =>
    refine ⟨?_, ih (by simpa using hpos) (by simpa using h)⟩
    by_cases hread : 0 < cobs.buffer.length
    · have := readByte_grows cobs byte hread
      have := foldl_readByte_grows (cobs.readByte byte) data
      rw [List.foldl_cons] at h
      omega
    · omega

theorem foldl_readByte_data (cobs : u_cobs_decoder) (b : List UInt8) (h : cobs.bytes_until_next_code = b.length) :
    b.foldl readByte cobs = { cobs with buffer := cobs.buffer ++ b, bytes_until_next_code := 0 } := by
  induction b generalizing cobs with
  | nil => cases cobs; simp_all
  | cons byte b ih =>
    rw [List.foldl_cons, ih _ (by simp [readByte, h])]
    simp [readByte, h]

theorem foldl_readByte_block (cobs : u_cobs_decoder) (b : List UInt8) (h : cobs.bytes_until_next_code = 0)
    (hb : b.length ≤ 254) : (UInt8.ofNat (b.length + 1) :: b).foldl readByte cobs =
      { cobs with buffer := addBlock 0x00 cobs.buffer b, bytes_until_next_code := 0 } := by
  have hcode : (UInt8.ofNat (b.length + 1)).toNat - 1 = b.length := by
    rw [UInt8.toNat_ofNat']
    simp
    omega
  have hread : (cobs.readByte (UInt8.ofNat (b.length + 1))).bytes_until_next_code = b.length := by
    simp only [readByte, h, if_true, hcode]
  rw [List.foldl_cons, foldl_readByte_data _ b hread]
  unfold readByte addBlock
  rw [if_pos h]
  by_cases hbuf : cobs.buffer = []
  · simp [hbuf]
  · have : 0 < cobs.buffer.length := List.length_pos_iff.2 hbuf
    simp [hbuf, this]

theorem foldl_readByte_stuffed (cobs : u_cobs_decoder) {bs : List (List UInt8)} (h : cobs.bytes_until_next_code = 0)
    (hbs : ∀ b ∈ bs, b.length ≤ 254) : (stuffed bs).foldl readByte cobs =
      { cobs with buffer := bs.foldl (addBlock 0x00) cobs.buffer, bytes_until_next_code := 0 } := by
  induction bs generalizing cobs with
  | nil => cases cobs; simp_all [stuffed]
  | cons b bs ih =>
    have hcons : stuffed (b :: bs) = (UInt8.ofNat (b.length + 1) :: b) ++ stuffed bs := by simp [stuffed]
    rw [hcons, List.foldl_append, foldl_readByte_block cobs b h (hbs b List.mem_cons_self),
      ih _ rfl fun c hc => hbs c (List.mem_cons_of_mem _ hc), List.foldl_cons]

end u_cobs_decoder

/-! ## Pushing -/

variable {cobs : u_cobs_decoder} {body : List UInt8} {k : ℕ}

theorem push_fits (tail : List UInt8) (hz : 0x00 ∉ body) (herr : cobs.error_recovery = false) (hfits : cobs.Fits body) :
    u_cobs_push_bytes cobs (body ++ tail) = u_cobs_push_bytes (body.foldl u_cobs_decoder.readByte cobs) tail := by
  induction body generalizing cobs with
  | nil => rfl
  | cons byte body ih =>
    rw [List.mem_cons, not_or] at hz
    rw [List.cons_append, u_cobs_push_bytes, if_neg (show byte ≠ PACKET_DELIMITER from Ne.symm hz.1), herr,
      if_neg Bool.false_ne_true, if_neg (Nat.not_le.2 hfits.1), ih hz.2 (by simpa using herr) hfits.2, List.foldl_cons]

theorem push_recovering (tail : List UInt8) (hz : 0x00 ∉ body) (herr : cobs.error_recovery = true) :
    u_cobs_push_bytes cobs (body ++ tail) = u_cobs_push_bytes cobs tail := by
  induction body with
  | nil => rfl
  | cons byte body ih =>
    rw [List.mem_cons, not_or] at hz
    rw [List.cons_append, u_cobs_push_bytes, if_neg (show byte ≠ PACKET_DELIMITER from Ne.symm hz.1), if_pos herr,
      ih hz.2]

theorem push_full (tail : List UInt8) (hz : 0x00 ∉ body) (herr : cobs.error_recovery = false)
    (hfull : ¬ cobs.Fits body) :
    (u_cobs_push_bytes cobs (body ++ tail)).packets = [] ∧
      (u_cobs_push_bytes cobs (body ++ tail)).cobs.error_recovery = true := by
  induction body generalizing cobs with
  | nil => exact absurd trivial hfull
  | cons byte body ih =>
    rw [List.mem_cons, not_or] at hz
    have hbyte : byte ≠ PACKET_DELIMITER := Ne.symm hz.1
    rw [List.cons_append, u_cobs_push_bytes, if_neg hbyte, herr, if_neg Bool.false_ne_true]
    by_cases hroom : cobs.buffer.length < cobs.buffer_size
    · rw [if_neg (Nat.not_le.2 hroom)]
      exact ih hz.2 (by simpa using herr) fun h => hfull ⟨hroom, h⟩
    · have hrecover : (cobs.recover byte).error_recovery = true := by simp [u_cobs_decoder.recover, hbyte]
      rw [if_pos (Nat.not_lt.1 hroom), if_pos hrecover]
      exact ⟨rfl, hrecover⟩

/-- Nothing of a packet has been kept, or what comes up to the next delimiter is skipped. -/
def Idle (cobs : u_cobs_decoder) : Prop :=
  cobs.error_recovery = true ∨ cobs.bytes_until_next_code = 0 ∧ cobs.buffer = []

theorem push_delimiters (k : ℕ) (h : Idle cobs) :
    (u_cobs_push_bytes cobs (List.replicate k 0x00)).packets = [] ∧
      Idle (u_cobs_push_bytes cobs (List.replicate k 0x00)).cobs := by
  induction k generalizing cobs with
  | zero => exact ⟨rfl, h⟩
  | succ k ih =>
    rw [List.replicate_succ, u_cobs_push_bytes, if_pos (show 0x00 = PACKET_DELIMITER from rfl)]
    rcases hrec : cobs.error_recovery with _ | _
    · obtain ⟨huntil, hbuf⟩ := h.resolve_left (by simp [hrec])
      rw [if_neg Bool.false_ne_true, if_neg (not_not.2 huntil), if_neg (by simp [hbuf])]
      exact ih (Or.inr ⟨huntil, hbuf⟩)
    · rw [if_pos rfl]
      exact ih (Or.inr ⟨rfl, rfl⟩)

theorem push_delimiter (k : ℕ) (herr : cobs.error_recovery = false) (huntil : cobs.bytes_until_next_code = 0) :
    (u_cobs_push_bytes cobs (List.replicate (k + 1) 0x00)).packets =
        (if cobs.buffer = [] then [] else [cobs.buffer]) ∧
      Idle (u_cobs_push_bytes cobs (List.replicate (k + 1) 0x00)).cobs := by
  rw [List.replicate_succ, u_cobs_push_bytes, if_pos (show 0x00 = PACKET_DELIMITER from rfl),
    if_neg (by rw [herr]; exact Bool.false_ne_true), if_neg (not_not.2 huntil)]
  by_cases hbuf : cobs.buffer = []
  · rw [if_neg (by simp [hbuf]), if_pos hbuf]
    exact push_delimiters k (Or.inr ⟨huntil, hbuf⟩)
  · have hempty : Idle { cobs with buffer := [] } := Or.inr ⟨huntil, rfl⟩
    obtain ⟨hnone, hidle⟩ := push_delimiters k hempty
    rw [if_pos (List.length_pos_iff.2 hbuf), if_neg hbuf]
    exact ⟨by simp only [hnone], hidle⟩

/-! ## Pieces -/

theorem piece_cases {piece rest : List UInt8} (h : piece ++ rest = body ++ List.replicate k 0x00) :
    (∃ left, body = piece ++ left ∧ rest = left ++ List.replicate k 0x00) ∨
      ∃ i j, piece = body ++ List.replicate (i + 1) 0x00 ∧ rest = List.replicate j 0x00 := by
  rcases List.append_eq_append_iff.1 h with ⟨left, hbody, hrest⟩ | ⟨excess, hpiece, hzeros⟩
  · exact Or.inl ⟨left, hbody, hrest⟩
  · obtain ⟨-, hexcess, hrest⟩ := List.append_eq_replicate_iff.1 hzeros.symm
    rcases hlen : excess.length with _ | i
    · have hnil : excess = [] := List.eq_nil_of_length_eq_zero hlen
      exact Or.inl ⟨[], by simp [hpiece, hnil], by simp [hzeros, hnil]⟩
    · exact Or.inr ⟨i, rest.length, by rw [hpiece, ← hlen, ← hexcess], hrest⟩

variable {pieces : List (List UInt8)}

theorem feed_idle (h : Idle cobs) (hp : pieces.flatten = List.replicate k 0x00) : feed cobs pieces = [] := by
  induction pieces generalizing cobs k with
  | nil => rfl
  | cons piece pieces ih =>
    rw [List.flatten_cons] at hp
    obtain ⟨-, hpiece, hrest⟩ := List.append_eq_replicate_iff.1 hp
    rw [feed, hpiece, (push_delimiters _ h).1, List.nil_append]
    exact ih (push_delimiters _ h).2 hrest

theorem feed_recovering (hz : 0x00 ∉ body) (herr : cobs.error_recovery = true)
    (hp : pieces.flatten = body ++ List.replicate k 0x00) : feed cobs pieces = [] := by
  induction pieces generalizing body with
  | nil => rfl
  | cons piece pieces ih =>
    rw [List.flatten_cons] at hp
    rw [feed]
    rcases piece_cases hp with ⟨left, rfl, hrest⟩ | ⟨i, j, rfl, hrest⟩
    · rw [List.mem_append, not_or] at hz
      have hpush := push_recovering [] hz.1 herr
      rw [List.append_nil] at hpush
      rw [hpush]
      exact ih hz.2 hrest
    · rw [push_recovering _ hz herr, (push_delimiters _ (Or.inl herr)).1, List.nil_append]
      exact feed_idle (push_delimiters _ (Or.inl herr)).2 hrest

theorem fits_append {l m : List UInt8} :
    cobs.Fits (l ++ m) ↔ cobs.Fits l ∧ (l.foldl u_cobs_decoder.readByte cobs).Fits m := by
  induction l generalizing cobs with
  | nil => simp [u_cobs_decoder.Fits]
  | cons byte l ih => simp [u_cobs_decoder.Fits, ih, and_assoc]

theorem feed_fits (hz : 0x00 ∉ body) (herr : cobs.error_recovery = false) (hfits : cobs.Fits body)
    (huntil : (body.foldl u_cobs_decoder.readByte cobs).bytes_until_next_code = 0)
    (hp : pieces.flatten = body ++ List.replicate (k + 1) 0x00) :
    feed cobs pieces = if (body.foldl u_cobs_decoder.readByte cobs).buffer = [] then []
      else [(body.foldl u_cobs_decoder.readByte cobs).buffer] := by
  induction pieces generalizing cobs body with
  | nil => simp at hp
  | cons piece pieces ih =>
    rw [List.flatten_cons] at hp
    rw [feed]
    rcases piece_cases hp with ⟨left, rfl, hrest⟩ | ⟨i, j, rfl, hrest⟩
    · rw [List.mem_append, not_or] at hz
      rw [fits_append] at hfits
      rw [List.foldl_append] at huntil ⊢
      have hpush := push_fits [] hz.1 herr hfits.1
      rw [List.append_nil] at hpush
      rw [hpush]
      exact ih hz.2 (by simpa [u_cobs_push_bytes] using herr) hfits.2 huntil hrest
    · have herr' : (body.foldl u_cobs_decoder.readByte cobs).error_recovery = false := by simpa using herr
      have hend := push_delimiter i herr' huntil
      rw [push_fits _ hz herr hfits, hend.1, feed_idle hend.2 hrest, List.append_nil]

theorem feed_full (hz : 0x00 ∉ body) (herr : cobs.error_recovery = false) (hfull : ¬ cobs.Fits body)
    (hp : pieces.flatten = body ++ List.replicate (k + 1) 0x00) : feed cobs pieces = [] := by
  induction pieces generalizing cobs body with
  | nil => rfl
  | cons piece pieces ih =>
    rw [List.flatten_cons] at hp
    rw [feed]
    rcases piece_cases hp with ⟨left, rfl, hrest⟩ | ⟨i, j, rfl, hrest⟩
    · rw [List.mem_append, not_or] at hz
      by_cases hfits : cobs.Fits piece
      · have hpush := push_fits [] hz.1 herr hfits
        rw [List.append_nil] at hpush
        rw [hpush]
        exact ih hz.2 (by simpa [u_cobs_push_bytes] using herr) (fun h => hfull (fits_append.2 ⟨hfits, h⟩)) hrest
      · have hpush := push_full [] hz.1 herr hfits
        rw [List.append_nil] at hpush
        rw [hpush.1, List.nil_append]
        exact feed_recovering hz.2 hpush.2 hrest
    · have hpush := push_full (List.replicate (i + 1) 0x00) hz herr hfull
      rw [hpush.1, List.nil_append]
      exact feed_idle (Or.inl hpush.2) hrest

/-! ## The round trip -/

theorem not_mem_stuffed {bs : List (List UInt8)} (hz : ∀ b ∈ bs, 0x00 ∉ b) (hlen : ∀ b ∈ bs, b.length ≤ 254) :
    0x00 ∉ stuffed bs := by
  intro h
  obtain ⟨b, hb, hmem⟩ := List.mem_flatMap.1 h
  rcases List.mem_cons.1 hmem with hcode | hdata
  · have := congrArg UInt8.toNat hcode
    have := hlen b hb
    rw [UInt8.toNat_ofNat'] at *
    simp at *
    omega
  · exact hz b hb hdata

/-- What the encoder wrote, and any number of delimiters more, in any pieces: the callback gets the packet, once
and alone, exactly if it is not empty, has no zero at its ends, and no more than 254 bytes between two zeros. -/
theorem cobs_roundTrip_iff (packet out : List UInt8) (output_size buffer_size k : ℕ) (pieces : List (List UInt8))
    (hencode : u_cobs_encode packet output_size = .ok out) (hsize : packet.length ≤ buffer_size)
    (hpieces : pieces.flatten = out ++ List.replicate k PACKET_DELIMITER) :
    feed (u_cobs_decoder_create buffer_size) pieces = [packet] ↔ Stuffable 0x00 254 packet := by
  have hstream : pieces.flatten = stuffed (blocks 0x00 254 packet) ++ List.replicate (k + 1) 0x00 := by
    rw [hpieces, u_cobs_encode_ok hencode, List.replicate_succ, List.append_assoc]
    rfl
  have hlen : ∀ b ∈ blocks 0x00 254 packet, b.length ≤ 254 := length_of_mem_blocks packet
  have hz := not_mem_stuffed (not_mem_blocks packet) hlen
  have hread := (u_cobs_decoder_create buffer_size).foldl_readByte_stuffed rfl hlen
  rw [← rejoin_blocks_iff]
  by_cases hfits : (u_cobs_decoder_create buffer_size).Fits (stuffed (blocks 0x00 254 packet))
  · rw [feed_fits hz rfl hfits (by rw [hread]) hstream, hread]
    have hbuffer : (blocks 0x00 254 packet).foldl (addBlock 0x00) (u_cobs_decoder_create buffer_size).buffer =
      rejoin 0x00 (blocks 0x00 254 packet) := rfl
    simp only [hbuffer]
    by_cases hnil : rejoin 0x00 (blocks 0x00 254 packet) = []
    · simp only [hnil, if_true]
      constructor
      · intro h
        cases h
      · rintro ⟨hne, rfl⟩
        exact absurd rfl hne
    · rw [if_neg hnil, List.singleton_inj]
      constructor
      · intro h
        exact ⟨h ▸ hnil, h⟩
      · exact And.right
  · rw [feed_full hz rfl hfits hstream]
    constructor
    · intro h
      cases h
    · rintro ⟨hne, hback⟩
      -- what is read would be the packet, and there is room for it
      refine absurd (u_cobs_decoder.fits_of_foldl ?_ ?_) hfits
      · have := List.length_pos_iff.2 hne
        exact Nat.lt_of_lt_of_le this hsize
      · rw [hread]
        exact le_of_eq_of_le (congrArg List.length hback) hsize

theorem cobs_roundTrip_short : Stuffable 0x00 254 ([7, 0, 9] : List UInt8) ∧
    feed (u_cobs_decoder_create 3) [[2], [7, 2, 9, 0]] = [[7, 0, 9]] := by
  have hencode : u_cobs_encode [7, 0, 9] 6 = .ok [2, 7, 2, 9, 0] := by
    simp [u_cobs_encode, writeBlocks, writeRun, skipZero, PACKET_DELIMITER]
  have hstuff : Stuffable 0x00 254 ([7, 0, 9] : List UInt8) := by decide
  exact ⟨hstuff, (cobs_roundTrip_iff [7, 0, 9] _ 6 3 0 [[2], [7, 2, 9, 0]] hencode (by decide) rfl).2 hstuff⟩

/-- A zero at the end of a packet is lost. -/
theorem trailingZero_lost : ¬ ∀ (packet out : List UInt8) (output_size buffer_size : ℕ),
    u_cobs_encode packet output_size = .ok out → packet.length ≤ buffer_size →
      feed (u_cobs_decoder_create buffer_size) [out] = [packet] := by
  intro h
  have hencode : u_cobs_encode [7, 0] 4 = .ok [2, 7, 0] := by
    simp [u_cobs_encode, writeBlocks, writeRun, skipZero, PACKET_DELIMITER]
  have hfeed : feed (u_cobs_decoder_create 2) [[2, 7, 0]] = [[7]] := by decide
  have := h [7, 0] [2, 7, 0] 4 2 hencode (by decide)
  rw [hfeed] at this
  exact absurd this (by decide)

end AugmentedInsanity.Util

/-! ## Room -/

namespace AugmentedInsanity.Util

open Stuffing

/-- `(int)write_index`. -/
def writtenLength (out : List UInt8) : ℤ := (BitVec.ofNat 32 out.length).toInt

theorem writtenLength_le (out : List UInt8) : writtenLength out ≤ out.length := by
  have hmod : out.length % 2 ^ 32 ≤ out.length := Nat.mod_le _ _
  unfold writtenLength
  rw [BitVec.toInt_eq_toNat_cond, BitVec.toNat_ofNat]
  split <;> omega

/-! ## The inner loop -/

theorem writeRun_room (output_size : ℕ) (input : List UInt8) (code : UInt8) (output : List UInt8) :
    writeRun output_size input code output = .error .noSpace ∧
        block 0x00 (255 - code.toNat) input ≠ [] ∧
          output_size < output.length + (block 0x00 (255 - code.toNat) input).length ∨
      (∃ r, writeRun output_size input code output = .ok r) ∧
        (block 0x00 (255 - code.toNat) input = [] ∨
          output.length + (block 0x00 (255 - code.toNat) input).length ≤ output_size) := by
  induction input generalizing code output with
  | nil => exact Or.inr ⟨⟨_, rfl⟩, Or.inl (by simp [block])⟩
  | cons byte input ih =>
    by_cases hgo : byte ≠ 0x00 ∧ code < 0xFF
    · rw [writeRun, if_pos hgo, block_go hgo]
      by_cases hfull : output_size ≤ output.length
      · rw [if_pos hfull]
        exact Or.inl ⟨rfl, by simp, by rw [List.length_cons]; omega⟩
      · rw [if_neg hfull]
        rcases ih (code + 1) (output ++ [byte]) with ⟨herr, hne, hlong⟩ | ⟨hok, hroom⟩
        · refine Or.inl ⟨herr, by simp, ?_⟩
          rw [List.length_append, List.length_singleton] at hlong
          rw [List.length_cons]
          omega
        · refine Or.inr ⟨hok, Or.inr ?_⟩
          rw [List.length_append, List.length_singleton] at hroom
          rw [List.length_cons]
          rcases hroom with hnil | hroom
          · rw [hnil, List.length_nil]
            omega
          · omega
    · rw [writeRun, if_neg hgo]
      exact Or.inr ⟨⟨_, rfl⟩, Or.inl (block_stop hgo)⟩

/-! ## The outer loop -/

theorem stuffed_cons (b : List UInt8) (bs : List (List UInt8)) :
    (stuffed (b :: bs)).length = b.length + 1 + (stuffed bs).length := by
  simp only [stuffed, List.flatMap_cons, List.length_append, List.length_cons]

theorem stuffed_grows (output b : List UInt8) (bs : List (List UInt8)) :
    (output ++ stuffed [b]).length + (stuffed bs).length = output.length + (stuffed (b :: bs)).length := by
  rw [List.length_append, stuffed_cons, stuffed_cons, stuffed, List.flatMap_nil, List.length_nil]
  omega

theorem writeBlocks_outOfBounds_iff {output_size : ℕ} {input output : List UInt8}
    (hroom : output.length ≤ output_size) : writeBlocks output_size input output = .error .outOfBounds ↔
      ∃ bs cs, blocks 0x00 254 input = bs ++ [] :: cs ∧ output.length + (stuffed bs).length = output_size := by
  induction input, output using writeBlocks.induct output_size with
  | case1 output => simp [writeBlocks, blocks]
  | case2 byte input output e herr =>
    -- a data byte without room: the block before the end of the buffer is not empty
    have hrun := writeRun_room output_size (byte :: input) 1 (output ++ [0])
    rw [herr] at hrun
    rcases hrun with ⟨he, hne, hlong⟩ | ⟨⟨r, hr⟩, -⟩
    · have hspace : e = .noSpace := by simpa using he
      rw [writeBlocks, herr, hspace, blocks]
      refine iff_of_false (by simp) ?_
      rintro ⟨bs, cs, hblocks, hlen⟩
      cases bs with
      | nil => exact hne (List.cons.inj hblocks).1
      | cons b bs =>
        obtain rfl : block 0x00 254 (byte :: input) = b := (List.cons.inj hblocks).1
        rw [stuffed_cons] at hlen
        simp at hlong
        omega
    · cases hr
  | case3 byte input output left code o hrun hsize ih =>
    obtain ⟨hafter, hset⟩ := writeBlocks_step hrun
    have hfits : (output ++ stuffed [block 0x00 254 (byte :: input)]).length ≤ output_size := by
      rcases writeRun_room output_size (byte :: input) 1 (output ++ [0]) with ⟨he, -⟩ | ⟨-, hnil | hlen⟩
      · rw [hrun] at he
        cases he
      · have hempty : block 0x00 254 (byte :: input) = [] := hnil
        rw [hempty]
        simpa [stuffed] using Nat.succ_le_of_lt hsize
      · simpa [stuffed, add_assoc, add_comm] using hlen
    rw [hset, hafter] at ih
    rw [writeBlocks, hrun]
    simp only [if_pos hsize, hset, hafter]
    rw [ih hfits, blocks]
    constructor
    · rintro ⟨bs, cs, hblocks, hlen⟩
      exact ⟨block 0x00 254 (byte :: input) :: bs, cs, by rw [hblocks, List.cons_append],
        (stuffed_grows _ _ _).symm.trans hlen⟩
    · rintro ⟨bs, cs, hblocks, hlen⟩
      cases bs with
      | nil =>
        simp [stuffed] at hlen
        omega
      | cons b bs =>
        obtain ⟨rfl, hrest⟩ := List.cons.inj hblocks
        exact ⟨bs, cs, hrest, (stuffed_grows _ _ _).trans hlen⟩
  | case4 byte input output left code o hrun hsize =>
    -- the buffer is full: the run has written nothing, or it would have ended with an error
    rcases writeRun_room output_size (byte :: input) 1 (output ++ [0]) with ⟨he, -⟩ | ⟨-, hnil | hlen⟩
    · rw [hrun] at he
      cases he
    · have hempty : block 0x00 254 (byte :: input) = [] := hnil
      rw [writeBlocks, hrun]
      simp only [if_neg hsize]
      refine iff_of_true trivial ⟨[], afterBlock 0x00 254 (byte :: input) |> blocks 0x00 254, ?_, ?_⟩
      · rw [blocks, hempty, List.nil_append]
      · simp [stuffed]
        omega
    · simp at hlen
      omega

/-! ## The call -/

/-- The blocks before an empty one take up the whole output, which is long enough for the first test. -/
def EndsAtEmptyBlock (input : List UInt8) (output_size : ℕ) : Prop :=
  input.length + 1 ≤ output_size ∧
    ∃ bs cs, blocks 0x00 254 input = bs ++ [] :: cs ∧ (stuffed bs).length = output_size

theorem encode_outOfBounds_iff (input : List UInt8) (output_size : ℕ) :
    u_cobs_encode input output_size = .error .outOfBounds ↔ EndsAtEmptyBlock input output_size := by
  have hempty : ([] : List UInt8).length ≤ output_size := Nat.zero_le output_size
  have hwrite := @writeBlocks_outOfBounds_iff output_size input [] hempty
  simp only [List.length_nil, zero_add] at hwrite
  rw [EndsAtEmptyBlock, ← hwrite, u_cobs_encode]
  by_cases hsize : output_size < input.length + 1
  · rw [if_pos hsize]
    simp
    omega
  · rw [if_neg hsize]
    have hlong : input.length + 1 ≤ output_size := Nat.not_lt.1 hsize
    rcases writeBlocks output_size input [] with e | out
    · simp [hlong]
    · simp only [hlong, true_and]
      split <;> simp

/-- Nothing is written past the output, and what is returned is an error or the length of what was written, with
a zero at its end and nowhere else, exactly when the output does not end where an empty block begins. -/
theorem encode_staysInside_iff (input : List UInt8) (output_size : ℕ) :
    (u_cobs_encode input output_size ≠ .error .outOfBounds ∧
        ∀ out, u_cobs_encode input output_size = .ok out →
          out.length ≤ output_size ∧ writtenLength out ≤ output_size ∧
            ∃ body, out = body ++ [PACKET_DELIMITER] ∧ 0x00 ∉ body) ↔
      ¬ EndsAtEmptyBlock input output_size := by
  rw [← encode_outOfBounds_iff]
  refine and_iff_left_of_imp fun _ out hout => ?_
  have hlen : out.length ≤ output_size := by
    unfold u_cobs_encode at hout
    split at hout
    · cases hout
    · split at hout
      · cases hout
      · split at hout
        · cases hout
        · cases hout
          simp
          omega
  refine ⟨hlen, Int.le_trans (writtenLength_le out) (Int.ofNat_le.2 hlen), _, u_cobs_encode_ok hout, ?_⟩
  exact not_mem_stuffed (not_mem_blocks input) (length_of_mem_blocks input)

theorem twoFull_endsAtEmptyBlock {b : List UInt8} (hz : 0x00 ∉ 1 :: b) (hlen : (1 :: b).length = 254) :
    EndsAtEmptyBlock ((1 :: b) ++ 1 :: (b ++ [1, 0, 0])) 512 := by
  have hsize := hlen
  rw [List.length_cons] at hsize
  refine ⟨by simp; omega, [1 :: b, 1 :: b, [1]], [], ?_, by simp [stuffed]; omega⟩
  have hlast : blocks (0x00 : UInt8) 254 [1, 0, 0] = [[1], []] := by
    rw [show ([1, 0, 0] : List UInt8) = [1] ++ 0 :: ([] ++ 0 :: []) from rfl,
      blocks_zero (by decide) (by decide), blocks_zero (by decide) (by decide), blocks]
  rw [blocks_full hz hlen (by decide), ← List.cons_append, blocks_full hz hlen (by decide), hlast]
  rfl

theorem codeByte_pastEnd : ¬ ∀ (input : List UInt8) (output_size : ℕ),
    u_cobs_encode input output_size ≠ .error .outOfBounds ∧
      ∀ out, u_cobs_encode input output_size = .ok out →
        out.length ≤ output_size ∧ writtenLength out ≤ output_size ∧
          ∃ body, out = body ++ [PACKET_DELIMITER] ∧ 0x00 ∉ body := by
  intro h
  have hz : (0x00 : UInt8) ∉ 1 :: List.replicate 253 1 := by
    rw [← List.replicate_succ, List.mem_replicate]
    exact fun h => absurd h.2 (by decide)
  have hlen : (1 :: List.replicate 253 (1 : UInt8)).length = 254 := by
    rw [List.length_cons, List.length_replicate]
  exact (h _ 512).1 ((encode_outOfBounds_iff _ 512).2 (twoFull_endsAtEmptyBlock hz hlen))

end AugmentedInsanity.Util
