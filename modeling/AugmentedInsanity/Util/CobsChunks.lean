/-
The bytes of `u_cobs_push_bytes` in pieces. An error leaves the call in the middle of a piece and drops its
rest; a short packet also leaves its block open for what comes next. `pieces_and_packets_iff` says for which
streams neither shows: nothing that could still be read as a packet may follow the first bad one.
-/
import AugmentedInsanity.Lib.DroppedChunks
import AugmentedInsanity.Util.Cobs

namespace AugmentedInsanity.Util

open DroppedChunks u_cobs_decoder

/-! ## A byte at a time -/

def cobsReader : Reader u_cobs_decoder UInt8 (List UInt8) where
  next cobs byte := (u_cobs_push_bytes cobs [byte]).cobs
  out cobs byte := (u_cobs_push_bytes cobs [byte]).packets
  stops cobs byte := (u_cobs_push_bytes cobs [byte]).ret ≠ .success

theorem push_cons (cobs : u_cobs_decoder) (byte : UInt8) (data : List UInt8) :
    u_cobs_push_bytes cobs (byte :: data) =
      if (u_cobs_push_bytes cobs [byte]).ret = .success then
        { u_cobs_push_bytes (u_cobs_push_bytes cobs [byte]).cobs data with
          packets := (u_cobs_push_bytes cobs [byte]).packets ++
            (u_cobs_push_bytes (u_cobs_push_bytes cobs [byte]).cobs data).packets }
      else u_cobs_push_bytes cobs [byte] := by
  simp only [u_cobs_push_bytes]
  split_ifs <;> simp_all

theorem push_eq (cobs : u_cobs_decoder) (data : List UInt8) :
    (u_cobs_push_bytes cobs data).cobs = (cobsReader.push cobs data).1 ∧
      (u_cobs_push_bytes cobs data).packets = (cobsReader.push cobs data).2 := by
  induction data generalizing cobs with
  | nil => exact ⟨rfl, rfl⟩
  | cons byte data ih =>
    obtain ⟨hcobs, hpackets⟩ := ih (u_cobs_push_bytes cobs [byte]).cobs
    rw [push_cons, Reader.push]
    by_cases hret : (u_cobs_push_bytes cobs [byte]).ret = .success
    · simp only [cobsReader, hret, if_true, ne_eq, not_true, decide_false, Bool.false_eq_true, if_false]
      exact ⟨hcobs, by rw [hpackets]; rfl⟩
    · simp only [cobsReader, hret, if_false, ne_eq, not_false_iff, decide_true, if_true, and_self]

theorem feed_eq (cobs : u_cobs_decoder) (pieces : List (List UInt8)) :
    feed cobs pieces = cobsReader.feed cobs pieces := by
  induction pieces generalizing cobs with
  | nil => rfl
  | cons piece pieces ih =>
    obtain ⟨hcobs, hpackets⟩ := push_eq cobs piece
    rw [feed, Reader.feed, ih, hcobs, hpackets]

/-! ## What can still be delivered -/

abbrev Delivers (cobs : u_cobs_decoder) (data : List UInt8) : Prop := cobsReader.Gives cobs data

/-- After a short packet: the last block still waits for `m` bytes. -/
def opened (n m : ℕ) : u_cobs_decoder := { u_cobs_decoder_create n with bytes_until_next_code := m }

def lost (n : ℕ) : u_cobs_decoder := { u_cobs_decoder_create n with error_recovery := true }

variable {cobs cobs' : u_cobs_decoder} {byte : UInt8}

theorem delivers_step (rest : List UInt8)
    (hstep : u_cobs_push_bytes cobs [byte] = { cobs := cobs', packets := [], ret := .success }) :
    Delivers cobs (byte :: rest) ↔ Delivers cobs' rest := by
  have hnext : cobsReader.next cobs byte = cobs' := by simp only [cobsReader, hstep]
  rw [Delivers, Reader.gives_cons_later (by simp [cobsReader, hstep]) (by simp [cobsReader, hstep]), hnext]

theorem delivers_error {ret : CobsRet} (rest : List UInt8)
    (hstep : u_cobs_push_bytes cobs [byte] = { cobs := cobs', packets := [], ret }) (hret : ret ≠ .success) :
    Delivers cobs (byte :: rest) ↔ ∃ k, Delivers cobs' (rest.drop k) := by
  have hnext : cobsReader.next cobs byte = cobs' := by simp only [cobsReader, hstep]
  rw [Delivers, Reader.gives_cons_stop (by simp [cobsReader, hstep]) (by simp [cobsReader, hstep, hret]), hnext]

variable {x : List UInt8}

theorem delivers_recovering (rest : List UInt8) (hz : 0x00 ∉ x) (herr : cobs.error_recovery = true) :
    Delivers cobs (x ++ 0x00 :: rest) ↔ Delivers cobs.restart rest := by
  induction x with
  | nil =>
    have hstep : u_cobs_push_bytes cobs [0x00] = { cobs := cobs.restart, packets := [], ret := .success } := by
      simp [u_cobs_push_bytes, PACKET_DELIMITER, herr]
    rw [List.nil_append, delivers_step _ hstep]
  | cons byte x ih =>
    rw [List.mem_cons, not_or] at hz
    have hbyte : byte ≠ PACKET_DELIMITER := Ne.symm hz.1
    have hstep : u_cobs_push_bytes cobs [byte] = { cobs, packets := [], ret := .success } := by
      simp [u_cobs_push_bytes, hbyte, herr]
    rw [List.cons_append, delivers_step _ hstep]
    exact ih hz.2

theorem not_delivers_tail (hz : 0x00 ∉ x) : ¬ Delivers cobs x := by
  intro h
  induction h with
  | @now cobs byte x hout =>
    rw [List.mem_cons, not_or] at hz
    refine hout ?_
    have hbyte : byte ≠ PACKET_DELIMITER := Ne.symm hz.1
    simp only [cobsReader, u_cobs_push_bytes, if_neg hbyte]
    split_ifs <;> rfl
  | later _ _ ih => exact ih fun h => hz (List.mem_cons_of_mem _ h)
  | skip k _ _ ih => exact ih fun h => hz (List.mem_cons_of_mem _ (List.mem_of_mem_drop h))

theorem delivers_lost (data : List UInt8) (herr : cobs.error_recovery = true) :
    Delivers cobs data ↔ Delivers (lost cobs.buffer_size) data := by
  obtain ⟨ws, tail, rfl, hws, htail⟩ := exists_framed 0x00 data
  cases ws with
  | nil =>
    rw [framed_nil, List.nil_append]
    exact iff_of_false (not_delivers_tail htail) (not_delivers_tail htail)
  | cons w ws =>
    have hz := hws w List.mem_cons_self
    rw [framed_cons, List.append_assoc, List.cons_append, delivers_recovering _ hz herr, delivers_recovering _ hz rfl]
    rfl

def Restarts (n : ℕ) (rest : List UInt8) : Prop :=
  Delivers (u_cobs_decoder_create n) rest ∨ ∃ k, Delivers (lost n) (rest.drop k)

theorem delivers_lost_segment (n : ℕ) (rest : List UInt8) (hz : 0x00 ∉ x) :
    Delivers (lost n) (x ++ 0x00 :: rest) ↔ Delivers (u_cobs_decoder_create n) rest :=
  delivers_recovering rest hz rfl

theorem push_byte (hbyte : byte ≠ 0x00) (herr : cobs.error_recovery = false) (hroom : cobs.buffer.length < cobs.buffer_size) :
    u_cobs_push_bytes cobs [byte] = { cobs := cobs.readByte byte, packets := [], ret := .success } := by
  have hne : byte ≠ PACKET_DELIMITER := hbyte
  simp [u_cobs_push_bytes, hne, herr, Nat.not_le.2 hroom]

theorem push_byte_full (hbyte : byte ≠ 0x00) (herr : cobs.error_recovery = false)
    (hfull : ¬ cobs.buffer.length < cobs.buffer_size) :
    u_cobs_push_bytes cobs [byte] =
      { cobs := { cobs with error_recovery := true }, packets := [], ret := .noSpace } := by
  have hne : byte ≠ PACKET_DELIMITER := hbyte
  simp [u_cobs_push_bytes, hne, herr, Nat.not_lt.1 hfull, recover]

theorem delivers_fits (rest : List UInt8) (hz : 0x00 ∉ x) (herr : cobs.error_recovery = false) (hfits : cobs.Fits x) :
    Delivers cobs (x ++ rest) ↔ Delivers (x.foldl readByte cobs) rest := by
  induction x generalizing cobs with
  | nil => rfl
  | cons byte x ih =>
    rw [List.mem_cons, not_or] at hz
    rw [List.cons_append, delivers_step _ (push_byte (Ne.symm hz.1) herr hfits.1)]
    exact ih hz.2 (by simpa using herr) hfits.2

theorem exists_delivers_lost (n : ℕ) (rest : List UInt8) (hz : 0x00 ∉ x) :
    (∃ k, Delivers (lost n) ((x ++ 0x00 :: rest).drop k)) ↔ Restarts n rest := by
  rw [exists_drop_segment (P := Delivers (lost n))]
  refine or_congr_left ⟨?_, fun h => ⟨x, List.suffix_rfl, (delivers_lost_segment n rest hz).2 h⟩⟩
  rintro ⟨y, hy, h⟩
  exact (delivers_lost_segment n rest fun hmem => hz (hy.subset hmem)).1 h

theorem delivers_full (rest : List UInt8) (hz : 0x00 ∉ x) (herr : cobs.error_recovery = false) (hfull : ¬ cobs.Fits x) :
    Delivers cobs (x ++ 0x00 :: rest) ↔ Restarts cobs.buffer_size rest := by
  induction x generalizing cobs with
  | nil => exact absurd trivial hfull
  | cons byte x ih =>
    rw [List.mem_cons, not_or] at hz
    by_cases hroom : cobs.buffer.length < cobs.buffer_size
    · rw [List.cons_append, delivers_step _ (push_byte (Ne.symm hz.1) herr hroom)]
      have := ih hz.2 (by simpa using herr) fun h => hfull ⟨hroom, h⟩
      rwa [readByte_buffer_size] at this
    · have hlost : ∀ data, Delivers { cobs with error_recovery := true } data ↔
          Delivers (lost cobs.buffer_size) data := fun data => delivers_lost data rfl
      rw [List.cons_append, delivers_error _ (push_byte_full (Ne.symm hz.1) herr hroom) (by decide)]
      simp only [hlost]
      exact exists_delivers_lost cobs.buffer_size rest hz.2

theorem push_short (herr : cobs.error_recovery = false) (huntil : cobs.bytes_until_next_code ≠ 0) :
    u_cobs_push_bytes cobs [0x00] =
      { cobs := opened cobs.buffer_size cobs.bytes_until_next_code, packets := [], ret := .invalid } := by
  simp [u_cobs_push_bytes, PACKET_DELIMITER, herr, huntil, opened, u_cobs_decoder_create]

theorem delivers_short (rest : List UInt8) (herr : cobs.error_recovery = false)
    (huntil : cobs.bytes_until_next_code ≠ 0) : Delivers cobs (0x00 :: rest) ↔
      ∃ k, Delivers (opened cobs.buffer_size cobs.bytes_until_next_code) (rest.drop k) :=
  delivers_error rest (push_short herr huntil) (by decide)

theorem delivers_now (rest : List UInt8) (herr : cobs.error_recovery = false) (huntil : cobs.bytes_until_next_code = 0)
    (hbuf : cobs.buffer ≠ []) : Delivers cobs (0x00 :: rest) := by
  refine .now ?_
  have := List.length_pos_iff.2 hbuf
  simp [cobsReader, u_cobs_push_bytes, PACKET_DELIMITER, herr, huntil, this]

theorem delivers_empty (rest : List UInt8) (herr : cobs.error_recovery = false)
    (huntil : cobs.bytes_until_next_code = 0) (hbuf : cobs.buffer = []) :
    Delivers cobs (0x00 :: rest) ↔ Delivers (u_cobs_decoder_create cobs.buffer_size) rest := by
  have hstep : u_cobs_push_bytes cobs [0x00] =
      { cobs := u_cobs_decoder_create cobs.buffer_size, packets := [], ret := .success } := by
    simp [u_cobs_push_bytes, PACKET_DELIMITER, herr, huntil, hbuf, u_cobs_decoder_create]
    cases cobs
    simp_all
  exact delivers_step rest hstep

/-! ## Packets -/

/-- How many bytes the last block still lacks, when `m` were missing before. -/
def missing : ℕ → List UInt8 → ℕ
  | m, [] => m
  | 0, code :: w => missing (code.toNat - 1) w
  | m + 1, _ :: w => missing m w

/-- `w` is read in full and its packet is `v`; an empty one is not delivered. -/
def Decodes (n : ℕ) (w v : List UInt8) : Prop :=
  (u_cobs_decoder_create n).Fits w ∧ missing 0 w = 0 ∧ (w.foldl readByte (u_cobs_decoder_create n)).buffer = v ∧ v ≠ []

def Bad (n : ℕ) (w : List UInt8) : Prop := ¬ (u_cobs_decoder_create n).Fits w ∨ missing 0 w ≠ 0

/-- A block that lacks `m` bytes can be filled from what follows: of each segment as many as have room. -/
def Fills (n m : ℕ) (vs : List (List UInt8)) : Prop := m ≤ (vs.map fun v => min n v.length).sum

/-- A packet follows, or a short one with enough behind it to fill its block. -/
def Rejoins (n : ℕ) : List (List UInt8) → Prop
  | [] => False
  | v :: vs =>
    (∃ p, Decodes n v p) ∨
      ((u_cobs_decoder_create n).Fits v ∧ missing 0 v ≠ 0 ∧ Fills n (missing 0 v) vs) ∨ Rejoins n vs

/-- The same after a segment that is longer than the buffer. -/
def Overruns (n : ℕ) : List (List UInt8) → Prop
  | [] => False
  | v :: vs => (n < v.length ∧ Rejoins n vs) ∨ Overruns n vs

variable {n : ℕ}

theorem Overruns.rejoins {vs : List (List UInt8)} (h : Overruns n vs) : Rejoins n vs := by
  induction vs with
  | nil => exact h
  | cons v vs ih =>
    rcases h with ⟨-, h⟩ | h
    · exact Or.inr (Or.inr h)
    · exact Or.inr (Or.inr (ih h))

theorem foldl_readByte_until (cobs : u_cobs_decoder) (x : List UInt8) :
    (x.foldl readByte cobs).bytes_until_next_code = missing cobs.bytes_until_next_code x := by
  induction x generalizing cobs with
  | nil => cases h : cobs.bytes_until_next_code <;> simp [missing, h]
  | cons byte x ih =>
    rw [List.foldl_cons, ih]
    cases h : cobs.bytes_until_next_code <;> simp [missing, readByte, h]

@[simp] theorem foldl_readByte_buffer_size (cobs : u_cobs_decoder) (x : List UInt8) :
    (x.foldl readByte cobs).buffer_size = cobs.buffer_size := by
  induction x generalizing cobs with
  | nil => rfl
  | cons byte x ih => rw [List.foldl_cons, ih, readByte_buffer_size]

theorem fits_iff_length (h : 0 < cobs.bytes_until_next_code ∨ 0 < cobs.buffer.length) :
    cobs.Fits x ↔ x = [] ∨ cobs.buffer.length + x.length ≤ cobs.buffer_size := by
  induction x generalizing cobs with
  | nil => simp [Fits]
  | cons byte x ih =>
    have hgrow : (cobs.readByte byte).buffer.length = cobs.buffer.length + 1 := by
      rcases h with h | h
      · simp [readByte, Nat.pos_iff_ne_zero.1 h]
      · exact readByte_grows cobs byte h
    rw [Fits, ih (Or.inr (by omega)), hgrow, readByte_buffer_size, List.length_cons]
    constructor
    · rintro ⟨hroom, rfl | hlen⟩
      · simp only [List.length_nil]; omega
      · omega
    · rintro (h | hlen)
      · cases h
      · exact ⟨by omega, Or.inr (by omega)⟩

theorem opened_fits_iff {m : ℕ} (hm : 0 < m) : (opened n m).Fits x ↔ x.length ≤ n := by
  rw [fits_iff_length (Or.inl hm)]
  constructor
  · rintro (rfl | h)
    · exact Nat.zero_le n
    · simpa [opened, u_cobs_decoder_create] using h
  · intro h
    exact Or.inr (by simpa [opened, u_cobs_decoder_create] using h)

theorem missing_short {m : ℕ} (h : x.length ≤ m) : missing m x = m - x.length := by
  induction x generalizing m with
  | nil => simp [missing]
  | cons byte x ih =>
    obtain ⟨m, rfl⟩ : ∃ m', m = m' + 1 := ⟨m - 1, by simp only [List.length_cons] at h; omega⟩
    rw [List.length_cons] at h ⊢
    rw [missing, ih (by omega)]
    omega

/-! ## A segment -/

section

variable (rest : List UInt8)

theorem opened_part {m : ℕ} (hz : 0x00 ∉ x) (hlt : x.length < m) (hroom : x.length ≤ n) :
    Delivers (opened n m) (x ++ 0x00 :: rest) ↔ ∃ k, Delivers (opened n (m - x.length)) (rest.drop k) := by
  have hm : 0 < m := by omega
  have huntil : (x.foldl readByte (opened n m)).bytes_until_next_code = m - x.length :=
    (foldl_readByte_until _ x).trans (missing_short (Nat.le_of_lt hlt))
  rw [delivers_fits _ hz rfl ((opened_fits_iff hm).2 hroom), delivers_short _ (by simp [opened, u_cobs_decoder_create])
    (by rw [huntil]; omega), huntil, foldl_readByte_buffer_size]
  rfl

theorem opened_over {m : ℕ} (hz : 0x00 ∉ x) (hm : 0 < m) (hover : n < x.length) :
    Delivers (opened n m) (x ++ 0x00 :: rest) ↔ Restarts n rest :=
  delivers_full rest hz rfl fun h => Nat.not_le.2 hover ((opened_fits_iff hm).1 h)

theorem opened_filled (hz : 0x00 ∉ x) (hx : 0 < x.length) (hroom : x.length ≤ n) :
    Delivers (opened n x.length) (x ++ 0x00 :: rest) := by
  have hread := foldl_readByte_data (opened n x.length) x rfl
  rw [delivers_fits _ hz rfl ((opened_fits_iff hx).2 hroom), hread]
  exact delivers_now rest rfl rfl (by simpa [opened, u_cobs_decoder_create] using List.length_pos_iff.1 hx)

theorem fresh_segment (hz : 0x00 ∉ x) :
    Delivers (u_cobs_decoder_create n) (x ++ 0x00 :: rest) ∨ Restarts n rest ↔
      (∃ p, Decodes n x p) ∨
        ((u_cobs_decoder_create n).Fits x ∧ missing 0 x ≠ 0 ∧
          ∃ k, Delivers (opened n (missing 0 x)) (rest.drop k)) ∨ Restarts n rest := by
  have huntil : (x.foldl readByte (u_cobs_decoder_create n)).bytes_until_next_code = missing 0 x :=
    foldl_readByte_until _ x
  have herr : (x.foldl readByte (u_cobs_decoder_create n)).error_recovery = false :=
    foldl_readByte_error_recovery _ x
  have hsize : (x.foldl readByte (u_cobs_decoder_create n)).buffer_size = n := foldl_readByte_buffer_size _ x
  rw [← or_assoc]
  by_cases hfits : (u_cobs_decoder_create n).Fits x
  · rw [delivers_fits _ hz rfl hfits]
    by_cases hmissing : missing 0 x = 0
    · by_cases hbuf : (x.foldl readByte (u_cobs_decoder_create n)).buffer = []
      · -- an empty packet: the decoder is fresh behind it
        have hnone : ¬ ((∃ p, Decodes n x p) ∨ (u_cobs_decoder_create n).Fits x ∧ missing 0 x ≠ 0 ∧
            ∃ k, Delivers (opened n (missing 0 x)) (rest.drop k)) := by
          rintro (⟨p, -, -, hp, hne⟩ | ⟨-, hne, -⟩)
          · exact hne (hp.symm.trans hbuf)
          · exact hne hmissing
        rw [delivers_empty _ herr (huntil.trans hmissing) hbuf, hsize, or_iff_right hnone]
        exact or_iff_right_of_imp Or.inl
      · exact iff_of_true (Or.inl (delivers_now rest herr (huntil.trans hmissing) hbuf))
          (Or.inl (Or.inl ⟨_, hfits, hmissing, rfl, hbuf⟩))
    · rw [delivers_short _ herr (by rwa [huntil]), huntil, hsize]
      refine or_congr_left ⟨fun h => Or.inr ⟨hfits, hmissing, h⟩, ?_⟩
      rintro (⟨p, -, hzero, -⟩ | ⟨-, -, h⟩)
      · exact absurd hzero hmissing
      · exact h
  · have hnone : ¬ ((∃ p, Decodes n x p) ∨ (u_cobs_decoder_create n).Fits x ∧ missing 0 x ≠ 0 ∧
        ∃ k, Delivers (opened n (missing 0 x)) (rest.drop k)) := by
      rintro (⟨p, hp, -⟩ | ⟨hp, -⟩) <;> exact hfits hp
    rw [delivers_full rest hz rfl hfits, or_iff_right hnone]
    exact or_iff_right_of_imp id

end

/-! ## All segments -/

theorem delivers_segments (n : ℕ) (vs : List (List UInt8)) {tail : List UInt8} (hz : ∀ v ∈ vs, 0x00 ∉ v)
    (htail : 0x00 ∉ tail) :
    (∀ m, 0 < m → ((∃ k, Delivers (opened n m) ((framed 0x00 vs ++ tail).drop k)) ↔ Fills n m vs ∨ Overruns n vs)) ∧
      (Restarts n (framed 0x00 vs ++ tail) ↔ Rejoins n vs) := by
  induction vs with
  | nil =>
    have hnone : ∀ cobs k, ¬ Delivers cobs ((framed 0x00 [] ++ tail).drop k) := fun cobs k =>
      not_delivers_tail fun h => htail (List.mem_of_mem_drop h)
    refine ⟨fun m hm => iff_of_false (fun ⟨k, h⟩ => hnone _ k h) ?_, iff_of_false ?_ id⟩
    · rintro (h | h)
      · simp [Fills] at h
        omega
      · exact h
    · rintro (h | ⟨k, h⟩)
      · exact hnone _ 0 h
      · exact hnone _ k h
  | cons v vs ih =>
    obtain ⟨hopen, hrestart⟩ := ih fun x hx => hz x (List.mem_cons_of_mem _ hx)
    have hv := hz v List.mem_cons_self
    have hsuffix : ∀ x, x <:+ v → 0x00 ∉ x := fun x hx hmem => hv (hx.subset hmem)
    rw [framed_cons, List.append_assoc, List.cons_append]
    generalize framed 0x00 vs ++ tail = rest at *
    constructor
    · intro m hm
      have hsum : Fills n m (v :: vs) ↔ m ≤ min n v.length + (vs.map fun v => min n v.length).sum := Iff.rfl
      rw [exists_drop_segment (P := Delivers (opened n m)), hopen m hm, hsum]
      constructor
      · rintro (⟨x, hx, h⟩ | h | h)
        · have hlen := hx.length_le
          by_cases hroom : x.length ≤ n
          · by_cases hlt : x.length < m
            · rw [opened_part rest (hsuffix x hx) hlt hroom, hopen _ (by omega)] at h
              rcases h with h | h
              · unfold Fills at h
                left
                omega
              · exact Or.inr (Or.inr h)
            · left
              omega
          · rw [opened_over rest (hsuffix x hx) hm (by omega), hrestart] at h
            exact Or.inr (Or.inl ⟨by omega, h⟩)
        · unfold Fills at h
          left
          omega
        · exact Or.inr (Or.inr h)
      · rintro (h | ⟨hlong, h⟩ | h)
        · -- the last bytes of the segment go into the block, as many as it lacks or as have room
          obtain ⟨x, hx, hlen⟩ : ∃ x, x <:+ v ∧ x.length = min m (min n v.length) :=
            ⟨v.drop (v.length - min m (min n v.length)), List.drop_suffix _ v, by rw [List.length_drop]; omega⟩
          by_cases hlt : x.length < m
          · refine Or.inl ⟨x, hx, (opened_part rest (hsuffix x hx) hlt (by omega)).2 ?_⟩
            refine (hopen _ (by omega)).2 (Or.inl ?_)
            unfold Fills
            omega
          · obtain rfl : x.length = m := by omega
            exact Or.inl ⟨x, hx, opened_filled rest (hsuffix x hx) hm (by omega)⟩
        · exact Or.inl ⟨v, List.suffix_rfl, (opened_over rest hv hm hlong).2 (hrestart.2 h)⟩
        · exact Or.inr (Or.inr h)
    · rw [Restarts, exists_delivers_lost n rest hv, fresh_segment rest hv, hrestart, Rejoins]
      refine or_congr_right ⟨?_, ?_⟩
      · rintro (⟨hfits, hmissing, h⟩ | h)
        · rcases (hopen _ (Nat.pos_of_ne_zero hmissing)).1 h with h | h
          · exact Or.inl ⟨hfits, hmissing, h⟩
          · exact Or.inr h.rejoins
        · exact Or.inr h
      · rintro (⟨hfits, hmissing, h⟩ | h)
        · exact Or.inl ⟨hfits, hmissing, (hopen _ (Nat.pos_of_ne_zero hmissing)).2 (Or.inl h)⟩
        · exact Or.inr h

/-! ## The first error -/

theorem stop_step {packets : List (List UInt8)} (rest : List UInt8)
    (hstep : u_cobs_push_bytes cobs [byte] = { cobs := cobs', packets, ret := .success }) :
    cobsReader.stop cobs (byte :: rest) = cobsReader.stop cobs' rest := by
  simp [Reader.stop, cobsReader, hstep]

theorem stop_error {ret : CobsRet} (rest : List UInt8)
    (hstep : u_cobs_push_bytes cobs [byte] = { cobs := cobs', packets := [], ret }) (hret : ret ≠ .success) :
    cobsReader.stop cobs (byte :: rest) = some (cobs', rest) := by
  simp [Reader.stop, cobsReader, hstep, hret]

theorem stop_fits (rest : List UInt8) (hz : 0x00 ∉ x) (herr : cobs.error_recovery = false) (hfits : cobs.Fits x) :
    cobsReader.stop cobs (x ++ rest) = cobsReader.stop (x.foldl readByte cobs) rest := by
  induction x generalizing cobs with
  | nil => rfl
  | cons byte x ih =>
    rw [List.mem_cons, not_or] at hz
    rw [List.cons_append, stop_step _ (push_byte (Ne.symm hz.1) herr hfits.1)]
    exact ih hz.2 (by simpa using herr) hfits.2

theorem stop_full (rest : List UInt8) (hz : 0x00 ∉ x) (herr : cobs.error_recovery = false) (hfull : ¬ cobs.Fits x) :
    ∃ t left, cobsReader.stop cobs (x ++ rest) = some (t, left ++ rest) ∧ 0x00 ∉ left ∧ t.error_recovery = true ∧
      t.buffer_size = cobs.buffer_size := by
  induction x generalizing cobs with
  | nil => exact absurd trivial hfull
  | cons byte x ih =>
    rw [List.mem_cons, not_or] at hz
    by_cases hroom : cobs.buffer.length < cobs.buffer_size
    · rw [List.cons_append, stop_step _ (push_byte (Ne.symm hz.1) herr hroom)]
      have := ih hz.2 (by simpa using herr) fun h => hfull ⟨hroom, h⟩
      rwa [readByte_buffer_size] at this
    · rw [List.cons_append, stop_error _ (push_byte_full (Ne.symm hz.1) herr hroom) (by decide)]
      exact ⟨_, x, rfl, hz.2, rfl, rfl⟩

theorem stop_good {w : List UInt8} (rest : List UInt8) (hz : 0x00 ∉ w) (hw : ¬ Bad n w) :
    cobsReader.stop (u_cobs_decoder_create n) (w ++ 0x00 :: rest) =
      cobsReader.stop (u_cobs_decoder_create n) rest := by
  rw [Bad, not_or, not_not, not_not] at hw
  have huntil : (w.foldl readByte (u_cobs_decoder_create n)).bytes_until_next_code = 0 :=
    (foldl_readByte_until _ w).trans hw.2
  have herr : (w.foldl readByte (u_cobs_decoder_create n)).error_recovery = false :=
    foldl_readByte_error_recovery _ w
  have hsize : (w.foldl readByte (u_cobs_decoder_create n)).buffer_size = n := foldl_readByte_buffer_size _ w
  rw [stop_fits _ hz rfl hw.1]
  generalize w.foldl readByte (u_cobs_decoder_create n) = cobs at huntil herr hsize
  obtain ⟨packets, hstep⟩ : ∃ packets, u_cobs_push_bytes cobs [0x00] =
      { cobs := u_cobs_decoder_create n, packets, ret := .success } := by
    cases cobs
    simp only at huntil herr hsize
    subst huntil herr hsize
    simp only [u_cobs_push_bytes, PACKET_DELIMITER, if_true, Bool.false_eq_true, if_false, ne_eq, not_true]
    split_ifs with hbuf
    · exact ⟨_, rfl⟩
    · have hnil := List.eq_nil_of_length_eq_zero (Nat.eq_zero_of_not_pos hbuf)
      subst hnil
      exact ⟨_, rfl⟩
  exact stop_step rest hstep

variable {u : List UInt8}

theorem stop_bad (rest : List UInt8) (hz : 0x00 ∉ u) (hu : Bad n u) :
    ∃ t left, cobsReader.stop (u_cobs_decoder_create n) (u ++ 0x00 :: rest) = some (t, left) ∧
      ((∃ k, Delivers t (left.drop k)) ↔
        ((u_cobs_decoder_create n).Fits u ∧ ∃ k, Delivers (opened n (missing 0 u)) (rest.drop k)) ∨
          (¬ (u_cobs_decoder_create n).Fits u ∧ Restarts n rest)) := by
  by_cases hfits : (u_cobs_decoder_create n).Fits u
  · have hmissing := hu.resolve_left (not_not.2 hfits)
    have huntil : (u.foldl readByte (u_cobs_decoder_create n)).bytes_until_next_code = missing 0 u :=
      foldl_readByte_until _ u
    have herr : (u.foldl readByte (u_cobs_decoder_create n)).error_recovery = false :=
      foldl_readByte_error_recovery _ u
    have hsize : (u.foldl readByte (u_cobs_decoder_create n)).buffer_size = n := foldl_readByte_buffer_size _ u
    have hstep := push_short herr (by rwa [huntil])
    rw [huntil, hsize] at hstep
    refine ⟨_, _, (stop_fits _ hz rfl hfits).trans (stop_error rest hstep (by decide)), ?_⟩
    simp only [hfits, true_and, not_true, false_and, or_false]
  · obtain ⟨t, left, hstop, hleft, herr, hsize⟩ := stop_full (0x00 :: rest) hz rfl hfits
    refine ⟨t, _, hstop, ?_⟩
    have hlost : ∀ data, Delivers t data ↔ Delivers (lost n) data := by
      intro data
      rw [delivers_lost data herr, hsize]
      rfl
    simp only [hlost, exists_delivers_lost n rest hleft, hfits, false_and, not_false_iff, true_and, false_or]

variable {ws : List (List UInt8)}

theorem stop_framed_good (rest : List UInt8) (hz : ∀ w ∈ ws, 0x00 ∉ w) (hws : ∀ w ∈ ws, ¬ Bad n w) :
    cobsReader.stop (u_cobs_decoder_create n) (framed 0x00 ws ++ rest) =
      cobsReader.stop (u_cobs_decoder_create n) rest := by
  induction ws with
  | nil => rfl
  | cons w ws ih =>
    rw [framed_cons, List.append_assoc, List.cons_append,
      stop_good _ (hz w List.mem_cons_self) (hws w List.mem_cons_self)]
    exact ih (fun v hv => hz v (List.mem_cons_of_mem _ hv)) fun v hv => hws v (List.mem_cons_of_mem _ hv)

theorem exists_first_bad (hu : u ∈ ws) (hbad : Bad n u) :
    ∃ good u vs, ws = good ++ u :: vs ∧ (∀ w ∈ good, ¬ Bad n w) ∧ Bad n u := by
  classical
  obtain ⟨u, good, vs, hgood, hu, hws, -⟩ := List.exists_of_eraseP (p := fun w => decide (Bad n w)) hu (by simpa using hbad)
  exact ⟨good, u, vs, hws, by simpa using hgood, by simpa using hu⟩

theorem stop_framed_bad (hz : ∀ w ∈ ws, 0x00 ∉ w) (hu : u ∈ ws) (hbad : Bad n u) :
    ∃ t left, cobsReader.stop (u_cobs_decoder_create n) (framed 0x00 ws) = some (t, left) := by
  obtain ⟨good, u, vs, rfl, hgood, hu⟩ := exists_first_bad hu hbad
  obtain ⟨t, left, hstop, -⟩ := stop_bad (framed 0x00 vs) (hz u (by simp)) hu
  exact ⟨t, left, by rw [framed_append, stop_framed_good _ (fun w hw => hz w (by simp [hw])) hgood, framed_cons, hstop]⟩

/-! ## The whole stream -/

def PieceFree (n : ℕ) (stream : List UInt8) : Prop :=
  ∀ pieces : List (List UInt8), pieces.flatten = stream →
    feed (u_cobs_decoder_create n) pieces = feed (u_cobs_decoder_create n) [stream]

/-- After a bad packet the first that can be read is delivered, and nothing with it. -/
def Resumes (n : ℕ) (stream : List UInt8) : Prop :=
  ∀ ws u us w v after, stream = framed 0x00 (ws ++ u :: (us ++ [w])) ++ after →
    (∀ x ∈ ws ++ u :: (us ++ [w]), 0x00 ∉ x) → Bad n u → (∀ x ∈ us, ¬ ∃ p, Decodes n x p) → Decodes n w v →
      feed (u_cobs_decoder_create n) [framed 0x00 (ws ++ u :: (us ++ [w]))] =
        feed (u_cobs_decoder_create n) [framed 0x00 (ws ++ u :: us)] ++ [v]

/-- Behind the bad packet `u` none can be read, its open block cannot be filled, nor that of a packet that a
new start would find. -/
def Harmless (n : ℕ) (u : List UInt8) (vs : List (List UInt8)) : Prop :=
  (∀ v ∈ vs, ¬ ∃ p, Decodes n v p) ∧
    ((u_cobs_decoder_create n).Fits u → ¬ Fills n (missing 0 u) vs ∧ ¬ Overruns n vs) ∧
    (¬ (u_cobs_decoder_create n).Fits u → ¬ Rejoins n vs)

def FirstBadHarmless (n : ℕ) (stream : List UInt8) : Prop :=
  ∀ ws u vs tail, stream = framed 0x00 (ws ++ u :: vs) ++ tail → (∀ x ∈ ws ++ u :: vs, 0x00 ∉ x) → 0x00 ∉ tail →
    (∀ w ∈ ws, ¬ Bad n w) → Bad n u → Harmless n u vs

theorem feed_after_bad (more : List UInt8) (hz : ∀ w ∈ ws, 0x00 ∉ w) (hu : u ∈ ws) (hbad : Bad n u) :
    feed (u_cobs_decoder_create n) [framed 0x00 ws ++ more] = feed (u_cobs_decoder_create n) [framed 0x00 ws] := by
  obtain ⟨t, left, hstop⟩ := stop_framed_bad hz hu hbad
  obtain ⟨pre, hpre, hpush⟩ := Reader.stop_some hstop
  rw [feed_eq, feed_eq, Reader.feed_singleton, Reader.feed_singleton]
  rw [hpre, List.append_assoc, hpush, ← hpre]

theorem resumes_iff (n : ℕ) (stream : List UInt8) : Resumes n stream ↔
    ∀ ws u vs tail, stream = framed 0x00 (ws ++ u :: vs) ++ tail → (∀ x ∈ ws ++ u :: vs, 0x00 ∉ x) → Bad n u →
      ∀ v ∈ vs, ¬ ∃ p, Decodes n v p := by
  constructor
  · intro h ws u vs tail hstream hz hbad v hv hdec
    classical
    obtain ⟨w, us, more, hus, hw, hvs, -⟩ :=
      List.exists_of_eraseP (p := fun x => decide (∃ p, Decodes n x p)) hv (by simpa using hdec)
    obtain ⟨p, hp⟩ : ∃ p, Decodes n w p := by simpa using hw
    have hsplit : ws ++ u :: vs = (ws ++ u :: (us ++ [w])) ++ more := by simp [hvs]
    rw [hsplit] at hstream hz
    have hnext := h ws u us w p (framed 0x00 more ++ tail) (by rw [hstream, framed_append, List.append_assoc])
      (fun x hx => hz x (List.mem_append_left _ hx)) hbad (by simpa using hus) hp
    have hlast : ws ++ u :: (us ++ [w]) = (ws ++ u :: us) ++ [w] := by simp
    rw [hlast, framed_append, feed_after_bad _ (fun x hx => hz x (by simp at hx ⊢; tauto)) (by simp) hbad,
      List.self_eq_append_right] at hnext
    cases hnext
  · intro h ws u us w v after hstream hz hbad _ hw
    exact absurd ⟨v, hw⟩ (h ws u (us ++ [w]) after hstream hz hbad w (by simp))

theorem mem_after_first_bad {good vs vs' : List (List UInt8)} {u₀ v : List UInt8}
    (h : ws ++ u :: vs = good ++ u₀ :: vs') (hgood : ∀ w ∈ good, ¬ Bad n w) (hbad : Bad n u) (hv : v ∈ vs) :
    v ∈ vs' := by
  rcases List.append_eq_append_iff.1 h with ⟨a, rfl, ha⟩ | ⟨c, rfl, hc⟩
  · cases a with
    | nil =>
      cases ha
      exact hv
    | cons x a =>
      cases ha
      exact absurd hbad (hgood u (by simp))
  · cases c with
    | nil =>
      cases hc
      exact hv
    | cons x c =>
      cases hc
      simp [hv]

/-- In which streams the pieces do not show and the decoder finds its way back: those where what follows the
first bad packet is harmless. -/
theorem pieces_and_packets_iff (n : ℕ) (stream : List UInt8) :
    PieceFree n stream ∧ Resumes n stream ↔ FirstBadHarmless n stream := by
  have hpieces : PieceFree n stream ↔ ∀ t rest, cobsReader.stop (u_cobs_decoder_create n) stream = some (t, rest) →
      ∀ k, ¬ Delivers t (rest.drop k) := by
    rw [← Reader.chunkFree_iff]
    simp only [PieceFree, feed_eq]
  rw [hpieces, resumes_iff]
  constructor
  · rintro ⟨hquiet, hnone⟩ ws u vs tail rfl hz htail hws hbad
    obtain ⟨t, left, hstop, hleft⟩ := stop_bad (framed 0x00 vs ++ tail) (hz u (by simp)) hbad
    have hvs : ∀ v ∈ vs, 0x00 ∉ v := fun v hv => hz v (by simp [hv])
    rw [framed_append, framed_cons, List.append_assoc, List.append_assoc, List.cons_append,
      stop_framed_good _ (fun w hw => hz w (by simp [hw])) hws] at hquiet
    have hnothing : ¬ ∃ k, Delivers t (left.drop k) := fun ⟨k, h⟩ => hquiet t left hstop k h
    obtain ⟨hopen, hrestart⟩ := delivers_segments n vs hvs htail
    rw [hleft, not_or, hrestart] at hnothing
    refine ⟨hnone ws u vs tail rfl hz hbad, fun hfits => ?_, fun hfull h => hnothing.2 ⟨hfull, h⟩⟩
    have hmissing : 0 < missing 0 u := Nat.pos_of_ne_zero (hbad.resolve_left (not_not.2 hfits))
    rw [hopen _ hmissing] at hnothing
    exact not_or.1 fun h => hnothing.1 ⟨hfits, h⟩
  · intro h
    refine ⟨fun t rest hstop k hdel => ?_, fun ws u vs tail hstream hz hbad v hv hdec => ?_⟩
    · obtain ⟨ws, tail, rfl, hz, htail⟩ := exists_framed 0x00 stream
      by_cases hgood : ∀ w ∈ ws, ¬ Bad n w
      · -- the error is behind the last delimiter
        rw [stop_framed_good _ hz hgood] at hstop
        obtain ⟨pre, rfl, -⟩ := Reader.stop_some hstop
        exact not_delivers_tail (fun hmem => htail (List.mem_append_right _ (List.mem_of_mem_drop hmem))) hdel
      · push Not at hgood
        obtain ⟨w, hw, hbad⟩ := hgood
        obtain ⟨good, u, vs, rfl, hgood, hu⟩ := exists_first_bad hw hbad
        obtain ⟨-, hfits, hfull⟩ := h good u vs tail rfl hz htail hgood hu
        obtain ⟨t', left, hstop', hleft⟩ := stop_bad (framed 0x00 vs ++ tail) (hz u (by simp)) hu
        rw [framed_append, framed_cons, List.append_assoc, List.append_assoc, List.cons_append,
          stop_framed_good _ (fun w hw => hz w (by simp [hw])) hgood, hstop'] at hstop
        cases hstop
        obtain ⟨hopen, hrestart⟩ := delivers_segments n vs (fun v hv => hz v (by simp [hv])) htail
        rcases hleft.1 ⟨k, hdel⟩ with ⟨hroom, hopened⟩ | ⟨hroom, hagain⟩
        · have hmissing : 0 < missing 0 u := Nat.pos_of_ne_zero (hu.resolve_left (not_not.2 hroom))
          exact ((hopen _ hmissing).1 hopened).elim (hfits hroom).1 (hfits hroom).2
        · exact hfull hroom (hrestart.1 hagain)
    · obtain ⟨more, tail', rfl, hmore, htail⟩ := exists_framed 0x00 tail
      have hin : u ∈ ws ++ u :: (vs ++ more) := by simp
      obtain ⟨good, u₀, vs', hsplit, hgood, hu₀⟩ := exists_first_bad hin hbad
      have hmem := mem_after_first_bad hsplit hgood hbad (List.mem_append_left more hv)
      refine (h good u₀ vs' tail' ?_ ?_ htail hgood hu₀).1 v hmem hdec
      · have hall : ws ++ u :: (vs ++ more) = (ws ++ u :: vs) ++ more := by simp
        rw [hstream, ← hsplit, hall, framed_append _ _ more, List.append_assoc]
      · rw [← hsplit]
        intro x hx
        simp only [List.mem_append, List.mem_cons] at hx
        rcases hx with hx | rfl | hx | hx
        · exact hz x (by simp [hx])
        · exact hz x (by simp)
        · exact hz x (by simp [hx])
        · exact hmore x hx

/-- An over-long packet, a good one behind it: in one piece the good one is lost, in two it is delivered. -/
theorem cut_atError_shows : ¬ ∀ (n : ℕ) (stream : List UInt8), PieceFree n stream ∧ Resumes n stream := by
  intro h
  exact absurd ((h 1 [3, 7, 8, 0, 2, 9, 0]).1 [[3, 7, 8], [0, 2, 9, 0]] rfl) (by decide)

end AugmentedInsanity.Util
