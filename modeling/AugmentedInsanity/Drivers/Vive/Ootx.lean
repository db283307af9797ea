/-
The data that a lighthouse base station sends of itself (`vive_lighthouse.c`), bit by bit: a preamble, 20 words with a
bit of sync after each, and in the words a report and its checksum. The receiver is the one of `Lib.SyncFraming`
(`receives_handleOotxDataBit`), so the reports that are taken up are those of the packets (`info_ootxPackets`).
-/
import AugmentedInsanity.Lib.LittleEndian
import AugmentedInsanity.Lib.SignedCounts
import AugmentedInsanity.Lib.SyncFraming
import Mathlib.Data.Nat.Bitwise
import Mathlib.Tactic.FieldSimp
import Mathlib.Tactic.IntervalCases
import Mathlib.Tactic.Linarith
import Mathlib.Tactic.Positivity

namespace AugmentedInsanity.Drivers.Vive

open LittleEndian SignedCounts SyncFraming

/-! ## Reports -/

/-- `struct lighthouse_rotor_calibration`; a float is its bits. -/
structure RotorCalibration where
  tilt : ℕ
  phase : ℕ
  curve : ℕ
  gibphase : ℕ
  gibmag : ℕ
  deriving DecidableEq

/-- What a base station has told; the gravity before it is scaled to length one. -/
structure BaseInfo where
  firmwareVersion : ℕ
  serial : ℕ
  rotor0 : RotorCalibration
  rotor1 : RotorCalibration
  gravity : Int8 × Int8 × Int8
  modelId : UInt8
  resetCount : UInt8
  deriving DecidableEq

/-- The loop of `_f16_to_float`, as long as `fuel` lasts; `shiftMantissa_eq` says when it has ended. -/
def shiftMantissa : ℕ → ℕ → ℕ → ℕ × ℕ
  | 0, mantissa, exponent => (mantissa, exponent)
  | fuel + 1, mantissa, exponent =>
    if mantissa &&& (1 <<< 23) ≠ 0 then (mantissa, exponent)
    else shiftMantissa fuel (mantissa <<< 1) (exponent - 1)

/-- `_f16_to_float`. -/
def f16ToFloat (f16 : ℕ) : ℕ :=
  let sign := f16 >>> 15
  let exponent := (f16 >>> 10) &&& 0x1f
  let mantissa := f16 &&& 0x3ff
  if exponent = 0 then
    if mantissa = 0 then sign <<< 31
    else
      let (mantissa, exponent) := shiftMantissa 10 (mantissa <<< 13) (127 - 14)
      (sign <<< 31) ||| (exponent <<< 23) ||| (mantissa &&& 0x7fffff)
  else if exponent < 31 then (sign <<< 31) ||| ((exponent + (127 - 15)) <<< 23) ||| (mantissa <<< 13)
  else if mantissa = 0 then (sign <<< 31) ||| (255 <<< 23)
  else 0x7fffffff

/-- What the bits of a float with `e` bits of exponent and `f` of fraction say. -/
inductive FloatValue
  | finite (negative : Bool) (magnitude : ℚ)
  | infinite (negative : Bool)
  | nan

def floatValue (e f bits : ℕ) : FloatValue :=
  let negative := bits / 2 ^ (f + e) % 2 = 1
  let exponent := bits / 2 ^ f % 2 ^ e
  let fraction := bits % 2 ^ f
  let bias : ℤ := 2 ^ (e - 1) - 1
  if exponent = 2 ^ e - 1 then if fraction = 0 then .infinite negative else .nan
  else if exponent = 0 then .finite negative (fraction * 2 ^ (1 - bias - f))
  else .finite negative ((2 ^ f + fraction) * 2 ^ (exponent - bias - f))

theorem or_fields {e f s x m : ℕ} (hx : x < 2 ^ e) (hm : m < 2 ^ f) :
    (s <<< (f + e)) ||| (x <<< f) ||| m = (s * 2 ^ e + x) * 2 ^ f + m := by
  rw [Nat.add_comm f e, Nat.shiftLeft_add, ← Nat.shiftLeft_or_distrib, ← Nat.shiftLeft_add_eq_or_of_lt hm,
    ← Nat.shiftLeft_add_eq_or_of_lt hx, Nat.shiftLeft_eq, Nat.shiftLeft_eq]

theorem floatValue_fields {e f s x m : ℕ} (hs : s < 2) (hx : x < 2 ^ e) (hm : m < 2 ^ f) :
    floatValue e f ((s <<< (f + e)) ||| (x <<< f) ||| m) =
      if x = 2 ^ e - 1 then if m = 0 then .infinite (s = 1) else .nan
      else if x = 0 then .finite (s = 1) (m * 2 ^ ((1 : ℤ) - (2 ^ (e - 1) - 1) - f))
      else .finite (s = 1) ((2 ^ f + m) * 2 ^ ((x : ℤ) - (2 ^ (e - 1) - 1) - f)) := by
  have hhigh : ((s * 2 ^ e + x) * 2 ^ f + m) / 2 ^ f = s * 2 ^ e + x := by
    rw [Nat.mul_comm, Nat.mul_add_div (by positivity), Nat.div_eq_of_lt hm, Nat.add_zero]
  have hsign : ((s * 2 ^ e + x) * 2 ^ f + m) / 2 ^ (f + e) % 2 = s := by
    rw [Nat.pow_add, ← Nat.div_div_eq_div_mul, hhigh, Nat.mul_comm, Nat.mul_add_div (by positivity),
      Nat.div_eq_of_lt hx, Nat.add_zero, Nat.mod_eq_of_lt hs]
  have hexponent : (s * 2 ^ e + x) % 2 ^ e = x := by
    rw [Nat.mul_add_mod_self_right, Nat.mod_eq_of_lt hx]
  have hfraction : ((s * 2 ^ e + x) * 2 ^ f + m) % 2 ^ f = m := by
    rw [Nat.mul_add_mod_self_right, Nat.mod_eq_of_lt hm]
  simp only [floatValue, or_fields hx hm, hsign, hhigh, hexponent, hfraction]

theorem and_bit_23 {m : ℕ} (h : m < 2 ^ 24) : m &&& (1 <<< 23) ≠ 0 ↔ 2 ^ 23 ≤ m := by
  have hbit : m.testBit 23 = decide (2 ^ 23 ≤ m) := by
    rw [Nat.testBit_eq_decide_div_mod_eq]
    congr 1
    simp only [eq_iff_iff]
    omega
  rw [Nat.one_shiftLeft, Nat.and_two_pow, hbit]
  simp

/-- The loop ends with the highest bit of the mantissa in place. -/
theorem shiftMantissa_eq {n m x : ℕ} (hm : m < 2 ^ 24) (hn : 2 ^ 23 ≤ m * 2 ^ n) :
    ∃ k, k ≤ n ∧ shiftMantissa n m x = (m * 2 ^ k, x - k) ∧ 2 ^ 23 ≤ m * 2 ^ k ∧ m * 2 ^ k < 2 ^ 24 := by
  induction n generalizing m x with
  | zero => exact ⟨0, le_rfl, by simp [shiftMantissa], hn, by simpa using hm⟩
  | succ n ih =>
    rw [shiftMantissa]
    split
    · next h =>
      rw [and_bit_23 hm] at h
      exact ⟨0, by omega, by simp, by simpa using h, by simpa using hm⟩
    · next h =>
      rw [and_bit_23 hm] at h
      have hnext : m <<< 1 = m * 2 := by simp [Nat.shiftLeft_eq]
      rw [hnext]
      obtain ⟨k, hk, heq, hlow, hhigh⟩ := ih (m := m * 2) (x := x - 1) (by omega) (by rwa [mul_assoc, ← pow_succ'])
      have hpow : m * 2 * 2 ^ k = m * 2 ^ (k + 1) := by ring
      rw [hpow] at heq hlow hhigh
      exact ⟨k + 1, by omega, by rw [heq, Nat.sub_sub, Nat.add_comm 1 k], hlow, hhigh⟩

theorem normal_magnitude (m x : ℕ) :
    ((2 : ℚ) ^ 23 + ((m * 2 ^ 13 : ℕ) : ℚ)) * 2 ^ (((x + (127 - 15) : ℕ) : ℤ) - (2 ^ (8 - 1) - 1) - (23 : ℕ)) =
      (2 ^ 10 + m) * 2 ^ ((x : ℤ) - (2 ^ (5 - 1) - 1) - (10 : ℕ)) := by
  have hexp : (x : ℤ) - (2 ^ (5 - 1) - 1) - (10 : ℕ) =
      ((x + (127 - 15) : ℕ) : ℤ) - (2 ^ (8 - 1) - 1) - (23 : ℕ) + 13 := by
    push_cast
    ring
  rw [hexp, zpow_add₀ (by norm_num)]
  push_cast
  ring

theorem subnormal_magnitude {m k : ℕ} (hk : k ≤ 113) (hlow : 2 ^ 23 ≤ m * 2 ^ 13 * 2 ^ k) :
    ((2 : ℚ) ^ 23 + ((m * 2 ^ 13 * 2 ^ k - 2 ^ 23 : ℕ) : ℚ)) *
        2 ^ (((127 - 14 - k : ℕ) : ℤ) - (2 ^ (8 - 1) - 1) - (23 : ℕ)) =
      m * 2 ^ ((1 : ℤ) - (2 ^ (5 - 1) - 1) - (10 : ℕ)) := by
  have hexp : ((127 - 14 - k : ℕ) : ℤ) - (2 ^ (8 - 1) - 1) - (23 : ℕ) = (-24 : ℤ) - 13 - k := by
    rw [Nat.cast_sub (by omega)]
    push_cast
    ring
  rw [hexp, Nat.cast_sub hlow, zpow_sub₀ (by norm_num), zpow_sub₀ (by norm_num), zpow_natCast]
  push_cast
  field_simp
  norm_num

/-- A half-precision float becomes the single-precision float of the same value. -/
theorem floatValue_f16ToFloat {f16 : ℕ} (h : f16 < 2 ^ 16) :
    floatValue 8 23 (f16ToFloat f16) = floatValue 5 10 f16 := by
  obtain ⟨s, x, m, hs, hx, hm, rfl⟩ : ∃ s x m, s < 2 ∧ x < 2 ^ 5 ∧ m < 2 ^ 10 ∧
      f16 = (s <<< (10 + 5)) ||| (x <<< 10) ||| m := by
    refine ⟨f16 / 2 ^ 15, f16 / 2 ^ 10 % 2 ^ 5, f16 % 2 ^ 10, by omega, by omega, by omega, ?_⟩
    rw [or_fields (by omega) (by omega)]
    omega
  have hsign : ((s <<< (10 + 5)) ||| (x <<< 10) ||| m) >>> 15 = s := by
    rw [or_fields hx hm, Nat.shiftRight_eq_div_pow]
    omega
  have hexponent : ((s <<< (10 + 5)) ||| (x <<< 10) ||| m) >>> 10 &&& 0x1f = x := by
    rw [or_fields hx hm, Nat.shiftRight_eq_div_pow, show 0x1f = 2 ^ 5 - 1 by rfl, Nat.and_two_pow_sub_one_eq_mod]
    omega
  have hmantissa : ((s <<< (10 + 5)) ||| (x <<< 10) ||| m) &&& 0x3ff = m := by
    rw [or_fields hx hm, show 0x3ff = 2 ^ 10 - 1 by rfl, Nat.and_two_pow_sub_one_eq_mod]
    omega
  rw [floatValue_fields hs hx hm]
  simp only [f16ToFloat, hsign, hexponent, hmantissa]
  split
  · next hzero =>
    split
    · next hm0 =>
      have := floatValue_fields (e := 8) (f := 23) (s := s) (x := 0) (m := 0) hs (by norm_num) (by norm_num)
      simpa [hzero, hm0] using this
    · next hm0 =>
      obtain ⟨k, hk, heq, hlow, hhigh⟩ := shiftMantissa_eq (n := 10) (m := m <<< 13) (x := 127 - 14)
        (by rw [Nat.shiftLeft_eq]; omega) (by rw [Nat.shiftLeft_eq]; omega)
      rw [heq]
      rw [Nat.shiftLeft_eq m] at hlow hhigh ⊢
      have hfraction : m * 2 ^ 13 * 2 ^ k &&& 0x7fffff = m * 2 ^ 13 * 2 ^ k - 2 ^ 23 := by
        rw [show 0x7fffff = 2 ^ 23 - 1 by rfl, Nat.and_two_pow_sub_one_eq_mod]
        omega
      have hvalue := floatValue_fields (e := 8) (f := 23) (s := s) (x := 127 - 14 - k) (m := m * 2 ^ 13 * 2 ^ k - 2 ^ 23)
        hs (by omega) (by omega)
      rw [if_neg (by omega), if_neg (by omega), subnormal_magnitude (by omega) hlow] at hvalue
      rw [hfraction, hvalue, if_neg (by omega)]
  · next hx0 =>
    split
    · next hlt =>
      have hvalue := floatValue_fields (e := 8) (f := 23) (s := s) (x := x + (127 - 15)) (m := m * 2 ^ 13) hs (by omega) (by omega)
      rw [if_neg (by omega), if_neg (by omega), normal_magnitude] at hvalue
      rw [Nat.shiftLeft_eq m, hvalue, if_neg (by omega)]
    · next hge =>
      have hx31 : x = 31 := by omega
      split
      · next hm0 =>
        have hvalue := floatValue_fields (e := 8) (f := 23) (s := s) (x := 255) (m := 0) hs (by norm_num) (by norm_num)
        rw [Nat.or_zero] at hvalue
        rw [hvalue, hx31, hm0]
        rfl
      · next hm0 =>
        rw [hx31]
        rfl

/-- The smallest float of all is normal after it. -/
theorem floatValue_f16ToFloat_smallest : floatValue 8 23 (f16ToFloat 0x0001) = floatValue 5 10 0x0001 :=
  floatValue_f16ToFloat (by norm_num)

/-! ## Base stations -/

/-- `struct lighthouse_base`, without the pulses of its frames; a data word of -1 is `none`. -/
structure LighthouseBase where
  dataSync : Int32
  dataWord : Option ℕ
  dataBit : ℕ
  ootx : List UInt8
  info : BaseInfo

/-- `sizeof(base->ootx)`. -/
abbrev OOTX_SIZE : ℕ := 40

def le16 (bytes : List UInt8) (i : ℕ) : ℕ := ofBytes ((bytes.drop i).take 2)

def le32 (bytes : List UInt8) (i : ℕ) : ℕ := ofBytes ((bytes.drop i).take 4)

def reportRotor (report : List UInt8) (i : ℕ) : RotorCalibration where
  tilt := f16ToFloat (le16 report (10 + 2 * i))
  phase := f16ToFloat (le16 report (6 + 2 * i))
  curve := f16ToFloat (le16 report (16 + 2 * i))
  gibphase := f16ToFloat (le16 report (23 + 2 * i))
  gibmag := f16ToFloat (le16 report (27 + 2 * i))

variable (crc32 : List UInt8 → ℕ) {bytes : List UInt8} {bits : List Bool}

/-- `_handle_ootx_frame`. Of the length only the first byte is read; the checksum is the one of zlib. -/
def handleOotxFrame (ootx : List UInt8) (info : BaseInfo) : BaseInfo :=
  let report := ootx.drop 2
  if ootx.getD 0 0 ≠ 33 then info
  else if le32 ootx 36 ≠ crc32 (report.take 33) then info
  else
    let version := le16 report 0
    if version &&& 0x3f ≠ 6 then info
    else
      { firmwareVersion := version >>> 6
        serial := le32 report 2
        rotor0 := reportRotor report 0
        rotor1 := reportRotor report 1
        gravity := ((report.getD 20 0).toInt8, (report.getD 21 0).toInt8, (report.getD 22 0).toInt8)
        modelId := report.getD 15 0
        resetCount := report.getD 14 0 }

namespace LighthouseBase

/-- `lighthouse_base_reset`. -/
def reset (base : LighthouseBase) : LighthouseBase :=
  { base with dataSync := 0, dataWord := none, dataBit := 0, ootx := List.replicate OOTX_SIZE 0 }

/-- `_handle_ootx_data_word`. -/
def handleOotxDataWord (base : LighthouseBase) : LighthouseBase :=
  if base.dataWord = some 4 ∧ base.ootx.getD 0 0 ≠ 33 then base
  else if base.ootx.getD 0 0 = 33 ∧ base.dataWord = some 20 then
    { base with info := handleOotxFrame crc32 base.ootx base.info }
  else base

/-- A bit of the packet that is being read. -/
def captureBit (base : LighthouseBase) (data : Bool) : LighthouseBase :=
  match base.dataWord with
  | none => base
  | some word =>
    if OOTX_SIZE / 2 ≤ word then { base with dataWord := none }
    else if base.dataBit = 16 then
      let base := { base with dataBit := 0 }
      if data then handleOotxDataWord crc32 { base with dataWord := some (word + 1) }
      else { base with dataWord := none }
    else if base.dataBit < 16 then
      let idx := 2 * word + base.dataBit >>> 3
      { base with
        ootx := if data then base.ootx.modify idx (· ||| 0x80 >>> UInt8.ofNat (base.dataBit % 8)) else base.ootx
        dataBit := base.dataBit + 1 }
    else base

def detectPreamble (base : LighthouseBase) (data : Bool) : LighthouseBase :=
  if data then
    if 16 < base.dataSync then
      { base with dataSync := 0, dataWord := some 0, dataBit := 0, ootx := List.replicate OOTX_SIZE 0 }
    else { base with dataSync := 0 }
  else { base with dataSync := base.dataSync + 1 }

/-- `lighthouse_base_handle_ootx_data_bit`. -/
def handleOotxDataBit (base : LighthouseBase) (data : Bool) : LighthouseBase :=
  (base.captureBit crc32 data).detectPreamble data

def handleOotxDataBits (base : LighthouseBase) (bits : List Bool) : LighthouseBase :=
  bits.foldl (handleOotxDataBit crc32) base

end LighthouseBase

/-! ## Bytes -/

/-- A byte of bits, the first one highest. -/
def ofBits (f : ℕ → Bool) : UInt8 :=
  let bit (k : ℕ) : UInt8 := if f k then 0x80 >>> UInt8.ofNat k else 0
  bit 0 ||| bit 1 ||| bit 2 ||| bit 3 ||| bit 4 ||| bit 5 ||| bit 6 ||| bit 7

def toBits (byte : UInt8) : List Bool := (List.range 8).map fun k => byte &&& (0x80 >>> UInt8.ofNat k) ≠ 0

theorem ofBits_toBits (byte : UInt8) : ofBits (fun k => (toBits byte)[k]?.getD false) = byte := by
  have hall : ∀ b : BitVec 8, ofBits (fun k => (toBits (UInt8.ofBitVec b))[k]?.getD false) = UInt8.ofBitVec b := by
    decide +kernel
  exact hall byte.toBitVec

theorem exists_toBits (h : bits.length = 8) : ∃ byte, toBits byte = bits := by
  have hall : ∀ a b c d e f g h : Bool, toBits (ofBits fun k => [a, b, c, d, e, f, g, h][k]?.getD false) = [a, b, c, d, e, f, g, h] := by
    decide +kernel
  match bits, h with
  | [a, b, c, d, e, f, g, h], _ => exact ⟨_, hall a b c d e f g h⟩

theorem ofBits_set {f : ℕ → Bool} {k : ℕ} (hk : k < 8) (hf : f k = false) :
    ofBits (Function.update f k true) = ofBits f ||| 0x80 >>> UInt8.ofNat k := by
  interval_cases k
  all_goals
    simp [ofBits, Function.update, hf]
    try ac_rfl

theorem ofBits_congr {f g : ℕ → Bool} (h : ∀ k, k < 8 → f k = g k) : ofBits f = ofBits g := by
  simp only [ofBits, h 0 (by omega), h 1 (by omega), h 2 (by omega), h 3 (by omega), h 4 (by omega), h 5 (by omega),
    h 6 (by omega), h 7 (by omega)]

/-- Where bit `k` of byte `i` is in a packet. -/
def bitIndex (i k : ℕ) : ℕ := 17 * (i / 2) + 8 * (i % 2) + k

/-- The bytes of a packet, or of the part of it that has come. -/
def bytesOf (bits : List Bool) : List UInt8 :=
  (List.range OOTX_SIZE).map fun i => ofBits fun k => bits[bitIndex i k]?.getD false

theorem bitIndex_div_mod {i k : ℕ} (hk : k < 8) :
    bitIndex i k / 17 = i / 2 ∧ bitIndex i k % 17 = 8 * (i % 2) + k := by
  have hlt : 8 * (i % 2) + k < 17 := by omega
  rw [bitIndex, Nat.add_assoc, Nat.mul_add_div (by omega), Nat.mul_add_mod, Nat.div_eq_of_lt hlt, Nat.mod_eq_of_lt hlt]
  exact ⟨rfl, rfl⟩

theorem bitIndex_eq_iff {i k l : ℕ} (hk : k < 8) (hl : l % 17 < 16) :
    bitIndex i k = l ↔ i = 2 * (l / 17) + l % 17 / 8 ∧ k = l % 17 % 8 := by
  have hdiv := Nat.div_add_mod l 17
  constructor
  · rintro rfl
    obtain ⟨h1, h2⟩ := bitIndex_div_mod (i := i) hk
    rw [h1, h2]
    omega
  · rintro ⟨rfl, rfl⟩
    have hhalf : (2 * (l / 17) + l % 17 / 8) / 2 = l / 17 := by omega
    have hodd : (2 * (l / 17) + l % 17 / 8) % 2 = l % 17 / 8 := by omega
    rw [bitIndex, hhalf, hodd]
    omega

theorem bitIndex_ne {i k l : ℕ} (hk : k < 8) (hl : l % 17 = 16) : bitIndex i k ≠ l := by
  rintro rfl
  rw [(bitIndex_div_mod hk).2] at hl
  omega

theorem getD_snoc (bits : List Bool) (b : Bool) (j : ℕ) :
    (bits ++ [b])[j]?.getD false = if j = bits.length then b else bits[j]?.getD false := by
  rcases lt_trichotomy j bits.length with h | h | h
  · simp [List.getElem?_append_left h, h.ne]
  · simp [h]
  · rw [if_neg h.ne', List.getElem?_eq_none (by simp; omega), List.getElem?_eq_none h.le]

theorem bytesOf_nil : bytesOf [] = List.replicate OOTX_SIZE 0 := by decide

theorem bytesOf_sync {c : List Bool} (b : Bool) (h : c.length % 17 = 16) : bytesOf (c ++ [b]) = bytesOf c := by
  refine List.map_congr_left fun i _ => ofBits_congr fun k hk => ?_
  rw [getD_snoc, if_neg (bitIndex_ne hk h)]

theorem bytesOf_false (c : List Bool) : bytesOf (c ++ [false]) = bytesOf c := by
  refine List.map_congr_left fun i _ => ofBits_congr fun k _ => ?_
  rw [getD_snoc]
  split
  · next h => simp [h]
  · rfl

theorem bytesOf_true {c : List Bool} (h : c.length % 17 < 16) :
    bytesOf (c ++ [true]) =
      (bytesOf c).modify (2 * (c.length / 17) + c.length % 17 / 8) (· ||| 0x80 >>> UInt8.ofNat (c.length % 17 % 8)) := by
  apply List.ext_getElem?
  intro i
  rw [List.getElem?_modify]
  simp only [bytesOf, List.getElem?_map]
  rcases Nat.lt_or_ge i OOTX_SIZE with hi | hi
  · simp only [List.getElem?_range hi, Option.map_some, Option.map_eq_map]
    split
    · next heq =>
      rw [← ofBits_set (Nat.mod_lt _ (by omega))]
      · refine congrArg some (ofBits_congr fun k hk => ?_)
        rw [getD_snoc, Function.update_apply]
        simp only [bitIndex_eq_iff hk h, heq, true_and]
      · have : bitIndex i (c.length % 17 % 8) = c.length := (bitIndex_eq_iff (Nat.mod_lt _ (by omega)) h).2 ⟨heq.symm, rfl⟩
        simp [this]
    · next hne =>
      refine congrArg some (ofBits_congr fun k hk => ?_)
      rw [getD_snoc, if_neg]
      rw [bitIndex_eq_iff hk h]
      exact fun heq => hne heq.1.symm
  · simp [List.getElem?_eq_none (l := List.range OOTX_SIZE) (i := i) (by simpa using hi)]

/-! ## Packets -/

/-- The bytes as words of 16 bits, as they are sent. -/
def wordsOf : List UInt8 → List (List Bool)
  | a :: b :: bytes => (toBits a ++ toBits b) :: wordsOf bytes
  | _ => []

/-- The bits that a base station sends for these bytes. -/
def ootxPacket (bytes : List UInt8) : List Bool := packet 16 (wordsOf bytes)

@[simp] theorem length_toBits (byte : UInt8) : (toBits byte).length = 8 := by simp [toBits]

theorem words_wordsOf {n : ℕ} (h : bytes.length = 2 * n) : Words 16 n (wordsOf bytes) := by
  induction n generalizing bytes with
  | zero =>
    rw [List.length_eq_zero_iff.1 h]
    exact ⟨rfl, by simp [wordsOf]⟩
  | succ n ih =>
    obtain ⟨a, b, bytes, rfl⟩ : ∃ a b l, bytes = a :: b :: l := by
      match bytes, h with
      | a :: b :: l, _ => exact ⟨a, b, l, rfl⟩
      | [a], h => simp at h; omega
    have ih := ih (show bytes.length = 2 * n by simp at h; omega)
    refine ⟨by simp [wordsOf, ih.count], ?_⟩
    intro word hword
    rcases List.mem_cons.1 hword with rfl | hword
    · simp
    · exact ih.width word hword

theorem exists_wordsOf {n : ℕ} {words : List (List Bool)} (h : Words 16 n words) :
    ∃ bytes : List UInt8, bytes.length = 2 * n ∧ wordsOf bytes = words := by
  induction n generalizing words with
  | zero => exact ⟨[], rfl, (List.length_eq_zero_iff.1 h.count).symm⟩
  | succ n ih =>
    obtain ⟨word, words, rfl⟩ := List.exists_cons_of_length_eq_add_one h.count
    have hcount := h.count
    have hwidth := h.width word (by simp)
    obtain ⟨bytes, hlen, rfl⟩ := ih ⟨by simpa using hcount, fun v hv => h.width v (by simp [hv])⟩
    obtain ⟨a, ha⟩ := exists_toBits (show (word.take 8).length = 8 by simp; omega)
    obtain ⟨b, hb⟩ := exists_toBits (show (word.drop 8).length = 8 by simp; omega)
    refine ⟨a :: b :: bytes, by simp; omega, ?_⟩
    rw [wordsOf, ha, hb, List.take_append_drop]

/-- The bits of a byte, in the words that are sent. -/
theorem getElem?_frameWords {i k : ℕ} (hlen : bytes.length % 2 = 0) (hi : i < bytes.length) (hk : k < 8) :
    (frameWords (wordsOf bytes))[bitIndex i k]? = (toBits bytes[i])[k]? := by
  induction bytes using wordsOf.induct generalizing i with
  | case1 a b bytes ih =>
    rw [wordsOf, frameWords_cons]
    match i, hi with
    | 0, _ =>
      have hlt : bitIndex 0 k < 8 := by unfold bitIndex; omega
      rw [List.getElem?_append_left (by simp; omega), List.getElem?_append_left (by simpa using hlt)]
      simp [bitIndex]
    | 1, _ =>
      have hlt : bitIndex 1 k < 16 ∧ 8 ≤ bitIndex 1 k := by unfold bitIndex; omega
      rw [List.getElem?_append_left (by simp; omega), List.getElem?_append_right (by simpa using hlt.2)]
      simp [bitIndex]
    | i + 2, hi =>
      have hnext : bitIndex (i + 2) k = 16 + (bitIndex i k + 1) := by unfold bitIndex; omega
      rw [List.getElem?_append_right (by simp; omega), hnext]
      simp only [List.length_append, length_toBits, Nat.add_sub_cancel_left, List.getElem?_cons_succ]
      simpa using ih (i := i) (by simp at hlen; omega) (by simpa using hi)
  | case2 bytes hne =>
    match bytes, hlen with
    | [], _ => simp at hi
    | [a], h => simp at h
    | a :: b :: l, _ => exact absurd rfl (hne a b l)

theorem bytesOf_frameWords (h : bytes.length = OOTX_SIZE) : bytesOf (frameWords (wordsOf bytes)) = bytes := by
  apply List.ext_getElem
  · simp [bytesOf, h]
  · intro i hi hi'
    simp only [bytesOf, List.getElem_map, List.getElem_range]
    calc ofBits (fun k => (frameWords (wordsOf bytes))[bitIndex i k]?.getD false)
        = ofBits (fun k => (toBits bytes[i])[k]?.getD false) :=
          ofBits_congr fun k hk => by rw [getElem?_frameWords (by rw [h]; rfl) hi' hk]
      _ = bytes[i] := ofBits_toBits _

/-! ## The receiver -/

variable {crc32} {r : Receiver}

/-- The base station has seen what the receiver has seen. -/
structure Receives (base : LighthouseBase) (r : Receiver) : Prop where
  zeros : base.dataSync.toInt = r.zeros
  word : base.dataWord = r.captured.map (·.length / 17)
  bit : ∀ c, r.captured = some c → base.dataBit = c.length % 17
  bytes : ∀ c, r.captured = some c → base.ootx = bytesOf c
  le : ∀ c, r.captured = some c → c.length ≤ 20 * 17
  sound : r.Sound 16

/-- In no row of zeros are there more than an int can count. -/
def Counted (r : Receiver) : List Bool → Prop
  | [] => True
  | b :: bits => (r.step 16 20 b).zeros < 2 ^ 31 ∧ Counted (r.step 16 20 b) bits

theorem counted_append (bits more : List Bool) :
    Counted r (bits ++ more) ↔ Counted r bits ∧ Counted (run 16 20 r bits) more := by
  induction bits generalizing r with
  | nil => exact (iff_of_eq (true_and _)).symm
  | cons b bits ih => exact (and_congr_right fun _ => ih).trans and_assoc.symm

theorem counted_of_length (h : r.zeros + bits.length < 2 ^ 31) : Counted r bits := by
  induction bits generalizing r with
  | nil => trivial
  | cons b bits ih =>
    have hstep : (r.step 16 20 b).zeros ≤ r.zeros + 1 := by
      unfold Receiver.step
      dsimp only
      split <;> omega
    rw [List.length_cons] at h
    exact ⟨by omega, ih (by omega)⟩

/-- The frames that are looked at, as the bytes of what the receiver delivers. -/
def takeUp (crc32 : List UInt8 → ℕ) (info : BaseInfo) (delivered : List (List Bool)) : BaseInfo :=
  delivered.foldl (fun info c => handleOotxFrame crc32 (bytesOf c) info) info

theorem handleOotxFrame_of_length {ootx : List UInt8} {info : BaseInfo} (h : ootx.getD 0 0 ≠ 33) :
    handleOotxFrame crc32 ootx info = info := by
  rw [handleOotxFrame]
  exact if_pos h

/-- A word is whole: the frame is looked at with the last one. -/
theorem handleOotxDataWord_eq (base : LighthouseBase) :
    base.handleOotxDataWord crc32 =
      { base with info := if base.dataWord = some 20 then handleOotxFrame crc32 base.ootx base.info else base.info } := by
  unfold LighthouseBase.handleOotxDataWord
  by_cases hlen : base.ootx.getD 0 0 = 33
  · rw [if_neg (fun h => h.2 hlen)]
    by_cases hword : base.dataWord = some 20
    · rw [if_pos ⟨hlen, hword⟩, if_pos hword]
    · rw [if_neg (fun h => hword h.2), if_neg hword]
  · rw [handleOotxFrame_of_length hlen, if_neg (fun h : _ ∧ _ => hlen h.1)]
    simp only [ite_self]

section

variable {base : LighthouseBase} {word : ℕ} (hword : base.dataWord = some word)
include hword

theorem captureBit_done (h : 20 ≤ word) (b : Bool) : base.captureBit crc32 b = { base with dataWord := none } := by
  simp only [LighthouseBase.captureBit, hword]
  exact if_pos h

theorem captureBit_missed (h : word < 20) (hbit : base.dataBit = 16) :
    base.captureBit crc32 false = { base with dataBit := 0, dataWord := none } := by
  simp only [LighthouseBase.captureBit, hword, hbit, if_true, Bool.false_eq_true, if_false]
  exact if_neg (Nat.not_le.2 h)

theorem captureBit_sync (h : word < 20) (hbit : base.dataBit = 16) :
    base.captureBit crc32 true =
      { base with
        dataBit := 0
        dataWord := some (word + 1)
        info := if word + 1 = 20 then handleOotxFrame crc32 base.ootx base.info else base.info } := by
  simp only [LighthouseBase.captureBit, hword, hbit, if_true, handleOotxDataWord_eq, Option.some.injEq]
  exact if_neg (Nat.not_le.2 h)

theorem captureBit_data (h : word < 20) (hbit : base.dataBit < 16) (b : Bool) :
    base.captureBit crc32 b =
      { base with
        ootx := if b then base.ootx.modify (2 * word + base.dataBit / 8) (· ||| 0x80 >>> UInt8.ofNat (base.dataBit % 8))
          else base.ootx
        dataBit := base.dataBit + 1 } := by
  have hne : base.dataBit ≠ 16 := by omega
  simp only [LighthouseBase.captureBit, hword, hbit, hne, if_true, if_false, Nat.shiftRight_eq_div_pow]
  exact if_neg (Nat.not_le.2 h)

end

variable {base : LighthouseBase} {reports : List (List UInt8)}

variable (crc32) in
theorem receives_captureBit (h : Receives base r) (b : Bool) : let captured := r.captured.bind (capture 16 20 · b)
    (base.captureBit crc32 b).dataSync = base.dataSync ∧
      (base.captureBit crc32 b).dataWord = captured.map (·.length / 17) ∧
      (∀ c, captured = some c → (base.captureBit crc32 b).dataBit = c.length % 17 ∧
        (base.captureBit crc32 b).ootx = bytesOf c ∧ c.length ≤ 20 * 17) ∧
      (base.captureBit crc32 b).info = takeUp crc32 base.info (captured.filter (·.length = 20 * 17)).toList := by
  cases hc : r.captured with
  | none =>
    have hword : base.dataWord = none := by rw [h.word, hc]; rfl
    simp [LighthouseBase.captureBit, hword, takeUp]
  | some c =>
    have hword : base.dataWord = some (c.length / 17) := by rw [h.word, hc]; rfl
    have hbit := h.bit c hc
    have hbytes := h.bytes c hc
    have hle := h.le c hc
    rw [Option.bind_some]
    rcases eq_or_ne c.length (20 * 17) with hfull | hfull
    · have hnone : capture 16 20 c b = none := if_pos (by omega)
      rw [captureBit_done hword (by omega), hnone]
      simp [takeUp]
    · have hlt : c.length / 17 < 20 := by omega
      rcases eq_or_ne (c.length % 17) 16 with hsync | hsync
      · cases b with
        | false =>
          have hnone : capture 16 20 c false = none := by simp [capture, hsync]
          rw [captureBit_missed hword hlt (by rw [hbit, hsync]), hnone]
          simp [takeUp]
        | true =>
          have hsome : capture 16 20 c true = some (c ++ [true]) := capture_eq_some_iff.2 ⟨rfl, by omega, fun _ => rfl⟩
          have hlast : c.length / 17 + 1 = 20 ↔ c.length + 1 = 340 := by omega
          rw [captureBit_sync hword hlt (by rw [hbit, hsync]), hsome]
          refine ⟨rfl, ?_, ?_, ?_⟩
          · simp
            omega
          · rintro _ ⟨⟩
            refine ⟨?_, by rw [bytesOf_sync true hsync]; exact hbytes, ?_⟩
            · simp
              omega
            · simp
              omega
          · by_cases hend : c.length + 1 = 340
            · simp [hlast, hend, takeUp, Option.filter_some, bytesOf_sync true hsync, hbytes]
            · simp [hlast, hend, takeUp, Option.filter_some]
      · have hsome : capture 16 20 c b = some (c ++ [b]) := capture_eq_some_iff.2 ⟨rfl, by omega, fun h => absurd h hsync⟩
        have hlt16 : c.length % 17 < 16 := by omega
        have hmore : c.length + 1 ≠ 340 := by omega
        rw [captureBit_data hword hlt (by rw [hbit]; exact hlt16), hsome, hbit]
        refine ⟨rfl, ?_, ?_, by simp [takeUp, Option.filter_some, hmore]⟩
        · simp [hword]
          omega
        · rintro _ ⟨⟩
          refine ⟨?_, ?_, ?_⟩
          · simp
            omega
          · cases b with
            | false => simpa [bytesOf_false] using hbytes
            | true => simp [bytesOf_true hlt16, hbytes]
          · simp
            omega

variable (crc32) in
theorem receives_handleOotxDataBit (h : Receives base r) {b : Bool} (hcounted : (r.step 16 20 b).zeros < 2 ^ 31) :
    Receives (base.handleOotxDataBit crc32 b) (r.step 16 20 b) ∧
      (base.handleOotxDataBit crc32 b).info = takeUp crc32 base.info ((r.step 16 20 b).delivers 16 20).toList := by
  obtain ⟨hsync, hword, hbits, hinfo⟩ := receives_captureBit crc32 h b
  have hzeros := h.zeros
  rw [← hsync] at hzeros
  unfold LighthouseBase.handleOotxDataBit LighthouseBase.detectPreamble
  cases b with
  | false =>
    simp only [Receiver.step, Bool.false_eq_true, if_false, false_and, Receiver.delivers] at hcounted ⊢
    have hmax : (base.captureBit crc32 false).dataSync ≠ 2147483647 := fun heq => by
      have : (2147483647 : ℤ) = r.zeros := by rw [← hzeros, heq]; rfl
      omega
    exact ⟨⟨by rw [toInt_inc hmax, hzeros]; rfl, hword, fun c hc => (hbits c hc).1, fun c hc => (hbits c hc).2.1,
      fun c hc => (hbits c hc).2.2, h.sound.step false⟩, hinfo⟩
  | true =>
    have hsound := h.sound.step (n := 20) true
    have hpreamble : 16 < (base.captureBit crc32 true).dataSync ↔ 16 < r.zeros := by
      rw [Int32.lt_iff_toInt_lt, hzeros]
      exact Int.ofNat_lt
    simp only [Receiver.step, if_true, true_and, hpreamble, Receiver.delivers] at hsound ⊢
    split
    · next hstart =>
      -- so many zeros end what was captured
      have hnone : r.captured = none := Option.eq_none_iff_forall_ne_some.2 fun c hc => by
        have := h.sound.le hc
        omega
      rw [hnone] at hinfo
      rw [if_pos hstart] at hsound
      refine ⟨⟨rfl, rfl, ?_, ?_, ?_, hsound⟩, hinfo⟩
      · rintro _ ⟨⟩
        rfl
      · rintro _ ⟨⟩
        exact bytesOf_nil.symm
      · rintro _ ⟨⟩
        simp
    · next hstart =>
      rw [if_neg hstart] at hsound
      exact ⟨⟨rfl, hword, fun c hc => (hbits c hc).1, fun c hc => (hbits c hc).2.1,
        fun c hc => (hbits c hc).2.2, hsound⟩, hinfo⟩

variable (crc32) in
/-- So many bits do what they do to the receiver, and the frames that are looked at are those it delivers. -/
theorem receives_handleOotxDataBits (h : Receives base r) (hcounted : Counted r bits) :
    Receives (base.handleOotxDataBits crc32 bits) (run 16 20 r bits) ∧
      (base.handleOotxDataBits crc32 bits).info = takeUp crc32 base.info (deliveries 16 20 r bits) := by
  induction bits generalizing base r with
  | nil => exact ⟨h, rfl⟩
  | cons b bits ih =>
    obtain ⟨hstep, hinfo⟩ := receives_handleOotxDataBit crc32 h hcounted.1
    obtain ⟨hrun, htake⟩ := ih hstep hcounted.2
    refine ⟨hrun, ?_⟩
    calc (base.handleOotxDataBits crc32 (b :: bits)).info
        = takeUp crc32 (base.handleOotxDataBit crc32 b).info (deliveries 16 20 (r.step 16 20 b) bits) := htake
      _ = takeUp crc32 base.info (deliveries 16 20 r (b :: bits)) := by
        rw [hinfo, takeUp, takeUp, takeUp, deliveries, List.foldl_append]

/-! ## Reports that come whole -/

theorem receives_reset (base : LighthouseBase) : Receives base.reset .reset :=
  ⟨rfl, rfl, by simp [Receiver.reset], by simp [Receiver.reset], by simp [Receiver.reset],
    by simp [Receiver.Sound, Receiver.reset]⟩

/-- As `calloc` leaves it. -/
def LighthouseBase.zeroed : LighthouseBase where
  dataSync := 0
  dataWord := some 0
  dataBit := 0
  ootx := List.replicate OOTX_SIZE 0
  info := ⟨0, 0, ⟨0, 0, 0, 0, 0⟩, ⟨0, 0, 0, 0, 0⟩, (0, 0, 0), 0, 0⟩

/-- Zeroed memory is read as the start of a packet. -/
theorem receives_zeroed : Receives .zeroed ⟨0, some []⟩ := by
  refine ⟨rfl, rfl, ?_, ?_, ?_, by simp [Receiver.Sound]⟩
  · rintro _ ⟨⟩
    rfl
  · rintro _ ⟨⟩
    exact bytesOf_nil.symm
  · rintro _ ⟨⟩
    simp

theorem takeUp_packets (info : BaseInfo) (h : ∀ p ∈ reports, p.length = OOTX_SIZE) :
    takeUp crc32 info (reports.map fun p => frameWords (wordsOf p)) =
      reports.foldl (fun info p => handleOotxFrame crc32 p info) info := by
  induction reports generalizing info with
  | nil => rfl
  | cons p reports ih =>
    have ih := ih (handleOotxFrame crc32 p info) fun q hq => h q (by simp [hq])
    simp only [takeUp, List.map_cons, List.foldl_cons] at ih ⊢
    rw [bytesOf_frameWords (h p (by simp))]
    exact ih

theorem deliveries_ootxPackets (r : Receiver) (h : ∀ p ∈ reports, p.length = OOTX_SIZE) :
    deliveries 16 20 r (reports.flatMap ootxPacket) = reports.map fun p => frameWords (wordsOf p) := by
  have hwords : ∀ words ∈ reports.map wordsOf, Words 16 20 words := by
    intro words hmem
    obtain ⟨p, hp, rfl⟩ := List.mem_map.1 hmem
    exact words_wordsOf (h p hp)
  have hpackets : reports.flatMap ootxPacket = (reports.map wordsOf).flatMap (packet 16) := by
    rw [List.flatMap_map]
    rfl
  rw [hpackets, deliveries_packets _ hwords, List.map_map]
  rfl

/-- Whatever a base station has heard, the packets that follow are looked at one by one, each as it was sent. -/
theorem info_ootxPackets {base : LighthouseBase} {r : Receiver} (h : Receives base r) (noise : List Bool)
    {reports : List (List UInt8)} (hlen : ∀ p ∈ reports, p.length = OOTX_SIZE)
    (hcounted : Counted r (noise ++ reports.flatMap ootxPacket)) :
    (base.handleOotxDataBits crc32 (noise ++ reports.flatMap ootxPacket)).info =
      reports.foldl (fun info p => handleOotxFrame crc32 p info) (base.handleOotxDataBits crc32 noise).info := by
  obtain ⟨hbefore, hpackets⟩ := (counted_append noise _).1 hcounted
  obtain ⟨hnoise, -⟩ := receives_handleOotxDataBits crc32 h hbefore
  have htake := (receives_handleOotxDataBits crc32 hnoise hpackets).2
  rw [deliveries_ootxPackets _ hlen, takeUp_packets _ hlen] at htake
  rw [← htake, LighthouseBase.handleOotxDataBits, List.foldl_append]
  rfl

def shortReport (k : UInt8) : List UInt8 := 33 :: 0 :: 6 :: List.replicate 37 k

def lastByte (bytes : List UInt8) : ℕ := 0x01010101 * (bytes.getD 32 0).toNat

/-- The bits that come first need not be those of a packet, and both reports are taken. -/
theorem info_ootxPackets_zeroed :
    let bits := true :: [shortReport 1, shortReport 2].flatMap ootxPacket
    let first := handleOotxFrame lastByte (shortReport 1) LighthouseBase.zeroed.info
    let second := handleOotxFrame lastByte (shortReport 2) first
    (LighthouseBase.zeroed.handleOotxDataBits lastByte bits).info = second ∧
      first.serial = 0x01010101 ∧ second.serial = 0x02020202 :=
  ⟨info_ootxPackets receives_zeroed [true]
    (show ∀ p ∈ [shortReport 1, shortReport 2], p.length = OOTX_SIZE by decide) (counted_of_length (by decide +kernel)),
    by decide +kernel, by decide +kernel⟩

/-- After a reset, a bit changes what is known of a base station only if a packet has ended with it, and then as the
bytes of that packet say. -/
theorem ootx_bit_after_reset (base : LighthouseBase) {bits : List Bool} {b : Bool}
    (hcounted : Counted .reset (bits ++ [b])) :
    (∀ p : List UInt8, p.length = OOTX_SIZE → ootxPacket p <:+ bits ++ [b] →
        (base.reset.handleOotxDataBits crc32 (bits ++ [b])).info =
          handleOotxFrame crc32 p (base.reset.handleOotxDataBits crc32 bits).info) ∧
      ((base.reset.handleOotxDataBits crc32 (bits ++ [b])).info ≠ (base.reset.handleOotxDataBits crc32 bits).info →
        ∃ p : List UInt8, p.length = OOTX_SIZE ∧ ootxPacket p <:+ bits ++ [b]) := by
  obtain ⟨hbits, hbit⟩ := (counted_append bits [b]).1 hcounted
  obtain ⟨hrun, -⟩ := receives_handleOotxDataBits crc32 (receives_reset base) hbits
  obtain ⟨-, hinfo⟩ := receives_handleOotxDataBit crc32 hrun hbit.1
  have hsnoc : base.reset.handleOotxDataBits crc32 (bits ++ [b]) =
      (base.reset.handleOotxDataBits crc32 bits).handleOotxDataBit crc32 b := by
    simp [LighthouseBase.handleOotxDataBits]
  rw [← run_snoc] at hinfo
  rw [hsnoc, hinfo]
  constructor
  · intro p hp hsuffix
    have := (delivers_iff (bits ++ [b]) _).2 ⟨wordsOf p, words_wordsOf (n := 20) hp, rfl, hsuffix⟩
    rw [this]
    simp [takeUp, bytesOf_frameWords hp]
  · intro hne
    cases hc : (run 16 20 .reset (bits ++ [b])).delivers 16 20 with
    | none => simp [hc, takeUp] at hne
    | some c =>
      obtain ⟨words, hwords, rfl, hsuffix⟩ := (delivers_iff _ _).1 hc
      obtain ⟨p, hp, rfl⟩ := exists_wordsOf hwords
      exact ⟨p, hp, hsuffix⟩

/-- With the last bit of a packet its report is taken. -/
theorem ootx_bit_after_reset_packet :
    let bits := (ootxPacket (shortReport 1)).dropLast
    (LighthouseBase.zeroed.reset.handleOotxDataBits lastByte (bits ++ [true])).info =
      handleOotxFrame lastByte (shortReport 1) (LighthouseBase.zeroed.reset.handleOotxDataBits lastByte bits).info :=
  (ootx_bit_after_reset _ (counted_of_length (by decide +kernel))).1 (shortReport 1) rfl
    ⟨[], by decide +kernel⟩

end AugmentedInsanity.Drivers.Vive
