/-
Arithmetic of 64 bits. Signed sums and differences are partial, as in a language where their overflow is undefined, and
where they are defined they are those of the integers. A signed number that goes through unsigned arithmetic is what
the integers say as long as nothing below zero or over the range is met on the way (`toInt_toInt64_div`).
-/
import Mathlib.Tactic.Linarith

namespace AugmentedInsanity.Checked64

/-- An integer as a number of the type, if it is in range. -/
def ofInt? (n : ℤ) : Option Int64 := if -2 ^ 63 ≤ n ∧ n < 2 ^ 63 then some (.ofInt n) else none

def add? (a b : Int64) : Option Int64 := ofInt? (a.toInt + b.toInt)
def sub? (a b : Int64) : Option Int64 := ofInt? (a.toInt - b.toInt)
def neg? (a : Int64) : Option Int64 := ofInt? (-a.toInt)

variable {a b c : Int64}

@[simp] theorem ofInt?_eq_some_iff {n : ℤ} : ofInt? n = some c ↔ c.toInt = n := by
  unfold ofInt?
  constructor
  · intro h
    split at h
    · rename_i hn
      rw [← Option.some.inj h, Int64.toInt_ofInt_of_le hn.1 hn.2]
    · cases h
  · rintro rfl
    rw [if_pos ⟨c.le_toInt, c.toInt_lt⟩, Int64.ofInt_toInt]

theorem ofInt?_eq_none_iff {n : ℤ} : ofInt? n = none ↔ ¬ (-2 ^ 63 ≤ n ∧ n < 2 ^ 63) := by
  unfold ofInt?
  split <;> simp_all

theorem exists_ofInt? {n : ℤ} (h : -2 ^ 63 ≤ n ∧ n < 2 ^ 63) : ∃ c, ofInt? n = some c ∧ c.toInt = n :=
  ⟨.ofInt n, if_pos h, Int64.toInt_ofInt_of_le h.1 h.2⟩

@[simp] theorem add?_eq_some_iff : add? a b = some c ↔ c.toInt = a.toInt + b.toInt := ofInt?_eq_some_iff
@[simp] theorem sub?_eq_some_iff : sub? a b = some c ↔ c.toInt = a.toInt - b.toInt := ofInt?_eq_some_iff
/-- Where one is defined so is the other, and they undo each other. -/
theorem add?_iff_sub? : add? a b = some c ↔ sub? c b = some a := by
  rw [add?_eq_some_iff, sub?_eq_some_iff]
  omega

/-! ## Unsigned arithmetic -/

theorem toNat_toUInt64 (a : Int64) : (a.toUInt64.toNat : ℤ) = a.toInt % 2 ^ 64 := by
  show (a.toBitVec.toNat : ℤ) = a.toBitVec.toInt % 2 ^ 64
  have hlt := a.toBitVec.isLt
  rw [BitVec.toInt_eq_toNat_cond]
  split <;> omega

theorem toInt_toInt64 {n : UInt64} {k : ℤ} (hn : (n.toNat : ℤ) = k) (hk : k < 2 ^ 63) : n.toInt64.toInt = k := by
  show n.toBitVec.toInt = k
  rw [BitVec.toInt_eq_toNat_bmod, show n.toBitVec.toNat = n.toNat from rfl, hn]
  exact Int.bmod_eq_of_le (by omega) (by omega)

/-- A sum of a number and of a multiple of another, divided, in unsigned arithmetic. -/
theorem toInt_toInt64_div {w : UInt64} (hw : 0 < w.toNat)
    (hfits : 0 ≤ a.toInt + b.toInt * (w.toNat - 1) ∧ a.toInt + b.toInt * (w.toNat - 1) < 2 ^ 64)
    (hrange : (a.toInt + b.toInt * (w.toNat - 1)) / w.toNat < 2 ^ 63) :
    ((a.toUInt64 + b.toUInt64 * (w - 1)) / w).toInt64.toInt = (a.toInt + b.toInt * (w.toNat - 1)) / w.toNat := by
  have hpred : ((w - 1).toNat : ℤ) = w.toNat - 1 := by
    rw [UInt64.toNat_sub_of_le w 1 (UInt64.le_iff_toNat_le.2 hw)]
    show ((w.toNat - 1 : ℕ) : ℤ) = _
    omega
  have hsum : ((a.toUInt64 + b.toUInt64 * (w - 1)).toNat : ℤ) = a.toInt + b.toInt * (w.toNat - 1) := by
    have hmul : b.toInt % 2 ^ 64 * (w.toNat - 1) % 2 ^ 64 = b.toInt * (w.toNat - 1) % 2 ^ 64 := by
      rw [Int.mul_emod, Int.emod_emod, ← Int.mul_emod]
    calc ((a.toUInt64 + b.toUInt64 * (w - 1)).toNat : ℤ)
      _ = (a.toUInt64.toNat + (b.toUInt64.toNat * (w - 1).toNat : ℤ) % 2 ^ 64) % 2 ^ 64 := by
        rw [UInt64.toNat_add, UInt64.toNat_mul]
        rfl
      _ = (a.toInt + b.toInt * (w.toNat - 1)) % 2 ^ 64 := by
        rw [hpred, toNat_toUInt64, toNat_toUInt64, Int.emod_add_emod, hmul, Int.add_emod_emod]
      _ = a.toInt + b.toInt * (w.toNat - 1) := Int.emod_eq_of_lt hfits.1 hfits.2
  refine toInt_toInt64 ?_ hrange
  rw [UInt64.toNat_div]
  push_cast
  rw [hsum]

/-- A weighted mean is between the two numbers. -/
theorem weighted_between {lo hi m s w : ℤ} (hw : 0 < w) (hm : lo ≤ m ∧ m ≤ hi) (hs : lo ≤ s ∧ s ≤ hi) :
    lo ≤ (m + s * (w - 1)) / w ∧ (m + s * (w - 1)) / w ≤ hi := by
  constructor
  · rw [Int.le_ediv_iff_mul_le hw]
    nlinarith
  · refine Int.le_of_lt_add_one (Int.ediv_lt_of_lt_mul hw ?_)
    nlinarith

end AugmentedInsanity.Checked64
