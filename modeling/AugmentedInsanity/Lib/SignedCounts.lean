/-
Counts of 32 bits with a sign, which are incremented and decremented. Such a step moves a count between the ones above 0
and the others only from or to 0, unless it overflows (`pos_inc`, `pos_dec`).
-/
import Mathlib.Data.Int.Notation

namespace AugmentedInsanity.SignedCounts

variable {count : Int32}

theorem toInt_inc (h : count ≠ 2147483647) : (count + 1).toInt = count.toInt + 1 := by
  have hlt := count.toInt_lt
  have hge := count.le_toInt
  have hne : count.toInt ≠ 2147483647 := fun heq => h (Int32.toInt_inj.1 heq)
  rw [Int32.toInt_add]
  exact Int.bmod_eq_of_le (show -2147483648 ≤ count.toInt + 1 by omega) (show count.toInt + 1 < 2147483648 by omega)

theorem toInt_dec (h : count ≠ -2147483648) : (count - 1).toInt = count.toInt - 1 := by
  have hlt := count.toInt_lt
  have hge := count.le_toInt
  have hne : count.toInt ≠ -2147483648 := fun heq => h (Int32.toInt_inj.1 heq)
  rw [Int32.toInt_sub]
  exact Int.bmod_eq_of_le (show -2147483648 ≤ count.toInt - 1 by omega) (show count.toInt - 1 < 2147483648 by omega)

theorem toInt_pos : 0 < count ↔ 0 < count.toInt := Int32.lt_iff_toInt_lt

/-- Past the first use, a use more changes nothing. -/
theorem pos_inc (hzero : count ≠ 0) (hmax : count ≠ 2147483647) : 0 < count + 1 ↔ 0 < count := by
  have hne : count.toInt ≠ 0 := fun heq => hzero (Int32.toInt_inj.1 heq)
  rw [toInt_pos, toInt_pos, toInt_inc hmax]
  omega

/-- A use less changes nothing but when it is the last. -/
theorem pos_dec (hone : count ≠ 1) (hmin : count ≠ -2147483648) : 0 < count - 1 ↔ 0 < count := by
  have hne : count.toInt ≠ 1 := fun heq => hone (Int32.toInt_inj.1 heq)
  rw [toInt_pos, toInt_pos, toInt_dec hmin]
  omega

theorem inc_eq_one : count + 1 = 1 ↔ count = 0 := by
  constructor
  · intro h
    calc count = count + 1 - 1 := (Int32.add_sub_cancel count 1).symm
      _ = 0 := by rw [h]; rfl
  · rintro rfl
    rfl

theorem dec_eq_zero : count - 1 = 0 ↔ count = 1 := by
  constructor
  · intro h
    calc count = count - 1 + 1 := (Int32.sub_add_cancel count 1).symm
      _ = 1 := by rw [h]; rfl
  · rintro rfl
    rfl

end AugmentedInsanity.SignedCounts
