/-
A ledger of things that are issued, held for a while and then released: at every moment all that was issued is held or
released, and nothing is there twice. What moves from one holder to another keeps the books; what is let go without
being released does not (`Accounted.lost_iff`, `Accounted.take_iff`).
-/
import Mathlib.Algebra.Order.Group.Multiset
import Mathlib.Data.Multiset.Range
import Mathlib.Tactic.Abel

namespace AugmentedInsanity.Ledger

variable {α : Type*}

/-- What is held, and what is released, is what was issued. -/
def Accounted (issued held released : Multiset α) : Prop := held + released = issued

theorem accounted_zero : Accounted (0 : Multiset α) 0 0 := add_zero 0

namespace Accounted

variable {issued held released : Multiset α}

/-- More is issued, and held. -/
theorem take (h : Accounted issued held released) (new : Multiset α) :
    Accounted (new + issued) (new + held) released := by
  unfold Accounted at *
  rw [← h, add_assoc]

/-- Some of what is held is released. -/
theorem release {x : Multiset α} (h : Accounted issued (x + held) released) :
    Accounted issued held (x + released) := by
  unfold Accounted at *
  rw [← h]
  abel

/-- What is let go of without being released is missing from the books. -/
theorem lost_iff {x : Multiset α} (h : Accounted issued (x + held) released) :
    Accounted issued held released ↔ x = 0 := by
  unfold Accounted at *
  rw [← h, add_assoc]
  exact right_eq_add

/-- So is what is issued without being held. -/
theorem take_iff (h : Accounted issued held released) (kept lost : Multiset α) :
    Accounted (kept + lost + issued) (kept + held) released ↔ lost = 0 := by
  have hall : Accounted (kept + lost + issued) (lost + (kept + held)) released := by
    unfold Accounted at *
    rw [← h]
    abel
  exact hall.lost_iff

theorem mem_of_held (h : Accounted issued held released) {a : α} (ha : a ∈ held) : a ∈ issued :=
  h ▸ Multiset.mem_add.2 (Or.inl ha)

end Accounted

end AugmentedInsanity.Ledger
