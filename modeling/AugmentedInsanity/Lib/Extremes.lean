/-
The extremes of a list, as loops find them. The first of the elements with the greatest key replaces the best one so far
if its key is greater (`Leading`). The least key and an index at which it is are kept up to date: an element with a key
that is no greater takes over, one with a greater key leaves them unless it is written over the least, and then they are
looked for again (`LeastAt`).
-/
import Mathlib.Data.List.Rotate
import Mathlib.Order.Lattice

namespace AugmentedInsanity.Leading

variable {α β : Type*}

/-! ## The leader -/

section
variable [LT β] [DecidableLT β] (key : α → β)

/-- The element that is left when each replaces the one so far, at first `start`, if its key is greater. -/
def leader (start : α) (l : List α) : α := l.foldl (fun best x => if key best < key x then x else best) start

variable {key} {start : α} {l : List α} {x : α}

@[simp] theorem leader_nil : leader key start [] = start := rfl

@[simp] theorem leader_cons :
    leader key start (x :: l) = leader key (if key start < key x then x else start) l := rfl

theorem leader_append {m : List α} : leader key start (l ++ m) = leader key (leader key start l) m :=
  List.foldl_append

theorem leader_mem : leader key start l ∈ start :: l := by
  induction l generalizing start with
  | nil => exact List.mem_cons_self
  | cons x l ih =>
    rw [leader_cons]
    rcases List.mem_cons.1 (@ih (if key start < key x then x else start)) with heq | hmem
    · rw [heq]
      split
      · exact List.mem_cons_of_mem _ List.mem_cons_self
      · exact List.mem_cons_self
    · exact List.mem_cons_of_mem _ (List.mem_cons_of_mem _ hmem)

theorem leader_eq_start_of_not_lt (h : ∀ y ∈ l, ¬ key start < key y) : leader key start l = start := by
  induction l with
  | nil => rfl
  | cons x l ih =>
    obtain ⟨hx, hl⟩ := List.forall_mem_cons.1 h
    rw [leader_cons, if_neg hx]
    exact ih hl

theorem leader_mem_of_lt (h : ∃ x ∈ l, key start < key x) : leader key start l ∈ l := by
  induction l with
  | nil => simp at h
  | cons x l ih =>
    rw [leader_cons]
    by_cases hx : key start < key x
    · rw [if_pos hx]
      exact leader_mem
    · rw [if_neg hx]
      simp only [List.mem_cons, exists_eq_or_imp, hx, false_or] at h
      exact List.mem_cons_of_mem _ (ih h)

/-- The start is left unless something is greater, in whatever way keys compare. -/
theorem leader_mem_iff : leader key start l ∈ l ↔ (∃ x ∈ l, key start < key x) ∨ start ∈ l := by
  by_cases h : ∃ x ∈ l, key start < key x
  · exact iff_of_true (leader_mem_of_lt h) (.inl h)
  · rw [leader_eq_start_of_not_lt fun y hy hlt => h ⟨y, hy, hlt⟩]
    exact ⟨.inr, fun hor => hor.resolve_left h⟩

end

variable [LinearOrder β] (key : α → β)

/-- An element with the greatest key, and none before it has that key. -/
def Leads (l : List α) (x : α) : Prop :=
  ∃ before after, l = before ++ x :: after ∧ (∀ y ∈ before, key y < key x) ∧ ∀ y ∈ after, key y ≤ key x

variable {key} {start : α} {l : List α} {x y : α}

theorem le_leader : ∀ y ∈ start :: l, key y ≤ key (leader key start l) := by
  induction l generalizing start with
  | nil => exact fun y hy => le_of_eq (congrArg key (List.mem_singleton.1 hy))
  | cons x l ih =>
    have hall := @ih (if key start < key x then x else start)
    have hfirst := hall _ List.mem_cons_self
    rw [leader_cons]
    intro y hy
    rcases List.mem_cons.1 hy with rfl | hy
    · refine le_trans ?_ hfirst
      split
      · exact le_of_lt ‹_›
      · exact le_refl _
    · rcases List.mem_cons.1 hy with rfl | hy
      · refine le_trans ?_ hfirst
        split
        · exact le_refl _
        · exact le_of_not_gt ‹_›
      · exact hall y (List.mem_cons_of_mem _ hy)

theorem le_leader_iff {k : β} : k ≤ key (leader key start l) ↔ ∃ x ∈ start :: l, k ≤ key x :=
  ⟨fun h => ⟨_, leader_mem, h⟩, fun ⟨x, hx, h⟩ => h.trans (le_leader x hx)⟩

/-- Where nothing is greater than the start, it is left. -/
theorem leader_eq_start (h : ∀ y ∈ l, key y ≤ key start) : leader key start l = start :=
  leader_eq_start_of_not_lt fun y hy => not_lt_of_ge (h y hy)

/-! ## Leading elements -/

theorem Leads.mem (h : Leads key l x) : x ∈ l := by
  obtain ⟨before, after, rfl, -, -⟩ := h
  exact List.mem_append_right _ List.mem_cons_self

theorem Leads.le (h : Leads key l x) (hy : y ∈ l) : key y ≤ key x := by
  obtain ⟨before, after, rfl, hbefore, hafter⟩ := h
  rcases List.mem_append.1 hy with hy | hy
  · exact le_of_lt (hbefore y hy)
  · rcases List.mem_cons.1 hy with rfl | hy
    · exact le_refl _
    · exact hafter y hy

/-- There is one leading element at most, and the loop finds it. -/
theorem Leads.leader_eq (h : Leads key l x) (hstart : key start < key x) : leader key start l = x := by
  obtain ⟨before, after, rfl, hbefore, hafter⟩ := h
  have hlt : key (leader key start before) < key x := by
    have hmem : leader key start before ∈ start :: before := leader_mem
    rcases List.mem_cons.1 hmem with heq | hmem
    · rwa [heq]
    · exact hbefore _ hmem
  rw [leader_append, leader_cons, if_pos hlt]
  exact leader_eq_start hafter

/-- What is left of a list in which something is greater than the start leads it. -/
theorem leads_leader (h : key start < key (leader key start l)) : Leads key l (leader key start l) := by
  induction l generalizing start with
  | nil => exact absurd h (lt_irrefl _)
  | cons x l ih =>
    rw [leader_cons] at h ⊢
    by_cases hx : key start < key x
    · rw [if_pos hx] at h ⊢
      by_cases hgreater : key x < key (leader key x l)
      · obtain ⟨before, after, hl, hbefore, hafter⟩ := ih hgreater
        refine ⟨x :: before, after, ?_, List.forall_mem_cons.2 ⟨hgreater, hbefore⟩, hafter⟩
        rw [List.cons_append, ← hl]
      · have hall : ∀ y ∈ l, key y ≤ key x := fun y hy =>
          le_trans (le_leader y (List.mem_cons_of_mem _ hy)) (le_of_not_gt hgreater)
        rw [leader_eq_start hall]
        exact ⟨[], l, rfl, nofun, hall⟩
    · rw [if_neg hx] at h ⊢
      obtain ⟨before, after, hl, hbefore, hafter⟩ := ih h
      refine ⟨x :: before, after, ?_, List.forall_mem_cons.2 ⟨lt_of_le_of_lt (le_of_not_gt hx) h, hbefore⟩, hafter⟩
      rw [List.cons_append, ← hl]

end AugmentedInsanity.Leading


namespace AugmentedInsanity

variable {β κ : Type*} [LinearOrder κ] {key : β → κ} {l : List β} {x : β} {i j : ℕ} {k : κ}

structure LeastAt (key : β → κ) (l : List β) (i : ℕ) (k : κ) : Prop where
  at_index : l[i]?.map key = some k
  le : ∀ y ∈ l, k ≤ key y

namespace LeastAt

theorem exists_mem (h : LeastAt key l i k) : ∃ x ∈ l, key x = k := by
  obtain ⟨x, hx, hk⟩ := Option.map_eq_some_iff.1 h.at_index
  exact ⟨x, List.mem_of_getElem? hx, hk⟩

theorem lt_length (h : LeastAt key l i k) : i < l.length := by
  obtain ⟨x, hx, -⟩ := Option.map_eq_some_iff.1 h.at_index
  exact (List.getElem?_eq_some_iff.1 hx).1

theorem singleton : LeastAt key [x] 0 (key x) :=
  ⟨rfl, fun y hy => by rw [List.mem_singleton.1 hy]⟩

/-! ## One more -/

theorem append_le (h : LeastAt key l i k) (hx : key x ≤ k) : LeastAt key (l ++ [x]) l.length (key x) := by
  refine ⟨by rw [List.getElem?_concat_length]; rfl, fun y hy => ?_⟩
  rcases List.mem_append.1 hy with hy | hy
  · exact hx.trans (h.le y hy)
  · rw [List.mem_singleton.1 hy]

theorem append_lt (h : LeastAt key l i k) (hx : k ≤ key x) : LeastAt key (l ++ [x]) i k := by
  refine ⟨by rw [List.getElem?_append_left h.lt_length]; exact h.at_index, fun y hy => ?_⟩
  rcases List.mem_append.1 hy with hy | hy
  · exact h.le y hy
  · rwa [List.mem_singleton.1 hy]

/-! ## One for another -/

theorem set_le (h : LeastAt key l i k) (hj : j < l.length) (hx : key x ≤ k) :
    LeastAt key (l.set j x) j (key x) := by
  refine ⟨by rw [List.getElem?_set_self hj]; rfl, fun y hy => ?_⟩
  rcases List.mem_or_eq_of_mem_set hy with hy | rfl
  · exact hx.trans (h.le y hy)
  · exact le_refl _

theorem set_lt (h : LeastAt key l i k) (hj : j ≠ i) (hx : k ≤ key x) : LeastAt key (l.set j x) i k := by
  refine ⟨by rw [List.getElem?_set_ne hj]; exact h.at_index, fun y hy => ?_⟩
  rcases List.mem_or_eq_of_mem_set hy with hy | rfl
  · exact h.le y hy
  · exact hx

end LeastAt

/-! ## Looking for it -/

/-- The last element with the least key, and its index: of the best so far, and of the rest from an index on. -/
def lastLeast (key : β → κ) : ℕ × β → ℕ → List β → ℕ × β
  | best, _, [] => best
  | best, i, cur :: rest => lastLeast key (if key cur ≤ key best.2 then (i, cur) else best) (i + 1) rest

theorem leastAt_lastLeast_aux {seen rest : List β} {best : ℕ × β} (hat : seen[best.1]? = some best.2)
    (hle : ∀ y ∈ seen, key best.2 ≤ key y) :
    (seen ++ rest)[(lastLeast key best seen.length rest).1]? = some (lastLeast key best seen.length rest).2 ∧
      ∀ y ∈ seen ++ rest, key (lastLeast key best seen.length rest).2 ≤ key y := by
  induction rest generalizing seen best with
  | nil =>
    rw [List.append_nil]
    exact ⟨hat, hle⟩
  | cons cur rest ih =>
    have hsnoc : seen ++ cur :: rest = seen ++ [cur] ++ rest := by rw [List.append_assoc, List.singleton_append]
    have hlength : seen.length + 1 = (seen ++ [cur]).length := by rw [List.length_append, List.length_singleton]
    have hseen : LeastAt key seen best.1 (key best.2) := ⟨by rw [hat]; rfl, hle⟩
    rw [lastLeast, hsnoc, hlength]
    split
    · rename_i hcur
      exact ih (by rw [List.getElem?_concat_length]) (hseen.append_le hcur).le
    · rename_i hcur
      refine ih ?_ (hseen.append_lt (le_of_not_ge hcur)).le
      rw [List.getElem?_append_left hseen.lt_length]
      exact hat

theorem leastAt_lastLeast (x : β) (rest : List β) :
    LeastAt key (x :: rest) (lastLeast key (0, x) 1 rest).1 (key (lastLeast key (0, x) 1 rest).2) := by
  obtain ⟨hat, hle⟩ := leastAt_lastLeast_aux (show [x][(0, x).1]? = some (0, x).2 from rfl)
    (LeastAt.singleton : LeastAt key [x] 0 _).le
  exact ⟨congrArg (Option.map key) hat, hle⟩

/-! ## Rings -/

/-- In a ring that is full, the next element is written over the oldest. -/
theorem rotate_set_succ (hi : i < l.length) (x : β) : (l.set i x).rotate (i + 1) = (l.rotate i).tail ++ [x] := by
  rw [List.rotate_eq_drop_append_take (by rw [List.length_set]; omega), List.rotate_eq_drop_append_take (by omega),
    List.drop_set_of_lt (by omega), List.drop_eq_getElem_cons hi, List.cons_append, List.tail_cons, List.take_add_one,
    List.take_set_of_le (by omega), List.getElem?_set_self hi, List.append_assoc]
  rfl

/-- The last elements, the oldest first, when one more comes in. -/
theorem reverse_take_cons {n : ℕ} (hn : 0 < n) (hlength : n ≤ l.length) :
    ((x :: l).take n).reverse = (l.take n).reverse.tail ++ [x] := by
  obtain ⟨m, rfl⟩ : ∃ m, n = m + 1 := ⟨n - 1, by omega⟩
  rw [List.take_succ_cons, List.reverse_cons, List.tail_reverse, List.dropLast_eq_take, List.length_take,
    List.take_take, Nat.min_eq_left hlength, Nat.add_sub_cancel, Nat.min_eq_left (Nat.le_succ _)]

end AugmentedInsanity
