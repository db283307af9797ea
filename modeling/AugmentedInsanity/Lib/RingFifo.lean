/-
First in, first out, in a ring of slots: a place to take from and a place to put to, both going round. The ring is
empty when they meet, so one slot is always left free. What is in the ring is a list that pushing extends at its end
and popping shortens at its front.
-/
import Mathlib.Data.List.Range

namespace AugmentedInsanity.RingFifo

/-! ## Going round -/

/-- Less than twice round. -/
theorem mod_of_lt_two_mul {a c : ℕ} (h : a < 2 * c) : a % c = if a < c then a else a - c := by
  split
  · rename_i hlt
    exact Nat.mod_eq_of_lt hlt
  · rename_i hge
    rw [Nat.mod_eq_sub_mod (by omega)]
    exact Nat.mod_eq_of_lt (by omega)

/-- A ring of `c` slots. -/
structure Ring (c : ℕ) (β : Type*) where
  slots : ℕ → β
  start : ℕ
  stop : ℕ
  start_lt : start < c
  stop_lt : stop < c

namespace Ring

variable {c : ℕ} {β : Type*}

/-- A ring with nothing in it. -/
def empty (slots : ℕ → β) (h : 0 < c) : Ring c β := ⟨slots, 0, 0, h, h⟩

def isEmpty (r : Ring c β) : Bool := r.start == r.stop

def isFull (r : Ring c β) : Bool := (r.stop + 1) % c == r.start

def peek (r : Ring c β) : Option β := if r.isEmpty then none else some (r.slots r.start)

theorem next_lt {r : Ring c β} (i : ℕ) : (i + 1) % c < c := Nat.mod_lt _ (Nat.zero_lt_of_lt r.start_lt)

def pop (r : Ring c β) : Option (β × Ring c β) :=
  if r.isEmpty then none
  else some (r.slots r.start, { r with start := (r.start + 1) % c, start_lt := next_lt (r := r) r.start })

def push (r : Ring c β) (x : β) : Option (Ring c β) :=
  if r.isFull then none
  else
    some { r with
      slots := Function.update r.slots r.stop x
      stop := (r.stop + 1) % c
      stop_lt := next_lt (r := r) r.stop }

/-! ## What is in a ring -/

/-- The number of slots that are taken. -/
def size (r : Ring c β) : ℕ := if r.start ≤ r.stop then r.stop - r.start else r.stop + c - r.start

/-- What was put and not yet taken, the oldest first. -/
def contents (r : Ring c β) : List β := (List.range r.size).map fun k => r.slots ((r.start + k) % c)

variable {r : Ring c β} {l : List β}

@[simp] theorem length_contents : r.contents.length = r.size := by
  rw [contents, List.length_map, List.length_range]

@[simp] theorem contents_empty (slots : ℕ → β) (h : 0 < c) : (empty slots h).contents = [] := rfl

theorem size_lt : r.size < c := by
  have hstart := r.start_lt
  have hstop := r.stop_lt
  unfold size
  split <;> omega

theorem isEmpty_iff : r.isEmpty = true ↔ r.contents = [] := by
  have hstart := r.start_lt
  have hstop := r.stop_lt
  rw [← List.length_eq_zero_iff, length_contents, isEmpty, beq_iff_eq, size]
  split <;> omega

theorem isFull_iff : r.isFull = true ↔ r.size + 1 = c := by
  have hstart := r.start_lt
  have hstop := r.stop_lt
  rw [isFull, beq_iff_eq, mod_of_lt_two_mul (by omega), size]
  split <;> split <;> omega

/-- The slots that are taken are all before the next free one, which comes right after them. -/
theorem mod_eq_stop_iff {k : ℕ} (hk : k < c) : (r.start + k) % c = r.stop ↔ k = r.size := by
  have hstart := r.start_lt
  have hstop := r.stop_lt
  rw [mod_of_lt_two_mul (by omega), size]
  split <;> split <;> omega

theorem size_pop (h : 0 < r.size) :
    ({ r with start := (r.start + 1) % c, start_lt := next_lt (r := r) r.start } : Ring c β).size + 1 = r.size := by
  have hstart := r.start_lt
  have hstop := r.stop_lt
  have hnext := mod_of_lt_two_mul (a := r.start + 1) (c := c) (by omega)
  simp only [size] at *
  rw [hnext]
  split at h <;> split <;> split <;> omega

theorem start_add_mod (k : ℕ) : ((r.start + 1) % c + k) % c = (r.start + (k + 1)) % c := by
  rw [Nat.mod_add_mod]
  congr 1
  omega

theorem contents_pop {x : β} {r' : Ring c β} (h : r.pop = some (x, r')) : r.contents = x :: r'.contents := by
  unfold pop at h
  split at h
  · cases h
  · rename_i hempty
    have hpos : 0 < r.size := by
      rw [isEmpty_iff, ← List.length_eq_zero_iff, length_contents] at hempty
      omega
    cases h
    simp only [contents]
    rw [← size_pop hpos, List.range_succ_eq_map, List.map_cons, List.map_map]
    refine congrArg₂ _ ?_ (List.map_congr_left fun k _ => ?_)
    · rw [Nat.add_zero, Nat.mod_eq_of_lt r.start_lt]
    · simp only [Function.comp, start_add_mod]

/-- What is taken from a ring that is not empty is what was seen there. -/
theorem exists_pop (h : r.isEmpty = false) : ∃ x r', r.pop = some (x, r') ∧ r.peek = some x := by
  simp only [pop, peek, h, Bool.false_eq_true, if_false]
  exact ⟨_, _, rfl, rfl⟩

/-- Pushing puts at the end. -/
theorem push_eq_none_iff {x : β} : r.push x = none ↔ r.size + 1 = c := by
  rw [← isFull_iff, push]
  split <;> simp_all

theorem contents_push {x : β} {r' : Ring c β} (h : r.push x = some r') : r'.contents = r.contents ++ [x] := by
  have hstart := r.start_lt
  have hstop := r.stop_lt
  unfold push at h
  split at h
  · cases h
  · rename_i hfull
    rw [isFull_iff] at hfull
    cases h
    have hsize : ({ r with
        slots := Function.update r.slots r.stop x
        stop := (r.stop + 1) % c
        stop_lt := next_lt (r := r) r.stop } : Ring c β).size = r.size + 1 := by
      have hnext := mod_of_lt_two_mul (a := r.stop + 1) (c := c) (by omega)
      simp only [size] at *
      rw [hnext]
      split at hfull <;> split <;> split <;> omega
    have hlt := size_lt (r := r)
    simp only [contents] at *
    rw [hsize, List.range_succ, List.map_append, List.map_singleton]
    refine congrArg₂ _ (List.map_congr_left fun k hk => ?_) ?_
    · rw [List.mem_range] at hk
      rw [Function.update_of_ne]
      intro hslot
      have := (mod_eq_stop_iff (r := r) (by omega)).1 hslot
      omega
    · rw [(mod_eq_stop_iff (r := r) hlt).2 rfl, Function.update_self]

/-! ## Many at a time -/

/-- The slots from `i` on. -/
def slice (slots : ℕ → β) (i k : ℕ) : List β := (List.range k).map fun j => slots (i + j)

/-- The slots after a list was copied to those from `i` on. -/
def copy (slots : ℕ → β) (i : ℕ) (l : List β) : ℕ → β := fun j => if i ≤ j then l[j - i]?.getD (slots j) else slots j

omit r in
theorem copy_of_not_mem (slots : ℕ → β) {i j : ℕ} (h : j < i ∨ i + l.length ≤ j) : copy slots i l j = slots j := by
  unfold copy
  split
  · rw [List.getElem?_eq_none (by omega)]
    rfl
  · rfl

omit r in
theorem slice_copy (slots : ℕ → β) (i : ℕ) (l : List β) : slice (copy slots i l) i l.length = l := by
  refine List.ext_getElem (by rw [slice, List.length_map, List.length_range]) fun k _ hk => ?_
  simp only [slice, copy, List.getElem_map, List.getElem_range, Nat.le_add_right, if_true, Nat.add_sub_cancel_left]
  rw [List.getElem?_eq_getElem hk]
  rfl

/-- The oldest `k` are taken. -/
def skip (r : Ring c β) (k : ℕ) : Ring c β :=
  { r with start := (r.start + k) % c, start_lt := Nat.mod_lt _ (Nat.zero_lt_of_lt r.start_lt) }

/-- A list is put to the slots from `stop` on. -/
def fill (r : Ring c β) (l : List β) : Ring c β :=
  { r with
    slots := copy r.slots r.stop l
    stop := (r.stop + l.length) % c
    stop_lt := Nat.mod_lt _ (Nat.zero_lt_of_lt r.start_lt) }

theorem size_skip {k : ℕ} (h : k ≤ r.size) : (r.skip k).size + k = r.size := by
  have hstart := r.start_lt
  have hstop := r.stop_lt
  have hlt := size_lt (r := r)
  have hnext : (r.skip k).start = if r.start + k < c then r.start + k else r.start + k - c :=
    mod_of_lt_two_mul (by omega)
  have hsame : (r.skip k).stop = r.stop := rfl
  unfold size at *
  rw [hsame]
  generalize (r.skip k).start = start at *
  split_ifs at * <;> omega

theorem contents_skip {k : ℕ} (h : k ≤ r.size) (hend : r.start + k ≤ c) :
    r.contents = slice r.slots r.start k ++ (r.skip k).contents := by
  rw [contents, ← size_skip h, Nat.add_comm, List.range_add, List.map_append, List.map_map]
  refine congrArg₂ _ (List.map_congr_left fun j hj => ?_) (List.map_congr_left fun j _ => ?_)
  · rw [List.mem_range] at hj
    rw [Nat.mod_eq_of_lt (by omega)]
  · simp only [Function.comp, skip, Nat.mod_add_mod, Nat.add_assoc]

theorem size_fill (h : r.size + l.length < c) : (r.fill l).size = r.size + l.length := by
  have hstart := r.start_lt
  have hstop := r.stop_lt
  have hnext : (r.fill l).stop = if r.stop + l.length < c then r.stop + l.length else r.stop + l.length - c :=
    mod_of_lt_two_mul (by omega)
  have hsame : (r.fill l).start = r.start := rfl
  unfold size at *
  rw [hsame]
  generalize (r.fill l).stop = stop at *
  split_ifs at * <;> omega

/-- A slot that is taken is not one of the next `k`, if these are free and do not go round. -/
theorem not_next {j k : ℕ} (hj : j < r.size) (h : r.size + k < c) :
    (r.start + j) % c < r.stop ∨ r.stop + k ≤ (r.start + j) % c := by
  have hstart := r.start_lt
  have hstop := r.stop_lt
  rw [mod_of_lt_two_mul (by omega)]
  unfold size at *
  split_ifs at * <;> omega

/-- What is put without going round comes behind all that is there. -/
theorem contents_fill (h : r.size + l.length < c) (hend : r.stop + l.length ≤ c) :
    (r.fill l).contents = r.contents ++ l := by
  rw [contents, size_fill h, List.range_add, List.map_append, List.map_map]
  refine congrArg₂ _ (List.map_congr_left fun j hj => ?_) ?_
  · exact copy_of_not_mem _ (not_next (List.mem_range.1 hj) h)
  · refine (List.map_congr_left fun k hk => ?_).trans (slice_copy r.slots r.stop l)
    have hk := List.mem_range.1 hk
    have hslot := (mod_eq_stop_iff (r := r) size_lt).2 rfl
    have hnext : (r.start + (r.size + k)) % c = r.stop + k := by
      rw [← Nat.add_assoc, ← Nat.mod_add_mod, hslot, Nat.mod_eq_of_lt (by omega)]
    exact congrArg (copy r.slots r.stop l) hnext

end Ring

end AugmentedInsanity.RingFifo
