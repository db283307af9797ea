/-
Byte stuffing with runs of bounded length. `blocks` cuts a list at its zeros and after every `cap` bytes
without one, and drops the zero that ends a block; `rejoin` puts a zero between two blocks, none before the
first block that is not empty. `rejoin_blocks_iff` says for which lists this gives the list back.
-/
import Mathlib.Algebra.Ring.Nat
import Mathlib.Data.List.Basic

namespace AugmentedInsanity.Stuffing

variable {α : Type*} [DecidableEq α] (z : α) (cap : ℕ)

/-! ## Cutting -/

/-- The bytes before the first zero, `cap` of them at most. -/
def block (l : List α) : List α := (l.takeWhile (· ≠ z)).take cap

/-- A zero at the front is dropped. -/
def skipZero : List α → List α
  | [] => []
  | a :: l => if a = z then l else a :: l

/-- What follows the first block, without the zero that ends it. -/
def afterBlock (l : List α) : List α := skipZero z (l.drop (block z cap l).length)

variable {z} in
theorem block_cons {a : α} (ha : a ≠ z) (l : List α) : block z (cap + 1) (a :: l) = a :: block z cap l := by
  simp [block, ha]

theorem block_eq_nil {a : α} {l : List α} (h : a = z ∨ cap = 0) : block z cap (a :: l) = [] := by
  rcases h with rfl | rfl <;> simp [block]

theorem skipZero_length (l : List α) : (skipZero z l).length ≤ l.length := by
  cases l with
  | nil => simp [skipZero]
  | cons a l => simp only [skipZero]; split <;> simp

theorem afterBlock_length [NeZero cap] (a : α) (l : List α) :
    (afterBlock z cap (a :: l)).length < (a :: l).length := by
  unfold afterBlock
  have hcap : 0 < cap := Nat.pos_of_ne_zero (NeZero.ne cap)
  by_cases ha : a = z
  · simp [block, ha, skipZero]
  · have hb : (block z cap (a :: l)).length ≠ 0 := by simp [block, ha]; omega
    have := skipZero_length z ((a :: l).drop (block z cap (a :: l)).length)
    simp only [List.length_drop, List.length_cons] at this ⊢
    omega

def blocks [NeZero cap] : List α → List (List α)
  | [] => []
  | a :: l => block z cap (a :: l) :: blocks (afterBlock z cap (a :: l))
termination_by l => l.length
decreasing_by exact afterBlock_length z cap a l

/-! ## Joining -/

/-- One block more: a zero comes before it unless nothing has come so far. -/
def addBlock (acc b : List α) : List α := if acc = [] then b else acc ++ z :: b

def rejoin (bs : List (List α)) : List α := bs.foldl (addBlock z) []

/-- The bytes of the blocks after the first that is not empty. -/
def continued (bs : List (List α)) : List α := bs.flatMap (z :: ·)

omit [DecidableEq α] in
theorem foldl_addBlock {acc : List α} (h : acc ≠ []) (bs : List (List α)) :
    bs.foldl (addBlock z) acc = acc ++ continued z bs := by
  induction bs generalizing acc with
  | nil => simp [continued]
  | cons b bs ih =>
    rw [List.foldl_cons, ih (by simp [addBlock, h])]
    simp [addBlock, h, continued]

/-! ## The lists that come back -/

/-- No run between two zeros is longer than `cap`. -/
def ShortRuns (l : List α) : Prop := ∀ run ∈ l.splitOn z, run.length ≤ cap

/-- What comes after a zero that is dropped: it must not be empty nor end with a zero. -/
def Tail (l : List α) : Prop := l ≠ [] ∧ l.getLast? ≠ some z ∧ ShortRuns z cap l

/-- Neither empty nor with a zero at one of its ends, and no run too long. -/
def Stuffable (l : List α) : Prop :=
  l ≠ [] ∧ l.head? ≠ some z ∧ l.getLast? ≠ some z ∧ ShortRuns z cap l

instance (l : List α) : Decidable (Stuffable z cap l) :=
  inferInstanceAs (Decidable (l ≠ [] ∧ l.head? ≠ some z ∧ l.getLast? ≠ some z ∧
    ∀ run ∈ l.splitOn z, run.length ≤ cap))

variable {z cap} {b l : List α}

/-- The bytes before the first zero, and that zero if there is one. -/
theorem firstRun (l : List α) : ∃ s, l = l.takeWhile (· ≠ z) ++ s ∧ z ∉ l.takeWhile (· ≠ z) ∧
    (s = [] ∨ ∃ t, s = z :: t) := by
  induction l with
  | nil => exact ⟨[], by simp⟩
  | cons a l ih =>
    rcases eq_or_ne a z with rfl | ha
    · exact ⟨a :: l, by simp, by simp, Or.inr ⟨l, rfl⟩⟩
    · obtain ⟨s, hl, hz, hs⟩ := ih
      have htake : (a :: l).takeWhile (· ≠ z) = a :: l.takeWhile (· ≠ z) :=
        List.takeWhile_cons_of_pos (decide_eq_true ha)
      refine ⟨s, ?_, ?_, hs⟩
      · rw [htake, List.cons_append, ← hl]
      · rw [htake, List.mem_cons, not_or]
        exact ⟨ha.symm, hz⟩

/-- A list without its first block and the zero after it: what was cut off, and why the block ended. -/
theorem cut (z : α) (cap : ℕ) (l : List α) : ∃ s, l = block z cap l ++ s ++ afterBlock z cap l ∧ z ∉ block z cap l ∧
    (block z cap l).length ≤ cap ∧
    (s = [z] ∨ s = [] ∧ (afterBlock z cap l = [] ∨
      (block z cap l).length = cap ∧ afterBlock z cap l ≠ [] ∧ (afterBlock z cap l).head? ≠ some z)) := by
  obtain ⟨r, hl, hz, hr⟩ := firstRun (z := z) l
  have hb : z ∉ block z cap l := fun h => hz (List.mem_of_mem_take h)
  have hlen : (block z cap l).length ≤ cap := List.length_take_le _ _
  -- the block ends before the run does, or with it
  have hwhole : l = block z cap l ++ ((l.takeWhile (· ≠ z)).drop cap ++ r) := by
    rw [block, ← List.append_assoc, List.take_append_drop]
    exact hl
  have hdrop : l.drop (block z cap l).length = (l.takeWhile (· ≠ z)).drop cap ++ r :=
    (congrArg (List.drop _) hwhole).trans List.drop_left
  rw [← hdrop] at hwhole
  rcases hrest : (l.takeWhile (· ≠ z)).drop cap with _ | ⟨a, c⟩
  · rw [hrest, List.nil_append] at hdrop
    rcases hr with rfl | ⟨t, rfl⟩
    · refine ⟨[], ?_, hb, hlen, Or.inr ⟨rfl, Or.inl ?_⟩⟩
      · rw [afterBlock, hdrop, skipZero, List.append_nil]
        rwa [hdrop] at hwhole
      · rw [afterBlock, hdrop, skipZero]
    · refine ⟨[z], ?_, hb, hlen, Or.inl rfl⟩
      rw [afterBlock, hdrop, skipZero, if_pos rfl, List.append_assoc, List.singleton_append, ← hdrop]
      exact hwhole
  · have hmem : a ∈ l.takeWhile (· ≠ z) := by
      apply List.mem_of_mem_drop (i := cap)
      rw [hrest]
      exact List.mem_cons_self
    have ha : a ≠ z := fun h => hz (h ▸ hmem)
    rw [hrest, List.cons_append] at hdrop
    refine ⟨[], ?_, hb, hlen, Or.inr ⟨rfl, Or.inr ⟨?_, ?_, ?_⟩⟩⟩
    · rw [afterBlock, hdrop, skipZero, if_neg ha, List.append_nil, ← hdrop]
      exact hwhole
    · have := congrArg List.length hrest
      simp only [List.length_drop, List.length_cons] at this
      simp only [block, List.length_take]
      omega
    · simp [afterBlock, hdrop, skipZero, ha]
    · simp [afterBlock, hdrop, skipZero, ha]

/-! ## Known cuts -/

theorem block_append {b : List α} (l : List α) (hb : z ∉ b) (hlen : b.length ≤ cap)
    (hend : b.length = cap ∨ l.head? = some z) : block z cap (b ++ l) = b := by
  have hne : ∀ a ∈ b, decide (a ≠ z) = true := fun a ha => decide_eq_true fun h => hb (h ▸ ha)
  rw [block, List.takeWhile_append_of_pos hne]
  rcases hend with hfull | hhead
  · exact List.take_left' hfull
  · cases l with
    | nil => cases hhead
    | cons a l =>
      obtain rfl : a = z := by simpa using hhead
      rw [List.takeWhile_cons_of_neg (by simp), List.append_nil]
      exact List.take_of_length_le hlen

/-- A block that is full before a byte that is no zero. -/
theorem blocks_full [NeZero cap] {c : α} (hb : z ∉ b) (hlen : b.length = cap) (hc : c ≠ z) :
    blocks z cap (b ++ c :: l) = b :: blocks z cap (c :: l) := by
  obtain ⟨a, b', rfl⟩ := List.exists_cons_of_length_pos (hlen ▸ Nat.pos_of_ne_zero (NeZero.ne cap))
  rw [List.cons_append, blocks, ← List.cons_append, afterBlock, block_append _ hb (Nat.le_of_eq hlen) (Or.inl hlen), List.drop_left,
    skipZero, if_neg hc]

/-- A block before a zero, which is dropped. -/
theorem blocks_zero [NeZero cap] (hb : z ∉ b) (hlen : b.length ≤ cap) :
    blocks z cap (b ++ z :: l) = b :: blocks z cap l := by
  obtain ⟨a, l', hl⟩ : ∃ a l', b ++ z :: l = a :: l' := by cases b <;> exact ⟨_, _, rfl⟩
  rw [hl, blocks, ← hl, afterBlock, block_append _ hb hlen (Or.inr rfl), List.drop_left, skipZero, if_pos rfl]

theorem shortRuns_append (hb : z ∉ b) : ShortRuns z cap (b ++ z :: l) ↔ b.length ≤ cap ∧ ShortRuns z cap l := by
  unfold ShortRuns
  rw [List.splitOn_append_cons_self_of_not_mem hb]
  simp

theorem shortRuns_of_not_mem {b : List α} (hb : z ∉ b) : ShortRuns z cap b ↔ b.length ≤ cap := by
  unfold ShortRuns
  rw [List.splitOn_eq_singleton hb]
  simp

/-- A run that goes on after `cap` bytes is too long. -/
theorem not_shortRuns (hb : z ∉ b) (hlen : b.length = cap) (hl : l ≠ []) (hz : l.head? ≠ some z) :
    ¬ ShortRuns z cap (b ++ l) := by
  obtain ⟨a, r, rfl⟩ := List.exists_cons_of_ne_nil hl
  have ha : z ≠ a := fun h => hz (by simp [h])
  have hrun : z ∉ b ++ [a] := by simp [hb, ha]
  obtain ⟨s, hrs, hc, hs⟩ := firstRun (z := z) r
  generalize r.takeWhile (· ≠ z) = c at hrs hc
  have hnot : z ∉ b ++ [a] ++ c := by simp_all
  have hlong : ¬ (b ++ [a] ++ c).length ≤ cap := by simp; omega
  have he : b ++ a :: r = b ++ [a] ++ c ++ s := by simp [hrs]
  rw [he]
  rcases hs with rfl | ⟨t, rfl⟩
  · rw [List.append_nil, shortRuns_of_not_mem hnot]
    exact hlong
  · rw [shortRuns_append hnot]
    exact fun h => hlong h.1

/-- Past the first block, what is joined is the rest of the list with the zero put back, exactly when no
zero was dropped at its end and none is put inside a run. -/
theorem continued_iff [NeZero cap] (l : List α) :
    continued z (blocks z cap l) = z :: l ↔ Tail z cap l := by
  induction l using blocks.induct z cap with
  | case1 => simp [blocks, continued, Tail]
  | case2 a l ih =>
    rw [blocks]
    obtain ⟨s, hcut, hb, hlen, hs⟩ := cut z cap (a :: l)
    generalize block z cap (a :: l) = b at *
    generalize afterBlock z cap (a :: l) = r at *
    have hsame : continued z (b :: blocks z cap r) = z :: (a :: l) ↔ continued z (blocks z cap r) = s ++ r := by
      rw [hcut]
      simp [continued]
    rw [hsame]
    rcases hs with rfl | ⟨rfl, rfl | ⟨hfull, hne, hr⟩⟩
    · rw [List.singleton_append, ih, hcut]
      have hap : b ++ [z] ++ r = b ++ z :: r := by simp
      rw [hap]
      unfold Tail
      rw [shortRuns_append hb]
      rcases List.eq_nil_or_concat r with rfl | ⟨r', x, rfl⟩
      · simp
      · simp [hlen, List.getLast?_append, List.getLast?_cons]
    · have hlast : b.getLast? ≠ some z := fun h => hb (List.mem_of_getLast? h)
      have hne : b ≠ [] := by
        rintro rfl
        simp at hcut
      rw [hcut]
      simp [blocks, continued, Tail, hne, hlast, shortRuns_of_not_mem hb, hlen]
    · -- the block is full and its run goes on: a zero is put in the middle of it
      have hlong : ¬ ShortRuns z cap (a :: l) := by
        rw [hcut, List.append_nil]
        exact not_shortRuns hb hfull hne hr
      obtain ⟨x, r, rfl⟩ := List.exists_cons_of_ne_nil hne
      rw [blocks]
      simp only [continued, List.flatMap_cons, List.cons_append, List.nil_append, List.cons.injEq]
      constructor
      · intro h
        exact absurd (by simp [h.1]) hr
      · intro h
        exact absurd h.2.2 hlong

theorem not_mem_blocks [NeZero cap] (l : List α) : ∀ b ∈ blocks z cap l, z ∉ b := by
  induction l using blocks.induct z cap with
  | case1 => simp [blocks]
  | case2 a l ih =>
    obtain ⟨s, -, hb, -⟩ := cut z cap (a :: l)
    rw [blocks]
    simpa [hb] using ih

theorem length_of_mem_blocks [NeZero cap] (l : List α) : ∀ b ∈ blocks z cap l, b.length ≤ cap := by
  induction l using blocks.induct z cap with
  | case1 => simp [blocks]
  | case2 a l ih =>
    obtain ⟨s, -, -, hlen, -⟩ := cut z cap (a :: l)
    rw [blocks]
    simpa [hlen] using ih

omit [DecidableEq α] in
/-- Leading zeros are lost. -/
theorem rejoin_head {bs : List (List α)} (h : ∀ b ∈ bs, z ∉ b) : (rejoin z bs).head? ≠ some z := by
  induction bs with
  | nil => simp [rejoin]
  | cons b bs ih =>
    rcases b with _ | ⟨x, c⟩
    · exact ih fun b hb => h b (List.mem_cons_of_mem _ hb)
    · have hx : x ≠ z := fun hx => h (x :: c) List.mem_cons_self (hx ▸ List.mem_cons_self)
      have hstart : addBlock z [] (x :: c) = x :: c := by simp [addBlock]
      rw [rejoin, List.foldl_cons, hstart, foldl_addBlock z (List.cons_ne_nil x c)]
      simpa using hx

/-- Which lists come back from their blocks. -/
theorem rejoin_blocks_iff [NeZero cap] (l : List α) :
    (l ≠ [] ∧ rejoin z (blocks z cap l) = l) ↔ Stuffable z cap l := by
  rcases l with _ | ⟨a, l⟩
  · simp [Stuffable]
  by_cases ha : a = z
  · have hlost : (rejoin z (blocks z cap (a :: l))).head? ≠ some z := rejoin_head (not_mem_blocks (a :: l))
    constructor
    · rintro ⟨-, h⟩
      rw [h] at hlost
      exact absurd (by simp [ha]) hlost
    · intro h
      exact absurd (by simp [ha]) h.2.1
  · have hcap : 0 < cap := Nat.pos_of_ne_zero (NeZero.ne cap)
    have hb : block z cap (a :: l) ≠ [] := by
      intro h
      have := congrArg List.length h
      simp [block, ha] at this
      omega
    have htail : continued z (blocks z cap (a :: l)) = z :: (a :: l) ↔ Tail z cap (a :: l) := continued_iff (a :: l)
    rw [blocks] at htail ⊢
    have hstart : addBlock z [] (block z cap (a :: l)) = block z cap (a :: l) := by simp [addBlock]
    rw [rejoin, List.foldl_cons, hstart, foldl_addBlock z hb]
    simp only [continued, List.flatMap_cons, List.cons_append, List.cons.injEq, true_and] at htail ⊢
    rw [htail]
    simp [Tail, Stuffable, ha]

end AugmentedInsanity.Stuffing
