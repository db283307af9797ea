/-
Singly linked lists in a heap. `Seg heap p l r` says that the cells of `l` are linked one after the other from
`p` up to `r`; a queue holds a list when its head pointer leads through the list to NULL and its tail pointer is
the last cell. Cells keep their addresses, so a segment survives every change of the heap outside its cells
(`Seg.congr`), and what a pointer leads to is unique (`Seg.unique`).
-/
import Mathlib.Data.List.Nodup

namespace AugmentedInsanity.LinkedQueue

variable {α : Type*}

structure Node (α : Type*) where
  next : Option ℕ
  value : α
  deriving DecidableEq

/-- The live allocations; an address without a node is free. -/
abbrev Heap (α : Type*) := ℕ → Option (Node α)

/-! ## Segments -/

/-- The cells, addresses with values, from `p` up to `r`. -/
def Seg (heap : Heap α) : Option ℕ → List (ℕ × α) → Option ℕ → Prop
  | p, [], r => p = r
  | p, (q, a) :: l, r => p = some q ∧ ∃ next, heap q = some ⟨next, a⟩ ∧ Seg heap next l r

variable {heap : Heap α} {p r : Option ℕ}

@[simp] theorem seg_nil : Seg heap p [] r ↔ p = r := Iff.rfl

variable {l : List (ℕ × α)} {m : List (ℕ × α)} {c : ℕ × α} {a : α}

theorem seg_cons {q : ℕ} :
    Seg heap p ((q, a) :: l) r ↔ p = some q ∧ ∃ next, heap q = some ⟨next, a⟩ ∧ Seg heap next l r := Iff.rfl

theorem seg_append : Seg heap p (l ++ m) r ↔ ∃ q, Seg heap p l q ∧ Seg heap q m r := by
  induction l generalizing p with
  | nil => simp
  | cons c l ih =>
    obtain ⟨q, a⟩ := c
    simp only [List.cons_append, seg_cons, ih]
    constructor
    · rintro ⟨hp, next, hq, s, hl, hm⟩
      exact ⟨s, ⟨hp, next, hq, hl⟩, hm⟩
    · rintro ⟨s, ⟨hp, next, hq, hl⟩, hm⟩
      exact ⟨hp, next, hq, s, hl, hm⟩

theorem Seg.congr {heap' : Heap α} (h : Seg heap p l r) (hsame : ∀ c ∈ l, heap' c.1 = heap c.1) : Seg heap' p l r := by
  induction l generalizing p with
  | nil => exact h
  | cons c l ih =>
    obtain ⟨q, a⟩ := c
    obtain ⟨hp, next, hq, hl⟩ := h
    have hq' : heap' q = heap q := hsame (q, a) (List.mem_cons_self ..)
    exact ⟨hp, next, hq'.trans hq, ih hl fun c hc => hsame c (List.mem_cons_of_mem _ hc)⟩

theorem Seg.mem (h : Seg heap p l r) (hc : c ∈ l) : ∃ next, heap c.1 = some ⟨next, c.2⟩ := by
  induction l generalizing p with
  | nil => cases hc
  | cons d l ih =>
    obtain ⟨q, a⟩ := d
    obtain ⟨-, next, hq, hl⟩ := h
    rcases List.mem_cons.1 hc with rfl | hc
    · exact ⟨next, hq⟩
    · exact ih hl hc

theorem Seg.head (h : Seg heap p l none) : p = l.head?.map Prod.fst := by
  cases l with
  | nil => exact h
  | cons c l => exact h.1

/-- Two lists that end at NULL from one pointer are the same. -/
theorem Seg.unique (hl : Seg heap p l none) (hm : Seg heap p m none) : l = m := by
  induction l generalizing p m with
  | nil =>
    obtain rfl : p = none := hl
    cases m with
    | nil => rfl
    | cons c m => cases hm.1
  | cons c l ih =>
    obtain ⟨q, a⟩ := c
    obtain ⟨rfl, next, hq, hl⟩ := hl
    cases m with
    | nil => cases hm
    | cons d m =>
      obtain ⟨q', a'⟩ := d
      obtain ⟨hsome, next', hq', hm⟩ := hm
      obtain rfl : q = q' := Option.some.inj hsome
      rw [hq] at hq'
      cases hq'
      rw [ih hl hm]

/-- A list that leads to a freed cell has no end. -/
theorem Seg.not_dangling {q : ℕ} (hl : Seg heap p l (some q)) (hfree : heap q = none) : ¬ Seg heap p m none := by
  induction l generalizing p m with
  | nil =>
    obtain rfl : p = some q := hl
    intro hm
    cases m with
    | nil => cases hm
    | cons c m =>
      obtain ⟨q', a⟩ := c
      obtain ⟨hsome, next, hq', -⟩ := hm
      obtain rfl : q = q' := Option.some.inj hsome
      rw [hfree] at hq'
      cases hq'
  | cons c l ih =>
    obtain ⟨q₁, a⟩ := c
    obtain ⟨rfl, next, hq₁, hl⟩ := hl
    intro hm
    cases m with
    | nil => cases hm
    | cons d m =>
      obtain ⟨q', a'⟩ := d
      obtain ⟨hsome, next', hq', hm⟩ := hm
      obtain rfl : q₁ = q' := Option.some.inj hsome
      rw [hq₁] at hq'
      cases hq'
      exact ih hl hm

/-! ## Queues -/

/-- A list with pointers to its first and last cells. -/
structure Queue (α : Type*) where
  next : Option ℕ
  last : Option ℕ
  heap : Heap α

/-- The queue holds these cells. -/
structure HoldsCells (s : Queue α) (l : List (ℕ × α)) : Prop where
  nodup : (l.map Prod.fst).Nodup
  linked : Seg s.heap s.next l none
  last : s.last = l.getLast?.map Prod.fst

/-- The queue holds these values, in cells of its own. -/
def Holds (s : Queue α) (q : List α) : Prop := ∃ l, HoldsCells s l ∧ l.map Prod.snd = q

variable {s : Queue α}

theorem Holds.unique {q r : List α} (hq : Holds s q) (hr : Holds s r) : q = r := by
  obtain ⟨l, hl, rfl⟩ := hq
  obtain ⟨m, hm, rfl⟩ := hr
  rw [hl.linked.unique hm.linked]

theorem HoldsCells.empty (heap : Heap α) : HoldsCells ⟨none, none, heap⟩ [] := ⟨List.nodup_nil, rfl, rfl⟩

theorem HoldsCells.single {p : ℕ} (h : heap p = some ⟨none, a⟩) : HoldsCells ⟨some p, some p, heap⟩ [(p, a)] :=
  ⟨List.nodup_singleton p, ⟨rfl, none, h, rfl⟩, rfl⟩

/-- Only a list of one cell has the same first and last cell. -/
theorem HoldsCells.next_eq_last_iff (h : HoldsCells s (c :: l)) : s.next = s.last ↔ l = [] := by
  have hnext : s.next = some c.1 := h.linked.head
  rw [hnext, h.last]
  rcases List.eq_nil_or_concat' l with rfl | ⟨l, d, rfl⟩
  · exact iff_of_true rfl rfl
  · refine iff_of_false (fun heq => ?_) (List.append_ne_nil_of_right_ne_nil _ (List.cons_ne_nil _ _))
    rw [← List.cons_append, List.getLast?_concat] at heq
    have hnodup := h.nodup
    rw [List.map_cons, List.nodup_cons] at hnodup
    refine hnodup.1 (List.mem_map.2 ⟨d, List.mem_append_right _ (List.mem_singleton_self d), ?_⟩)
    exact (Option.some.inj heq).symm

/-- The first cell goes, and the tail pointer with it if it was the only one. -/
theorem HoldsCells.tail {p : ℕ} (h : HoldsCells s ((p, a) :: l)) (hsame : ∀ c ∈ l, heap c.1 = s.heap c.1) :
    ∃ next, s.heap p = some ⟨next, a⟩ ∧
      HoldsCells ⟨next, if s.last = some p then none else s.last, heap⟩ l := by
  obtain ⟨-, next, hp, hl⟩ := h.linked
  have hnodup := h.nodup
  rw [List.map_cons, List.nodup_cons] at hnodup
  refine ⟨next, hp, hnodup.2, hl.congr hsame, ?_⟩
  rcases List.eq_nil_or_concat' l with rfl | ⟨l, c, rfl⟩
  · rw [if_pos (by rw [h.last]; rfl)]
    rfl
  · have hlast : s.last = some c.1 := by
      rw [h.last, ← List.cons_append, List.getLast?_concat]
      rfl
    have hne : c.1 ≠ p := by
      intro hcp
      refine hnodup.1 (List.mem_map.2 ⟨c, ?_, hcp⟩)
      exact List.mem_append_right _ (List.mem_singleton_self c)
    have hnot : ¬ s.last = some p := by
      rw [hlast, Option.some.injEq]
      exact hne
    rw [if_neg hnot, hlast, List.getLast?_concat]
    rfl

/-- A new cell is linked behind the last one. -/
theorem HoldsCells.snoc {p : ℕ} (h : HoldsCells s (l ++ [c])) (hfree : s.heap p = none) :
    HoldsCells ⟨s.next, some p,
      Function.update (Function.update s.heap p (some ⟨none, a⟩)) c.1 (some ⟨some p, c.2⟩)⟩
      (l ++ [c] ++ [(p, a)]) := by
  have hne : ∀ d ∈ l ++ [c], d.1 ≠ p := by
    rintro d hd rfl
    obtain ⟨next, hnext⟩ := h.linked.mem hd
    rw [hfree] at hnext
    cases hnext
  have hnodup := h.nodup
  rw [List.map_append, List.nodup_append] at hnodup
  obtain ⟨q, hl, hc, next, hnext, hend⟩ := seg_append.1 h.linked
  have hcp : c.1 ≠ p := hne c (List.mem_append_right _ (List.mem_singleton_self c))
  constructor
  · rw [List.map_append, List.nodup_append]
    refine ⟨h.nodup, List.nodup_singleton _, ?_⟩
    intro q' hq' e he hqe
    obtain ⟨d, hd, hdq⟩ := List.mem_map.1 hq'
    exact hne d hd (hdq.trans (hqe.trans (List.mem_singleton.1 he)))
  · rw [seg_append, List.singleton_append.symm]
    refine ⟨some p, ?_, rfl, none, ?_, rfl⟩
    · rw [seg_append]
      refine ⟨q, hl.congr ?_, hc, some p, ?_, rfl⟩
      · intro d hd
        have hdc : d.1 ≠ c.1 := hnodup.2.2 d.1 (List.mem_map_of_mem hd) c.1 (List.mem_singleton_self _)
        dsimp only
        rw [Function.update_of_ne hdc, Function.update_of_ne (hne d (List.mem_append_left _ hd))]
      · exact Function.update_self ..
    · show Function.update (Function.update s.heap p (some ⟨none, a⟩)) c.1 _ p = _
      rw [Function.update_of_ne hcp.symm, Function.update_self]
  · rw [List.getLast?_concat]
    rfl

end AugmentedInsanity.LinkedQueue
