/-
A reader that is given its input in chunks and may stop at an item: what is left of the chunk is dropped, and
the next chunk is read from where the reader stopped. `chunkFree_iff` says for which inputs the way they are
cut does not show in what is given out.
-/
import Mathlib.Algebra.Ring.Nat
import Mathlib.Data.List.Basic

namespace AugmentedInsanity.DroppedChunks

/-- What one item does: the state after it, what is given out for it, and if the chunk is left. -/
structure Reader (σ α β : Type*) where
  next : σ → α → σ
  out : σ → α → List β
  stops : σ → α → Bool

variable {σ α β : Type*} (r : Reader σ α β)

namespace Reader

/-- One chunk. -/
def push : σ → List α → σ × List β
  | s, [] => (s, [])
  | s, a :: l =>
    if r.stops s a then (r.next s a, r.out s a)
    else ((push (r.next s a) l).1, r.out s a ++ (push (r.next s a) l).2)

/-- One chunk after the other. -/
def feed : σ → List (List α) → List β
  | _, [] => []
  | s, chunk :: chunks => (r.push s chunk).2 ++ feed (r.push s chunk).1 chunks

/-- The first stop in an input that comes in one chunk, with what it drops. -/
def stop : σ → List α → Option (σ × List α)
  | _, [] => none
  | s, a :: l => if r.stops s a then some (r.next s a, l) else stop (r.next s a) l

/-- Something is given out for one way to cut the input. After a stop any part of it may have been dropped. -/
inductive Gives : σ → List α → Prop
  | now {s a l} : r.out s a ≠ [] → Gives s (a :: l)
  | later {s a l} : r.stops s a = false → Gives (r.next s a) l → Gives s (a :: l)
  | skip {s a l} (k : ℕ) : r.stops s a = true → Gives (r.next s a) (l.drop k) → Gives s (a :: l)

variable {r} {s : σ} {l : List α}

/-! ## One item -/

theorem gives_cons_later {a : α} (hout : r.out s a = []) (hgo : r.stops s a = false) :
    r.Gives s (a :: l) ↔ r.Gives (r.next s a) l := by
  constructor
  · intro h
    cases h with
    | now hnow => exact absurd hout hnow
    | later _ h => exact h
    | skip k hstop _ => rw [hgo] at hstop; cases hstop
  · exact .later hgo

theorem gives_cons_stop {a : α} (hout : r.out s a = []) (hstop : r.stops s a = true) :
    r.Gives s (a :: l) ↔ ∃ k, r.Gives (r.next s a) (l.drop k) := by
  constructor
  · intro h
    cases h with
    | now hnow => exact absurd hout hnow
    | later hgo _ => rw [hstop] at hgo; cases hgo
    | skip k _ h => exact ⟨k, h⟩
  · rintro ⟨k, h⟩
    exact .skip k hstop h

/-! ## One chunk -/

theorem gives_of_push {chunk rest : List α} (h : (r.push s chunk).2 ≠ []) : r.Gives s (chunk ++ rest) := by
  induction chunk generalizing s with
  | nil => exact absurd rfl h
  | cons a chunk ih =>
    rw [push] at h
    by_cases hout : r.out s a = []
    · rcases hstop : r.stops s a with _ | _
      · rw [hstop, if_neg Bool.false_ne_true, hout, List.nil_append] at h
        exact .later hstop (ih h)
      · rw [hstop, if_pos rfl] at h
        exact absurd hout h
    · exact .now hout

theorem gives_of_push_gives {chunk rest : List α} (h : r.Gives (r.push s chunk).1 rest) :
    r.Gives s (chunk ++ rest) := by
  induction chunk generalizing s with
  | nil => exact h
  | cons a chunk ih =>
    rw [push] at h
    rcases hstop : r.stops s a with _ | _
    · rw [hstop, if_neg Bool.false_ne_true] at h
      exact .later hstop (ih h)
    · rw [hstop, if_pos rfl] at h
      rw [List.cons_append]
      exact .skip chunk.length hstop (by rwa [List.drop_left])

theorem stop_some {s t : σ} {l rest : List α} (h : r.stop s l = some (t, rest)) :
    ∃ pre, l = pre ++ rest ∧ ∀ more, r.push s (pre ++ more) = (t, (r.push s l).2) := by
  induction l generalizing s with
  | nil => cases h
  | cons a l ih =>
    rw [stop] at h
    rcases hstop : r.stops s a with _ | _
    · rw [hstop, if_neg Bool.false_ne_true] at h
      obtain ⟨pre, rfl, hpush⟩ := ih h
      refine ⟨a :: pre, rfl, fun more => ?_⟩
      rw [List.cons_append, push, push, hstop, if_neg Bool.false_ne_true, if_neg Bool.false_ne_true, hpush]
    · rw [hstop, if_pos rfl] at h
      cases h
      exact ⟨[a], rfl, fun more => by simp only [List.singleton_append, push, hstop, if_true]⟩

theorem stop_none_append {chunk : List α} (rest : List α) (h : r.stop s chunk = none) :
    r.stop s (chunk ++ rest) = r.stop (r.push s chunk).1 rest ∧
      (r.push s (chunk ++ rest)).2 = (r.push s chunk).2 ++ (r.push (r.push s chunk).1 rest).2 := by
  induction chunk generalizing s with
  | nil => exact ⟨rfl, rfl⟩
  | cons a chunk ih =>
    rw [stop] at h
    rcases hstop : r.stops s a with _ | _
    · rw [hstop, if_neg Bool.false_ne_true] at h
      obtain ⟨hrest, hpush⟩ := ih h
      simp only [List.cons_append, stop, push, hstop, if_neg Bool.false_ne_true]
      exact ⟨hrest, by rw [hpush, List.append_assoc]⟩
    · rw [hstop, if_pos rfl] at h
      cases h

theorem stop_some_append {s t : σ} {chunk left : List α} (rest : List α) (h : r.stop s chunk = some (t, left)) :
    r.stop s (chunk ++ rest) = some (t, left ++ rest) := by
  induction chunk generalizing s with
  | nil => cases h
  | cons a chunk ih =>
    rw [stop] at h
    rw [List.cons_append, stop]
    rcases hstop : r.stops s a with _ | _
    · rw [hstop, if_neg Bool.false_ne_true] at h
      rw [if_neg Bool.false_ne_true]
      exact ih h
    · rw [hstop, if_pos rfl] at h
      cases h
      rw [if_pos rfl]

/-! ## Every way to cut -/

/-- `Gives` is about the ways to cut the input. -/
theorem gives_iff_exists_feed : r.Gives s l ↔ ∃ chunks, chunks.flatten = l ∧ r.feed s chunks ≠ [] := by
  constructor
  · intro h
    induction h with
    | @now s a l hout =>
      refine ⟨[[a], l], by simp, ?_⟩
      rcases hstop : r.stops s a with _ | _ <;> simp [feed, push, hstop, hout]
    | @later s a l hgo _ ih =>
      obtain ⟨chunks, rfl, hfeed⟩ := ih
      refine ⟨[a] :: chunks, rfl, ?_⟩
      rw [feed]
      simp [push, hgo, hfeed]
    | @skip s a l k hstop _ ih =>
      -- the chunk ends behind what is dropped
      obtain ⟨chunks, hflat, hfeed⟩ := ih
      refine ⟨(a :: l.take k) :: chunks, by simp [hflat], ?_⟩
      rw [feed]
      simp [push, hstop, hfeed]
  · rintro ⟨chunks, rfl, hfeed⟩
    induction chunks generalizing s with
    | nil => exact absurd rfl hfeed
    | cons chunk chunks ih =>
      rw [feed] at hfeed
      rw [List.flatten_cons]
      by_cases hpush : (r.push s chunk).2 = []
      · rw [hpush, List.nil_append] at hfeed
        exact gives_of_push_gives (ih hfeed)
      · exact gives_of_push hpush

theorem feed_singleton (s : σ) (l : List α) : r.feed s [l] = (r.push s l).2 := by
  rw [feed, feed, List.append_nil]

theorem chunkFree_iff (r : Reader σ α β) (s : σ) (l : List α) :
    (∀ chunks : List (List α), chunks.flatten = l → r.feed s chunks = r.feed s [l]) ↔
      ∀ t rest, r.stop s l = some (t, rest) → ∀ k, ¬ r.Gives t (rest.drop k) := by
  constructor
  · intro h t rest hstop k hgives
    obtain ⟨chunks, hflat, hfeed⟩ := gives_iff_exists_feed.1 hgives
    obtain ⟨pre, rfl, hpush⟩ := stop_some hstop
    have hcut := h ((pre ++ rest.take k) :: chunks) (by
      rw [List.flatten_cons, hflat, List.append_assoc, List.take_append_drop])
    rw [feed_singleton, feed, hpush, List.append_right_eq_self] at hcut
    exact hfeed hcut
  · intro h chunks hflat
    induction chunks generalizing s l with
    | nil =>
      rw [List.flatten_nil] at hflat
      rw [← hflat, feed_singleton]
      rfl
    | cons chunk chunks ih =>
      rw [List.flatten_cons] at hflat
      rw [feed_singleton, feed, ← hflat]
      rcases hchunk : r.stop s chunk with _ | ⟨t, left⟩
      · obtain ⟨hrest, hpush⟩ := stop_none_append chunks.flatten hchunk
        have hstops : ∀ t rest, r.stop (r.push s chunk).1 chunks.flatten = some (t, rest) →
            ∀ k, ¬ r.Gives t (rest.drop k) := by
          intro t rest hstop
          refine h t rest ?_
          rw [← hflat, hrest, hstop]
        rw [hpush, ih _ _ hstops rfl, feed_singleton]
      · have hnone := h t (left ++ chunks.flatten) (by rw [← hflat]; exact stop_some_append _ hchunk) left.length
        rw [List.drop_left, gives_iff_exists_feed] at hnone
        push Not at hnone
        obtain ⟨pre, hpre, hpush⟩ := stop_some hchunk
        have hone : (r.push s chunk).1 = t := by
          have := hpush left
          rw [← hpre] at this
          rw [this]
        have hall : (r.push s (chunk ++ chunks.flatten)).2 = (r.push s chunk).2 := by
          have := hpush (left ++ chunks.flatten)
          rw [← List.append_assoc, ← hpre] at this
          rw [this]
        rw [hall, hone, hnone chunks rfl, List.append_nil]

end Reader

/-! ## Where the rest may begin -/

/-- What is dropped ends in the first segment or behind its delimiter. -/
theorem exists_drop_segment {P : List α → Prop} (w : List α) (z : α) (rest : List α) :
    (∃ k, P ((w ++ z :: rest).drop k)) ↔ (∃ x, x <:+ w ∧ P (x ++ z :: rest)) ∨ ∃ k, P (rest.drop k) := by
  constructor
  · rintro ⟨k, h⟩
    by_cases hk : k ≤ w.length
    · rw [List.drop_append_of_le_length hk] at h
      exact Or.inl ⟨w.drop k, List.drop_suffix k w, h⟩
    · refine Or.inr ⟨k - w.length - 1, ?_⟩
      have hdrop : (w ++ z :: rest).drop k = rest.drop (k - w.length - 1) := by
        obtain ⟨j, rfl⟩ : ∃ j, k = w.length + (j + 1) := ⟨k - w.length - 1, by omega⟩
        rw [List.drop_length_add_append, List.drop_succ_cons]
        congr 1
        omega
      rwa [hdrop] at h
  · rintro (⟨x, ⟨y, rfl⟩, h⟩ | ⟨k, h⟩)
    · exact ⟨y.length, by rwa [List.append_assoc, List.drop_left]⟩
    · refine ⟨w.length + (k + 1), ?_⟩
      rwa [List.drop_length_add_append, List.drop_succ_cons]

/-- The segments, each with a delimiter behind it. -/
def framed (z : α) (ws : List (List α)) : List α := ws.flatMap (· ++ [z])

@[simp] theorem framed_nil (z : α) : framed z [] = [] := rfl

theorem framed_cons (z : α) (w : List α) (ws : List (List α)) : framed z (w :: ws) = w ++ z :: framed z ws := by
  simp [framed]

theorem framed_append (z : α) (ws vs : List (List α)) : framed z (ws ++ vs) = framed z ws ++ framed z vs :=
  List.flatMap_append

/-- Every input is some segments and what follows the last delimiter. -/
theorem exists_framed [DecidableEq α] (z : α) (l : List α) :
    ∃ ws tail, l = framed z ws ++ tail ∧ (∀ w ∈ ws, z ∉ w) ∧ z ∉ tail := by
  induction l with
  | nil => exact ⟨[], [], rfl, by simp, by simp⟩
  | cons a l ih =>
    obtain ⟨ws, tail, rfl, hws, htail⟩ := ih
    by_cases ha : a = z
    · refine ⟨[] :: ws, tail, ?_, ?_, htail⟩
      · rw [framed_cons, ha]
        rfl
      · intro w hw
        rcases List.mem_cons.1 hw with rfl | hw
        · exact List.not_mem_nil
        · exact hws w hw
    · cases ws with
      | nil => exact ⟨[], a :: tail, rfl, by simp, fun h => (List.mem_cons.1 h).elim (fun h => ha h.symm) htail⟩
      | cons w ws =>
        refine ⟨(a :: w) :: ws, tail, ?_, ?_, htail⟩
        · rw [framed_cons, framed_cons]
          rfl
        · intro v hv
          rcases List.mem_cons.1 hv with rfl | hv
          · exact fun h => (List.mem_cons.1 h).elim (fun h => ha h.symm) (hws w List.mem_cons_self)
          · exact hws v (List.mem_cons_of_mem _ hv)

end AugmentedInsanity.DroppedChunks
