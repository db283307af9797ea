/-
Lists that are cut at a separator. A scanner that goes through such a list one element at a time is in the middle of a
segment, of which some is left: `Rest` says what the list may go on with, in terms of that, and an element takes a rest
to a rest (`rest_cons_sep`, `rest_cons`).
-/
import Mathlib.Data.List.Basic

namespace AugmentedInsanity.Segments

variable {α : Type*} {sep : α} {P Q Q' : List α → Prop} {a : α} {l : List α} {segments : List (List α)}

/-- The segments, each after a separator. -/
def joined (sep : α) (segments : List (List α)) : List α := segments.flatMap (sep :: ·)

/-- The list is the rest of a segment that meets `Q`, and segments that meet `P`. -/
def Rest (sep : α) (P Q : List α → Prop) (l : List α) : Prop :=
  ∃ (t : List α) (segments : List (List α)), l = t ++ joined sep segments ∧ sep ∉ t ∧ Q t ∧
    ∀ s ∈ segments, sep ∉ s ∧ P s

theorem joined_eq_nil : joined sep segments = [] ↔ segments = [] := by
  cases segments with
  | nil => exact iff_of_true rfl rfl
  | cons s segments => exact iff_of_false nofun nofun

/-- A list that starts with something else does not start with a segment. -/
theorem head_joined (h : a :: l = joined sep segments) : a = sep := by
  cases segments with
  | nil => cases h
  | cons s segments => exact (List.cons.inj h).1

theorem rest_congr (h : ∀ t, Q t ↔ Q' t) : Rest sep P Q l ↔ Rest sep P Q' l := by
  rw [show Q = Q' from funext fun t => propext (h t)]

theorem rest_nil : Rest sep P Q [] ↔ Q [] := by
  constructor
  · rintro ⟨t, segments, hl, -, hQ, -⟩
    rwa [(List.append_eq_nil_iff.1 hl.symm).1] at hQ
  · exact fun hQ => ⟨[], [], rfl, List.not_mem_nil, hQ, List.forall_mem_nil _⟩

/-- A separator ends the segment, and the next one is all there is to be read. -/
theorem rest_cons_sep : Rest sep P Q (sep :: l) ↔ Q [] ∧ Rest sep P P l := by
  constructor
  · rintro ⟨t, segments, hl, hsep, hQ, hP⟩
    cases t with
    | cons b t => exact absurd ((List.cons.inj hl).1 ▸ List.mem_cons_self) hsep
    | nil =>
      cases segments with
      | nil => cases hl
      | cons s segments =>
        obtain ⟨⟨hs, hPs⟩, hrest⟩ := List.forall_mem_cons.1 hP
        exact ⟨hQ, s, segments, (List.cons.inj hl).2, hs, hPs, hrest⟩
  · rintro ⟨hQ, s, segments, rfl, hs, hPs, hrest⟩
    exact ⟨[], s :: segments, rfl, List.not_mem_nil, hQ, List.forall_mem_cons.2 ⟨⟨hs, hPs⟩, hrest⟩⟩

/-- Anything else belongs to the segment. -/
theorem rest_cons (ha : a ≠ sep) : Rest sep P Q (a :: l) ↔ Rest sep P (fun t => Q (a :: t)) l := by
  constructor
  · rintro ⟨t, segments, hl, hsep, hQ, hP⟩
    cases t with
    | nil => exact absurd (head_joined hl) ha
    | cons b t =>
      obtain ⟨rfl, rfl⟩ := List.cons.inj hl
      exact ⟨t, segments, rfl, fun hmem => hsep (List.mem_cons_of_mem _ hmem), hQ, hP⟩
  · rintro ⟨t, segments, rfl, hsep, hQ, hP⟩
    exact ⟨a :: t, segments, rfl, List.not_mem_cons_of_ne_of_not_mem ha.symm hsep, hQ, hP⟩

/-- A rest that nothing meets. -/
theorem not_rest (h : ∀ t, ¬ Q t) : ¬ Rest sep P Q l := fun ⟨t, _, _, _, hQ, _⟩ => h t hQ

/-- The lists that are made of segments start with a separator. -/
theorem segments_cons_iff :
    (∃ segments, segments ≠ [] ∧ sep :: l = joined sep segments ∧ ∀ s ∈ segments, sep ∉ s ∧ P s) ↔
      Rest sep P P l := by
  constructor
  · rintro ⟨segments, hne, hl, hP⟩
    cases segments with
    | nil => exact absurd rfl hne
    | cons s segments =>
      obtain ⟨⟨hs, hPs⟩, hrest⟩ := List.forall_mem_cons.1 hP
      exact ⟨s, segments, (List.cons.inj hl).2, hs, hPs, hrest⟩
  · rintro ⟨s, segments, rfl, hs, hPs, hrest⟩
    exact ⟨s :: segments, List.cons_ne_nil _ _, rfl, List.forall_mem_cons.2 ⟨⟨hs, hPs⟩, hrest⟩⟩

end AugmentedInsanity.Segments
