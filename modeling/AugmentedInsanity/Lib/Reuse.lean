/-
A loop that goes over a list and, where an earlier element is close enough, takes over what was computed for it.
Each result is then the one of an element that a chain of close ones leads from (`reusing_spec`). Where the index of the
earlier element is known beforehand, so is the element that a result is the one of (`copying_spec`); this is the same
loop where the index is that of the first close element (`reusing_eq`).
-/
import Mathlib.Data.List.Find
import Mathlib.Data.List.Induction

namespace AugmentedInsanity.Reuse

open Relation

variable {α β ε : Type} (close : α → α → Bool) (f : α → Except ε β)

/-- What was computed for the first of `done` that is close to `a`. -/
def findClose (done : List (α × β)) (a : α) : Option β := (done.find? fun p => close p.1 a).map Prod.snd

def reusingFrom : List (α × β) → List α → Except ε (List β)
  | done, [] => .ok (done.map Prod.snd)
  | done, a :: rest =>
    match findClose close done a with
    | some b => reusingFrom (done ++ [(a, b)]) rest
    | none =>
      match f a with
      | .error e => .error e
      | .ok b => reusingFrom (done ++ [(a, b)]) rest

def reusing (l : List α) : Except ε (List β) := reusingFrom close f [] l

/-- The element at `k` is before the one at `i`, and close to it. -/
def Earlier (l : List α) (k i : ℕ) : Prop := k < i ∧ ∃ a b, l[k]? = some a ∧ l[i]? = some b ∧ close a b = true

/-- From one position to another over elements that are each close to the next. -/
abbrev Linked (l : List α) : ℕ → ℕ → Prop := ReflTransGen (Earlier close l)

/-- What is done so far comes from elements that are linked to it. -/
def Sourced (done : List (α × β)) : Prop :=
  ∀ (i : ℕ) p, done[i]? = some p →
    ∃ (j : ℕ) (p' : α × β), done[j]? = some p' ∧ Linked close (done.map Prod.fst) j i ∧ f p'.1 = .ok p.2

variable {close f} {l : List α} {done : List (α × β)} {rest : List α} {out : List β}

theorem Linked.append {j i : ℕ} (h : Linked close l j i) (l' : List α) : Linked close (l ++ l') j i := by
  have hstep : ∀ k i, Earlier close l k i → Earlier close (l ++ l') k i := by
    rintro k i ⟨hlt, a, b, ha, hb, hclose⟩
    have hk := (List.getElem?_eq_some_iff.mp ha).1
    have hi := (List.getElem?_eq_some_iff.mp hb).1
    exact ⟨hlt, a, b, by rw [List.getElem?_append_left hk, ha], by rw [List.getElem?_append_left hi, hb], hclose⟩
  exact ReflTransGen.mono hstep j i h

/-- What all close elements share is shared along links. -/
theorem Linked.shared {γ : Type} {g : α → γ} (hg : ∀ a b, close a b = true → g a = g b) {j i : ℕ}
    (h : Linked close l j i) {a b : α} (ha : l[j]? = some a) (hb : l[i]? = some b) : g a = g b := by
  induction h generalizing b with
  | refl =>
    rw [ha] at hb
    cases hb
    rfl
  | tail _ hki ih =>
    obtain ⟨-, c, d, hc, hd, hclose⟩ := hki
    rw [hd] at hb
    cases hb
    exact (ih hc).trans (hg c _ hclose)

/-- An element with its result is added, behind those it may have been taken over from. -/
theorem Sourced.snoc (h : Sourced close f done) {a : α} {b : β} (hnew : f a = .ok b ∨ findClose close done a = some b) :
    Sourced close f (done ++ [(a, b)]) := by
  have hlast : (done ++ [(a, b)])[done.length]? = some (a, b) := List.getElem?_concat_length
  have hkeep : ∀ {j i : ℕ} {p' : α × β}, done[j]? = some p' → Linked close (done.map Prod.fst) j i →
      (done ++ [(a, b)])[j]? = some p' ∧ Linked close ((done ++ [(a, b)]).map Prod.fst) j i := by
    intro j i p' hj hlinked
    rw [List.getElem?_append_left (List.getElem?_eq_some_iff.mp hj).1, List.map_append]
    exact ⟨hj, hlinked.append _⟩
  intro i p hi
  by_cases hlt : i < done.length
  · rw [List.getElem?_append_left hlt] at hi
    obtain ⟨j, p', hj, hlinked, hf⟩ := h i p hi
    exact ⟨j, p', (hkeep hj hlinked).1, (hkeep hj hlinked).2, hf⟩
  · have hlen := (List.getElem?_eq_some_iff.mp hi).1
    rw [List.length_append, List.length_singleton] at hlen
    have hend : i = done.length := by omega
    subst hend
    rw [hlast] at hi
    cases hi
    rcases hnew with hf | hfound
    · exact ⟨done.length, (a, b), hlast, .refl, hf⟩
    · obtain ⟨p, hp, hpb⟩ := Option.map_eq_some_iff.mp hfound
      obtain ⟨k, hk⟩ := List.getElem?_of_mem (List.mem_of_find?_eq_some hp)
      obtain ⟨j, p', hj, hlinked, hf⟩ := h k p hk
      have hklt := (List.getElem?_eq_some_iff.mp hk).1
      have hclose : close p.1 a = true := by simpa using List.find?_some hp
      refine ⟨j, p', (hkeep hj hlinked).1, (hkeep hj hlinked).2.tail ⟨hklt, p.1, a, ?_, ?_, hclose⟩, hpb ▸ hf⟩
      · rw [List.getElem?_map, List.getElem?_append_left hklt, hk, Option.map_some]
      · rw [List.getElem?_map, hlast, Option.map_some]

theorem reusingFrom_spec (h : Sourced close f done) (hout : reusingFrom close f done rest = .ok out) :
    ∃ pairs, pairs.map Prod.fst = done.map Prod.fst ++ rest ∧ pairs.map Prod.snd = out ∧ Sourced close f pairs := by
  induction rest generalizing done with
  | nil =>
    cases hout
    exact ⟨done, (List.append_nil _).symm, rfl, h⟩
  | cons a rest ih =>
    rw [reusingFrom] at hout
    cases hfound : findClose close done a with
    | some b =>
      rw [hfound] at hout
      obtain ⟨pairs, hfst, hsnd, hsourced⟩ := ih (h.snoc (.inr hfound)) hout
      exact ⟨pairs, by simpa using hfst, hsnd, hsourced⟩
    | none =>
      rw [hfound] at hout
      cases hf : f a with
      | error e =>
        rw [hf] at hout
        cases hout
      | ok b =>
        rw [hf] at hout
        obtain ⟨pairs, hfst, hsnd, hsourced⟩ := ih (h.snoc (.inl hf)) hout
        exact ⟨pairs, by simpa using hfst, hsnd, hsourced⟩

/-- Each result is the one of an element that is linked to its own. -/
theorem reusing_spec (hout : reusing close f l = .ok out) :
    out.length = l.length ∧ ∀ (i : ℕ) (a : α) (b : β), l[i]? = some a → out[i]? = some b →
      ∃ (j : ℕ) (a' : α), l[j]? = some a' ∧ Linked close l j i ∧ f a' = .ok b := by
  have hstart : Sourced close f ([] : List (α × β)) := by
    rintro i p ⟨⟩
  obtain ⟨pairs, hfst, hsnd, hsourced⟩ := reusingFrom_spec hstart hout
  rw [List.map_nil, List.nil_append] at hfst
  subst hfst hsnd
  refine ⟨by simp, fun i a b ha hb => ?_⟩
  rw [List.getElem?_map] at ha hb
  obtain ⟨p, hp, rfl⟩ := Option.map_eq_some_iff.mp ha
  rw [hp] at hb
  cases hb
  obtain ⟨j, p', hj, hlinked, hf⟩ := hsourced i p hp
  exact ⟨j, p'.1, by rw [List.getElem?_map, hj, Option.map_some], hlinked, hf⟩

/-- An error is the one of an element. -/
theorem reusingFrom_error {e : ε} (h : reusingFrom close f done rest = .error e) : ∃ a ∈ rest, f a = .error e := by
  induction rest generalizing done with
  | nil => cases h
  | cons a rest ih =>
    rw [reusingFrom] at h
    split at h
    · obtain ⟨a', ha', hf⟩ := ih h
      exact ⟨a', List.mem_cons_of_mem a ha', hf⟩
    · split at h
      · next e' hf =>
        cases h
        exact ⟨a, List.mem_cons_self, hf⟩
      · obtain ⟨a', ha', hf⟩ := ih h
        exact ⟨a', List.mem_cons_of_mem a ha', hf⟩

theorem reusing_error {e : ε} (h : reusing close f l = .error e) : ∃ a ∈ l, f a = .error e :=
  reusingFrom_error h

/-! ## By index -/

variable (found : ℕ → Option ℕ)

section
variable (f)

/-- The loop over the elements that are left, where `found` gives the index to copy from. -/
def copyingFrom : List β → List α → Except ε (List β)
  | out, [] => .ok out
  | out, a :: rest =>
    match (found out.length).bind (out[·]?) with
    | some b => copyingFrom (out ++ [b]) rest
    | none =>
      match f a with
      | .error e => .error e
      | .ok b => copyingFrom (out ++ [b]) rest

def copying (l : List α) : Except ε (List β) := copyingFrom f found [] l

end

/-- Where a result comes from in the end. -/
def source (i : ℕ) : ℕ :=
  match found i with
  | none => i
  | some k => if k < i then source k else i

variable {found}

theorem source_none {i : ℕ} (h : found i = none) : source found i = i := by
  rw [source, h]

theorem source_some {i k : ℕ} (h : found i = some k) (hlt : k < i) : source found i = source found k := by
  rw [source, h]
  exact if_pos hlt

theorem source_ge {i k : ℕ} (h : found i = some k) (hge : i ≤ k) : source found i = i := by
  rw [source, h]
  exact if_neg (Nat.not_lt.2 hge)

/-- What each element has in common with the one it is copied from, it has in common with its source. -/
theorem source_shared {γ : Type} {g : ℕ → γ} (hg : ∀ i k, found i = some k → k < i → g k = g i) (i : ℕ) :
    g (source found i) = g i := by
  induction i using Nat.strongRecOn with
  | ind i ih =>
    cases hfound : found i with
    | none => rw [source_none hfound]
    | some k =>
      by_cases hlt : k < i
      · rw [source_some hfound hlt, ih k hlt, hg i k hfound hlt]
      · rw [source_ge hfound (Nat.not_lt.1 hlt)]

/-- The results so far are those of their sources. -/
def FromSources (f : α → Except ε β) (found : ℕ → Option ℕ) (l : List α) (out : List β) : Prop :=
  ∀ (i : ℕ) b, out[i]? = some b → ∃ a, l[source found i]? = some a ∧ f a = .ok b

theorem FromSources.snoc {a : α} {b : β} (h : FromSources f found l out) (ha : l[out.length]? = some a)
    (hb : (found out.length).bind (out[·]?) = some b ∨ ((found out.length).bind (out[·]?) = none ∧ f a = .ok b)) :
    FromSources f found l (out ++ [b]) := by
  intro i b' hi
  by_cases hlt : i < out.length
  · rw [List.getElem?_append_left hlt] at hi
    exact h i b' hi
  · have hlast : i = out.length := by
      have hi := (List.getElem?_eq_some_iff.1 hi).1
      rw [List.length_append, List.length_singleton] at hi
      omega
    subst hlast
    rw [List.getElem?_concat_length] at hi
    cases hi
    rcases hb with hcopied | ⟨hnone, hf⟩
    · obtain ⟨k, hfound, hk⟩ := Option.bind_eq_some_iff.1 hcopied
      rw [source_some hfound (List.getElem?_eq_some_iff.1 hk).1]
      exact h k b hk
    · -- Nothing earlier is copied: the element is its own source.
      have hown : source found out.length = out.length := by
        cases hfound : found out.length with
        | none => exact source_none hfound
        | some k =>
          rw [hfound] at hnone
          exact source_ge hfound (List.getElem?_eq_none_iff.1 hnone)
      rw [hown]
      exact ⟨a, ha, hf⟩

theorem copyingFrom_spec {out out' : List β} (h : FromSources f found l out) (hrest : l.drop out.length = rest)
    (hlen : out.length ≤ l.length) (hout : copyingFrom f found out rest = .ok out') :
    out'.length = l.length ∧ FromSources f found l out' := by
  induction rest generalizing out with
  | nil =>
    cases hout
    have hend := List.drop_eq_nil_iff.1 hrest
    exact ⟨Nat.le_antisymm hlen hend, h⟩
  | cons a rest ih =>
    have ha : l[out.length]? = some a := by
      rw [← List.head?_drop, hrest]
      rfl
    have hlt := (List.getElem?_eq_some_iff.1 ha).1
    have hnext : ∀ b, l.drop (out ++ [b]).length = rest := by
      intro b
      rw [List.length_append, List.length_singleton, ← List.tail_drop, hrest]
      rfl
    have hfits : ∀ b : β, (out ++ [b]).length ≤ l.length := by
      intro b
      rw [List.length_append, List.length_singleton]
      exact hlt
    rw [copyingFrom] at hout
    cases hcopied : (found out.length).bind (out[·]?) with
    | some b =>
      rw [hcopied] at hout
      exact ih (h.snoc ha (Or.inl hcopied)) (hnext b) (hfits b) hout
    | none =>
      rw [hcopied] at hout
      cases hf : f a with
      | error e =>
        rw [hf] at hout
        cases hout
      | ok b =>
        rw [hf] at hout
        exact ih (h.snoc ha (Or.inr ⟨hcopied, hf⟩)) (hnext b) (hfits b) hout

/-- Each result is the one of the source of its index. -/
theorem copying_spec (hout : copying f found l = .ok out) : out.length = l.length ∧ FromSources f found l out := by
  have hstart : FromSources f found l ([] : List β) := by
    rintro i b ⟨⟩
  exact copyingFrom_spec hstart rfl (Nat.zero_le _) hout

theorem copyingFrom_ok (h : ∀ a ∈ rest, ∃ b, f a = .ok b) (out : List β) :
    ∃ out', copyingFrom f found out rest = .ok out' := by
  induction rest generalizing out with
  | nil => exact ⟨out, rfl⟩
  | cons a rest ih =>
    have ih := ih fun a' ha' => h a' (List.mem_cons_of_mem a ha')
    rw [copyingFrom]
    cases (found out.length).bind (out[·]?) with
    | some b => exact ih (out ++ [b])
    | none =>
      obtain ⟨b, hb⟩ := h a List.mem_cons_self
      rw [hb]
      exact ih (out ++ [b])

/-- Taking over from the first close element is copying from its index. -/
theorem reusingFrom_eq (hl : done.map Prod.fst ++ rest = l)
    (hfound : ∀ (i : ℕ) a, l[i]? = some a → found i = (l.take i).findIdx? (close · a)) :
    reusingFrom close f done rest = copyingFrom f found (done.map Prod.snd) rest := by
  induction rest generalizing done with
  | nil => rfl
  | cons a rest ih =>
    have hnext (b : β) : reusingFrom close f (done ++ [(a, b)]) rest =
        copyingFrom f found (done.map Prod.snd ++ [b]) rest := by
      rw [ih (by simpa using hl), List.map_append, List.map_singleton]
    have hclose : findClose close done a = (found (done.map Prod.snd).length).bind ((done.map Prod.snd)[·]?) := by
      have ha : l[done.length]? = some a := by simp [← hl]
      have hdone : l.take done.length = done.map Prod.fst := hl ▸ List.take_left' (List.length_map _)
      rw [findClose, List.find?_eq_bind_findIdx?_getElem?, List.length_map, hfound _ a ha, hdone, List.findIdx?_map,
        Option.map_bind]
      simp only [List.getElem?_map, Function.comp_def]
    rw [reusingFrom, copyingFrom, hclose]
    split
    · exact hnext _
    · split
      · rfl
      · exact hnext _

theorem reusing_eq (hfound : ∀ (i : ℕ) a, l[i]? = some a → found i = (l.take i).findIdx? (close · a)) :
    reusing close f l = copying f found l := reusingFrom_eq rfl hfound

end AugmentedInsanity.Reuse
