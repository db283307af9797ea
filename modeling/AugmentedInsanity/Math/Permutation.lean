/-
The permutator (`m_permutation.c`), which gives all arrangements of the indices below `n`, one at each call. It is Heap's
method without its recursion: `indices` has for each position the round in which the positions below it are, and a call
goes through the positions whose rounds are over to the first one that has a round left.
-/
import AugmentedInsanity.Lib.HeapMethod

namespace AugmentedInsanity.Math

open HeapMethod

/-! ## The permutator -/

/-- `struct m_permutator`, once it is set up. -/
structure Permuting where
  indices : List ℕ
  elements : List ℕ
  i : ℕ
  n : ℕ
  deriving DecidableEq

/-- `struct m_permutator`: `none` is the zeroed one, without arrays. -/
abbrev MPermutator := Option Permuting

def swap (array : List ℕ) (a b : ℕ) : List ℕ :=
  let tmp := array.getD a 0
  (array.set a (array.getD b 0)).set b tmp

namespace Permuting

def setup (numElements : ℕ) : Permuting := ⟨List.replicate numElements 0, List.range numElements, 0, numElements⟩

def step (mp : Permuting) : Bool × Permuting :=
  if mp.i < mp.n then
    if mp.indices.getD mp.i 0 < mp.i then
      let a := if mp.i % 2 = 0 then 0 else mp.indices.getD mp.i 0
      let b := mp.i
      (true,
        { mp with
          elements := swap mp.elements a b
          indices := mp.indices.set mp.i (mp.indices.getD mp.i 0 + 1)
          i := 0 })
    else step { mp with indices := mp.indices.set mp.i 0, i := mp.i + 1 }
  else (false, mp)
termination_by mp.n - mp.i

end Permuting

namespace MPermutator

/-- `m_permutator_step`, with the elements that are copied out if it returns true. -/
def step (mp : MPermutator) (numElements : ℕ) : Option (List ℕ) × MPermutator :=
  match mp with
  | none => (some (Permuting.setup numElements).elements, some (.setup numElements))
  | some mp =>
    if mp.n ≠ numElements then (some (Permuting.setup numElements).elements, some (.setup numElements))
    else (if mp.step.1 then some mp.step.2.elements else none, some mp.step.2)

/-- `m_permutator_reset`. -/
def reset (_ : MPermutator) : MPermutator := none

/-- The permutator after some calls for the same number of elements, from the zeroed one. -/
def after (numElements : ℕ) (calls : ℕ) : MPermutator := (fun mp => (step mp numElements).2)^[calls] none

def output (numElements : ℕ) (calls : ℕ) : Option (List ℕ) := (step (after numElements calls) numElements).1

end MPermutator

/-! ## Arrays -/

/-- The indices below `n`, arranged. -/
def arrangement (n : ℕ) (σ : Equiv.Perm ℕ) : List ℕ := (List.range n).map σ

section
variable {n : ℕ}

theorem getD_map_range (f : ℕ → ℕ) {j : ℕ} (hj : j < n) : ((List.range n).map f).getD j 0 = f j := by
  rw [List.getD_eq_getElem?_getD, List.getElem?_map, List.getElem?_range hj]
  rfl

theorem set_map_range (f : ℕ → ℕ) (j v : ℕ) :
    ((List.range n).map f).set j v = (List.range n).map (Function.update f j v) := by
  refine List.ext_getElem (by simp) fun k hk hk' => ?_
  rw [List.getElem_set]
  simp only [List.getElem_map, List.getElem_range, Function.update_apply]
  split_ifs <;> first | rfl | omega

theorem swap_arrangement (σ : Equiv.Perm ℕ) {a b : ℕ} (ha : a < n) (hb : b < n) :
    swap (arrangement n σ) a b = arrangement n (σ * Equiv.swap a b) := by
  unfold swap arrangement
  simp only [getD_map_range _ ha, getD_map_range _ hb, set_map_range]
  congr 1
  funext x
  rw [Equiv.Perm.mul_apply, Equiv.swap_apply_def]
  simp only [Function.update_apply]
  split_ifs with hxb hxa
  · rw [← hxb, hxa]
  · rfl
  · rfl
  · rfl

end

/-! ## Steps -/

namespace Permuting

/-- The state with an arrangement, between calls if `i` is zero and else within the loop. -/
def arranged (n : ℕ) (rounds : ℕ → ℕ) (σ : Equiv.Perm ℕ) (i : ℕ) : Permuting :=
  ⟨(List.range n).map rounds, arrangement n σ, i, n⟩

variable {n : ℕ} {rounds : ℕ → ℕ} {σ : Equiv.Perm ℕ} {i : ℕ} {outs : List (List ℕ)}

theorem setup_eq (n : ℕ) : setup n = arranged n (fun _ => 0) 1 0 := by
  have hzero : List.replicate n 0 = (List.range n).map fun _ => 0 := by rw [List.map_const', List.length_range]
  have hone : List.range n = (List.range n).map (1 : Equiv.Perm ℕ) := (List.map_id _).symm
  rw [setup, arranged, arrangement, ← hzero, ← hone]

theorem step_swap (hi : i < n) (hround : rounds i < i) :
    (arranged n rounds σ i).step =
      (true, arranged n (Function.update rounds i (rounds i + 1)) (σ * Equiv.swap (partner i (rounds i)) i) 0) := by
  have ha : partner i (rounds i) < n := Nat.lt_of_le_of_lt (partner_le hround.le) hi
  rw [step, arranged, if_pos hi]
  simp only [getD_map_range _ hi]
  rw [if_pos hround, set_map_range, show (if i % 2 = 0 then 0 else rounds i) = partner i (rounds i) from rfl,
    swap_arrangement σ ha hi]
  rfl

theorem step_skip (hi : i < n) (hround : ¬rounds i < i) :
    (arranged n rounds σ i).step = (arranged n (Function.update rounds i 0) σ (i + 1)).step := by
  rw [step, arranged, if_pos hi]
  simp only [getD_map_range _ hi]
  rw [if_neg hround, set_map_range]
  rfl

theorem step_end : (arranged n rounds σ n).step = (false, arranged n rounds σ n) := by
  rw [step, arranged, if_neg (Nat.lt_irrefl n)]

/-! ## Runs of calls -/

/-- Calls give the arrangements `outs`, and the next call goes on as from `t`. -/
def Leads : Permuting → List (List ℕ) → Permuting → Prop
  | s, [], t => s.step = t.step
  | s, out :: outs, t => ∃ u, s.step = (true, u) ∧ u.elements = out ∧ Leads u outs t

theorem Leads.of_step_eq {s s' t : Permuting} (h : Leads s' outs t) (hstep : s.step = s'.step) : Leads s outs t := by
  cases outs with
  | nil => exact hstep.trans h
  | cons out outs =>
    obtain ⟨u, hu, hout, h⟩ := h
    exact ⟨u, hstep.trans hu, hout, h⟩

theorem Leads.append {s t u : Permuting} {outs outs' : List (List ℕ)} (h : Leads s outs t) (h' : Leads t outs' u) :
    Leads s (outs ++ outs') u := by
  induction outs generalizing s with
  | nil => exact h'.of_step_eq h
  | cons out outs ih =>
    obtain ⟨v, hv, hout, h⟩ := h
    exact ⟨v, hv, hout, ih h⟩

theorem Leads.outputs {s t : Permuting} (h : Leads s outs t) (j : ℕ) (hj : j < outs.length) :
    ((fun mp : Permuting => mp.step.2)^[j] s).step.1 = true ∧
      ((fun mp : Permuting => mp.step.2)^[j + 1] s).elements = outs[j] := by
  induction outs generalizing s j with
  | nil => exact absurd hj (Nat.not_lt_zero j)
  | cons out outs ih =>
    obtain ⟨u, hu, hout, h⟩ := h
    cases j with
    | zero => exact ⟨by rw [Function.iterate_zero, id_eq, hu], by rw [Function.iterate_one, hu, hout]; rfl⟩
    | succ j =>
      rw [Function.iterate_succ_apply, Function.iterate_succ_apply, hu]
      exact ih h j (Nat.lt_of_succ_lt_succ hj)

theorem Leads.finish {s t : Permuting} (h : Leads s outs t) :
    ((fun mp : Permuting => mp.step.2)^[outs.length] s).step = t.step := by
  induction outs generalizing s with
  | nil => exact h
  | cons out outs ih =>
    obtain ⟨u, hu, -, h⟩ := h
    rw [List.length_cons, Function.iterate_succ_apply, hu]
    exact ih h

/-! ## The rounds -/

/-- Calls go through all arrangements of the positions below `k`, and the loop then comes to position `k`. -/
def Arranges (n k : ℕ) : Prop :=
  ∀ (rounds : ℕ → ℕ) (σ : Equiv.Perm ℕ), (∀ j < k, rounds j = 0) →
    Leads (arranged n rounds σ 0) ((visits k).tail.map fun τ => arrangement n (σ * τ))
      (arranged n rounds (σ * total k) k)

theorem Arranges.upTo {k : ℕ} (h : Arranges n k) (hk : k < n) (hzero : ∀ j ≤ k, rounds j = 0) {c : ℕ} (hc : c ≤ k) :
    Leads (arranged n rounds σ 0) ((firstRounds k (c + 1)).tail.map fun τ => arrangement n (σ * τ))
      (arranged n (Function.update rounds k c) (σ * (start (total k) k c * total k)) k) := by
  induction c with
  | zero =>
    have hrounds : Function.update rounds k 0 = rounds := by rw [← hzero k le_rfl, Function.update_eq_self]
    have := h rounds σ fun j hj => hzero j hj.le
    rw [hrounds, firstRounds_succ]
    simpa [firstRounds, start] using this
  | succ c ih =>
    -- the swap after round `c`, and then round `c + 1`
    have hround : Function.update rounds k c k < k := by
      rw [Function.update_self]
      omega
    have hswap := step_swap (σ := σ * (start (total k) k c * total k)) hk hround
    rw [Function.update_self, Function.update_idem, mul_assoc σ,
      show start (total k) k c * total k * Equiv.swap (partner k c) k = start (total k) k (c + 1) from rfl] at hswap
    have hnext := h (Function.update rounds k (c + 1)) (σ * start (total k) k (c + 1)) fun j hj => by
      rw [Function.update_of_ne hj.ne]
      exact hzero j hj.le
    have hround' : Leads (arranged n (Function.update rounds k c) (σ * (start (total k) k c * total k)) k)
        (arrangement n (σ * start (total k) k (c + 1)) ::
          (visits k).tail.map fun τ => arrangement n (σ * start (total k) k (c + 1) * τ))
        (arranged n (Function.update rounds k (c + 1)) (σ * start (total k) k (c + 1) * total k) k) :=
      ⟨_, hswap, rfl, hnext⟩
    have hall := (ih (by omega)).append hround'
    have htail : (firstRounds k (c + 1)) ≠ [] := by
      rw [firstRounds_succ, visits_eq_cons]
      simp
    rw [firstRounds_succ k (c + 1), List.tail_append_of_ne_nil htail, List.map_append]
    rw [visits_eq_cons k]
    simpa [mul_assoc, Function.comp_def] using hall

theorem arranges {k : ℕ} (hk : k ≤ n) : Arranges n k := by
  induction k with
  | zero =>
    intro rounds σ _
    show (arranged n rounds σ 0).step = (arranged n rounds (σ * total 0) 0).step
    rw [total, mul_one]
  | succ k ih =>
    intro rounds σ hzero
    have hrounds := (ih (by omega)).upTo (σ := σ) hk (fun j hj => hzero j (Nat.lt_succ_of_le hj)) le_rfl
    have hover : ¬Function.update rounds k k k < k := by
      rw [Function.update_self]
      exact Nat.lt_irrefl k
    have hskip := step_skip (σ := σ * (start (total k) k k * total k)) hk hover
    have hsame : Function.update (Function.update rounds k k) k 0 = rounds := by
      rw [Function.update_idem, ← hzero k (Nat.lt_succ_self k), Function.update_eq_self]
    rw [hsame] at hskip
    have hnext : Leads (arranged n (Function.update rounds k k) (σ * (start (total k) k k * total k)) k) []
        (arranged n rounds (σ * (start (total k) k k * total k)) (k + 1)) := hskip
    have hall := hrounds.append hnext
    rwa [List.append_nil] at hall

/-! ## All calls -/

theorem setup_leads (n : ℕ) :
    Leads (setup n) ((visits n).tail.map (arrangement n)) (arranged n (fun _ => 0) (total n) n) := by
  have := arranges (n := n) le_rfl (fun _ => 0) 1 fun _ _ => rfl
  rw [setup_eq]
  simpa using this

theorem step_n (mp : Permuting) : mp.step.2.n = mp.n := by
  fun_induction step mp with
  | case1 => rfl
  | case2 mp _ _ ih => rw [ih]
  | case3 => rfl

theorem iterate_n (mp : Permuting) (j : ℕ) : ((fun mp : Permuting => mp.step.2)^[j] mp).n = mp.n := by
  induction j with
  | zero => rfl
  | succ j ih => rw [Function.iterate_succ_apply', step_n, ih]

end Permuting

namespace MPermutator

variable {n : ℕ}

theorem after_succ (n calls : ℕ) : after n (calls + 1) = some ((fun mp : Permuting => mp.step.2)^[calls] (.setup n)) := by
  induction calls with
  | zero => rfl
  | succ calls ih =>
    have hstep : after n (calls + 1 + 1) = (step (after n (calls + 1)) n).2 := Function.iterate_succ_apply' _ _ _
    have hn : ¬((fun mp : Permuting => mp.step.2)^[calls] (.setup n)).n ≠ n := not_not.2 (Permuting.iterate_n _ _)
    rw [hstep, ih, step, if_neg hn, Function.iterate_succ_apply']

theorem output_succ (n calls : ℕ) :
    output n (calls + 1) =
      if ((fun mp : Permuting => mp.step.2)^[calls] (.setup n)).step.1 then
        some ((fun mp : Permuting => mp.step.2)^[calls + 1] (.setup n)).elements
      else none := by
  have hn : ¬((fun mp : Permuting => mp.step.2)^[calls] (.setup n)).n ≠ n := not_not.2 (Permuting.iterate_n _ _)
  rw [output, after_succ, step, if_neg hn, Function.iterate_succ_apply']

theorem output_eq (n calls : ℕ) : output n calls = (visits n)[calls]?.map (arrangement n) := by
  have hleads := Permuting.setup_leads n
  have hlength : ((visits n).tail.map (arrangement n)).length = (visits n).tail.length := List.length_map _
  rcases calls with _ | calls
  · rw [visits_eq_cons]
    show some (List.range n) = some (arrangement n 1)
    rw [arrangement]
    exact congrArg some (List.map_id _).symm
  rw [output_succ, visits_eq_cons, List.getElem?_cons_succ]
  by_cases hmore : calls < (visits n).tail.length
  · obtain ⟨hok, hout⟩ := hleads.outputs calls (hlength ▸ hmore)
    rw [if_pos hok, hout, List.getElem?_eq_getElem hmore]
    simp
  · -- the loop has come to its end, and does so again at each call
    have hend : ∀ j, ((fun mp : Permuting => mp.step.2)^[(visits n).tail.length + j] (.setup n)).step =
        (false, Permuting.arranged n (fun _ => 0) (total n) n) := by
      intro j
      induction j with
      | zero => rw [Nat.add_zero, ← hlength, hleads.finish, Permuting.step_end]
      | succ j ih => rw [← Nat.add_assoc, Function.iterate_succ_apply', ih, Permuting.step_end]
    obtain ⟨j, rfl⟩ := Nat.exists_eq_add_of_le (Nat.le_of_not_lt hmore)
    rw [hend, List.getElem?_eq_none (by omega)]
    rfl

theorem arrangement_perm {σ : Equiv.Perm ℕ} (h : Below n σ) : (arrangement n σ).Perm (List.range n) := by
  refine (List.perm_ext_iff_of_nodup (List.nodup_range.map σ.injective) List.nodup_range).2 fun x => ?_
  simp only [List.mem_map, List.mem_range]
  have hstays : ∀ y, σ y < n ↔ y < n := fun y => by
    constructor
    · intro hlt
      by_contra hy
      rw [h y (Nat.le_of_not_lt hy)] at hlt
      exact hy hlt
    · intro hy
      by_contra hlt
      have hfix := σ.injective (h (σ y) (Nat.le_of_not_lt hlt))
      exact hlt (hfix.symm ▸ hy)
  constructor
  · rintro ⟨y, hy, rfl⟩
    exact (hstays y).2 hy
  · exact fun hx => ⟨σ.symm x, (hstays _).1 (by rwa [σ.apply_symm_apply]), σ.apply_symm_apply x⟩

theorem arrangement_inj {σ τ : Equiv.Perm ℕ} (hσ : Below n σ) (hτ : Below n τ) (h : arrangement n σ = arrangement n τ) :
    σ = τ := by
  refine Equiv.ext fun x => ?_
  by_cases hx : x < n
  · exact List.map_inj_left.1 h x (List.mem_range.2 hx)
  · rw [hσ x (Nat.le_of_not_lt hx), hτ x (Nat.le_of_not_lt hx)]

/-- From the zeroed permutator on there are `n!` outputs, each of which has all indices below `n` once and no two of which
are the same, and then every call returns false, until the permutator is reset and starts anew. -/
theorem permutator_outputs {n : ℕ} (_ : 0 < n) :
    (∀ calls < n.factorial, ∃ out, output n calls = some out ∧ out.Perm (List.range n)) ∧
      (∀ calls calls', calls < n.factorial → calls' < n.factorial → output n calls = output n calls' → calls = calls') ∧
      (∀ calls, n.factorial ≤ calls → output n calls = none) ∧ ∀ calls, reset (after n calls) = after n 0 := by
  have hat : ∀ calls (h : calls < n.factorial), output n calls =
      some (arrangement n (getElem (visits n) calls (by rwa [length_visits]))) := by
    intro calls h
    rw [output_eq, List.getElem?_eq_getElem (by rwa [length_visits])]
    rfl
  refine ⟨fun calls h => ⟨_, hat calls h, arrangement_perm (below_visits (List.getElem_mem _))⟩,
    fun calls calls' h h' heq => ?_, fun calls h => ?_, fun _ => rfl⟩
  · rw [hat calls h, hat calls' h', Option.some.injEq] at heq
    have := arrangement_inj (below_visits (List.getElem_mem _)) (below_visits (List.getElem_mem _)) heq
    exact (nodup_visits n).getElem_inj_iff.1 this
  · rw [output_eq, List.getElem?_eq_none (by rwa [length_visits])]
    rfl

/-- Six arrangements of three elements. -/
theorem permutator_outputs_three : output 3 5 ≠ none ∧ output 3 6 = none :=
  have h := permutator_outputs (n := 3) (by decide)
  have ⟨_, hout, _⟩ := h.1 5 (by decide)
  ⟨by rw [hout]; exact Option.some_ne_none _, h.2.2.1 6 (by decide)⟩

end MPermutator

end AugmentedInsanity.Math
