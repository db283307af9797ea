/-
Runs of a labelled partial step function. Two rules carry every state-machine proof of the
development: an invariant kept by the steps that meet a condition holds in every state a run of
such steps reaches (`inv_of_along`), and a property of single steps that an invariant makes
equivalent to a condition holds all along a run exactly when the condition does (`along_iff`).
What holds of the steps of a single machine holds of a family of such machines that run side by side
(`along_members_iff`).
-/
import Mathlib.Data.List.Basic

namespace AugmentedInsanity.Runs

variable {σ α : Type*} (step : σ → α → Option σ)

/-! ## Runs -/

/-- The actions `l` take `s` to `t`. -/
def Reaches : σ → List α → σ → Prop
  | s, [], t => t = s
  | s, a :: l, t => ∃ u, step s a = some u ∧ Reaches u l t

/-- `P` holds at every step of the run of `l` from `s`; the run ends at the first action that is
not enabled, which is still asked to meet `P`. -/
def Along (P : σ → α → Prop) : σ → List α → Prop
  | _, [] => True
  | s, a :: l => P s a ∧ match step s a with
    | some t => Along P t l
    | none => True

instance Along.decidable (P : σ → α → Prop) [∀ s a, Decidable (P s a)] :
    ∀ s l, Decidable (Along step P s l)
  | _, [] => .isTrue trivial
  | s, a :: l => by
    unfold Along
    cases step s a with
    | none => exact inferInstanceAs (Decidable (P s a ∧ True))
    | some t =>
      have := Along.decidable P t l
      exact inferInstanceAs (Decidable (P s a ∧ Along step P t l))

variable {step}

theorem reaches_nil (s t : σ) : Reaches step s [] t ↔ t = s := Iff.rfl

variable {s t : σ}

theorem reaches_append {l m : List α} : Reaches step s (l ++ m) t ↔ ∃ u, Reaches step s l u ∧ Reaches step u m t := by
  induction l generalizing s with
  | nil => simp [Reaches]
  | cons a l ih =>
    simp only [List.cons_append, Reaches, ih]
    constructor
    · rintro ⟨v, hv, u, h1, h2⟩; exact ⟨u, ⟨v, hv, h1⟩, h2⟩
    · rintro ⟨u, ⟨v, hv, h1⟩, h2⟩; exact ⟨v, hv, u, h1, h2⟩

variable {l : List α} {P : σ → α → Prop}

theorem reaches_snoc {a : α} : Reaches step s (l ++ [a]) t ↔ ∃ u, Reaches step s l u ∧ step u a = some t := by
  rw [reaches_append]
  constructor
  · rintro ⟨u, h1, v, hv, rfl⟩; exact ⟨u, h1, hv⟩
  · rintro ⟨u, h1, h2⟩; exact ⟨u, h1, t, h2, rfl⟩

theorem reaches_iff_foldlM : Reaches step s l t ↔ l.foldlM step s = some t := by
  induction l generalizing s with
  | nil => simp [Reaches, eq_comm]
  | cons a l ih => simp [Reaches, List.foldlM_cons, Option.bind_eq_some_iff, ih]

theorem along_cons {a : α} : Along step P s (a :: l) ↔ P s a ∧ ∀ t, step s a = some t → Along step P t l := by
  simp only [Along]
  cases step s a with
  | none => simp
  | some t => simp

/-- What holds along a run holds where one of its actions is taken. -/
theorem Along.at_action {m : List α} {a : α} (h : Along step P s (l ++ a :: m)) (hr : Reaches step s l t) : P t a := by
  induction l generalizing s with
  | nil =>
    rw [(reaches_nil s t).1 hr]
    exact (along_cons.1 h).1
  | cons b l ih =>
    obtain ⟨u, hu, hr⟩ := hr
    exact ih ((along_cons.1 h).2 u hu) hr

/-! ## The invariant rules -/

variable {I : σ → Prop} {C P : σ → α → Prop}

/-- An invariant that steps meeting `C` keep holds in every state reached by a run along which
`C` holds. -/
theorem inv_of_along {C : σ → α → Prop} (hstep : ∀ s a t, I s → C s a → step s a = some t → I t) (hs : I s)
    (hC : Along step C s l) (hr : Reaches step s l t) : I t := by
  induction l generalizing s with
  | nil => rw [(reaches_nil s t).1 hr]; exact hs
  | cons a l ih =>
    obtain ⟨u, hu, hr⟩ := hr
    obtain ⟨hc, hl⟩ := along_cons.1 hC
    exact ih (hstep s a u hs hc hu) (hl u hu) hr

/-- An invariant of all steps holds in every state a run reaches. -/
theorem inv_of_reaches (hstep : ∀ s a t, I s → step s a = some t → I t) (hs : I s) (hr : Reaches step s l t) : I t := by
  induction l generalizing s with
  | nil => rw [(reaches_nil s t).1 hr]; exact hs
  | cons a l ih =>
    obtain ⟨u, hu, hr⟩ := hr
    exact ih (hstep s a u hs hu) hr

/-- A property of steps that `C` implies under an invariant holds along every run along which `C`
holds. -/
theorem along_of_inv (hP : ∀ s a, I s → C s a → P s a) (hstep : ∀ s a t, I s → C s a → step s a = some t → I t)
    (hs : I s) (hC : Along step C s l) : Along step P s l := by
  induction l generalizing s with
  | nil => trivial
  | cons a l ih =>
    obtain ⟨hc, hl⟩ := along_cons.1 hC
    exact along_cons.2 ⟨hP s a hs hc, fun u hu => ih (hstep s a u hs hc hu) (hl u hu)⟩

/-- A property of steps that an invariant implies holds along every run. -/
theorem along_of_inv' (hP : ∀ s a, I s → P s a) (hstep : ∀ s a t, I s → step s a = some t → I t) (hs : I s)
    (l : List α) : Along step P s l := by
  induction l generalizing s with
  | nil => trivial
  | cons a l ih => exact along_cons.2 ⟨hP s a hs, fun u hu => ih (hstep s a u hs hu)⟩

/-- A property of steps and a condition that are equivalent under an invariant hold along the same
runs. -/
theorem along_iff (hPC : ∀ s a, I s → (P s a ↔ C s a)) (hstep : ∀ s a t, I s → C s a → step s a = some t → I t)
    (hs : I s) (l : List α) : Along step P s l ↔ Along step C s l :=
  ⟨along_of_inv (fun s a hi hp => (hPC s a hi).1 hp)
      (fun s a t hi hp ht => hstep s a t hi ((hPC s a hi).1 hp) ht) hs,
    along_of_inv (fun s a hi hc => (hPC s a hi).2 hc) hstep hs⟩

end AugmentedInsanity.Runs

/-! ## Families of machines -/

namespace AugmentedInsanity.Runs

variable {ι β α : Type*} [DecidableEq ι]

/-- One member takes a step, or comes into being by one. -/
def memberStep (step : Option β → α → Option β) (members : ι → Option β) (a : ι × α) : Option (ι → Option β) :=
  (step (members a.1) a.2).map fun b => Function.update members a.1 (some b)

/-- After the step, all members are as they should be. -/
def MembersOk (step : Option β → α → Option β) (Ok : β → Prop) (members : ι → Option β) (a : ι × α) : Prop :=
  ∀ members', memberStep step members a = some members' → ∀ i b, members' i = some b → Ok b

/-- A condition on the step of the one member. -/
def AtMember (C : Option β → α → Prop) (members : ι → Option β) (a : ι × α) : Prop := C (members a.1) a.2

variable {step : Option β → α → Option β} {I Ok : β → Prop} {C : Option β → α → Prop}

theorem memberStep_inv (hstep : ∀ b? a b', (∀ b, b? = some b → I b) → C b? a → step b? a = some b' → I b')
    {members members' : ι → Option β} {a : ι × α} (hI : ∀ i b, members i = some b → I b)
    (hC : AtMember C members a) (h : memberStep step members a = some members') :
    ∀ i b, members' i = some b → I b := by
  obtain ⟨b', hb', rfl⟩ := Option.map_eq_some_iff.1 h
  intro i b hb
  by_cases hi : i = a.1
  · rw [hi, Function.update_self, Option.some.injEq] at hb
    exact hb ▸ hstep _ _ b' (hI a.1) hC hb'
  · rw [Function.update_of_ne hi] at hb
    exact hI i b hb

theorem membersOk_iff (hOk : ∀ b, I b → Ok b)
    (hC : ∀ b? a, (∀ b, b? = some b → I b) → ((∀ b', step b? a = some b' → Ok b') ↔ C b? a))
    {members : ι → Option β} (hI : ∀ i b, members i = some b → I b) (a : ι × α) :
    MembersOk step Ok members a ↔ AtMember C members a := by
  refine Iff.trans ?_ (hC _ _ (hI a.1))
  constructor
  · intro h b' hb'
    exact h _ (Option.map_eq_some_iff.2 ⟨b', hb', rfl⟩) a.1 b' (Function.update_self ..)
  · intro h members' hmembers i b hb
    obtain ⟨b', hb', rfl⟩ := Option.map_eq_some_iff.1 hmembers
    by_cases hi : i = a.1
    · rw [hi, Function.update_self, Option.some.injEq] at hb
      exact hb ▸ h b' hb'
    · rw [Function.update_of_ne hi] at hb
      exact hOk b (hI i b hb)

/-- The rule of families: from no members on, a property that each single step has exactly under a condition. -/
theorem along_members_iff (hOk : ∀ b, I b → Ok b)
    (hC : ∀ b? a, (∀ b, b? = some b → I b) → ((∀ b', step b? a = some b' → Ok b') ↔ C b? a))
    (hstep : ∀ b? a b', (∀ b, b? = some b → I b) → C b? a → step b? a = some b' → I b') (l : List (ι × α)) :
    Along (memberStep step) (MembersOk step Ok) (fun _ => none) l ↔
      Along (memberStep step) (AtMember C) (fun _ : ι => none) l :=
  along_iff (I := fun members => ∀ i b, members i = some b → I b)
    (fun _ a hI => membersOk_iff hOk hC hI a) (fun _ _ _ hI hC => memberStep_inv hstep hI hC)
    (fun _ _ h => by cases h) l

end AugmentedInsanity.Runs
