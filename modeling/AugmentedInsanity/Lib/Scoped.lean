/-
Programs over a state with a stack that leave the stack as they found it whenever they return, and
keep an invariant wherever they stop. Such programs compose, and putting an element on the stack
around one gives one that may count on the element being on top.
-/
import Mathlib.Tactic.Common

namespace AugmentedInsanity.Scoped

variable {ε σ δ α β ι : Type} (stack : σ → List δ) (good : σ → Prop)

/-- Started on a stack of which `pre` holds, `p` keeps `good`, and if it returns the stack, with a
result of which `post` holds. -/
structure Keeps (pre : List δ → Prop) (p : EStateM ε σ α) (post : α → Prop) : Prop where
  returned : ∀ s a s', pre (stack s) → good s → p s = .ok a s' → stack s' = stack s ∧ good s' ∧ post a
  stopped : ∀ s e s', pre (stack s) → good s → p s = .error e s' → good s'

variable {stack good} {pre : List δ → Prop} {post : α → Prop} {p : EStateM ε σ α}

theorem Keeps.mono {pre' : List δ → Prop} {post' : α → Prop} (h : Keeps stack good pre p post)
    (hpre : ∀ st, pre' st → pre st) (hpost : ∀ a, post a → post' a) : Keeps stack good pre' p post' := by
  refine ⟨fun s a s' hs hgood hp => ?_, fun s e s' hs => h.stopped s e s' (hpre _ hs)⟩
  obtain ⟨hstack, hgood', ha⟩ := h.returned s a s' (hpre _ hs) hgood hp
  exact ⟨hstack, hgood', hpost a ha⟩

theorem keeps_pure {a : α} (ha : post a) : Keeps stack good pre (pure a : EStateM ε σ α) post := by
  constructor
  · intro s a' s' _ hs h
    cases h
    exact ⟨rfl, hs, ha⟩
  · intro s e s' _ _ h
    cases h

theorem keeps_throw (e : ε) : Keeps stack good pre (throw e : EStateM ε σ α) post := by
  constructor
  · intro s a s' _ _ h
    cases h
  · intro s e' s' _ hs h
    cases h
    exact hs

/-- Reading the state. -/
theorem keeps_get_bind {f : σ → EStateM ε σ α}
    (hf : ∀ s, pre (stack s) → good s → Keeps stack good pre (f s) post) :
    Keeps stack good pre (get >>= f) post :=
  ⟨fun s a s' hpre hs => (hf s hpre hs).returned s a s' hpre hs,
    fun s e s' hpre hs => (hf s hpre hs).stopped s e s' hpre hs⟩

theorem keeps_modify {f : σ → σ} (hstack : ∀ s, stack (f s) = stack s)
    (hgood : ∀ s, pre (stack s) → good s → good (f s)) :
    Keeps stack good pre (modify f : EStateM ε σ PUnit) fun _ => True := by
  constructor
  · intro s a s' hpre hs h
    cases h
    exact ⟨hstack s, hgood s hpre hs, trivial⟩
  · intro s e s' _ _ h
    cases h

theorem keeps_bind {mid : α → Prop} {last : β → Prop} {f : α → EStateM ε σ β} (hp : Keeps stack good pre p mid)
    (hf : ∀ a, mid a → Keeps stack good pre (f a) last) : Keeps stack good pre (p >>= f) last := by
  constructor
  · intro s b s' hpre hs h
    have hbind : (p >>= f) s = EStateM.bind p f s := rfl
    rw [hbind, EStateM.bind] at h
    cases hfirst : p s with
    | ok a s₁ =>
      rw [hfirst] at h
      obtain ⟨hstack, hs₁, ha⟩ := hp.returned s a s₁ hpre hs hfirst
      obtain ⟨hstack', hs', hb⟩ := (hf a ha).returned s₁ b s' (hstack ▸ hpre) hs₁ h
      exact ⟨hstack'.trans hstack, hs', hb⟩
    | error e s₁ =>
      rw [hfirst] at h
      cases h
  · intro s e s' hpre hs h
    have hbind : (p >>= f) s = EStateM.bind p f s := rfl
    rw [hbind, EStateM.bind] at h
    cases hfirst : p s with
    | ok a s₁ =>
      rw [hfirst] at h
      obtain ⟨hstack, hs₁, ha⟩ := hp.returned s a s₁ hpre hs hfirst
      exact (hf a ha).stopped s₁ e s' (hstack ▸ hpre) hs₁ h
    | error e' s₁ =>
      rw [hfirst] at h
      cases h
      exact hp.stopped s e _ hpre hs hfirst

theorem keeps_ite {c : Prop} [Decidable c] {p q : EStateM ε σ α} (hp : c → Keeps stack good pre p post)
    (hq : ¬ c → Keeps stack good pre q post) : Keeps stack good pre (if c then p else q) post := by
  split
  · next hc => exact hp hc
  · next hc => exact hq hc

/-- Between a push and a pop the element is on top, and behind the pop the stack is as before. -/
theorem keeps_between {push pop : σ → σ} {d : δ} (hpush : ∀ s, stack (push s) = d :: stack s)
    (hpop : ∀ s, stack (pop s) = (stack s).tail) (hgoodPush : ∀ s, good s → good (push s))
    (hgoodPop : ∀ s, good s → good (pop s)) (hp : Keeps stack good (fun st => st.head? = some d) p post) :
    Keeps stack good pre (do modify push; let a ← p; modify pop; pure a) post := by
  have htop : ∀ s, (stack (push s)).head? = some d := fun s => by rw [hpush, List.head?_cons]
  have hrun : ∀ s, (do modify push; let a ← p; modify pop; pure a : EStateM ε σ α) s =
      EStateM.bind p (fun a => do modify pop; pure a) (push s) := fun s => rfl
  constructor
  · intro s a s' _ hs h
    rw [hrun, EStateM.bind] at h
    cases hinner : p (push s) with
    | ok a₁ s₁ =>
      rw [hinner] at h
      obtain ⟨hstack, hs₁, ha⟩ := hp.returned (push s) a₁ s₁ (htop s) (hgoodPush s hs) hinner
      cases h
      refine ⟨?_, hgoodPop s₁ hs₁, ha⟩
      rw [hpop, hstack, hpush, List.tail_cons]
    | error e s₁ =>
      rw [hinner] at h
      cases h
  · intro s e s' _ hs h
    rw [hrun, EStateM.bind] at h
    cases hinner : p (push s) with
    | ok a₁ s₁ =>
      rw [hinner] at h
      cases h
    | error e' s₁ =>
      rw [hinner] at h
      cases h
      exact hp.stopped (push s) e _ (htop s) (hgoodPush s hs) hinner

/-- A loop that threads a value through, with an invariant of the value. -/
theorem keeps_foldlM {inv : β → Prop} {f : β → ι → EStateM ε σ β} {items : List ι}
    (hf : ∀ b, inv b → ∀ i ∈ items, Keeps stack good pre (f b i) inv) {b : β} (hb : inv b) :
    Keeps stack good pre (items.foldlM f b) inv := by
  induction items generalizing b with
  | nil => exact keeps_pure hb
  | cons i items ih =>
    rw [List.foldlM_cons]
    refine keeps_bind (hf b hb i List.mem_cons_self) fun b' hb' => ?_
    exact ih (fun b hb j hj => hf b hb j (List.mem_cons_of_mem i hj)) hb'

end AugmentedInsanity.Scoped
