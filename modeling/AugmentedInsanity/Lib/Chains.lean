/-
Chains of links: from each element at most one link leads on, and the chain of an element arrives where it comes
to a stop. Setting one link anew leaves every chain arriving exactly when the chain of the new target does not
meet the element that is linked.
-/
import Mathlib.Logic.Function.Basic

namespace AugmentedInsanity.Chains

variable {α : Type*} {next : α → Option α} {stop : α → Prop}

/-- The chain comes to a stop after finitely many links. -/
inductive Arrives (next : α → Option α) (stop : α → Prop) : α → Prop
  | here {a : α} : stop a → Arrives next stop a
  | link {a b : α} : ¬ stop a → next a = some b → Arrives next stop b → Arrives next stop a

/-- The chain of the first element meets the second one. -/
inductive Meets (next : α → Option α) : α → α → Prop
  | refl {a : α} : Meets next a a
  | link {a b c : α} : next a = some b → Meets next b c → Meets next a c

theorem Arrives.congr {next' : α → Option α} {stop' : α → Prop} {a : α} (hnext : ∀ b, ¬ stop b → next' b = next b)
    (hstop : ∀ b, stop' b ↔ stop b) (h : Arrives next stop a) : Arrives next' stop' a := by
  induction h with
  | here hs => exact .here ((hstop _).2 hs)
  | link hs hlink _ ih => exact .link (mt (hstop _).1 hs) ((hnext _ hs).trans hlink) ih

variable [DecidableEq α]

/-- A chain that does not meet the element keeps its links. -/
theorem arrives_update_of_not_meets {a u : α} {target : Option α} (hmeets : ¬ Meets next a u)
    (h : Arrives next stop a) : Arrives (Function.update next u target) stop a := by
  induction h with
  | here hs => exact .here hs
  | @link a b hs hlink _ ih =>
    have hne : a ≠ u := fun heq => hmeets (heq ▸ .refl)
    refine .link hs ?_ (ih fun hb => hmeets (.link hlink hb))
    rw [Function.update_of_ne hne, hlink]

/-- Linking to a chain that arrives without meeting the element. -/
theorem arrives_update {a u t : α} (hmeets : ¬ Meets next t u) (ht : Arrives next stop t) (h : Arrives next stop a) :
    Arrives (Function.update next u (some t)) stop a := by
  induction h with
  | here hs => exact .here hs
  | @link a b hs hlink _ ih =>
    by_cases heq : a = u
    · subst heq
      exact .link hs (Function.update_self ..) (arrives_update_of_not_meets hmeets ht)
    · refine .link hs ?_ ih
      rw [Function.update_of_ne heq, hlink]

theorem meets_update {t u : α} {target : Option α} (h : Meets next t u) :
    Meets (Function.update next u target) t u := by
  induction h with
  | refl => exact .refl
  | @link a b u hlink _ ih =>
    by_cases heq : a = u
    · subst heq
      exact .refl
    · refine .link ?_ ih
      rw [Function.update_of_ne heq, hlink]

omit [DecidableEq α] in
/-- A chain that comes back to where it was never arrives. -/
theorem not_arrives_of_loop {u t : α} (hstop : ∀ a, stop a → next a = none) (hlink : next u = some t)
    (hloop : Meets next t u) : ¬ Arrives next stop u := by
  have hnext : ∀ a, Meets next a u → ∃ b, next a = some b ∧ Meets next b u := by
    intro a ha
    cases ha with
    | refl => exact ⟨t, hlink, hloop⟩
    | link hab hb => exact ⟨_, hab, hb⟩
  have hnever : ∀ a, Arrives next stop a → ¬ Meets next a u := by
    intro a ha
    induction ha with
    | @here a hs =>
      intro hmeets
      obtain ⟨b, hb, -⟩ := hnext a hmeets
      rw [hstop a hs] at hb
      cases hb
    | @link a b hs hab _ ih =>
      intro hmeets
      obtain ⟨c, hc, hmeets'⟩ := hnext a hmeets
      rw [hab, Option.some.injEq] at hc
      subst hc
      exact ih hmeets'
  exact fun h => hnever u h .refl

/-- The new link lets its own element arrive exactly when it makes no loop. -/
theorem arrives_update_self_iff {u t : α} (hstop : ∀ a, stop a → next a = none) (hu : ¬ stop u)
    (ht : Arrives next stop t) : Arrives (Function.update next u (some t)) stop u ↔ ¬ Meets next t u := by
  constructor
  · intro h hmeets
    refine not_arrives_of_loop ?_ (Function.update_self ..) (meets_update hmeets) h
    intro a ha
    rw [Function.update_of_ne (fun heq : a = u => hu (heq ▸ ha)), hstop a ha]
  · intro hmeets
    exact .link hu (Function.update_self ..) (arrives_update_of_not_meets hmeets ht)

end AugmentedInsanity.Chains
