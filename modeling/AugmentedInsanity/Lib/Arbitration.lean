/-
Arbitration of resources by priority. Of the bids for a resource that is available those are to be kept that no bid with a
greater priority is made against, and only bids that are outbid may be dropped. As long as there are finitely many
priorities this holds exactly if the bids that are dropped are those that are outbid (`arbitrated_iff`).
-/
import Mathlib.Data.Set.Finite.Lemmas

namespace AugmentedInsanity.Arbitration

variable {B R P : Type*} [LinearOrder P] (bids : Set B) (resource : B → R) (priority : B → P)

/-- A bid for the same resource has a greater priority. -/
def Outbid (b : B) : Prop := ∃ c ∈ bids, resource c = resource b ∧ priority b < priority c

/-- A bid that is kept for a resource that is available excludes those with a lower priority, and a bid is only dropped
if there is a reason for it. -/
structure Arbitrated (available : R → Prop) (dropped : B → Prop) : Prop where
  exclusive : ∀ b ∈ bids, ∀ c ∈ bids, resource b = resource c → priority c < priority b → available (resource b) →
    ¬ dropped b → dropped c
  justified : ∀ b ∈ bids, dropped b → Outbid bids resource priority b

variable {bids resource priority} {available : R → Prop} {dropped : B → Prop} {b : B}

/-- Among the bids for a resource one is not outbid. -/
theorem exists_not_outbid (hfinite : (priority '' bids).Finite) (hb : b ∈ bids) :
    ∃ c ∈ bids, resource c = resource b ∧ priority b ≤ priority c ∧ ¬ Outbid bids resource priority c := by
  have hsub : priority '' {c ∈ bids | resource c = resource b} ⊆ priority '' bids :=
    Set.image_mono fun _ hc => hc.1
  obtain ⟨p, ⟨c, ⟨hc, hresource⟩, rfl⟩, hmax⟩ :=
    Set.exists_max_image _ id (hfinite.subset hsub) ⟨priority b, b, ⟨hb, rfl⟩, rfl⟩
  refine ⟨c, hc, hresource, hmax _ ⟨b, ⟨hb, rfl⟩, rfl⟩, ?_⟩
  rintro ⟨d, hd, hsame, hlt⟩
  exact absurd hlt (not_lt_of_ge (hmax _ ⟨d, ⟨hd, hsame.trans hresource⟩, rfl⟩))

/-- What is dropped has to be what is outbid, but for resources that are not available. -/
theorem arbitrated_iff (hfinite : (priority '' bids).Finite) :
    Arbitrated bids resource priority available dropped ↔
      ∀ b ∈ bids, (dropped b → Outbid bids resource priority b) ∧
        (available (resource b) → Outbid bids resource priority b → dropped b) := by
  constructor
  · intro h b hb
    refine ⟨h.justified b hb, ?_⟩
    rintro havailable ⟨c, hc, hresource, hlt⟩
    -- the winner cannot have been dropped, so it excludes `b`
    obtain ⟨winner, hwinner, hsame, hle, hnot⟩ := @exists_not_outbid _ _ _ _ _ resource _ c hfinite hc
    have heq : resource winner = resource b := hsame.trans hresource
    apply h.exclusive winner hwinner b hb heq (lt_of_lt_of_le hlt hle) (heq ▸ havailable)
    exact fun hdropped => hnot (h.justified winner hwinner hdropped)
  · intro h
    constructor
    · intro b hb c hc hresource hlt havailable _
      exact (h c hc).2 (hresource ▸ havailable) ⟨b, hb, hresource, hlt⟩
    · exact fun b hb => (h b hb).1

end AugmentedInsanity.Arbitration
