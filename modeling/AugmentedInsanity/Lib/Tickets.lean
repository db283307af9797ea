/-
A queue that numbers what is put into it and keeps, for what has left it, what came of it. Nothing is lost and nothing
comes out twice or out of turn as long as things leave from the front (`InOrder`).
-/
import Mathlib.Data.List.Basic

namespace AugmentedInsanity

variable {α β : Type}

structure Tickets (α β : Type) where
  issued : ℕ
  waiting : List (ℕ × α)
  served : List (ℕ × β)

namespace Tickets

def start : Tickets α β := ⟨0, [], []⟩

def issue (t : Tickets α β) (a : α) : Tickets α β :=
  { t with issued := t.issued + 1, waiting := t.waiting ++ [(t.issued, a)] }

/-- The one in front has been served. -/
def serve (t : Tickets α β) (ticket : ℕ) (rest : List (ℕ × α)) (b : β) : Tickets α β :=
  { t with waiting := rest, served := t.served ++ [(ticket, b)] }

def serveAll (t : Tickets α β) (b : β) : Tickets α β :=
  { t with waiting := [], served := t.served ++ t.waiting.map fun w => (w.1, b) }

/-- Each ticket is served once or still waits once, in the order they were issued. -/
def InOrder (t : Tickets α β) : Prop := t.served.map Prod.fst ++ t.waiting.map Prod.fst = List.range t.issued

theorem inOrder_start : (start : Tickets α β).InOrder := rfl

variable {t : Tickets α β}

theorem InOrder.issue (h : t.InOrder) (a : α) : (t.issue a).InOrder := by
  unfold InOrder Tickets.issue
  rw [List.map_append, ← List.append_assoc, h, List.range_succ]
  rfl

theorem InOrder.serve (h : t.InOrder) {ticket : ℕ} {a : α} {rest : List (ℕ × α)}
    (hfront : t.waiting = (ticket, a) :: rest) (b : β) : (t.serve ticket rest b).InOrder := by
  unfold InOrder at h ⊢
  rw [hfront, List.map_cons] at h
  show (t.served ++ [(ticket, b)]).map Prod.fst ++ rest.map Prod.fst = List.range t.issued
  rw [List.map_append, List.append_assoc, ← h]
  rfl

theorem InOrder.serveAll (h : t.InOrder) (b : β) : (t.serveAll b).InOrder := by
  unfold InOrder Tickets.serveAll
  rw [List.map_append, List.map_map, List.map_nil, List.append_nil]
  exact h

end Tickets

end AugmentedInsanity
