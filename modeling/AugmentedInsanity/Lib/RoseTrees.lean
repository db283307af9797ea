/-
Trees with labels and any number of children, and places in them: an address leads from the root to a subtree by
numbers of children, a context is what is around a subtree. The address of a context leads to what the context is
plugged with (`get?_plug`, `modify_plug`).
-/
import Mathlib.Data.List.Basic

namespace AugmentedInsanity.RoseTrees

inductive Rose (α : Type)
  | node (label : α) (children : List (Rose α))

variable {α : Type}

namespace Rose

def label : Rose α → α
  | .node label _ => label

def children : Rose α → List (Rose α)
  | .node _ children => children

@[simp] theorem label_node (label : α) (children : List (Rose α)) : (node label children).label = label := rfl

@[simp] theorem children_node (label : α) (children : List (Rose α)) : (node label children).children = children := rfl

def get? : List ℕ → Rose α → Option (Rose α)
  | [], t => some t
  | i :: address, t => t.children[i]?.bind (get? address)

/-- Changes the subtree at an address. -/
def modify (f : Rose α → Rose α) : List ℕ → Rose α → Rose α
  | [], t => f t
  | i :: address, t => .node t.label (t.children.modify i (modify f address))

theorem get?_append (p q : List ℕ) (t : Rose α) : get? (p ++ q) t = (get? p t).bind (get? q) := by
  induction p generalizing t with
  | nil => rfl
  | cons i p ih =>
    simp only [List.cons_append, get?]
    cases t.children[i]? with
    | none => rfl
    | some c => exact ih c

theorem modify_append (f : Rose α → Rose α) (p q : List ℕ) (t : Rose α) :
    modify f (p ++ q) t = modify (modify f q) p t := by
  induction p generalizing t with
  | nil => rfl
  | cons i p ih => simp only [List.cons_append, modify, funext ih]

end Rose

/-! ## Contexts -/

/-- What is around one child. -/
structure Frame (α : Type) where
  label : α
  left : List (Rose α)
  right : List (Rose α)

def Frame.plug (c : Frame α) (t : Rose α) : Rose α := .node c.label (c.left ++ t :: c.right)

/-- A context is the frames around a subtree, the innermost first. -/
def plug : List (Frame α) → Rose α → Rose α
  | [], t => t
  | c :: frames, t => plug frames (c.plug t)

def address : List (Frame α) → List ℕ
  | [] => []
  | c :: frames => address frames ++ [c.left.length]

theorem get?_plug (frames : List (Frame α)) (t : Rose α) : (plug frames t).get? (address frames) = some t := by
  induction frames generalizing t with
  | nil => rfl
  | cons c frames ih => simp [plug, address, Rose.get?_append, ih, Rose.get?, Frame.plug]

theorem Frame.modify_plug (f : Rose α → Rose α) (c : Frame α) (t : Rose α) :
    (c.plug t).modify f [c.left.length] = c.plug (f t) := by
  simp [Frame.plug, Rose.modify, List.modify_eq_set_getElem?]

theorem modify_plug (f : Rose α → Rose α) (frames : List (Frame α)) (t : Rose α) :
    (plug frames t).modify f (address frames) = plug frames (f t) := by
  induction frames generalizing t f with
  | nil => rfl
  | cons c frames ih => rw [address, Rose.modify_append, plug, ih, Frame.modify_plug, plug]

end AugmentedInsanity.RoseTrees
