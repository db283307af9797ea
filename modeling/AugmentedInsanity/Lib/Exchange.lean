/-
Two ends of a connection that send to each other. An end is a finite program, and what it sends waits in
order until the other end receives it. Whichever end goes first, a conversation comes to the same end, so a proof
about all of them follows a single order, with the rules of `Always`. `WheneverReturns` adds the runs in which a
send or receive of the right end fails.
-/
import Mathlib.Logic.Relation
import Mathlib.Data.List.Basic

namespace AugmentedInsanity.Exchange

open Relation

/-! ## Programs -/

/-- The program of one end, which sends and receives items of the type `I`. A `send` or `recv` that the
connection fails ends the program with `failed`. -/
inductive Proc (I R : Type) : Type
  | done (r : R)
  /-- The program goes on in a way the language leaves undefined. -/
  | undefined
  | send (items : List I) (failed : R) (next : Proc I R)
  | recv (n : ℕ) (failed : R) (next : List I → Proc I R)

variable {I R S : Type}

/-- Every send and receive that fails ends the program with a result in `P`. -/
def Proc.FailsWith (P : R → Prop) : Proc I R → Prop
  | .done _ => True
  | .undefined => True
  | .send _ failed next => P failed ∧ next.FailsWith P
  | .recv _ failed next => P failed ∧ ∀ items, (next items).FailsWith P

/-- The program with another result. -/
def Proc.map (g : R → S) : Proc I R → Proc I S
  | .done r => .done (g r)
  | .undefined => .undefined
  | .send items failed next => .send items (g failed) (next.map g)
  | .recv n failed next => .recv n (g failed) fun items => (next items).map g

theorem Proc.FailsWith.map {P : S → Prop} {g : R → S} {p : Proc I R} (h : p.FailsWith fun r => P (g r)) :
    (p.map g).FailsWith P := by
  induction p with
  | done r => trivial
  | undefined => trivial
  | send items failed next ih => exact ⟨h.1, ih h.2⟩
  | recv n failed next ih => exact ⟨h.1, fun items => ih items (h.2 items)⟩

/-- What a program sends up to its first receive. -/
def Proc.sent : Proc I R → List I
  | .send items _ next => items ++ next.sent
  | _ => []

/-! ## Conversations -/

/-- Two ends and what is in flight between them. -/
structure Link (I R S : Type) where
  left : Proc I R
  right : Proc I S
  toRight : List I
  toLeft : List I

/-- One end takes a step. A receiver waits until everything it asks for is there, and, where it asks for nothing,
until anything is. -/
inductive Step : Link I R S → Link I R S → Prop
  | sendLeft {items : List I} {f : R} {p : Proc I R} {q : Proc I S} {tr tl : List I} :
      Step ⟨.send items f p, q, tr, tl⟩ ⟨p, q, tr ++ items, tl⟩
  | recvLeft {n : ℕ} {f : R} {k : List I → Proc I R} {q : Proc I S} {tr items tl : List I} :
      items.length = n → items ++ tl ≠ [] → Step ⟨.recv n f k, q, tr, items ++ tl⟩ ⟨k items, q, tr, tl⟩
  | sendRight {items : List I} {f : S} {p : Proc I R} {q : Proc I S} {tr tl : List I} :
      Step ⟨p, .send items f q, tr, tl⟩ ⟨p, q, tr, tl ++ items⟩
  | recvRight {n : ℕ} {f : S} {p : Proc I R} {k : List I → Proc I S} {items tr tl : List I} :
      items.length = n → items ++ tr ≠ [] → Step ⟨p, .recv n f k, items ++ tr, tl⟩ ⟨p, k items, tr, tl⟩

/-- With `flight` in front of it, the end takes no further step. -/
def Proc.Waits (flight : List I) : Proc I R → Prop
  | .done _ => True
  | .undefined => True
  | .send _ _ _ => False
  | .recv n _ _ => flight.length < max n 1

def Proc.Receives : Proc I R → Prop
  | .recv _ _ _ => True
  | _ => False

/-- The conversation can end in `d`. -/
def Ends (l d : Link I R S) : Prop := ReflTransGen Step l d ∧ ∀ e, ¬ Step d e

/-- Both ends are done, and nothing is in flight. -/
structure Link.AtBoundary (l : Link I R S) : Prop where
  left : ∃ r, l.left = .done r
  right : ∃ s, l.right = .done s
  toRight : l.toRight = []
  toLeft : l.toLeft = []

/-- A conversation that has ended: the right end waits for nothing that the left one will not send, and where it has
returned a result in `ok`, `P` holds. -/
structure Link.Settled (ok : S → Prop) (P : Link I R S → Prop) (d : Link I R S) : Prop where
  answered : d.right.Receives → d.left = .undefined
  returned : ∀ s, d.right = .done s → ok s → P d

/-- The conversation settles, however the ends take turns. -/
def Always (l : Link I R S) (ok : S → Prop) (P : Link I R S → Prop) : Prop := ∀ d, Ends l d → d.Settled ok P

/-- The connection fails a send or receive of the right end. -/
inductive Breaks : Link I R S → Link I R S → Prop
  | send {items : List I} {f : S} {p : Proc I R} {q : Proc I S} {tr tl : List I} :
      Breaks ⟨p, .send items f q, tr, tl⟩ ⟨p, .done f, tr, tl⟩
  | recv {n : ℕ} {f : S} {p : Proc I R} {k : List I → Proc I S} {tr tl : List I} :
      Breaks ⟨p, .recv n f k, tr, tl⟩ ⟨p, .done f, tr, tl⟩

/-- The same, whatever fails at the right end. -/
def WheneverReturns (l : Link I R S) (ok : S → Prop) (P : Link I R S → Prop) : Prop :=
  ∀ d, ReflTransGen (fun a b => Step a b ∨ Breaks a b) l d → (∀ e, ¬ Step d e) → d.Settled ok P

/-! ## One end for every order -/

theorem flight_append {items flight more : List I} (h : items ++ flight ≠ []) : items ++ (flight ++ more) ≠ [] := by
  rw [← List.append_assoc]
  exact List.append_ne_nil_of_left_ne_nil h more

/-- Two different steps can be made one after the other, in either order. -/
theorem step_diamond {a b c : Link I R S} (hb : Step a b) (hc : Step a c) : b = c ∨ ∃ d, Step b d ∧ Step c d := by
  cases hb with
  | sendLeft =>
    cases hc with
    | sendLeft => exact Or.inl rfl
    | sendRight => exact Or.inr ⟨_, .sendRight, .sendLeft⟩
    | recvRight hlen hne =>
      exact Or.inr ⟨_, by rw [List.append_assoc]; exact .recvRight hlen (flight_append hne), .sendLeft⟩
  | @recvLeft n f k q tr items tl hlen hne =>
    -- a send appends behind what is received, so the two commute
    generalize hflight : items ++ tl = flight at hc
    cases hc with
    | recvLeft hlen' hne' =>
      obtain ⟨rfl, rfl⟩ := List.append_inj hflight (hlen.trans hlen'.symm)
      exact Or.inl rfl
    | sendRight =>
      subst hflight
      exact Or.inr ⟨_, .sendRight, by rw [List.append_assoc]; exact .recvLeft hlen (flight_append hne)⟩
    | recvRight hlen' hne' =>
      subst hflight
      exact Or.inr ⟨_, .recvRight hlen' hne', .recvLeft hlen hne⟩
  | sendRight =>
    cases hc with
    | sendRight => exact Or.inl rfl
    | sendLeft => exact Or.inr ⟨_, .sendLeft, .sendRight⟩
    | recvLeft hlen hne =>
      exact Or.inr ⟨_, by rw [List.append_assoc]; exact .recvLeft hlen (flight_append hne), .sendRight⟩
  | @recvRight n f p k items tr tl hlen hne =>
    generalize hflight : items ++ tr = flight at hc
    cases hc with
    | recvRight hlen' hne' =>
      obtain ⟨rfl, rfl⟩ := List.append_inj hflight (hlen.trans hlen'.symm)
      exact Or.inl rfl
    | sendLeft =>
      subst hflight
      exact Or.inr ⟨_, .sendLeft, by rw [List.append_assoc]; exact .recvRight hlen (flight_append hne)⟩
    | recvLeft hlen' hne' =>
      subst hflight
      exact Or.inr ⟨_, .recvLeft hlen' hne', .recvRight hlen hne⟩

/-- Every step leads to the end of the conversation. -/
theorem Ends.of_step {l l' d : Link I R S} (hd : Ends l d) (h : Step l l') : Ends l' d := by
  have hjoin : Join (ReflTransGen Step) d l' := by
    refine church_rosser (fun a b c hb hc => ?_) hd.1 (.single h)
    rcases step_diamond hb hc with rfl | ⟨e, hbe, hce⟩
    · exact ⟨b, .refl, .refl⟩
    · exact ⟨e, .single hbe, .single hce⟩
  obtain ⟨e, hde, he⟩ := hjoin
  rcases ReflTransGen.cases_head hde with rfl | ⟨z, hz, -⟩
  · exact ⟨he, hd.2⟩
  · exact absurd hz (hd.2 z)

section

variable {P : Link I R S → Prop} {ok : S → Prop}

theorem always_step {l l' : Link I R S} (h : Step l l') : Always l ok P ↔ Always l' ok P := by
  constructor
  · intro hl d hd
    exact hl d ⟨.head h hd.1, hd.2⟩
  · intro hl' d hd
    exact hl' d (hd.of_step h)

variable {tr tl : List I} {a b : Link I R S} {p : Proc I R}

/-- Two ends that both wait have ended. -/
theorem not_step_of_waits {q : Proc I S} (hp : p.Waits tl) (hq : q.Waits tr) (e : Link I R S) :
    ¬ Step ⟨p, q, tr, tl⟩ e := by
  intro he
  cases he with
  | sendLeft => exact hp
  | sendRight => exact hq
  | recvLeft hlen hne =>
    have hpos := List.length_pos_of_ne_nil hne
    simp only [Proc.Waits, List.length_append] at hp hpos
    omega
  | recvRight hlen hne =>
    have hpos := List.length_pos_of_ne_nil hne
    simp only [Proc.Waits, List.length_append] at hq hpos
    omega

theorem always_of_waits {q : Proc I S} (hp : p.Waits tl) (hq : q.Waits tr) :
    Always ⟨p, q, tr, tl⟩ ok P ↔ Link.Settled ok P ⟨p, q, tr, tl⟩ := by
  constructor
  · intro h
    exact h _ ⟨.refl, not_step_of_waits hp hq⟩
  · intro h d hd
    rcases ReflTransGen.cases_head hd.1 with rfl | ⟨z, hz, -⟩
    · exact h
    · exact absurd hz (not_step_of_waits hp hq z)

theorem always_done {r : R} {s : S} :
    Always ⟨.done r, .done s, tr, tl⟩ ok P ↔ (ok s → P ⟨.done r, .done s, tr, tl⟩) := by
  rw [always_of_waits (p := .done r) (q := .done s) trivial trivial]
  constructor
  · intro h
    exact h.returned s rfl
  · intro h
    exact ⟨False.elim, fun s' hs' => Proc.done.inj hs' ▸ h⟩

/-! ## Failures of the right end -/

theorem Step.failsWith {P : S → Prop} (h : Step a b) (ha : a.right.FailsWith P) : b.right.FailsWith P := by
  cases h with
  | sendLeft => exact ha
  | recvLeft _ _ => exact ha
  | sendRight => exact ha.2
  | recvRight _ _ => exact ha.2 _

theorem Breaks.fails {P : S → Prop} (h : Breaks a b) (ha : a.right.FailsWith P) : ∃ f, b.right = .done f ∧ P f := by
  cases h with
  | send => exact ⟨_, rfl, ha.1⟩
  | recv => exact ⟨_, rfl, ha.1⟩

/-- A right end that is done takes no further step. -/
theorem right_of_done {f : S} (h : Step a b ∨ Breaks a b) (ha : a.right = .done f) : b.right = .done f := by
  rcases h with h | h
  · cases h with
    | sendLeft => exact ha
    | recvLeft _ _ => exact ha
    | sendRight => cases ha
    | recvRight _ _ => cases ha
  · cases h with
    | send => cases ha
    | recv => cases ha

/-- Up to a failure, the steps are those of an undisturbed conversation. -/
theorem steps_or_failed {P : S → Prop} {l d : Link I R S} (hl : l.right.FailsWith P)
    (h : ReflTransGen (fun a b => Step a b ∨ Breaks a b) l d) :
    (ReflTransGen Step l d ∧ d.right.FailsWith P) ∨ ∃ f, d.right = .done f ∧ P f := by
  induction h with
  | refl => exact Or.inl ⟨.refl, hl⟩
  | tail _ hstep ih =>
    rcases ih with ⟨hsteps, hfails⟩ | ⟨f, hdone, hf⟩
    · rcases hstep with h | h
      · exact Or.inl ⟨hsteps.tail h, h.failsWith hfails⟩
      · exact Or.inr (h.fails hfails)
    · exact Or.inr ⟨f, right_of_done hstep hdone, hf⟩

theorem settled_of_failure {d : Link I R S} {s : S} (hd : d.right = .done s) (hs : ¬ ok s) : d.Settled ok P := by
  constructor
  · rw [hd]
    exact False.elim
  · intro s' hs' hok
    rw [hd] at hs'
    rw [← Proc.done.inj hs'] at hok
    exact absurd hok hs

/-- Where failures are told by other results, the undisturbed conversation decides. -/
theorem wheneverReturns_iff {l : Link I R S} (hl : l.right.FailsWith fun s => ¬ ok s) :
    WheneverReturns l ok P ↔ Always l ok P := by
  constructor
  · intro h d hd
    exact h d (ReflTransGen.mono (fun _ _ hstep => Or.inl hstep) _ _ hd.1) hd.2
  · intro h d hrun hstuck
    rcases steps_or_failed hl hrun with ⟨hsteps, -⟩ | ⟨f, hdone, hf⟩
    · exact h d ⟨hsteps, hstuck⟩
    · exact settled_of_failure hdone hf

/-- Once the right end has returned a failure, it returns nothing else. -/
theorem always_of_failure {s : S} (hs : ¬ ok s) : Always ⟨p, .done s, tr, tl⟩ ok P := by
  intro d hd
  have hright : d.right = .done s := by
    refine ReflTransGen.head_induction_on (motive := fun a _ => a.right = .done s → d.right = .done s) hd.1 id ?_ rfl
    intro a b hab _ ih ha
    exact ih (right_of_done (Or.inl hab) ha)
  exact settled_of_failure hright hs

end

/-! ## Items of several kinds -/

section
variable {K : Type} {D : K → Type} {p : Proc (Σ k, D k) R} {q : Proc (Σ k, D k) S} {tr tl : List (Σ k, D k)}
  {P : Link (Σ k, D k) R S → Prop} {ok : S → Prop}

/-- Send items of one kind. -/
def Proc.sendAll (k : K) (xs : List (D k)) (failed : R) (next : Proc (Σ k, D k) R) : Proc (Σ k, D k) R :=
  .send (xs.map (Sigma.mk k)) failed next

def Proc.sendOne (k : K) (x : D k) (failed : R) (next : Proc (Σ k, D k) R) : Proc (Σ k, D k) R :=
  .sendAll k [x] failed next

/-- Send items of one kind, if there are any. -/
def Proc.sendSome (k : K) (xs : List (D k)) (failed : R) (next : Proc (Σ k, D k) R) : Proc (Σ k, D k) R :=
  if 0 < xs.length then .sendAll k xs failed next else next

variable {k : K} {failed : R} {xs : List (D k)} {next : Proc (Σ k, D k) R} {f : S}

theorem Proc.FailsWith.sendAll {P : R → Prop} (hf : P failed) (hnext : next.FailsWith P) :
    (Proc.sendAll k xs failed next).FailsWith P := ⟨hf, hnext⟩

theorem Proc.FailsWith.sendOne {P : R → Prop} {x : D k} (hf : P failed) (hnext : next.FailsWith P) :
    (Proc.sendOne k x failed next).FailsWith P := ⟨hf, hnext⟩

theorem Proc.FailsWith.sendSome {P : R → Prop} (hf : P failed) (hnext : next.FailsWith P) :
    (Proc.sendSome k xs failed next).FailsWith P := by
  unfold Proc.sendSome
  split
  · exact .sendAll hf hnext
  · exact hnext

theorem always_sendRight :
    Always ⟨p, .sendAll k xs f q, tr, tl⟩ ok P ↔ Always ⟨p, q, tr, tl ++ xs.map (Sigma.mk k)⟩ ok P :=
  always_step .sendRight

theorem always_sendSomeRight :
    Always ⟨p, .sendSome k xs f q, tr, tl⟩ ok P ↔ Always ⟨p, q, tr, tl ++ xs.map (Sigma.mk k)⟩ ok P := by
  unfold Proc.sendSome
  split
  · exact always_sendRight
  · rename_i hzero
    rw [List.eq_nil_of_length_eq_zero (Nat.eq_zero_of_not_pos hzero), List.map_nil, List.append_nil]

theorem inFlight (hpos : 0 < xs.length) : xs.map (Sigma.mk k) ++ [] ≠ [] := by
  rw [List.append_nil, Ne, List.map_eq_nil_iff]
  exact List.ne_nil_of_length_pos hpos

variable [DecidableEq K] {next : List (D k) → Proc (Σ k, D k) R} {n : ℕ}

/-- The data of an item of the kind `k`. -/
def ofKind (k : K) (item : Σ k, D k) : Option (D k) := if h : item.1 = k then some (h ▸ item.2) else none

/-- Receive `n` items of one kind. -/
def Proc.recvAll (k : K) (n : ℕ) (failed : R) (next : List (D k) → Proc (Σ k, D k) R) : Proc (Σ k, D k) R :=
  .recv n failed fun items =>
    match items.mapM (ofKind k) with
    | some xs => next xs
    | none => .undefined

def Proc.recvOne (k : K) (failed : R) (next : D k → Proc (Σ k, D k) R) : Proc (Σ k, D k) R :=
  .recvAll k 1 failed fun xs =>
    match xs with
    | [x] => next x
    | _ => .undefined

/-- Receive `n` items of one kind, if there are any. -/
def Proc.recvSome (k : K) (n : ℕ) (failed : R) (next : List (D k) → Proc (Σ k, D k) R) : Proc (Σ k, D k) R :=
  if 0 < n then .recvAll k n failed next else next []

theorem Proc.FailsWith.recvAll {P : R → Prop} (hf : P failed) (hnext : ∀ xs, (next xs).FailsWith P) :
    (Proc.recvAll k n failed next).FailsWith P := by
  refine ⟨hf, fun items => ?_⟩
  beta_reduce
  split
  · exact hnext _
  · trivial

theorem Proc.FailsWith.recvOne {P : R → Prop} {next : D k → Proc (Σ k, D k) R} (hf : P failed)
    (hnext : ∀ x, (next x).FailsWith P) : (Proc.recvOne k failed next).FailsWith P := by
  refine .recvAll hf fun xs => ?_
  split
  · exact hnext _
  · trivial

theorem mapM_ofKind (k : K) (xs : List (D k)) : (xs.map (Sigma.mk k)).mapM (ofKind k) = some xs := by
  induction xs with
  | nil => rfl
  | cons x xs ih => simp [ofKind, ih]

/-- The left end receives what the right one sends. -/
theorem always_passLeft {g : R} (hn : xs.length = n) (hpos : 0 < n) :
    Always ⟨.recvAll k n g next, .sendAll k xs f q, tr, []⟩ ok P ↔ Always ⟨next xs, q, tr, []⟩ ok P := by
  have hrecv : Step (⟨.recvAll k n g next, q, tr, xs.map (Sigma.mk k) ++ []⟩ : Link _ R S)
      ⟨match (xs.map (Sigma.mk k)).mapM (ofKind k) with | some xs => next xs | none => .undefined, q, tr, []⟩ :=
    .recvLeft (by rw [List.length_map, hn]) (inFlight (hn ▸ hpos))
  rw [mapM_ofKind, List.append_nil] at hrecv
  rw [always_sendRight, List.nil_append, always_step hrecv]

/-- The right end receives what the left one sends. -/
theorem always_passRight {f : R} {g : S} {next : List (D k) → Proc (Σ k, D k) S} (hn : xs.length = n) (hpos : 0 < n) :
    Always ⟨.sendAll k xs f p, .recvAll k n g next, [], tl⟩ ok P ↔ Always ⟨p, next xs, [], tl⟩ ok P := by
  have hrecv : Step (⟨p, .recvAll k n g next, xs.map (Sigma.mk k) ++ [], tl⟩ : Link _ R S)
      ⟨p, match (xs.map (Sigma.mk k)).mapM (ofKind k) with | some xs => next xs | none => .undefined, [], tl⟩ :=
    .recvRight (by rw [List.length_map, hn]) (inFlight (hn ▸ hpos))
  rw [mapM_ofKind, List.append_nil] at hrecv
  rw [← always_step hrecv]
  exact always_step .sendLeft

theorem always_passOneLeft {x : D k} {g : R} {next : D k → Proc (Σ k, D k) R} :
    Always ⟨.recvOne k g next, .sendOne k x f q, tr, []⟩ ok P ↔ Always ⟨next x, q, tr, []⟩ ok P :=
  always_passLeft rfl Nat.one_pos

theorem always_passOneRight {x : D k} {f : R} {g : S} {next : D k → Proc (Σ k, D k) S} :
    Always ⟨.sendOne k x f p, .recvOne k g next, [], tl⟩ ok P ↔ Always ⟨p, next x, [], tl⟩ ok P :=
  always_passRight rfl Nat.one_pos

theorem always_passSomeLeft {g : R} (hn : xs.length = n) :
    Always ⟨.recvSome k n g next, .sendSome k xs f q, tr, []⟩ ok P ↔ Always ⟨next xs, q, tr, []⟩ ok P := by
  subst hn
  unfold Proc.recvSome Proc.sendSome
  split
  · rename_i hpos
    exact always_passLeft rfl hpos
  · rename_i hzero
    rw [List.eq_nil_of_length_eq_zero (Nat.eq_zero_of_not_pos hzero)]

end

/-! ## Message boundaries -/

@[simp] theorem atBoundary_done {r : R} {s : S} :
    (⟨.done r, .done s, tr, tl⟩ : Link I R S).AtBoundary ↔ tr = [] ∧ tl = [] := by
  constructor
  · intro h
    exact ⟨h.toRight, h.toLeft⟩
  · rintro ⟨rfl, rfl⟩
    exact ⟨⟨r, rfl⟩, ⟨s, rfl⟩, rfl, rfl⟩

end AugmentedInsanity.Exchange
