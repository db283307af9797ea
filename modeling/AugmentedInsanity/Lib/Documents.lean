/-
Documents made of atoms, arrays and objects, their spelling as tokens, and the machine that reads one token after the
other and keeps the document as far as it has been read. The machine reads exactly the spellings of the documents
that a grammar lets stand (`read_done_iff`): what it has read is at all times what its state spells.
-/
import Mathlib.Data.List.Basic

namespace AugmentedInsanity.Documents

variable {K A : Type}

inductive Doc (K A : Type)
  | atom (a : A)
  | array (items : List (Doc K A))
  | object (members : List (K × Doc K A))

namespace Doc

/-- Every document is an atom, or made of smaller ones. -/
@[induction_eliminator]
theorem inductionOn {P : Doc K A → Prop} (atom : ∀ a, P (.atom a))
    (array : ∀ items, (∀ d ∈ items, P d) → P (.array items))
    (object : ∀ members, (∀ m ∈ members, P m.2) → P (.object members)) (d : Doc K A) : P d := by
  match d with
  | .atom a => exact atom a
  | .array items => exact array items fun d _ => inductionOn atom array object d
  | .object members => exact object members fun m _ => inductionOn atom array object m.2
  termination_by sizeOf d
  decreasing_by
    · have h := List.sizeOf_lt_of_mem ‹d ∈ items›
      simp only [Doc.array.sizeOf_spec]
      omega
    · have h := List.sizeOf_lt_of_mem ‹m ∈ members›
      obtain ⟨k, d⟩ := m
      simp only [Prod.mk.sizeOf_spec, Doc.object.sizeOf_spec] at h ⊢
      omega

variable {β : Type}

mutual

/-- What is made of a document from what is made of its parts. -/
def fold (atom : A → β) (array : List β → β) (object : List (K × β) → β) : Doc K A → β
  | .atom a => atom a
  | .array items => array (foldItems atom array object items)
  | .object members => object (foldMembers atom array object members)

def foldItems (atom : A → β) (array : List β → β) (object : List (K × β) → β) : List (Doc K A) → List β
  | [] => []
  | d :: items => fold atom array object d :: foldItems atom array object items

def foldMembers (atom : A → β) (array : List β → β) (object : List (K × β) → β) :
    List (K × Doc K A) → List (K × β)
  | [] => []
  | (k, d) :: members => (k, fold atom array object d) :: foldMembers atom array object members

end

section Fold

variable (atom : A → β) (array : List β → β) (object : List (K × β) → β)

theorem foldItems_eq (items : List (Doc K A)) :
    foldItems atom array object items = items.map (fold atom array object) := by
  induction items with
  | nil => rfl
  | cons d items ih => rw [foldItems, ih, List.map_cons]

theorem foldMembers_eq (members : List (K × Doc K A)) :
    foldMembers atom array object members = members.map (Prod.map id (fold atom array object)) := by
  induction members with
  | nil => rfl
  | cons m members ih => rw [foldMembers, ih, List.map_cons, Prod.map, id]

theorem fold_array (items : List (Doc K A)) :
    fold atom array object (.array items) = array (items.map (fold atom array object)) := by
  rw [fold, foldItems_eq]

theorem fold_object (members : List (K × Doc K A)) :
    fold atom array object (.object members) = object (members.map (Prod.map id (fold atom array object))) := by
  rw [fold, foldMembers_eq]

end Fold

/-- Every atom and the keys of every object are as stated. -/
inductive Every (P : A → Prop) (Q : List K → Prop) : Doc K A → Prop
  | atom {a : A} : P a → Every P Q (.atom a)
  | array {items : List (Doc K A)} : (∀ d ∈ items, Every P Q d) → Every P Q (.array items)
  | object {members : List (K × Doc K A)} :
    Q (members.map Prod.fst) → (∀ m ∈ members, Every P Q m.2) → Every P Q (.object members)

section Every

variable {P : A → Prop} {Q : List K → Prop}

@[simp] theorem every_atom {a : A} : Every P Q (.atom a : Doc K A) ↔ P a := by
  constructor
  · intro h
    cases h with
    | atom h => exact h
  · exact .atom

@[simp] theorem every_array {items : List (Doc K A)} : Every P Q (.array items) ↔ ∀ d ∈ items, Every P Q d := by
  constructor
  · intro h
    cases h with
    | array h => exact h
  · exact .array

@[simp] theorem every_object {members : List (K × Doc K A)} :
    Every P Q (.object members) ↔ Q (members.map Prod.fst) ∧ ∀ m ∈ members, Every P Q m.2 := by
  constructor
  · intro h
    cases h with
    | object hkeys h => exact ⟨hkeys, h⟩
  · exact fun h => .object h.1 h.2

end Every

end Doc

/-! ## Spelling -/

inductive Token (A : Type)
  | openArray
  | closeArray
  | openObject
  | closeObject
  | atom (a : A)

/-- How keys are spelled, and which atoms can stand alone and in arrays; as the value of a member every atom can
stand. -/
structure Grammar (K A : Type) where
  ofKey : K → A
  key? : A → Option K
  key?_eq_some : ∀ a k, key? a = some k ↔ a = ofKey k
  loose : A → Bool

variable (g : Grammar K A)

namespace Doc

def tokens : Doc K A → List (Token A) :=
  fold (fun a => [.atom a]) (fun items => .openArray :: (items.flatten ++ [.closeArray]))
    fun members => .openObject :: ((members.flatMap fun m => .atom (g.ofKey m.1) :: m.2) ++ [.closeObject])

def memberTokens (m : K × Doc K A) : List (Token A) := .atom (g.ofKey m.1) :: m.2.tokens g

@[simp] theorem tokens_atom (a : A) : (.atom a : Doc K A).tokens g = [.atom a] := rfl

@[simp] theorem tokens_array (items : List (Doc K A)) :
    (Doc.array items).tokens g = .openArray :: (items.flatMap (tokens g) ++ [.closeArray]) := by
  rw [tokens, fold_array, ← tokens, List.flatMap_def]

@[simp] theorem tokens_object (members : List (K × Doc K A)) :
    (Doc.object members).tokens g = .openObject :: (members.flatMap (memberTokens g) ++ [.closeObject]) := by
  rw [tokens, fold_object, ← tokens, List.flatMap_map]
  rfl

/-- The document can stand as the value of a member, or alone and in arrays. -/
inductive Fits : Bool → Doc K A → Prop
  | atom {member : Bool} {a : A} : member = true ∨ g.loose a = true → Fits member (.atom a)
  | array {member : Bool} {items : List (Doc K A)} : (∀ d ∈ items, Fits false d) → Fits member (.array items)
  | object {member : Bool} {members : List (K × Doc K A)} :
    (∀ m ∈ members, Fits true m.2) → Fits member (.object members)

end Doc

/-! ## The machine -/

/-- What is open around a place for a document: an array with the items so far, or an object with the members so far
and the key of the next. -/
inductive Crumb (K A : Type)
  | item (items : List (Doc K A))
  | member (members : List (K × Doc K A)) (key : K)

/-- `value` has read the key of a member and not its value. -/
inductive Reading (K A : Type)
  | start
  | array (items : List (Doc K A)) (up : List (Crumb K A))
  | object (members : List (K × Doc K A)) (up : List (Crumb K A))
  | value (members : List (K × Doc K A)) (key : K) (up : List (Crumb K A))
  | done (d : Doc K A)

def inMember : List (Crumb K A) → Bool
  | .member _ _ :: _ => true
  | _ => false

namespace Reading

/-- Where the next document would stand, if one can come next. -/
def place : Reading K A → Option (List (Crumb K A))
  | .start => some []
  | .array items up => some (.item items :: up)
  | .object _ _ => none
  | .value members key up => some (.member members key :: up)
  | .done _ => none

/-- A document is complete at its place. -/
def add (d : Doc K A) : List (Crumb K A) → Reading K A
  | [] => .done d
  | .item items :: up => .array (items ++ [d]) up
  | .member members key :: up => .object (members ++ [(key, d)]) up

def step (r : Reading K A) : Token A → Option (Reading K A)
  | .openArray => r.place.map (.array [])
  | .openObject => r.place.map (.object [])
  | .closeArray =>
    match r with
    | .array items up => some (add (.array items) up)
    | _ => none
  | .closeObject =>
    match r with
    | .object members up => some (add (.object members) up)
    | _ => none
  | .atom a =>
    match r with
    | .object members up => (g.key? a).map fun key => .value members key up
    | r => r.place.bind fun up => if inMember up || g.loose a then some (add (.atom a) up) else none

def read (r : Reading K A) (ts : List (Token A)) : Option (Reading K A) := ts.foldlM (step g) r

variable {r r' : Reading K A} {ts : List (Token A)} {t : Token A}

theorem read_cons (h : step g r t = some r') (ts : List (Token A)) : read g r (t :: ts) = read g r' ts := by
  simp [read, List.foldlM_cons, h]

theorem read_append (h : read g r ts = some r') (ts' : List (Token A)) : read g r (ts ++ ts') = read g r' ts' := by
  simp only [read] at h
  simp [read, List.foldlM_append, h]

/-! ## What is spelled is read -/

variable {up : List (Crumb K A)} {d : Doc K A}

theorem step_atom {a : A} (hplace : r.place = some up) (h : inMember up = true ∨ g.loose a = true) :
    step g r (.atom a) = some (add (.atom a) up) := by
  cases r <;> cases hplace <;> simp [place, step, h]

theorem read_items {items : List (Doc K A)} {up : List (Crumb K A)}
    (h : ∀ d ∈ items, ∀ r up', place r = some up' → inMember up' = false →
      read g r (d.tokens g) = some (add d up'))
    (done : List (Doc K A)) :
    read g (.array done up) (items.flatMap (Doc.tokens g)) = some (.array (done ++ items) up) := by
  induction items generalizing done with
  | nil => simp [read]
  | cons d items ih =>
    have hd := h d List.mem_cons_self (.array done up) (.item done :: up) rfl rfl
    rw [List.flatMap_cons, read_append g hd, add, ih fun d' h' => h d' (List.mem_cons_of_mem d h')]
    simp

theorem read_members {members : List (K × Doc K A)} {up : List (Crumb K A)}
    (h : ∀ m ∈ members, ∀ r up', place r = some up' → inMember up' = true →
      read g r (m.2.tokens g) = some (add m.2 up'))
    (done : List (K × Doc K A)) :
    read g (.object done up) (members.flatMap (Doc.memberTokens g)) = some (.object (done ++ members) up) := by
  induction members generalizing done with
  | nil => simp [read]
  | cons m members ih =>
    have hkey : step g (.object done up) (.atom (g.ofKey m.1)) = some (.value done m.1 up) := by
      simp [step, (g.key?_eq_some _ _).2 rfl]
    have hm := h m List.mem_cons_self (.value done m.1 up) (.member done m.1 :: up) rfl rfl
    rw [List.flatMap_cons, Doc.memberTokens, List.cons_append, read_cons g hkey, read_append g hm, add,
      ih fun m' h' => h m' (List.mem_cons_of_mem m h')]
    simp

/-- The machine reads what a document spells, where the document can stand. -/
theorem read_tokens (hplace : r.place = some up) (h : d.Fits g (inMember up)) :
    read g r (d.tokens g) = some (add d up) := by
  induction d generalizing r up with
  | atom a =>
    cases h with
    | atom h => simp [read, step_atom g hplace h]
  | array items ih =>
    cases h with
    | array h =>
      have hopen : step g r .openArray = some (.array [] up) := by simp [step, hplace]
      have hitems : read g (.array [] up) (items.flatMap (Doc.tokens g)) = some (.array ([] ++ items) up) :=
        read_items g (fun d hd r up' hr hup => ih d hd hr (hup ▸ h d hd)) []
      rw [Doc.tokens_array, read_cons g hopen, read_append g hitems]
      simp [read, step]
  | object members ih =>
    cases h with
    | object h =>
      have hopen : step g r .openObject = some (.object [] up) := by simp [step, hplace]
      have hmembers : read g (.object [] up) (members.flatMap (Doc.memberTokens g)) = some (.object ([] ++ members) up) :=
        read_members g (fun m hm r up' hr hup => ih m hm hr (hup ▸ h m hm)) []
      rw [Doc.tokens_object, read_cons g hopen, read_append g hmembers]
      simp [read, step]

/-! ## What is read is spelled -/

def spelledUp : List (Crumb K A) → List (Token A)
  | [] => []
  | .item items :: up => spelledUp up ++ .openArray :: items.flatMap (Doc.tokens g)
  | .member members key :: up =>
    spelledUp up ++ .openObject :: (members.flatMap (Doc.memberTokens g) ++ [.atom (g.ofKey key)])

/-- The tokens that lead to a state. -/
def spelled : Reading K A → List (Token A)
  | .start => []
  | .array items up => spelledUp g (.item items :: up)
  | .object members up => spelledUp g up ++ .openObject :: members.flatMap (Doc.memberTokens g)
  | .value members key up => spelledUp g (.member members key :: up)
  | .done d => d.tokens g

theorem spelled_add (d : Doc K A) (up : List (Crumb K A)) : spelled g (add d up) = spelledUp g up ++ d.tokens g := by
  cases up with
  | nil => simp [add, spelled, spelledUp]
  | cons c up => cases c <;> simp [add, spelled, spelledUp, Doc.memberTokens]

theorem spelled_of_place (h : r.place = some up) : spelled g r = spelledUp g up := by
  cases r <;> cases h <;> rfl

def UpFits : List (Crumb K A) → Prop
  | [] => True
  | .item items :: up => (∀ d ∈ items, d.Fits g false) ∧ UpFits up
  | .member members _ :: up => (∀ m ∈ members, Doc.Fits g true m.2) ∧ UpFits up

/-- Everything that has been read can stand where it stands. -/
def Fits : Reading K A → Prop
  | .start => True
  | .array items up => UpFits g (.item items :: up)
  | .object members up => (∀ m ∈ members, Doc.Fits g true m.2) ∧ UpFits g up
  | .value members key up => UpFits g (.member members key :: up)
  | .done d => d.Fits g false

theorem fits_add (hup : UpFits g up) (h : d.Fits g (inMember up)) : Fits g (add d up) := by
  cases up with
  | nil => exact h
  | cons c up =>
    cases c with
    | item items =>
      refine ⟨fun d' hd' => ?_, hup.2⟩
      rcases List.mem_append.mp hd' with hd' | hd'
      · exact hup.1 d' hd'
      · rw [List.mem_singleton.mp hd']
        exact h
    | member members key =>
      refine ⟨fun m hm => ?_, hup.2⟩
      rcases List.mem_append.mp hm with hm | hm
      · exact hup.1 m hm
      · rw [List.mem_singleton.mp hm]
        exact h

theorem upFits_of_place (hr : r.Fits g) (h : r.place = some up) : UpFits g up := by
  cases r <;> cases h <;> exact hr

/-- What a step can do: it opens a container at the place of the next document, closes one, reads the key of a member
or an atom that can stand there. -/
theorem step_cases (h : step g r t = some r') :
    (∃ up, r.place = some up ∧ (t = .openArray ∧ r' = .array [] up ∨ t = .openObject ∧ r' = .object [] up)) ∨
    (∃ items up, t = .closeArray ∧ r = .array items up ∧ r' = add (.array items) up) ∨
    (∃ members up, t = .closeObject ∧ r = .object members up ∧ r' = add (.object members) up) ∨
    (∃ members up key, t = .atom (g.ofKey key) ∧ r = .object members up ∧ r' = .value members key up) ∨
    ∃ a up, t = .atom a ∧ r.place = some up ∧ (inMember up = true ∨ g.loose a = true) ∧ r' = add (.atom a) up := by
  cases t with
  | openArray =>
    obtain ⟨up, hup, rfl⟩ := Option.map_eq_some_iff.mp h
    exact .inl ⟨up, hup, .inl ⟨rfl, rfl⟩⟩
  | openObject =>
    obtain ⟨up, hup, rfl⟩ := Option.map_eq_some_iff.mp h
    exact .inl ⟨up, hup, .inr ⟨rfl, rfl⟩⟩
  | closeArray =>
    cases r with
    | array items up => exact .inr (.inl ⟨items, up, rfl, rfl, (Option.some.inj h).symm⟩)
    | _ => cases h
  | closeObject =>
    cases r with
    | object members up => exact .inr (.inr (.inl ⟨members, up, rfl, rfl, (Option.some.inj h).symm⟩))
    | _ => cases h
  | atom a =>
    cases r with
    | object members up =>
      obtain ⟨key, hkey, rfl⟩ := Option.map_eq_some_iff.mp h
      rw [g.key?_eq_some] at hkey
      exact .inr (.inr (.inr (.inl ⟨members, up, key, by rw [hkey], rfl, rfl⟩)))
    | _ =>
      simp only [step] at h
      obtain ⟨up, hup, h⟩ := Option.bind_eq_some_iff.mp h
      split at h
      · rename_i hatom
        rw [Bool.or_eq_true] at hatom
        exact .inr (.inr (.inr (.inr ⟨a, up, rfl, hup, hatom, (Option.some.inj h).symm⟩)))
      · cases h

/-- A step adds its token to what is spelled, and what has been read keeps standing where it can. -/
theorem step_spelled (h : step g r t = some r') (hr : r.Fits g) : r'.Fits g ∧ spelled g r' = spelled g r ++ [t] := by
  obtain ⟨up, hup, ⟨rfl, rfl⟩ | ⟨rfl, rfl⟩⟩ | ⟨items, up, rfl, rfl, rfl⟩ | ⟨members, up, rfl, rfl, rfl⟩ |
    ⟨members, up, key, rfl, rfl, rfl⟩ | ⟨a, up, rfl, hup, hatom, rfl⟩ := step_cases g h
  · rw [spelled_of_place g hup]
    exact ⟨⟨fun d hd => (List.not_mem_nil hd).elim, upFits_of_place g hr hup⟩, by simp [spelled, spelledUp]⟩
  · rw [spelled_of_place g hup]
    exact ⟨⟨fun m hm => (List.not_mem_nil hm).elim, upFits_of_place g hr hup⟩, by simp [spelled]⟩
  · exact ⟨fits_add g hr.2 (.array hr.1), by rw [spelled_add]; simp [spelled, spelledUp]⟩
  · exact ⟨fits_add g hr.2 (.object hr.1), by rw [spelled_add]; simp [spelled]⟩
  · exact ⟨hr, by simp [spelled, spelledUp]⟩
  · exact ⟨fits_add g (upFits_of_place g hr hup) (.atom hatom), by simp [spelled_add, spelled_of_place g hup]⟩

theorem read_spelled (h : read g r ts = some r') (hr : r.Fits g) : r'.Fits g ∧ spelled g r' = spelled g r ++ ts := by
  induction ts generalizing r with
  | nil =>
    cases h
    exact ⟨hr, by simp⟩
  | cons t ts ih =>
    rw [read, List.foldlM_cons] at h
    obtain ⟨r₁, hstep, h⟩ := Option.bind_eq_some_iff.mp h
    obtain ⟨hr₁, hspelled⟩ := step_spelled g hstep hr
    obtain ⟨hr', heq⟩ := ih h hr₁
    exact ⟨hr', by rw [heq, hspelled, List.append_assoc, List.singleton_append]⟩

/-- The machine comes to the end of a document exactly on the spelling of one that can stand alone. -/
theorem read_done_iff : read g .start ts = some (.done d) ↔ d.Fits g false ∧ ts = d.tokens g := by
  constructor
  · intro h
    obtain ⟨hfits, hspelled⟩ := read_spelled g h trivial
    exact ⟨hfits, by simpa [spelled] using hspelled.symm⟩
  · rintro ⟨hfits, rfl⟩
    exact read_tokens g (show place .start = some [] from rfl) hfits

end Reading

/-- Where every atom can stand, every document can. -/
theorem Doc.fits_of_loose (h : ∀ a, g.loose a = true) (d : Doc K A) (member : Bool) : d.Fits g member := by
  induction d generalizing member with
  | atom a => exact .atom (.inr (h a))
  | array items ih => exact .array fun d hd => ih d hd false
  | object members ih => exact .object fun m hm => ih m hm true

/-- No two documents have one spelling. -/
theorem Doc.tokens_injective : Function.Injective (Doc.tokens g) := by
  intro d d' heq
  let g' : Grammar K A := { g with loose := fun _ => true }
  have hd := (Reading.read_done_iff g').2 ⟨Doc.fits_of_loose g' (fun _ => rfl) d false, rfl⟩
  have hd' := (Reading.read_done_iff g').2 ⟨Doc.fits_of_loose g' (fun _ => rfl) d' false, heq⟩
  exact Reading.done.inj (Option.some.inj (hd.symm.trans hd'))

end AugmentedInsanity.Documents
