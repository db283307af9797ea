/-
The fifos of samples that can be averaged over a time (`m_filter_fifo.c`). They are allocated full of samples at the
timepoint zero, which are samples like those that are pushed: reading goes back to them, and an average from the
timepoint zero on counts them in. Of all samples, the ones that are left are read by their age and averaged as asked
for (`fifos_answer`).
-/
import Mathlib.Algebra.Field.Rat
import AugmentedInsanity.Lib.RingStack

namespace AugmentedInsanity.Math

/-! ## Fifos -/

/-- `struct m_ff_vec3_f32`, and `struct m_ff_f64`. -/
structure FilterFifo (S : Type) (num : ℕ) where
  latest : Fin num
  samples : Fin num → S
  timestampsNs : Fin num → ℕ

namespace FilterFifo

variable {S A : Type} {num : ℕ}

/-- `vec3_f32_init`, with the sample that is all zeros. -/
def init (zero : S) (h : 0 < num) : FilterFifo S num := ⟨⟨0, h⟩, fun _ => zero, fun _ => 0⟩

def computeIndex (ff : FilterFifo S num) (age : ℕ) : Fin num := RingStack.index ff.latest age

/-- `m_ff_vec3_f32_push`; `none` is a failed assertion. -/
def push (ff : FilterFifo S num) (sample : S) (timestampNs : ℕ) : Option (FilterFifo S num) :=
  if ff.timestampsNs ff.latest ≤ timestampNs then
    let i := RingStack.previous ff.latest
    some ⟨i, Function.update ff.samples i sample, Function.update ff.timestampsNs i timestampNs⟩
  else none

/-- `m_ff_vec3_f32_get`. -/
def get (ff : FilterFifo S num) (age : ℕ) : Option (S × ℕ) :=
  if num ≤ age then none else some (ff.samples (ff.computeIndex age), ff.timestampsNs (ff.computeIndex age))

/-- The loop of `m_ff_vec3_f32_filter`, with the number of samples that it has yet to look at: what it has added up, and
how many samples. -/
def filterLoop (ff : FilterFifo S num) (add : A → S → A) (startNs stopNs : ℕ) : ℕ → A × ℕ → A × ℕ
  | 0, out => out
  | rest + 1, out =>
    let pos := ff.computeIndex (num - (rest + 1))
    -- We have not yet reached where to start.
    if stopNs < ff.timestampsNs pos then filterLoop ff add startNs stopNs rest out
    -- If the sample is before the start we have reach the end.
    else if ff.timestampsNs pos < startNs then out
    else filterLoop ff add startNs stopNs rest (add out.1 (ff.samples pos), out.2 + 1)

/-- `m_ff_vec3_f32_filter` up to the division. -/
def filter (ff : FilterFifo S num) (add : A → S → A) (zero : A) (startNs stopNs : ℕ) : A × ℕ :=
  if stopNs < startNs then (zero, 0) else ff.filterLoop add startNs stopNs num (zero, 0)

end FilterFifo

structure XrtVec3 (F : Type) where
  x : F
  y : F
  z : F
  deriving DecidableEq

/-- The conversions between `float` and `double`. -/
structure Precision (F D : Type) [Zero F] [Zero D] where
  toDouble : F → D
  toFloat : D → F
  toFloat_zero : toFloat 0 = 0

section
variable {F D : Type} {num : ℕ}

/-! ### Of vectors -/

abbrev MFfVec3F32 (F : Type) (num : ℕ) := FilterFifo (XrtVec3 F) num

def mFfVec3F32Alloc [Zero F] (h : 0 < num) : MFfVec3F32 F num := .init ⟨0, 0, 0⟩ h

def mFfVec3F32Push (ff : MFfVec3F32 F num) (sample : XrtVec3 F) (timestampNs : ℕ) : Option (MFfVec3F32 F num) :=
  ff.push sample timestampNs

def mFfVec3F32Get (ff : MFfVec3F32 F num) (age : ℕ) : Option (XrtVec3 F × ℕ) := ff.get age

def mFfVec3F32GetTimestamp (ff : MFfVec3F32 F num) (age : ℕ) : Option ℕ :=
  if num ≤ age then none else some (ff.timestampsNs (ff.computeIndex age))

def mFfVec3F32Filter [Zero F] [Zero D] [Add D] [Div D] [NatCast D] (prec : Precision F D) (ff : MFfVec3F32 F num)
    (startNs stopNs : ℕ) : ℕ × XrtVec3 F :=
  let add (sum : XrtVec3 D) (sample : XrtVec3 F) : XrtVec3 D :=
    ⟨sum.x + prec.toDouble sample.x, sum.y + prec.toDouble sample.y, sum.z + prec.toDouble sample.z⟩
  let (sum, numSampled) := ff.filter add ⟨0, 0, 0⟩ startNs stopNs
  -- Avoid division by zero.
  let sum : XrtVec3 D := if 0 < numSampled then ⟨sum.x / numSampled, sum.y / numSampled, sum.z / numSampled⟩ else sum
  (numSampled, ⟨prec.toFloat sum.x, prec.toFloat sum.y, prec.toFloat sum.z⟩)

/-! ### Of doubles -/

abbrev MFfF64 (D : Type) (num : ℕ) := FilterFifo D num

def mFfF64Alloc [Zero D] (h : 0 < num) : MFfF64 D num := .init 0 h

def mFfF64Push (ff : MFfF64 D num) (sample : D) (timestampNs : ℕ) : Option (MFfF64 D num) := ff.push sample timestampNs

def mFfF64Get (ff : MFfF64 D num) (age : ℕ) : Option (D × ℕ) := ff.get age

def mFfF64Filter [Zero D] [Add D] [Div D] [NatCast D] (ff : MFfF64 D num) (startNs stopNs : ℕ) : ℕ × D :=
  let (sum, numSampled) := ff.filter (· + ·) (0 : D) startNs stopNs
  (numSampled, if 0 < numSampled then sum / numSampled else sum)

end

/-! ## Answers -/

section
variable {S F D : Type} {num : ℕ}

/-- The samples that are left, the newest first: of those that were pushed, and those that the fifo is filled with. -/
def window (num : ℕ) (fill : S) (pushed : List (S × ℕ)) : List (S × ℕ) :=
  (pushed ++ List.replicate num (fill, 0)).take num

def between (startNs stopNs : ℕ) (l : List (S × ℕ)) : List (S × ℕ) :=
  l.filter fun sample => decide (startNs ≤ sample.2) && decide (sample.2 ≤ stopNs)

/-- The arithmetic mean, added up from the front; zero if there is nothing. -/
def mean [Zero D] [Add D] [Div D] [NatCast D] (xs : List D) : D :=
  if xs = [] then 0 else xs.foldl (· + ·) 0 / (xs.length : D)

section
variable [Zero D] [Add D] [Div D] [NatCast D]

/-- Samples are read by their age, and averaged by their time. -/
structure Vec3Answers [Zero F] (prec : Precision F D) (ff : MFfVec3F32 F num) (l : List (XrtVec3 F × ℕ)) : Prop where
  get : ∀ age, mFfVec3F32Get ff age = l[age]?
  getTimestamp : ∀ age, mFfVec3F32GetTimestamp ff age = l[age]?.map Prod.snd
  filter : ∀ startNs stopNs, mFfVec3F32Filter prec ff startNs stopNs =
    ((between startNs stopNs l).length,
      { x := prec.toFloat (mean ((between startNs stopNs l).map fun sample => prec.toDouble sample.1.x))
        y := prec.toFloat (mean ((between startNs stopNs l).map fun sample => prec.toDouble sample.1.y))
        z := prec.toFloat (mean ((between startNs stopNs l).map fun sample => prec.toDouble sample.1.z)) })
  filter_none : ∀ startNs stopNs, between startNs stopNs l = [] →
    mFfVec3F32Filter prec ff startNs stopNs = (0, ⟨0, 0, 0⟩)

structure F64Answers (ff : MFfF64 D num) (l : List (D × ℕ)) : Prop where
  get : ∀ age, mFfF64Get ff age = l[age]?
  filter : ∀ startNs stopNs, mFfF64Filter ff startNs stopNs =
    ((between startNs stopNs l).length, mean ((between startNs stopNs l).map Prod.fst))
  filter_none : ∀ startNs stopNs, between startNs stopNs l = [] → mFfF64Filter ff startNs stopNs = (0, 0)

end

def PushedInOrder (pushes : List (S × ℕ)) : Prop := pushes.Pairwise fun a b => a.2 ≤ b.2

instance (pushes : List (S × ℕ)) : Decidable (PushedInOrder pushes) :=
  inferInstanceAs (Decidable (pushes.Pairwise fun a b => a.2 ≤ b.2))

def FilterFifo.pushAll (push : FilterFifo S num → S → ℕ → Option (FilterFifo S num)) (ff : FilterFifo S num)
    (pushes : List (S × ℕ)) : Option (FilterFifo S num) :=
  pushes.foldlM (fun ff sample => push ff sample.1 sample.2) ff

/-! ## What is in a fifo -/

namespace FilterFifo

variable {ff ff' : FilterFifo S num} {pushes : List (S × ℕ)}

def ring (ff : FilterFifo S num) : RingStack num (S × ℕ) := ⟨fun i => (ff.samples i, ff.timestampsNs i), ff.latest⟩

def contents (ff : FilterFifo S num) : List (S × ℕ) := ff.ring.contents

def Descending (l : List (S × ℕ)) : Prop := l.Pairwise fun a b => b.2 ≤ a.2

theorem getElem?_contents (age : ℕ) : ff.contents[age]? =
    if age < num then some (ff.samples (ff.computeIndex age), ff.timestampsNs (ff.computeIndex age)) else none :=
  RingStack.getElem?_contents age

@[simp] theorem length_contents : ff.contents.length = num := RingStack.length_contents

theorem get_eq (age : ℕ) : ff.get age = ff.contents[age]? := by
  rw [get, getElem?_contents]
  split
  · rw [if_neg (by omega)]
  · rw [if_pos (by omega)]

theorem contents_eq_cons (ff : FilterFifo S num) : ∃ older, ff.contents = (ff.samples ff.latest, ff.timestampsNs ff.latest) :: older := by
  have hpos := ff.latest.pos
  have hhead : ff.contents[0]? = _ := getElem?_contents 0
  rw [if_pos hpos, computeIndex, RingStack.index_zero] at hhead
  cases hcontents : ff.contents with
  | nil =>
    rw [hcontents] at hhead
    cases hhead
  | cons newest older =>
    rw [hcontents, List.getElem?_cons_zero, Option.some.injEq] at hhead
    exact ⟨older, by rw [hhead]⟩

theorem push_eq (sample : S) {timestampNs : ℕ} (h : ff.timestampsNs ff.latest ≤ timestampNs) :
    ∃ ff', ff.push sample timestampNs = some ff' ∧ ff'.ring = ff.ring.push (sample, timestampNs) := by
  rw [push, if_pos h]
  refine ⟨_, rfl, ?_⟩
  rw [ring, RingStack.push]
  refine congrArg (RingStack.mk · _) (funext fun i => ?_)
  by_cases hi : i = RingStack.previous ff.latest
  · subst hi
    simp [ring]
  · simp [ring, hi]

theorem contents_init {zero : S} (h : 0 < num) : (init zero h).contents = List.replicate num (zero, 0) := by
  refine List.ext_getElem? fun age => ?_
  rw [getElem?_contents, List.getElem?_replicate]
  rfl

theorem pushAll_spec (hdescending : Descending ff.contents) (horder : PushedInOrder pushes)
    (hlater : ∀ sample ∈ pushes, ff.timestampsNs ff.latest ≤ sample.2) :
    ∃ ff', ff.pushAll push pushes = some ff' ∧ ff'.contents = (pushes.reverse ++ ff.contents).take num ∧
      Descending ff'.contents := by
  suffices h : ∃ ff', ff.pushAll push pushes = some ff' ∧ ff'.ring = pushes.foldl RingStack.push ff.ring ∧
      Descending ff'.contents by
    obtain ⟨ff', hpush, hring, hdescending'⟩ := h
    refine ⟨ff', hpush, ?_, hdescending'⟩
    rw [contents, hring, RingStack.contents_push_all]
    rfl
  induction pushes generalizing ff with
  | nil => exact ⟨ff, rfl, rfl, hdescending⟩
  | cons sample pushes ih =>
    obtain ⟨hfirst, horder'⟩ := List.pairwise_cons.1 horder
    obtain ⟨hsample, -⟩ := List.forall_mem_cons.1 hlater
    obtain ⟨ff₁, hpush, hring⟩ := push_eq sample.1 hsample
    have hcontents : ff₁.contents = sample :: ff.contents.dropLast := by
      rw [contents, hring, RingStack.contents_push]
      rfl
    have hnewest : ff₁.timestampsNs ff₁.latest = sample.2 := by
      obtain ⟨older, holder⟩ := contents_eq_cons ff₁
      rw [hcontents] at holder
      rw [(List.cons.inj holder).1]
    have hdescending₁ : Descending ff₁.contents := by
      obtain ⟨older, holder⟩ := contents_eq_cons ff
      rw [hcontents]
      refine List.pairwise_cons.2 ⟨fun old hold => ?_, hdescending.sublist (List.dropLast_sublist _)⟩
      have hmem := (List.dropLast_sublist _).subset hold
      rw [Descending, holder, List.pairwise_cons] at hdescending
      rw [holder] at hmem
      rcases List.mem_cons.1 hmem with rfl | hmem
      · exact hsample
      · exact (hdescending.1 old hmem).trans hsample
    obtain ⟨ff', hpushes, hring', hdescending'⟩ := ih hdescending₁ horder' (by rwa [hnewest])
    refine ⟨ff', ?_, ?_, hdescending'⟩
    · rw [pushAll, List.foldlM_cons, hpush]
      exact hpushes
    · rw [hring', hring, List.foldl_cons]

theorem pushAll_init {zero : S} (h : 0 < num) (horder : PushedInOrder pushes) :
    ∃ ff : FilterFifo S num, (init zero h).pushAll push pushes = some ff ∧
      ff.contents = window num zero pushes.reverse ∧ Descending ff.contents := by
  have hdescending : Descending (init zero h).contents := by
    rw [contents_init]
    exact List.pairwise_replicate.2 (.inr (Nat.le_refl _))
  have hspec := pushAll_spec hdescending horder fun sample _ => Nat.zero_le sample.2
  rwa [contents_init] at hspec

/-! ## The loop of the average -/

section
variable {add : A → S → A} {startNs stopNs : ℕ}

theorem filterLoop_eq {rest : ℕ} (hdescending : Descending ff.contents) (hrest : rest ≤ num) (out : A × ℕ) :
    ff.filterLoop add startNs stopNs rest out =
      (between startNs stopNs (ff.contents.drop (num - rest))).foldl
        (fun out sample => (add out.1 sample.1, out.2 + 1)) out := by
  induction rest generalizing out with
  | zero =>
    rw [Nat.sub_zero, List.drop_of_length_le (Nat.le_of_eq length_contents)]
    rfl
  | succ rest ih =>
    have hlt : num - (rest + 1) < num := by omega
    have hsub : num - (rest + 1) + 1 = num - rest := by omega
    obtain ⟨sample, hsample⟩ : ∃ sample, ff.contents[num - (rest + 1)]? = some sample :=
      ⟨_, (getElem?_contents _).trans (if_pos hlt)⟩
    have hpos := hsample
    rw [getElem?_contents, if_pos hlt, Option.some.injEq] at hpos
    obtain ⟨hbound, hget⟩ := List.getElem?_eq_some_iff.1 hsample
    have hdrop : ff.contents.drop (num - (rest + 1)) = sample :: ff.contents.drop (num - rest) := by
      rw [List.drop_eq_getElem_cons hbound, hget, hsub]
    have holder : ∀ old ∈ ff.contents.drop (num - rest), old.2 ≤ sample.2 := by
      have hpairwise := hdescending.sublist (List.drop_sublist (num - (rest + 1)) _)
      rw [hdrop] at hpairwise
      exact (List.pairwise_cons.1 hpairwise).1
    rw [hdrop, filterLoop, show ff.timestampsNs (ff.computeIndex (num - (rest + 1))) = sample.2 by rw [← hpos],
      show ff.samples (ff.computeIndex (num - (rest + 1))) = sample.1 by rw [← hpos]]
    by_cases hstop : stopNs < sample.2
    · rw [if_pos hstop, ih (by omega), between, between, List.filter_cons_of_neg (by simp; omega)]
    · rw [if_neg hstop]
      by_cases hstart : sample.2 < startNs
      · have hnone : between startNs stopNs (sample :: ff.contents.drop (num - rest)) = [] := by
          refine List.filter_eq_nil_iff.2 fun old hold => ?_
          have hle : old.2 ≤ sample.2 := by
            rcases List.mem_cons.1 hold with rfl | hold
            · exact Nat.le_refl _
            · exact holder old hold
          simp
          omega
        rw [if_pos hstart, hnone]
        rfl
      · rw [if_neg hstart, ih (by omega), between, between, List.filter_cons_of_pos (by simp; omega), List.foldl_cons]

theorem filter_eq {zero : A} (hdescending : Descending ff.contents) : ff.filter add zero startNs stopNs =
    ((between startNs stopNs ff.contents).foldl (fun sum sample => add sum sample.1) zero,
      (between startNs stopNs ff.contents).length) := by
  have hcount : ∀ (l : List (S × ℕ)) (sum : A) (n : ℕ),
      l.foldl (fun out sample => (add out.1 sample.1, out.2 + 1)) (sum, n) =
        (l.foldl (fun sum sample => add sum sample.1) sum, n + l.length) := by
    intro l
    induction l with
    | nil => exact fun _ _ => rfl
    | cons sample l ih =>
      intro sum n
      rw [List.foldl_cons, ih, List.foldl_cons, List.length_cons, Nat.add_assoc, Nat.add_comm 1]
  rw [filter]
  split
  · have hnone : between startNs stopNs ff.contents = [] := by
      refine List.filter_eq_nil_iff.2 fun sample _ => ?_
      simp
      omega
    rw [hnone]
    rfl
  · rw [filterLoop_eq hdescending (Nat.le_refl _), hcount, Nat.sub_self, List.drop_zero, Nat.zero_add]

end

end FilterFifo

/-! ## Averages -/

theorem foldl_vec3 [Add D] (l : List (XrtVec3 F × ℕ)) (toDouble : F → D) (sum : XrtVec3 D) :
    l.foldl (fun (sum : XrtVec3 D) sample => (⟨sum.x + toDouble sample.1.x, sum.y + toDouble sample.1.y,
        sum.z + toDouble sample.1.z⟩ : XrtVec3 D)) sum =
      { x := (l.map fun sample => toDouble sample.1.x).foldl (· + ·) sum.x
        y := (l.map fun sample => toDouble sample.1.y).foldl (· + ·) sum.y
        z := (l.map fun sample => toDouble sample.1.z).foldl (· + ·) sum.z } := by
  induction l generalizing sum with
  | nil => rfl
  | cons sample l ih => rw [List.foldl_cons, ih]; rfl

section
variable [Zero D] [Add D] [Div D] [NatCast D]

theorem mean_eq (xs : List D) :
    mean xs = if 0 < xs.length then xs.foldl (· + ·) 0 / (xs.length : D) else xs.foldl (· + ·) 0 := by
  cases xs <;> rfl

theorem mFfF64Filter_eq {ff : MFfF64 D num} {startNs stopNs : ℕ}
    (hdescending : FilterFifo.Descending ff.contents) : mFfF64Filter ff startNs stopNs =
      ((between startNs stopNs ff.contents).length, mean ((between startNs stopNs ff.contents).map Prod.fst)) := by
  rw [mFfF64Filter, FilterFifo.filter_eq hdescending, mean_eq, List.length_map, List.foldl_map]

theorem mFfVec3F32Filter_eq [Zero F] {prec : Precision F D} {ff : MFfVec3F32 F num} {startNs stopNs : ℕ}
    (hdescending : FilterFifo.Descending ff.contents) :
    mFfVec3F32Filter prec ff startNs stopNs =
      ((between startNs stopNs ff.contents).length,
        { x := prec.toFloat (mean ((between startNs stopNs ff.contents).map fun sample => prec.toDouble sample.1.x))
          y := prec.toFloat (mean ((between startNs stopNs ff.contents).map fun sample => prec.toDouble sample.1.y))
          z := prec.toFloat
            (mean ((between startNs stopNs ff.contents).map fun sample => prec.toDouble sample.1.z)) }) := by
  rw [mFfVec3F32Filter, FilterFifo.filter_eq hdescending, foldl_vec3]
  simp only [mean_eq, List.length_map]
  split <;> rfl

theorem vec3Answers_of_contents [Zero F] (prec : Precision F D) {ff : MFfVec3F32 F num}
    (hdescending : FilterFifo.Descending ff.contents) : Vec3Answers prec ff ff.contents where
  get := FilterFifo.get_eq
  getTimestamp age := by
    rw [← FilterFifo.get_eq, FilterFifo.get, mFfVec3F32GetTimestamp]
    split <;> rfl
  filter _ _ := mFfVec3F32Filter_eq hdescending
  filter_none _ _ hnone := by
    rw [mFfVec3F32Filter_eq hdescending, hnone]
    exact congrArg (fun zero => (0, XrtVec3.mk zero zero zero)) prec.toFloat_zero

theorem f64Answers_of_contents {ff : MFfF64 D num} (hdescending : FilterFifo.Descending ff.contents) :
    F64Answers ff ff.contents where
  get := FilterFifo.get_eq
  filter _ _ := mFfF64Filter_eq hdescending
  filter_none _ _ hnone := by
    rw [mFfF64Filter_eq hdescending, hnone]
    rfl

/-- In every fifo, whatever has been pushed in the order of the timestamps: the samples that are left are read by their
age, and those of a time are averaged, the ones that the fifo is filled with among them. -/
theorem fifos_answer [Zero F] (prec : Precision F D) (h : 0 < num) :
    (∀ pushes : List (XrtVec3 F × ℕ), PushedInOrder pushes →
      ∃ ff : MFfVec3F32 F num, (mFfVec3F32Alloc h).pushAll mFfVec3F32Push pushes = some ff ∧
        Vec3Answers prec ff (window num ⟨0, 0, 0⟩ pushes.reverse)) ∧
      ∀ pushes : List (D × ℕ), PushedInOrder pushes →
        ∃ ff : MFfF64 D num, (mFfF64Alloc h).pushAll mFfF64Push pushes = some ff ∧
          F64Answers ff (window num 0 pushes.reverse) := by
  constructor
  · intro pushes horder
    obtain ⟨ff, hpush, hcontents, hdescending⟩ :=
      FilterFifo.pushAll_init h horder
    exact ⟨ff, hpush, hcontents ▸ vec3Answers_of_contents prec hdescending⟩
  · intro pushes horder
    obtain ⟨ff, hpush, hcontents, hdescending⟩ := FilterFifo.pushAll_init h horder
    exact ⟨ff, hpush, hcontents ▸ f64Answers_of_contents hdescending⟩

/-- Three samples in fifos of two. -/
theorem fifos_answer_three :
    PushedInOrder [((1 : ℚ), 5), (2, 5), (4, 7)] ∧
      (∃ ff : MFfVec3F32 ℚ 2,
        (mFfVec3F32Alloc (by decide)).pushAll mFfVec3F32Push
            [(⟨1, 2, 3⟩, 5), (⟨2, 3, 4⟩, 5), (⟨4, 5, 6⟩, 7)] = some ff ∧
          Vec3Answers ⟨id, id, rfl⟩ ff [(⟨4, 5, 6⟩, 7), (⟨2, 3, 4⟩, 5)]) ∧
      ∃ ff : MFfF64 ℚ 2, (mFfF64Alloc (by decide)).pushAll mFfF64Push [(1, 5), (2, 5), (4, 7)] = some ff ∧
        F64Answers ff [(4, 7), (2, 5)] := by
  have hanswer := fifos_answer (⟨id, id, rfl⟩ : Precision ℚ ℚ) (show 0 < 2 by decide)
  exact ⟨by decide, hanswer.1 [(⟨1, 2, 3⟩, 5), (⟨2, 3, 4⟩, 5), (⟨4, 5, 6⟩, 7)] (by decide),
    hanswer.2 [(1, 5), (2, 5), (4, 7)] (by decide)⟩

/-- The samples that a fifo is filled with are averaged with the one that was pushed. -/
theorem mFfF64Filter_fill :
    ∃ ff : MFfF64 ℚ 2, (mFfF64Alloc (by decide)).pushAll mFfF64Push [(1, 5)] = some ff ∧
      mFfF64Filter ff 0 10 = (2, 1 / 2) ∧ ¬ F64Answers ff ([(1, 5)].take 2) := by
  refine ⟨_, rfl, by decide +kernel, fun h => ?_⟩
  have hnone : (none : Option (ℚ × ℕ)) = some (0, 0) := (h.get 1).symm
  cases hnone

end

end

end AugmentedInsanity.Math
