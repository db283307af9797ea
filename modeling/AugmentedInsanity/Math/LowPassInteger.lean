/-
The low-pass filter for integers (`m_lowpass_integer.hpp`, with the fractions of `m_rational.hpp`), over a signed or unsigned
type of some width. If the products that a sample forms and their sum fit the type, the state moves towards the sample and
never past it, and comes to rest near an input that stays the same (`smooths`).
-/
import AugmentedInsanity.Lib.Runs
import AugmentedInsanity.Lib.TruncatedMeans

namespace AugmentedInsanity.Math

open Runs TruncatedMeans

/-! ## Types -/

structure IntType where
  signed : Bool
  bits : ℕ
  deriving DecidableEq

namespace IntType

def lowest (t : IntType) : ℤ := if t.signed then -2 ^ (t.bits - 1) else 0

def highest (t : IntType) : ℤ := if t.signed then 2 ^ (t.bits - 1) - 1 else 2 ^ t.bits - 1

def Fits (t : IntType) (n : ℤ) : Prop := t.lowest ≤ n ∧ n ≤ t.highest

instance (t : IntType) (n : ℤ) : Decidable (t.Fits n) := inferInstanceAs (Decidable (_ ∧ _))

/-- The value of an expression: unsigned types wrap, for signed ones an overflow is not defined. -/
def value (t : IntType) (n : ℤ) : Option ℤ :=
  if t.signed then if t.Fits n then some n else none else some (n % 2 ^ t.bits)

variable {t : IntType} {n : ℤ}

theorem lowest_nonpos (t : IntType) : t.lowest ≤ 0 := by
  unfold lowest
  split_ifs
  · exact neg_nonpos.mpr (pow_nonneg (by decide) _)
  · exact le_refl 0

theorem fits_of_le {m : ℤ} (hpos : 0 ≤ n) (hle : n ≤ m) (h : t.Fits m) : t.Fits n :=
  ⟨t.lowest_nonpos.trans hpos, hle.trans h.2⟩

theorem nonneg_of_fits (hsigned : t.signed = false) (h : t.Fits n) : 0 ≤ n := by
  unfold Fits lowest at h
  rw [if_neg (by rw [hsigned]; decide)] at h
  exact h.1

theorem value_of_fits (h : t.Fits n) : t.value n = some n := by
  unfold value
  split_ifs with hsigned
  · rfl
  · unfold Fits lowest highest at h
    rw [if_neg hsigned, if_neg hsigned] at h
    rw [Int.emod_eq_of_lt h.1 (Int.lt_of_le_sub_one h.2)]

theorem fits_of_abs (hsign : t.signed = true ∨ 0 ≤ n) (h : t.Fits |n|) : t.Fits n := by
  unfold Fits lowest highest at h ⊢
  rcases hsign with hsigned | hpos
  · rw [if_pos hsigned, if_pos hsigned] at h ⊢
    have hself := le_abs_self n
    have hneg := neg_abs_le n
    constructor <;> linarith
  · rwa [abs_of_nonneg hpos] at h

end IntType

/-! ## Fractions -/

/-- `Rational<Scalar>`. -/
structure Rational where
  numerator : ℤ
  denominator : ℤ
  deriving DecidableEq

namespace Rational

def withNonNegativeDenominator (t : IntType) (r : Rational) : Option Rational :=
  if t.signed ∧ r.denominator < 0 then
    (t.value (-r.numerator)).bind fun numerator =>
      (t.value (-r.denominator)).map fun denominator => ⟨numerator, denominator⟩
  else some r

def IsBetweenZeroAndOne (r : Rational) : Prop :=
  r.denominator > 0 ∧ r.numerator > 0 ∧ r.numerator < r.denominator

instance (r : Rational) : Decidable r.IsBetweenZeroAndOne := inferInstanceAs (Decidable (_ ∧ _))

def complement (t : IntType) (r : Rational) : Option Rational :=
  (t.value (r.denominator - r.numerator)).bind fun numerator =>
    withNonNegativeDenominator t ⟨numerator, r.denominator⟩

/-- `operator*`. -/
def mul (t : IntType) (lhs rhs : Rational) : Option Rational :=
  (t.value (lhs.numerator * rhs.numerator)).bind fun numerator =>
    (t.value (lhs.denominator * rhs.denominator)).bind fun denominator =>
      withNonNegativeDenominator t ⟨numerator, denominator⟩

/-- The fraction is more than zero and at most one; both parts of it may be negative. -/
def IsUnitWeight (r : Rational) : Prop :=
  (0 < r.numerator ∧ r.numerator ≤ r.denominator) ∨ (r.denominator ≤ r.numerator ∧ r.numerator < 0)

instance (r : Rational) : Decidable r.IsUnitWeight := inferInstanceAs (Decidable (_ ∨ _))

def Fits (t : IntType) (r : Rational) : Prop := t.Fits r.numerator ∧ t.Fits r.denominator

end Rational

/-! ## The filter -/

structure IntegerLowPassIIR where
  state : ℤ
  alpha : Rational
  initialized : Bool
  deriving DecidableEq

namespace IntegerLowPassIIR

/-- The constructor; `none` is the exception. -/
def create (t : IntType) (alpha : Rational) (val : ℤ) : Option IntegerLowPassIIR :=
  (alpha.withNonNegativeDenominator t).bind fun alpha =>
    if alpha.IsBetweenZeroAndOne then some ⟨val, alpha, false⟩ else none

def reset (f : IntegerLowPassIIR) (val : ℤ) : IntegerLowPassIIR := { f with state := val, initialized := false }

/-- `addSample`; `none` is an overflow of a signed type or a division by zero. -/
def addSample (t : IntType) (f : IntegerLowPassIIR) (sample : ℤ) (weight : Rational) : Option IntegerLowPassIIR :=
  if !f.initialized then some { f with initialized := true, state := sample }
  else
    (f.alpha.mul t weight).bind fun weightedAlpha =>
      (weightedAlpha.complement t).bind fun oneMinusWeightedAlpha =>
        (t.value (oneMinusWeightedAlpha.numerator * f.state)).bind fun scaledStateNumerator =>
          (t.value (weightedAlpha.numerator * sample)).bind fun scaledSampleNumerator =>
            (t.value (scaledStateNumerator + scaledSampleNumerator)).bind fun sum =>
              if weightedAlpha.denominator = 0 then none
              else some { f with state := sum.tdiv weightedAlpha.denominator }

def numer (f : IntegerLowPassIIR) (weight : Rational) : ℤ := |f.alpha.numerator * weight.numerator|

def denom (f : IntegerLowPassIIR) (weight : Rational) : ℤ := |f.alpha.denominator * weight.denominator|

/-- The products that a sample forms fit the type, those of the fractions with either sign. -/
structure ProductsFit (t : IntType) (f : IntegerLowPassIIR) (sample : ℤ) (weight : Rational) : Prop where
  numer : t.Fits (f.numer weight)
  denom : t.Fits (f.denom weight)
  scaledState : t.Fits ((f.denom weight - f.numer weight) * f.state)
  scaledSample : t.Fits (f.numer weight * sample)

/-- The products fit, and the sum of the scaled ones. -/
structure SampleFits (t : IntType) (f : IntegerLowPassIIR) (sample : ℤ) (weight : Rational) : Prop
    extends ProductsFit t f sample weight where
  sum : t.Fits ((f.denom weight - f.numer weight) * f.state + f.numer weight * sample)

variable {t : IntType} {f f' : IntegerLowPassIIR} {sample : ℤ} {weight : Rational} {samples : List ℤ}
  {weights : ℕ → Rational}

theorem numer_denom (halpha : f.alpha.IsBetweenZeroAndOne) (hweight : weight.IsUnitWeight) :
    0 < f.numer weight ∧ f.numer weight < f.denom weight := by
  obtain ⟨hden, hnum, hlt⟩ := halpha
  unfold numer denom
  rw [abs_mul, abs_mul, abs_of_pos hnum, abs_of_pos hden]
  have hpos : 0 < |weight.numerator| ∧ |weight.numerator| ≤ |weight.denominator| := by
    rcases hweight with ⟨h₁, h₂⟩ | ⟨h₁, h₂⟩
    · rw [abs_of_pos h₁, abs_of_pos (lt_of_lt_of_le h₁ h₂)]
      exact ⟨h₁, h₂⟩
    · rw [abs_of_neg h₂, abs_of_neg (lt_of_le_of_lt h₁ h₂)]
      exact ⟨by linarith, by linarith⟩
  exact ⟨mul_pos hnum hpos.1, by nlinarith⟩

theorem mul_eq (halpha : f.alpha.IsBetweenZeroAndOne) (hweight : weight.IsUnitWeight)
    (hsign : t.signed = true ∨ 0 < weight.numerator) (hnumer : t.Fits (f.numer weight))
    (hdenom : t.Fits (f.denom weight)) : f.alpha.mul t weight = some ⟨f.numer weight, f.denom weight⟩ := by
  obtain ⟨hden, hnum, -⟩ := halpha
  unfold numer at hnumer ⊢
  unfold denom at hdenom ⊢
  rcases hweight with ⟨hpos, hle⟩ | ⟨hle, hneg⟩
  · have hn := mul_pos hnum hpos
    have hd := mul_pos hden (lt_of_lt_of_le hpos hle)
    rw [abs_of_pos hn] at hnumer ⊢
    rw [abs_of_pos hd] at hdenom ⊢
    unfold Rational.mul Rational.withNonNegativeDenominator
    rw [IntType.value_of_fits hnumer, IntType.value_of_fits hdenom, Option.bind_some, Option.bind_some,
      if_neg fun h => absurd h.2 (not_lt_of_gt hd)]
  · have hsigned : t.signed = true := hsign.resolve_right (not_lt_of_gt hneg)
    have hn := mul_neg_of_pos_of_neg hnum hneg
    have hd := mul_neg_of_pos_of_neg hden (lt_of_le_of_lt hle hneg)
    have hnumer' := IntType.fits_of_abs (.inl hsigned) hnumer
    have hdenom' := IntType.fits_of_abs (.inl hsigned) hdenom
    rw [abs_of_neg hn] at hnumer ⊢
    rw [abs_of_neg hd] at hdenom ⊢
    unfold Rational.mul Rational.withNonNegativeDenominator
    rw [IntType.value_of_fits hnumer', IntType.value_of_fits hdenom', Option.bind_some, Option.bind_some,
      if_pos ⟨hsigned, hd⟩, IntType.value_of_fits hnumer, IntType.value_of_fits hdenom]
    rfl

theorem complement_eq {r : Rational} (hpos : 0 < r.denominator) (hfits : t.Fits (r.denominator - r.numerator)) :
    r.complement t = some ⟨r.denominator - r.numerator, r.denominator⟩ := by
  unfold Rational.complement Rational.withNonNegativeDenominator
  rw [IntType.value_of_fits hfits, Option.bind_some, if_neg fun h => absurd h.2 (not_lt_of_gt hpos)]

theorem addSample_spec (halpha : f.alpha.IsBetweenZeroAndOne) (hinit : f.initialized = true)
    (hweight : weight.IsUnitWeight) (hvalue : weight.Fits t) (hfits : SampleFits t f sample weight) :
    f.addSample t sample weight =
      some { f with state := TruncatedMeans.mean (f.numer weight) (f.denom weight) f.state sample } := by
  obtain ⟨hpos, hlt⟩ := numer_denom halpha hweight
  have hsign : t.signed = true ∨ 0 < weight.numerator := by
    rcases Bool.eq_false_or_eq_true t.signed with hsigned | hunsigned
    · exact .inl hsigned
    · rcases hweight with ⟨hnum, -⟩ | ⟨-, hneg⟩
      · exact .inr hnum
      · exact absurd (IntType.nonneg_of_fits hunsigned hvalue.1) (not_le_of_gt hneg)
  have hcomplement : t.Fits (f.denom weight - f.numer weight) :=
    IntType.fits_of_le (by linarith) (by linarith) hfits.denom
  unfold addSample
  rw [hinit, mul_eq halpha hweight hsign hfits.numer hfits.denom]
  simp only [Bool.not_true, Bool.false_eq_true, if_false, Option.bind_some]
  rw [complement_eq (hpos.trans hlt) hcomplement]
  simp only [Option.bind_some]
  rw [IntType.value_of_fits hfits.scaledState, IntType.value_of_fits hfits.scaledSample]
  simp only [Option.bind_some]
  rw [IntType.value_of_fits hfits.sum, Option.bind_some, if_neg (Int.ne_of_gt (hpos.trans hlt))]
  rfl

/-! ## Runs -/

inductive Call
  | sample (sample : ℤ) (weight : Rational)
  | reset (val : ℤ)
  deriving DecidableEq

def step (t : IntType) (f : IntegerLowPassIIR) : Call → Option IntegerLowPassIIR
  | .sample sample weight => f.addSample t sample weight
  | .reset val => some (f.reset val)

/-- A sample has a weight of the type in the unit interval, and after the first one its products and their sum fit. -/
def CallFits (t : IntType) (f : IntegerLowPassIIR) : Call → Prop
  | .sample sample weight =>
    weight.IsUnitWeight ∧ weight.Fits t ∧ (f.initialized = true → SampleFits t f sample weight)
  | .reset _ => True

def since (samples : List ℤ) : Call → List ℤ
  | .sample sample _ => samples ++ [sample]
  | .reset _ => []

def sinceReset (calls : List Call) : List ℤ := calls.foldl since []

/-- A sample moves the state towards it, the first one all the way; a later one makes it the weighted mean, without a
number that wraps. -/
def MovesTowards (t : IntType) (f : IntegerLowPassIIR) : Call → Prop
  | .sample sample weight => ∃ f', f.addSample t sample weight = some f' ∧ f'.state ∈ Set.uIcc f.state sample ∧
      f'.state = if f.initialized then TruncatedMeans.mean (f.numer weight) (f.denom weight) f.state sample else sample
  | .reset _ => True

theorem addSample_eq (halpha : f.alpha.IsBetweenZeroAndOne) (hfits : CallFits t f (.sample sample weight)) :
    f.addSample t sample weight = some { f with
      initialized := true
      state := if f.initialized then TruncatedMeans.mean (f.numer weight) (f.denom weight) f.state sample else sample } := by
  obtain ⟨hweight, hvalue, hproducts⟩ := hfits
  rcases Bool.eq_false_or_eq_true f.initialized with hinit | hinit
  · rw [addSample_spec halpha hinit hweight hvalue (hproducts hinit), if_pos hinit, ← hinit]
  · unfold addSample
    rw [hinit]
    rfl

theorem moves_of_fits (halpha : f.alpha.IsBetweenZeroAndOne) {call : Call} (hfits : CallFits t f call) :
    MovesTowards t f call := by
  cases call with
  | reset val => trivial
  | sample sample weight =>
    refine ⟨_, addSample_eq halpha hfits, ?_, rfl⟩
    dsimp only
    split_ifs
    · obtain ⟨hpos, hlt⟩ := numer_denom halpha hfits.1
      exact mean_mem_uIcc hpos.le hlt.le (hpos.trans hlt) _ _
    · exact Set.right_mem_uIcc

structure RunInv (f : IntegerLowPassIIR) (samples : List ℤ) : Prop where
  alpha : f.alpha.IsBetweenZeroAndOne
  initialized : f.initialized = true ↔ samples ≠ []
  range : samples ≠ [] → ∀ lo hi, (∀ sample ∈ samples, lo ≤ sample ∧ sample ≤ hi) → lo ≤ f.state ∧ f.state ≤ hi

theorem RunInv.next (h : RunInv f samples) {call : Call} (hfits : CallFits t f call) :
    ∃ f', f.step t call = some f' ∧ RunInv f' (since samples call) := by
  cases call with
  | reset val => exact ⟨f.reset val, rfl, h.alpha, by simp [IntegerLowPassIIR.reset, since], fun hne => absurd rfl hne⟩
  | sample sample weight =>
    obtain ⟨f'', hadd, hmove, -⟩ := moves_of_fits h.alpha hfits
    have heq := addSample_eq h.alpha hfits
    obtain rfl := Option.some.inj (hadd.symm.trans heq)
    refine ⟨_, heq, h.alpha, by simp [since], fun _ lo hi hall => ?_⟩
    have hsample := hall sample (List.mem_append_right _ (List.mem_singleton_self sample))
    by_cases hempty : samples = []
    · have hno : f.initialized = false := Bool.eq_false_iff.mpr fun hinit => h.initialized.mp hinit hempty
      dsimp only
      rw [hno]
      exact hsample
    · have hstate := h.range hempty lo hi fun x hx => hall x (List.mem_append_left _ hx)
      exact Set.uIcc_subset_Icc hstate hsample hmove

theorem RunInv.run (h : RunInv f samples) (calls : List Call) (hfits : Along (step t) (CallFits t) f calls) :
    ∃ f', Reaches (step t) f calls f' ∧ RunInv f' (calls.foldl since samples) := by
  induction calls generalizing f samples with
  | nil => exact ⟨f, rfl, h⟩
  | cons call calls ih =>
    obtain ⟨hcall, hrest⟩ := along_cons.mp hfits
    obtain ⟨f₁, hstep, hinv⟩ := h.next hcall
    obtain ⟨f', hreaches, hinv'⟩ := ih hinv (hrest f₁ hstep)
    exact ⟨f', ⟨f₁, hstep, hreaches⟩, hinv'⟩

theorem RunInv.moves (h : RunInv f samples) {calls : List Call} (hfits : Along (step t) (CallFits t) f calls) :
    Along (step t) (MovesTowards t) f calls := by
  induction calls generalizing f samples with
  | nil => trivial
  | cons call calls ih =>
    obtain ⟨hcall, hrest⟩ := along_cons.mp hfits
    refine along_cons.mpr ⟨moves_of_fits h.alpha hcall, fun f₁ hstep => ?_⟩
    obtain ⟨f₂, hstep', hinv⟩ := h.next hcall
    obtain rfl := Option.some.inj (hstep.symm.trans hstep')
    exact ih hinv (hrest f₁ hstep)

/-! ## Constant inputs -/

/-- The filter after the same sample has been added a number of times, with some weights. -/
def hold (t : IntType) (f : IntegerLowPassIIR) (sample : ℤ) (weights : ℕ → Rational) : ℕ → Option IntegerLowPassIIR
  | 0 => some f
  | k + 1 => (hold t f sample weights k).bind fun f => f.addSample t sample (weights k)

/-- The weights are of the type and in the unit interval, and what each sample forms fits. -/
structure HoldFits (t : IntType) (f : IntegerLowPassIIR) (sample : ℤ) (weights : ℕ → Rational) : Prop where
  unit : ∀ k, (weights k).IsUnitWeight
  value : ∀ k, (weights k).Fits t
  products : ∀ k f', hold t f sample weights k = some f' → SampleFits t f' sample (weights k)

/-- The states go monotonically towards the input, and from some point on stay less than the reciprocal of each weighted
alpha away from it. -/
structure Settles (sample : ℤ) (weights : ℕ → Rational) (fs : ℕ → IntegerLowPassIIR) : Prop where
  monotone : (Monotone (fun k => (fs k).state) ∧ ∀ k, (fs k).state ≤ sample) ∨
    (Antitone (fun k => (fs k).state) ∧ ∀ k, sample ≤ (fs k).state)
  fixed : ∃ k, ∀ j, k ≤ j → (fs j).state = (fs k).state ∧
    |sample - (fs k).state| * (fs j).numer (weights j) < (fs j).denom (weights j)

theorem hold_some (halpha : f.alpha.IsBetweenZeroAndOne) (hinit : f.initialized = true)
    (hfits : HoldFits t f sample weights) (k : ℕ) : ∃ f', hold t f sample weights k = some f' ∧
      f'.alpha.IsBetweenZeroAndOne ∧ f'.initialized = true := by
  induction k with
  | zero => exact ⟨f, rfl, halpha, hinit⟩
  | succ k ih =>
    obtain ⟨f', hf', halpha', hinit'⟩ := ih
    have hadd := addSample_spec halpha' hinit' (hfits.unit k) (hfits.value k) (hfits.products k f' hf')
    have hnext : hold t f sample weights (k + 1) = f'.addSample t sample (weights k) := by
      rw [hold, hf', Option.bind_some]
    exact ⟨_, hnext.trans hadd, halpha', hinit'⟩

theorem settles (halpha : f.alpha.IsBetweenZeroAndOne) (hinit : f.initialized = true)
    (hfits : HoldFits t f sample weights) :
    ∃ fs : ℕ → IntegerLowPassIIR, (∀ k, hold t f sample weights k = some (fs k)) ∧ Settles sample weights fs := by
  choose fs hfs halphas hinits using hold_some halpha hinit hfits
  have hstep : ∀ k, (fs (k + 1)).state =
      TruncatedMeans.mean ((fs k).numer (weights k)) ((fs k).denom (weights k)) (fs k).state sample := by
    intro k
    have hadd := addSample_spec (halphas k) (hinits k) (hfits.unit k) (hfits.value k) (hfits.products k _ (hfs k))
    have hnext := hfs (k + 1)
    rw [hold, hfs k, Option.bind_some, hadd] at hnext
    rw [← Option.some.inj hnext]
  have hmove : ∀ k, (fs (k + 1)).state ∈ Set.uIcc (fs k).state sample := by
    intro k
    obtain ⟨hpos, hlt⟩ := numer_denom (halphas k) (hfits.unit k)
    rw [hstep k]
    exact mean_mem_uIcc hpos.le hlt.le (hpos.trans hlt) _ _
  refine ⟨fs, hfs, monotone_or_antitone hmove, ?_⟩
  obtain ⟨k, hconst⟩ := eventually_const hmove
  refine ⟨k, fun j hj => ⟨hconst j hj, ?_⟩⟩
  obtain ⟨hpos, hlt⟩ := numer_denom (halphas j) (hfits.unit j)
  have hstays : TruncatedMeans.mean ((fs j).numer (weights j)) ((fs j).denom (weights j)) (fs j).state sample = (fs j).state := by
    rw [← hstep j, hconst (j + 1) (Nat.le_succ_of_le hj), hconst j hj]
  exact hconst j hj ▸ near_of_mean_eq (hpos.trans hlt) hstays

/-! ## The filter over runs -/

/-- What a new filter does in runs whose products and sums fit. -/
structure Smooths (t : IntType) (f : IntegerLowPassIIR) : Prop where
  moves : ∀ calls, Along (step t) (CallFits t) f calls → Along (step t) (MovesTowards t) f calls
  range : ∀ calls, Along (step t) (CallFits t) f calls → ∃ f', Reaches (step t) f calls f' ∧
    (sinceReset calls ≠ [] → ∀ lo hi, (∀ sample ∈ sinceReset calls, lo ≤ sample ∧ sample ≤ hi) →
      lo ≤ f'.state ∧ f'.state ≤ hi)
  settles : ∀ calls, Along (step t) (CallFits t) f calls → ∀ f', Reaches (step t) f calls f' → f'.initialized = true →
    ∀ sample weights, HoldFits t f' sample weights →
      ∃ fs : ℕ → IntegerLowPassIIR, (∀ k, hold t f' sample weights k = some (fs k)) ∧ Settles sample weights fs

theorem create_eq_some {alpha : Rational} {val : ℤ} (hcreate : create t alpha val = some f) :
    f.alpha.IsBetweenZeroAndOne ∧ f.initialized = false := by
  obtain ⟨alpha', -, hchecked⟩ := Option.bind_eq_some_iff.mp hcreate
  split_ifs at hchecked with hbetween
  obtain rfl := Option.some.inj hchecked
  exact ⟨hbetween, rfl⟩

theorem create_of_between {alpha : Rational} (halpha : alpha.IsBetweenZeroAndOne) (val : ℤ) :
    create t alpha val = some ⟨val, alpha, false⟩ := by
  unfold create Rational.withNonNegativeDenominator
  rw [if_neg fun h => absurd h.2 (not_lt_of_gt halpha.1), Option.bind_some, if_pos halpha]

theorem smooths {alpha : Rational} {val : ℤ} (hcreate : create t alpha val = some f) : Smooths t f := by
  obtain ⟨halpha, hno⟩ := create_eq_some hcreate
  have hinv : RunInv f [] := ⟨halpha, iff_of_false (by rw [hno]; decide) (fun h => h rfl), fun h => absurd rfl h⟩
  refine ⟨fun calls hfits => hinv.moves hfits, fun calls hfits => ?_, ?_⟩
  · obtain ⟨f', hreaches, hinv'⟩ := hinv.run calls hfits
    exact ⟨f', hreaches, hinv'.range⟩
  · intro calls hfits f' hreaches hinit sample weights hhold
    obtain ⟨f'', hreaches', hinv'⟩ := hinv.run calls hfits
    obtain rfl := Option.some.inj ((reaches_iff_foldlM.mp hreaches).symm.trans (reaches_iff_foldlM.mp hreaches'))
    exact IntegerLowPassIIR.settles hinv'.alpha hinit hhold

/-- `uint32_t`. -/
abbrev uint32 : IntType := ⟨false, 32⟩

def half : IntegerLowPassIIR := ⟨0, ⟨1, 2⟩, false⟩

theorem one_fits : (⟨1, 1⟩ : Rational).Fits uint32 := ⟨by decide, by decide⟩

def lowered : IntegerLowPassIIR := ⟨7, ⟨1, 2⟩, true⟩

theorem lowered_fits : HoldFits uint32 lowered 4 fun _ => ⟨1, 1⟩ := by
  have hhold : ∀ k, hold uint32 lowered 4 (fun _ => ⟨1, 1⟩) (k + 2) = some { lowered with state := 4 } := by
    intro k
    induction k with
    | zero => decide
    | succ k ih =>
      rw [hold, ih]
      decide
  refine ⟨fun _ => by decide, fun _ => one_fits, fun k f' hf' => ?_⟩
  match k with
  | 0 =>
    cases hf'
    exact ⟨⟨by decide, by decide, by decide, by decide⟩, by decide⟩
  | 1 =>
    cases hf'
    exact ⟨⟨by decide, by decide, by decide, by decide⟩, by decide⟩
  | k + 2 =>
    rw [hhold] at hf'
    cases hf'
    exact ⟨⟨by decide, by decide, by decide, by decide⟩, by decide⟩

/-- It is lowered from 10 towards 4, and held there. -/
theorem smooths_half :
    create uint32 ⟨1, 2⟩ 0 = some half ∧
      Along (step uint32) (MovesTowards uint32) half [.sample 10 ⟨1, 1⟩, .sample 4 ⟨1, 1⟩] ∧
        ∃ fs, (∀ k, hold uint32 lowered 4 (fun _ => ⟨1, 1⟩) k = some (fs k)) ∧ Settles 4 (fun _ => ⟨1, 1⟩) fs := by
  have hcreate : create uint32 ⟨1, 2⟩ 0 = some half := create_of_between (by decide) 0
  have hfits : Along (step uint32) (CallFits uint32) half [.sample 10 ⟨1, 1⟩, .sample 4 ⟨1, 1⟩] := by
    refine along_cons.2 ⟨⟨by decide, one_fits, nofun⟩, fun f hf => along_cons.2 ⟨⟨by decide, one_fits, fun _ => ?_⟩,
      fun _ _ => trivial⟩⟩
    cases hf
    exact ⟨⟨by decide, by decide, by decide, by decide⟩, by decide⟩
  have hsmooths := smooths hcreate
  exact ⟨hcreate, hsmooths.moves _ hfits,
    hsmooths.settles _ hfits lowered ⟨_, rfl, _, rfl, rfl⟩ rfl 4 _ lowered_fits⟩

/-- The largest number, twice: all products fit, but the sum wraps, and the state drops to half of what it was. -/
theorem not_moves_of_productsFit : ∃ f f' : IntegerLowPassIIR,
    Reaches (step uint32) half [.sample 4294967295 ⟨1, 1⟩] f ∧ ProductsFit uint32 f 4294967295 ⟨1, 1⟩ ∧
      f.addSample uint32 4294967295 ⟨1, 1⟩ = some f' ∧ f'.state ∉ Set.uIcc f.state 4294967295 :=
  ⟨⟨4294967295, ⟨1, 2⟩, true⟩, ⟨2147483647, ⟨1, 2⟩, true⟩, ⟨_, rfl, rfl⟩,
    ⟨by decide, by decide, by decide, by decide⟩, by decide, by
      rw [Set.mem_uIcc]
      decide⟩

end IntegerLowPassIIR

end AugmentedInsanity.Math
