/-
Features that are begun with their first use and ended with their last one (`feature_inc` and `feature_dec` of
`b_system_devices.c`). The use is counted before the devices are told, and nothing is taken back when one of them
refuses. A failed call leaves everything as it was, and devices are enabled as long as there is a use, along exactly the
runs in which no device refuses and the count does not overflow (`run_featuresRight_iff`).
-/
import AugmentedInsanity.Base.SystemDevices
import AugmentedInsanity.Lib.Runs
import AugmentedInsanity.Lib.SignedCounts

namespace AugmentedInsanity.Base.Features

open Runs SignedCounts Xrt

/-! ## The calls -/

/-- `feature_use` of `struct b_system_devices_static`, and what the devices have enabled. -/
structure SystemFeatures where
  featureUse : Fin XRT_DEVICE_FEATURE_MAX_ENUM → Int32
  enabled : Fin XRT_DEVICE_FEATURE_MAX_ENUM → XrtDevice → Bool

/-- `b_system_devices_static_allocate`, with devices that have nothing enabled. -/
def SystemFeatures.allocate : SystemFeatures := ⟨fun _ => 0, fun _ _ => false⟩

section
variable (roles : StaticRoles)

def SystemFeatures.count (s : SystemFeatures) (type : Fin XRT_DEVICE_FEATURE_MAX_ENUM) (count : Int32) :
    SystemFeatures :=
  { s with featureUse := Function.update s.featureUse type count }

/-- The devices of the feature are told, up to the first that refuses; those that do not refuse begin, or end.
`none` is a call through a null pointer. -/
def SystemFeatures.tell (s : SystemFeatures) (type : Fin XRT_DEVICE_FEATURE_MAX_ENUM) (on : Bool)
    (answer : XrtDevice → XrtResult) : Option (XrtResult × SystemFeatures) :=
  (featureDevices roles type).map fun xdevs =>
    ((setFeature answer xdevs).1,
      { s with
        enabled := Function.update s.enabled type fun xdev =>
          if xdev ∈ (setFeature answer xdevs).2 ∧ answer xdev = .success then on else s.enabled type xdev })

def featureInc (s : SystemFeatures) (type : ℕ) (answer : XrtDevice → XrtResult) :
    Option (XrtResult × SystemFeatures) :=
  if h : type < XRT_DEVICE_FEATURE_MAX_ENUM then
    let count := s.featureUse ⟨type, h⟩ + 1
    -- `xrt_reference_inc_and_was_zero`
    if count = 1 then (s.count ⟨type, h⟩ count).tell roles ⟨type, h⟩ true answer
    else some (.success, s.count ⟨type, h⟩ count)
  else some (.errorFeatureNotSupported, s)

def featureDec (s : SystemFeatures) (type : ℕ) (answer : XrtDevice → XrtResult) :
    Option (XrtResult × SystemFeatures) :=
  if h : type < XRT_DEVICE_FEATURE_MAX_ENUM then
    let count := s.featureUse ⟨type, h⟩ - 1
    -- `xrt_reference_dec_and_is_zero`
    if count = 0 then (s.count ⟨type, h⟩ count).tell roles ⟨type, h⟩ false answer
    else some (.success, s.count ⟨type, h⟩ count)
  else some (.errorFeatureNotSupported, s)

/-! ## Runs -/

/-- A call for a feature, with what the devices answer during it. -/
inductive FeatureOp
  | inc (type : ℕ) (answer : XrtDevice → XrtResult)
  | dec (type : ℕ) (answer : XrtDevice → XrtResult)

def SystemFeatures.call (s : SystemFeatures) : FeatureOp → Option (XrtResult × SystemFeatures)
  | .inc type answer => featureInc roles s type answer
  | .dec type answer => featureDec roles s type answer

def featureStep (s : SystemFeatures) (op : FeatureOp) : Option SystemFeatures := (s.call roles op).map Prod.snd

def FeatureOp.isInc : FeatureOp → Bool
  | .inc _ _ => true
  | .dec _ _ => false

/-- The devices of each feature have it enabled exactly when it is used. -/
def EnabledRight (s : SystemFeatures) : Prop :=
  ∀ type xdevs, featureDevices roles type = some xdevs →
    ∀ xdev ∈ xdevs, (s.enabled type xdev = true ↔ 0 < s.featureUse type)

/-- A call that increments a use and fails leaves everything as it was, and after any call devices are enabled as they
are used. -/
def FeaturesRight (s : SystemFeatures) (op : FeatureOp) : Prop :=
  ∀ xret s', s.call roles op = some (xret, s') →
    (op.isInc = true → xret ≠ .success → s' = s) ∧ EnabledRight roles s'

/-- No device refuses to begin with the first use or to end with the last one, and the count does not overflow if there
are devices. -/
def NoneRefuses (s : SystemFeatures) : FeatureOp → Prop
  | .inc type answer =>
    ∀ h : type < XRT_DEVICE_FEATURE_MAX_ENUM, ∀ xdevs, featureDevices roles ⟨type, h⟩ = some xdevs →
      (s.featureUse ⟨type, h⟩ = 0 → ∀ xdev ∈ xdevs, answer xdev = .success) ∧
        (s.featureUse ⟨type, h⟩ = 2147483647 → xdevs = [])
  | .dec type answer =>
    ∀ h : type < XRT_DEVICE_FEATURE_MAX_ENUM, ∀ xdevs, featureDevices roles ⟨type, h⟩ = some xdevs →
      (s.featureUse ⟨type, h⟩ = 1 → ∀ xdev ∈ xdevs, answer xdev = .success) ∧
        (s.featureUse ⟨type, h⟩ = -2147483648 → xdevs = [])

end

/-! ## One call -/

section
variable {roles : StaticRoles} {s s' : SystemFeatures} {type : Fin XRT_DEVICE_FEATURE_MAX_ENUM}
  {answer : XrtDevice → XrtResult} {xdevs : List XrtDevice}

def RightAt (roles : StaticRoles) (s : SystemFeatures) (type : Fin XRT_DEVICE_FEATURE_MAX_ENUM) : Prop :=
  ∀ xdevs, featureDevices roles type = some xdevs →
    ∀ xdev ∈ xdevs, (s.enabled type xdev = true ↔ 0 < s.featureUse type)

theorem EnabledRight.iff_at (h : EnabledRight roles s)
    (hother : ∀ t ≠ type, s'.featureUse t = s.featureUse t ∧ s'.enabled t = s.enabled t) :
    EnabledRight roles s' ↔ RightAt roles s' type := by
  constructor
  · exact fun hright => hright type
  · intro hat t xdevs hxdevs xdev hxdev
    by_cases heq : t = type
    · subst heq
      exact hat xdevs hxdevs xdev hxdev
    · rw [(hother t heq).1, (hother t heq).2]
      exact h t xdevs hxdevs xdev hxdev

theorem count_other (s : SystemFeatures) (count : Int32) {t : Fin XRT_DEVICE_FEATURE_MAX_ENUM} (h : t ≠ type) :
    (s.count type count).featureUse t = s.featureUse t ∧ (s.count type count).enabled t = s.enabled t :=
  ⟨Function.update_of_ne h _ _, rfl⟩

theorem count_self (s : SystemFeatures) (count : Int32) : (s.count type count).featureUse type = count :=
  Function.update_self _ _ _

theorem EnabledRight.count_iff (h : EnabledRight roles s) {count : Int32} :
    EnabledRight roles (s.count type count) ↔
      ∀ xdevs, featureDevices roles type = some xdevs → xdevs = [] ∨ (0 < count ↔ 0 < s.featureUse type) := by
  rw [h.iff_at fun t ht => count_other s count ht]
  constructor
  · intro hat xdevs hxdevs
    cases xdevs with
    | nil => exact Or.inl rfl
    | cons xdev rest =>
      have hnew := hat _ hxdevs xdev List.mem_cons_self
      rw [count_self] at hnew
      exact Or.inr (hnew.symm.trans (h type _ hxdevs xdev List.mem_cons_self))
  · intro hside xdevs hxdevs xdev hxdev
    rw [count_self]
    rcases hside xdevs hxdevs with rfl | hsame
    · cases hxdev
    · exact (h type xdevs hxdevs xdev hxdev).trans hsame.symm

theorem tell_success {on : Bool} (hxdevs : featureDevices roles type = some xdevs)
    (hall : ∀ xdev ∈ xdevs, answer xdev = .success) :
    ∃ s', s.tell roles type on answer = some (.success, s') ∧ s'.featureUse = s.featureUse ∧
      (∀ t ≠ type, s'.enabled t = s.enabled t) ∧ ∀ xdev ∈ xdevs, s'.enabled type xdev = on := by
  have htold : (setFeature answer xdevs).2 = xdevs :=
    setFeature_all.2 fun xdev hxdev => hall xdev (List.dropLast_subset _ hxdev)
  rw [SystemFeatures.tell, hxdevs, Option.map_some, setFeature_success.2 hall, htold]
  refine ⟨_, rfl, rfl, fun t ht => Function.update_of_ne ht _ _, fun xdev hxdev => ?_⟩
  show Function.update s.enabled type _ type xdev = on
  rw [Function.update_self]
  exact if_pos ⟨hxdev, hall xdev hxdev⟩

theorem tell_refused (s : SystemFeatures) {on : Bool} {xdev : XrtDevice} (hxdevs : featureDevices roles type = some xdevs)
    (hrefuses : answer xdev ≠ .success) :
    ∃ xret s', s.tell roles type on answer = some (xret, s') ∧ s'.featureUse = s.featureUse ∧
      s'.enabled type xdev = s.enabled type xdev := by
  rw [SystemFeatures.tell, hxdevs, Option.map_some]
  refine ⟨_, _, rfl, rfl, ?_⟩
  show Function.update s.enabled type _ type xdev = s.enabled type xdev
  rw [Function.update_self]
  exact if_neg fun h => hrefuses h.2

section
variable {P : XrtResult → SystemFeatures → Prop} {count : Int32}

theorem EnabledRight.tell_iff (h : EnabledRight roles s) {on : Bool} (hbefore : 0 < s.featureUse type ↔ on = false)
    (hafter : 0 < count ↔ on = true) (hP : ∀ s', P .success s') :
    (∀ xret s', (s.count type count).tell roles type on answer = some (xret, s') →
        P xret s' ∧ EnabledRight roles s') ↔
      ∀ xdevs, featureDevices roles type = some xdevs → ∀ xdev ∈ xdevs, answer xdev = .success := by
  constructor
  · intro hright xdevs hxdevs xdev hxdev
    by_contra hrefuses
    obtain ⟨xret, s', htell, huse, hkept⟩ := tell_refused (s.count type count) hxdevs hrefuses
    have hnow := (hright xret s' htell).2 type xdevs hxdevs xdev hxdev
    rw [huse, count_self, hkept, hafter] at hnow
    -- It has enabled what it had before, which is the other way round.
    have hthen : s.enabled type xdev = true ↔ on = false := (h type xdevs hxdevs xdev hxdev).trans hbefore
    have hboth : on = true ↔ on = false := hnow.symm.trans hthen
    cases on with
    | false => exact absurd (hboth.2 rfl) Bool.false_ne_true
    | true => exact absurd (hboth.1 rfl).symm Bool.false_ne_true
  · intro hall xret s' htell
    cases hxdevs : featureDevices roles type with
    | none =>
      rw [SystemFeatures.tell, hxdevs] at htell
      cases htell
    | some xdevs =>
      obtain ⟨s'', hsuccess, huse, hother, henabled⟩ := tell_success hxdevs (hall xdevs hxdevs)
      rw [hsuccess] at htell
      cases htell
      refine ⟨hP s', (h.iff_at fun t ht => ⟨?_, hother t ht⟩).2 ?_⟩
      · rw [huse]
        exact (count_other s count ht).1
      · intro xdevs' hxdevs' xdev hxdev
        rw [hxdevs] at hxdevs'
        cases hxdevs'
        rw [henabled xdev hxdev, huse, count_self]
        exact hafter.symm

theorem EnabledRight.untold_iff (h : EnabledRight roles s) {last : Int32}
    (hside : s.featureUse type ≠ last → (0 < count ↔ 0 < s.featureUse type))
    (hlast : s.featureUse type = last → ¬ (0 < count ↔ 0 < s.featureUse type)) (hP : ∀ s', P .success s') :
    (∀ xret s', some (XrtResult.success, s.count type count) = some (xret, s') →
        P xret s' ∧ EnabledRight roles s') ↔
      ∀ xdevs, featureDevices roles type = some xdevs → s.featureUse type = last → xdevs = [] := by
  constructor
  · intro hright xdevs hxdevs hcount
    exact (h.count_iff.1 (hright _ _ rfl).2 xdevs hxdevs).resolve_right (hlast hcount)
  · intro hfree xret s' hcall
    cases hcall
    refine ⟨hP _, h.count_iff.2 fun xdevs hxdevs => ?_⟩
    by_cases hcount : s.featureUse type = last
    · exact Or.inl (hfree xdevs hxdevs hcount)
    · exact Or.inr (hside hcount)

end

theorem EnabledRight.inc_iff (h : EnabledRight roles s) {t : ℕ} :
    FeaturesRight roles s (.inc t answer) ↔ NoneRefuses roles s (.inc t answer) := by
  show (∀ xret s', featureInc roles s t answer = some (xret, s') →
    ((FeatureOp.inc t answer).isInc = true → xret ≠ .success → s' = s) ∧ EnabledRight roles s') ↔ _
  unfold featureInc
  by_cases ht : t < XRT_DEVICE_FEATURE_MAX_ENUM
  · rw [dif_pos ht]
    by_cases hzero : s.featureUse ⟨t, ht⟩ = 0
    · -- The first use: the devices are told.
      have hbefore : 0 < s.featureUse ⟨t, ht⟩ ↔ true = false := by
        rw [hzero]
        decide
      have hafter : 0 < s.featureUse ⟨t, ht⟩ + 1 ↔ true = true := by
        rw [hzero]
        decide
      rw [if_pos (inc_eq_one.2 hzero), h.tell_iff hbefore hafter fun _ _ hne => absurd rfl hne]
      constructor
      · intro hall _ xdevs hxdevs
        exact ⟨fun _ => hall xdevs hxdevs, fun hmax => absurd (hzero.symm.trans hmax) (by decide)⟩
      · intro hfree xdevs hxdevs
        exact (hfree ht xdevs hxdevs).1 hzero
    · -- A use more: the devices are not told.
      have hlast : s.featureUse ⟨t, ht⟩ = 2147483647 →
          ¬ (0 < s.featureUse ⟨t, ht⟩ + 1 ↔ 0 < s.featureUse ⟨t, ht⟩) := by
        intro hmax
        rw [hmax]
        decide
      rw [if_neg fun hone => hzero (inc_eq_one.1 hone),
        h.untold_iff (pos_inc hzero) hlast fun _ _ hne => absurd rfl hne]
      constructor
      · intro hmax _ xdevs hxdevs
        exact ⟨fun hcount => absurd hcount hzero, hmax xdevs hxdevs⟩
      · intro hfree xdevs hxdevs
        exact (hfree ht xdevs hxdevs).2
  · rw [dif_neg ht]
    constructor
    · exact fun _ ht' => absurd ht' ht
    · intro _ xret s' hcall
      cases hcall
      exact ⟨fun _ _ => rfl, h⟩

theorem EnabledRight.dec_iff (h : EnabledRight roles s) {t : ℕ} :
    FeaturesRight roles s (.dec t answer) ↔ NoneRefuses roles s (.dec t answer) := by
  show (∀ xret s', featureDec roles s t answer = some (xret, s') →
    ((FeatureOp.dec t answer).isInc = true → xret ≠ .success → s' = s) ∧ EnabledRight roles s') ↔ _
  unfold featureDec
  by_cases ht : t < XRT_DEVICE_FEATURE_MAX_ENUM
  · rw [dif_pos ht]
    by_cases hone : s.featureUse ⟨t, ht⟩ = 1
    · -- The last use: the devices are told.
      have hbefore : 0 < s.featureUse ⟨t, ht⟩ ↔ false = false := by
        rw [hone]
        decide
      have hafter : 0 < s.featureUse ⟨t, ht⟩ - 1 ↔ false = true := by
        rw [hone]
        decide
      rw [if_pos (dec_eq_zero.2 hone), h.tell_iff hbefore hafter fun _ _ hne => absurd rfl hne]
      constructor
      · intro hall _ xdevs hxdevs
        exact ⟨fun _ => hall xdevs hxdevs, fun hmin => absurd (hone.symm.trans hmin) (by decide)⟩
      · intro hfree xdevs hxdevs
        exact (hfree ht xdevs hxdevs).1 hone
    · have hlast : s.featureUse ⟨t, ht⟩ = -2147483648 →
          ¬ (0 < s.featureUse ⟨t, ht⟩ - 1 ↔ 0 < s.featureUse ⟨t, ht⟩) := by
        intro hmin
        rw [hmin]
        decide
      rw [if_neg fun hzero => hone (dec_eq_zero.1 hzero),
        h.untold_iff (pos_dec hone) hlast fun _ _ hne => absurd rfl hne]
      constructor
      · intro hmin _ xdevs hxdevs
        exact ⟨fun hcount => absurd hcount hone, hmin xdevs hxdevs⟩
      · intro hfree xdevs hxdevs
        exact (hfree ht xdevs hxdevs).2
  · rw [dif_neg ht]
    constructor
    · exact fun _ ht' => absurd ht' ht
    · intro _ xret s' hcall
      cases hcall
      exact ⟨fun _ _ => rfl, h⟩

theorem EnabledRight.step_iff (h : EnabledRight roles s) (op : FeatureOp) :
    FeaturesRight roles s op ↔ NoneRefuses roles s op := by
  cases op with
  | inc type answer => exact h.inc_iff
  | dec type answer => exact h.dec_iff

theorem EnabledRight.step (h : EnabledRight roles s) {op : FeatureOp} (hfree : NoneRefuses roles s op)
    (hs : featureStep roles s op = some s') : EnabledRight roles s' := by
  obtain ⟨⟨xret, t⟩, hcall, rfl⟩ := Option.map_eq_some_iff.1 hs
  exact (((h.step_iff op).2 hfree) xret t hcall).2

theorem enabledRight_allocate (roles : StaticRoles) : EnabledRight roles .allocate := by
  intro type xdevs _ xdev _
  exact ⟨fun henabled => absurd henabled Bool.false_ne_true, fun hpos => absurd hpos (show ¬ (0 : Int32) < 0 by decide)⟩

end

/-- In a run of calls, increments that fail leave everything as it was and devices are enabled exactly while their
feature is used, if and only if no device refuses and no count overflows. -/
theorem run_featuresRight_iff (roles : StaticRoles) (ops : List FeatureOp) :
    Along (featureStep roles) (FeaturesRight roles) .allocate ops ↔
      Along (featureStep roles) (NoneRefuses roles) .allocate ops :=
  along_iff (fun _ op h => h.step_iff op) (fun _ _ _ h hfree hs => h.step hfree hs) (enabledRight_allocate roles) ops

def twoSources : StaticRoles where
  eyes := none
  face := none
  unobstructed := ⟨some ⟨1, none⟩, none⟩
  conforming := ⟨some ⟨2, none⟩, none⟩

def secondRefuses : List FeatureOp :=
  [.inc 0 fun xdev => if xdev.ptr = 2 then .errorNotImplemented else .success, .inc 0 fun _ => .success]

theorem secondRefuses_not_featuresRight :
    ¬ Along (featureStep twoSources) (FeaturesRight twoSources) .allocate secondRefuses := by
  intro hall
  obtain ⟨hfirst, -⟩ := along_cons.1 hall
  have hsame := (hfirst _ _ rfl).1 rfl (by decide)
  have hcount := congrFun (congrArg SystemFeatures.featureUse hsame) 0
  exact absurd hcount (by decide)

end AugmentedInsanity.Base.Features
