/-
What a cache of an action holds after an update. Its inputs were bound for the action, so they can all be transformed, and
the loop that combines them comes to the OR, or to the first greatest, of those that are active and not suppressed.
-/
import AugmentedInsanity.Lib.Extremes
import AugmentedInsanity.Oxr.Actions

namespace AugmentedInsanity.Oxr

open Xrt Leading

variable {F : Type}

/-! ## Inputs that drive an action -/

section
variable [Neg F] [Add F] [Mul F] [Div F] [OfNat F 2] [LT F] [LE F] [DecidableLT F] [DecidableLE F]

/-- The times and the transformed values of the inputs that are active and not suppressed. -/
def drivingInputs (devices : Devices F) (supressed : OxrActionInput F → Bool) (inputs : List (OxrActionInput F)) :
    List (ℤ × OxrInputValueTagged F) :=
  (inputs.filter fun input => !supressed input && (input.reading devices).active).filterMap fun input =>
    (input.transformed devices).2.map ((input.reading devices).timestamp, ·)

def drivingValues (devices : Devices F) (supressed : OxrActionInput F → Bool) (inputs : List (OxrActionInput F)) :
    List (XrtInputValue F) :=
  (drivingInputs devices supressed inputs).map (·.2.value)

/-- The loop over the values. -/
def combineAll [Zero F] (res : CombinedInput F) (driving : List (ℤ × OxrInputValueTagged F)) : CombinedInput F :=
  driving.foldl (fun res tagged => res.combine tagged.1 tagged.2) res

/-- The inputs of a cache are bound for an action, which has no outputs, and a cache without inputs was never given a
value. -/
structure OxrActionCache.Bound [Field F] (cache : OxrActionCache F) (action : XrActionType) : Prop where
  delivers : ∀ input ∈ cache.inputs, Delivers action input.transforms
  outputs : action ≠ .vibrationOutput → cache.outputs = []
  idle : cache.inputs = [] → cache.outputs = [] →
    cache.current = { (OxrActionState.zero : OxrActionState F) with active := cache.current.active }

variable {devices : Devices F} {supressed : OxrActionInput F → Bool} {inputs : List (OxrActionInput F)}
  {action : XrActionType} {driving : List (ℤ × OxrInputValueTagged F)}

/-! ## Transforming -/

theorem OxrActionInput.transformed_delivers {input : OxrActionInput F} (h : Delivers action input.transforms)
    (devices : Devices F) :
    (∃ out, (input.transformed devices).2 = some out ∧ isIdentity out.type action = true) ∧
      Delivers action (input.transformed devices).1.transforms := by
  obtain ⟨⟨out, hout, htype⟩, hdelivers⟩ :=
    h.process devices ⟨xrtGetInputType input.input, (input.reading devices).value⟩
  exact ⟨⟨out, hout, htype⟩, hdelivers⟩

theorem combineInputs_spec [Zero F] {res : CombinedInput F} (h : ∀ input ∈ inputs, Delivers action input.transforms) :
    (combineInputs devices supressed inputs res).2 = some (combineAll res (drivingInputs devices supressed inputs)) ∧
      (∀ input ∈ (combineInputs devices supressed inputs res).1, Delivers action input.transforms) ∧
      (combineInputs devices supressed inputs res).1.map (·.boundPath) = inputs.map (·.boundPath) := by
  induction inputs generalizing res with
  | nil => exact ⟨rfl, List.forall_mem_nil _, rfl⟩
  | cons input inputs ih =>
    obtain ⟨hinput, hinputs⟩ := List.forall_mem_cons.1 h
    unfold combineInputs
    by_cases hskip : (supressed input || !(input.reading devices).active) = true
    · obtain ⟨hcombined, hdelivers, hpaths⟩ := @ih res hinputs
      have hdriving : drivingInputs devices supressed (input :: inputs) = drivingInputs devices supressed inputs := by
        unfold drivingInputs
        rw [List.filter_cons_of_neg]
        simpa [or_iff_not_imp_left] using hskip
      rw [if_pos hskip, hdriving]
      exact ⟨hcombined, List.forall_mem_cons.2 ⟨hinput, hdelivers⟩, congrArg (input.boundPath :: ·) hpaths⟩
    · obtain ⟨⟨out, hout, -⟩, hdelivers'⟩ := OxrActionInput.transformed_delivers hinput devices
      obtain ⟨hcombined, hdelivers, hpaths⟩ := @ih (res.combine (input.reading devices).timestamp out) hinputs
      have hdriving : drivingInputs devices supressed (input :: inputs) =
          ((input.reading devices).timestamp, out) :: drivingInputs devices supressed inputs := by
        unfold drivingInputs
        rw [List.filter_cons_of_pos, List.filterMap_cons_some (by rw [hout]; rfl)]
        simpa using hskip
      obtain ⟨input', o, htransformed⟩ : ∃ input' o, input.transformed devices = (input', o) := ⟨_, _, rfl⟩
      have hpath : input'.boundPath = input.boundPath := by
        rw [show input' = (input.transformed devices).1 by rw [htransformed]]
        rfl
      have hreading : input'.reading devices = input.reading devices := by
        rw [show input' = (input.transformed devices).1 by rw [htransformed]]
        rfl
      rw [htransformed] at hout hdelivers'
      dsimp only at hout
      subst hout
      rw [if_neg hskip, hdriving, htransformed]
      dsimp only
      rw [hreading]
      exact ⟨hcombined, List.forall_mem_cons.2 ⟨hdelivers', hdelivers⟩, congrArg₂ List.cons hpath hpaths⟩

theorem drivingInputs_type (h : ∀ input ∈ inputs, Delivers action input.transforms) :
    ∀ tagged ∈ drivingInputs devices supressed inputs, isIdentity tagged.2.type action = true := by
  intro tagged htagged
  obtain ⟨input, hinput, hout⟩ := List.mem_filterMap.1 htagged
  obtain ⟨⟨out, heq, htype⟩, -⟩ := OxrActionInput.transformed_delivers (h input (List.mem_filter.1 hinput).1) devices
  rw [heq] at hout
  cases hout
  exact htype

theorem drivingInputs_eq_nil_iff (h : ∀ input ∈ inputs, Delivers action input.transforms) :
    drivingInputs devices supressed inputs = [] ↔
      ∀ input ∈ inputs, (input.reading devices).active = true → supressed input = true := by
  rw [drivingInputs, List.filterMap_eq_nil_iff]
  constructor
  · intro hnone input hinput hactive
    by_contra hkept
    obtain ⟨⟨out, hout, -⟩, -⟩ := OxrActionInput.transformed_delivers (h input hinput) devices
    have hsome := hnone input (List.mem_filter.2 ⟨hinput, by simp [hkept, hactive]⟩)
    rw [hout] at hsome
    cases hsome
  · intro hall input hinput
    obtain ⟨hmem, hkept⟩ := List.mem_filter.1 hinput
    obtain ⟨hkept, hactive⟩ := Bool.and_eq_true_iff.1 hkept
    rw [hall input hmem hactive] at hkept
    cases hkept

end

/-! ## Combining -/

section
variable [Zero F] [Neg F] [Add F] [Mul F] [LT F] [DecidableLT F] {action : XrActionType}
  {driving : List (ℤ × OxrInputValueTagged F)} {res : CombinedInput F} {type : XrtInputType}
  {transformed : OxrInputValueTagged F}

@[simp] theorem combineAll_nil : combineAll res [] = res := rfl

@[simp] theorem combineAll_cons {tagged : ℤ × OxrInputValueTagged F} :
    combineAll res (tagged :: driving) = combineAll (res.combine tagged.1 tagged.2) driving := rfl

@[simp] theorem CombinedInput.type_combine {timestamp : ℤ} :
    (res.combine timestamp transformed).type = transformed.type := by
  unfold CombinedInput.combine
  dsimp only
  split
  · rfl
  · split <;> rfl
  · split <;> rfl
  · split <;> rfl
  · rfl

@[simp] theorem CombinedInput.anyActive_combine {timestamp : ℤ} :
    (res.combine timestamp transformed).anyActive = true := by
  unfold CombinedInput.combine
  dsimp only
  split
  · rfl
  · split <;> rfl
  · split <;> rfl
  · split <;> rfl
  · rfl

theorem combineAll_anyActive : (combineAll res driving).anyActive = (res.anyActive || !driving.isEmpty) := by
  induction driving generalizing res with
  | nil => simp
  | cons tagged driving ih => rw [combineAll_cons, ih, CombinedInput.anyActive_combine, List.isEmpty_cons]; simp

theorem combineAll_type (h : ∀ tagged ∈ driving, isIdentity tagged.2.type action = true) (hne : driving ≠ []) :
    isIdentity (combineAll res driving).type action = true := by
  induction driving generalizing res with
  | nil => exact absurd rfl hne
  | cons tagged driving ih =>
    obtain ⟨htagged, hdriving⟩ := List.forall_mem_cons.1 h
    rw [combineAll_cons]
    cases driving with
    | nil => rw [combineAll_nil, CombinedInput.type_combine]; exact htagged
    | cons next driving => exact ih hdriving nofun

theorem type_of_boolean (h : isIdentity type .booleanInput = true) : type = .boolean := by
  simpa [isIdentity, oxrTypeMatchesXrt] using h

theorem type_of_float (h : isIdentity type .floatInput = true) : type = .vec1MinusOneToOne ∨ type = .vec1ZeroToOne := by
  simpa [isIdentity, oxrTypeMatchesXrt] using h

theorem type_of_vector2f (h : isIdentity type .vector2fInput = true) : type = .vec2MinusOneToOne := by
  simpa [isIdentity, oxrTypeMatchesXrt] using h

theorem combineAll_boolean (h : ∀ tagged ∈ driving, isIdentity tagged.2.type .booleanInput = true) :
    (combineAll res driving).value.boolean = (res.value.boolean || driving.any (·.2.value.boolean)) := by
  induction driving generalizing res with
  | nil => simp
  | cons tagged driving ih =>
    obtain ⟨htagged, hdriving⟩ := List.forall_mem_cons.1 h
    have hone : (res.combine tagged.1 tagged.2).value.boolean = (res.value.boolean || tagged.2.value.boolean) := by
      simp only [CombinedInput.combine, type_of_boolean htagged]
    rw [combineAll_cons, ih hdriving, hone, List.any_cons, Bool.or_assoc]

theorem combineAll_vec1 (h : ∀ tagged ∈ driving, isIdentity tagged.2.type .floatInput = true) :
    (combineAll res driving).value.vec1 = leader fabsf res.value.vec1 (driving.map (·.2.value.vec1)) := by
  induction driving generalizing res with
  | nil => rfl
  | cons tagged driving ih =>
    obtain ⟨htagged, hdriving⟩ := List.forall_mem_cons.1 h
    have hone : (res.combine tagged.1 tagged.2).value.vec1 =
        if fabsf res.value.vec1 < fabsf tagged.2.value.vec1 then tagged.2.value.vec1 else res.value.vec1 := by
      rcases type_of_float htagged with htype | htype <;> simp only [CombinedInput.combine, htype] <;> split <;> rfl
    rw [combineAll_cons, ih hdriving, hone, List.map_cons, leader_cons]

theorem combineAll_vec2 (h : ∀ tagged ∈ driving, isIdentity tagged.2.type .vector2fInput = true) :
    (combineAll res driving).value.vec2 = leader lengthSq res.value.vec2 (driving.map (·.2.value.vec2)) := by
  induction driving generalizing res with
  | nil => rfl
  | cons tagged driving ih =>
    obtain ⟨htagged, hdriving⟩ := List.forall_mem_cons.1 h
    have hone : (res.combine tagged.1 tagged.2).value.vec2 =
        if lengthSq res.value.vec2 < lengthSq tagged.2.value.vec2 then tagged.2.value.vec2 else res.value.vec2 := by
      simp only [CombinedInput.combine, type_of_vector2f htagged]
      split <;> rfl
    rw [combineAll_cons, ih hdriving, hone, List.map_cons, leader_cons]

end

/-! ## Following inputs -/

section
variable [Field F] [LinearOrder F] {devices : Devices F} {supressed : OxrActionInput F → Bool} {action : XrActionType}

def XrtInputValue.part (actionType : XrActionType) (value : XrtInputValue F) : XrtInputValue F :=
  match actionType with
  | .booleanInput => { (XrtInputValue.zero : XrtInputValue F) with boolean := value.boolean }
  | .floatInput => { (XrtInputValue.zero : XrtInputValue F) with vec1 := value.vec1 }
  | .vector2fInput => { (XrtInputValue.zero : XrtInputValue F) with vec2 := value.vec2 }
  | .poseInput | .vibrationOutput => XrtInputValue.zero

namespace OxrActionState

variable {actionType : XrActionType} {last : OxrActionState F} {combined : CombinedInput F}

omit [Field F] in
/-- A state that follows inputs is active. -/
@[simp] theorem follow_active :
    (last.follow combined).active = true := by
  have hactive : ∀ state : OxrActionState F, (state.withCombined combined).1.active = state.active := by
    intro state
    unfold withCombined
    split <;> rfl
  unfold follow
  dsimp only
  split
  · exact hactive _
  · split
    · exact hactive _
    · split <;> exact hactive _

theorem withCombined_spec (htype : isIdentity combined.type actionType = true) :
    (last.withCombined combined).1.value.part actionType = combined.value.part actionType ∧
      ((last.withCombined combined).2 = true ↔
        last.value.part actionType ≠ combined.value.part actionType) := by
  cases actionType with
  | booleanInput => simp [withCombined, type_of_boolean htype, XrtInputValue.part, Ne, @eq_comm _ last.value.boolean]
  | floatInput =>
    rcases type_of_float htype with htype | htype <;>
      simp [withCombined, htype, XrtInputValue.part, Ne, @eq_comm _ last.value.vec1]
  | vector2fInput =>
    simp [withCombined, type_of_vector2f htype, XrtInputValue.part, Ne, Prod.ext_iff, @eq_comm _ last.value.vec2.1,
      @eq_comm _ last.value.vec2.2, imp_iff_not_or]
  | poseInput =>
    have htype : combined.type = .pose := by simpa [isIdentity, oxrTypeMatchesXrt] using htype
    simp [withCombined, htype, XrtInputValue.part]
  | vibrationOutput => simp [isIdentity, oxrTypeMatchesXrt] at htype

omit [Field F] in
theorem withCombined_pose (h : combined.type = .pose) : last.withCombined combined = (last, false) := by
  simp [withCombined, h]

theorem follow_spec (htype : isIdentity combined.type actionType = true)
    (hpose : actionType = .poseInput → last.changed = false) :
    (last.follow combined).value.part actionType = combined.value.part actionType ∧
      ((last.follow combined).changed = true ↔
        last.active = true ∧ last.value.part actionType ≠ combined.value.part actionType) ∧
      (last.active = true → last.value.part actionType = combined.value.part actionType →
        (last.follow combined).timestamp = last.timestamp) := by
  have hspec := @withCombined_spec _ _ _ actionType { last with active := true } combined htype
  unfold follow
  dsimp only
  by_cases hposes : combined.type = .pose
  · have haction : actionType = .poseInput := by
      cases actionType <;> simp_all [isIdentity, oxrTypeMatchesXrt]
    rw [withCombined_pose hposes] at hspec ⊢
    rw [if_pos hposes]
    refine ⟨hspec.1, iff_of_false ?_ ?_, fun _ _ => rfl⟩
    · simp [hpose haction]
    · exact fun h => hspec.2.2 h.2 |> Bool.false_ne_true
  · obtain ⟨current, changed, hwith⟩ : ∃ current changed,
        ({ last with active := true } : OxrActionState F).withCombined combined = (current, changed) := ⟨_, _, rfl⟩
    rw [hwith] at hspec ⊢
    rw [if_neg hposes]
    dsimp only at hspec ⊢
    cases hlast : last.active with
    | false => exact ⟨hspec.1, by simp, fun h => absurd h Bool.false_ne_true⟩
    | true =>
      cases changed with
      | false => exact ⟨hspec.1, by simpa using hspec.2, fun _ _ => rfl⟩
      | true =>
        have hdiffers := hspec.2.1 rfl
        exact ⟨hspec.1, by simpa using hdiffers, fun _ heq => absurd heq hdiffers⟩

end OxrActionState

/-! ## Updating a cache -/

namespace OxrActionCache

variable {cache : OxrActionCache F} {isFocused : Bool} {time : ℤ}

/-- What `oxr_input_combine_input` gives for a cache. -/
def combined (cache : OxrActionCache F) (devices : Devices F) (supressed : OxrActionInput F → Bool) : CombinedInput F :=
  combineAll (CombinedInput.start ((cache.inputs.head?.map fun input => (input.reading devices).timestamp).getD 0))
    (drivingInputs devices supressed cache.inputs)

theorem combined_anyActive : (cache.combined devices supressed).anyActive =
    !(drivingInputs devices supressed cache.inputs).isEmpty := combineAll_anyActive

theorem combined_type (h : cache.Bound action) (hdriving : drivingInputs devices supressed cache.inputs ≠ []) :
    isIdentity (cache.combined devices supressed).type action = true :=
  combineAll_type (drivingInputs_type h.delivers) hdriving

theorem Bound.combineInput_eq (h : cache.Bound action) (devices : Devices F) (supressed : OxrActionInput F → Bool) :
    ∃ inputs, oxrInputCombineInput devices supressed cache.inputs = (inputs, some (cache.combined devices supressed)) ∧
      (∀ input ∈ inputs, Delivers action input.transforms) ∧
      inputs.map (·.boundPath) = cache.inputs.map (·.boundPath) := by
  refine ⟨_, Prod.ext rfl (combineInputs_spec h.delivers).1, ?_⟩
  exact (combineInputs_spec h.delivers).2

theorem update_unselected : (cache.update devices isFocused supressed time false).current = OxrActionState.zero := rfl

theorem update_idle (hinputs : cache.inputs = []) (houtputs : cache.outputs = []) :
    cache.update devices isFocused supressed time true = cache := by
  simp [update, hinputs, houtputs]

theorem update_inputs (h : cache.Bound action) (hinputs : cache.inputs ≠ []) (houtputs : cache.outputs = []) :
    (cache.update devices isFocused supressed time true).current =
      if isFocused = true ∧ drivingInputs devices supressed cache.inputs ≠ [] then
        cache.current.follow (cache.combined devices supressed)
      else OxrActionState.zero := by
  obtain ⟨inputs, heq, -, -⟩ := h.combineInput_eq devices supressed
  unfold update
  rw [if_neg (by simp), if_neg (by simp [houtputs]), if_pos hinputs, heq]
  dsimp only
  rw [combined_anyActive]
  cases isFocused <;> cases drivingInputs devices supressed cache.inputs <;> simp

theorem update_bound (h : cache.Bound action) (selected : Bool) :
    (cache.update devices isFocused supressed time selected).Bound action ∧
      (cache.update devices isFocused supressed time selected).inputs.map (·.boundPath) = cache.inputs.map (·.boundPath) ∧
      (cache.update devices isFocused supressed time selected).outputs = cache.outputs := by
  unfold update
  split
  · refine ⟨⟨?_, ?_, fun _ _ => rfl⟩, ?_, ?_⟩ <;> dsimp only <;> split
    · exact h.delivers
    · exact h.delivers
    · exact h.outputs
    · exact h.outputs
    all_goals rfl
  · split
    · rename_i houtputs
      dsimp only
      split
      · exact ⟨⟨h.delivers, h.outputs, fun _ hnil => absurd hnil houtputs⟩, rfl, rfl⟩
      · exact ⟨⟨h.delivers, h.outputs, fun _ hnil => absurd hnil houtputs⟩, rfl, rfl⟩
    · split
      · rename_i hinputs
        obtain ⟨inputs, heq, hdelivers, hpaths⟩ := h.combineInput_eq devices supressed
        have hsome : inputs ≠ [] := by
          rintro rfl
          exact hinputs (List.map_eq_nil_iff.1 hpaths.symm)
        rw [heq]
        dsimp only
        split
        · exact ⟨⟨hdelivers, h.outputs, fun hnil => absurd hnil hsome⟩, hpaths, rfl⟩
        · exact ⟨⟨hdelivers, h.outputs, fun hnil => absurd hnil hsome⟩, hpaths, rfl⟩
      · exact ⟨h, rfl, rfl⟩

end OxrActionCache

end

end AugmentedInsanity.Oxr
