/-
The time that combined inputs have (`oxr_input_combine_input` in `oxr_input.c`). It starts as that of the first input,
which may be neither active nor have the value that is chosen, and stays that if no input is better by the rule of the
type. It is the time of an input that justifies the value exactly if that start does no harm (`combine_justified_iff`).
-/
import AugmentedInsanity.Oxr.ActionCaches
import Mathlib.Algebra.Ring.Rat
import Mathlib.Data.List.TakeWhile

namespace AugmentedInsanity.Oxr

open Xrt Leading

variable {F : Type} [Zero F] [Neg F] [Add F] [Mul F] [LT F] [DecidableLT F]

/-! ## What the time is to be -/

/-- The result has the time of an input that drives the action and that justifies the value: of those that are true the
earliest, of those that are false the latest, and of floats and vectors one with the value. -/
def Justified (action : XrActionType) (driving : List (ℤ × OxrInputValueTagged F)) (res : CombinedInput F) : Prop :=
  match action with
  | .booleanInput =>
    if res.value.boolean then
      (∃ input ∈ driving, input.2.value.boolean = true ∧ input.1 = res.timestamp) ∧
        ∀ input ∈ driving, input.2.value.boolean = true → res.timestamp ≤ input.1
    else
      (∃ input ∈ driving, input.2.value.boolean = false ∧ input.1 = res.timestamp) ∧
        ∀ input ∈ driving, input.2.value.boolean = false → input.1 ≤ res.timestamp
  | .floatInput => ∃ input ∈ driving, input.2.value.vec1 = res.value.vec1 ∧ input.1 = res.timestamp
  | .vector2fInput => ∃ input ∈ driving, input.2.value.vec2 = res.value.vec2 ∧ input.1 = res.timestamp
  | .poseInput | .vibrationOutput => ∃ input ∈ driving, input.1 = res.timestamp

def beforeTrue (driving : List (ℤ × OxrInputValueTagged F)) : List (ℤ × OxrInputValueTagged F) :=
  driving.takeWhile (!·.2.value.boolean)

/-- The time that the loop starts with does no harm. -/
def Timely (action : XrActionType) (driving : List (ℤ × OxrInputValueTagged F)) (start : ℤ) : Prop :=
  match action with
  | .booleanInput =>
    if driving.any (·.2.value.boolean) then
      ∃ input ∈ driving, input.2.value.boolean = true ∧
        (input.1 ≤ start ∨ ∃ before ∈ beforeTrue driving, input.1 ≤ before.1)
    else ∃ input ∈ driving, start ≤ input.1
  | .floatInput =>
    (∃ input ∈ driving, fabsf 0 < fabsf input.2.value.vec1) ∨
      ∃ input ∈ driving, input.2.value.vec1 = 0 ∧ input.1 = start
  | .vector2fInput =>
    (∃ input ∈ driving, lengthSq (0, 0) < lengthSq input.2.value.vec2) ∨
      ∃ input ∈ driving, input.2.value.vec2 = (0, 0) ∧ input.1 = start
  | .poseInput | .vibrationOutput => ∃ input ∈ driving, input.1 = start

variable {action : XrActionType} {driving : List (ℤ × OxrInputValueTagged F)} {res : CombinedInput F}

/-! ## Booleans -/

theorem combine_of_boolean (res : CombinedInput F) (timestamp : ℤ) {transformed : OxrInputValueTagged F}
    (htype : transformed.type = .boolean) :
    (res.combine timestamp transformed).value.boolean = (res.value.boolean || transformed.value.boolean) ∧
      (res.combine timestamp transformed).timestamp =
        if transformed.value.boolean then if timestamp < res.timestamp then timestamp else res.timestamp
        else if res.value.boolean then res.timestamp
        else if res.timestamp < timestamp then timestamp else res.timestamp := by
  simp only [CombinedInput.combine, htype]
  refine ⟨trivial, ?_⟩
  cases res.value.boolean <;> cases transformed.value.boolean <;> simp

theorem timestamp_of_false (h : ∀ input ∈ driving, isIdentity input.2.type .booleanInput = true)
    (hres : res.value.boolean = false) (hfalse : ∀ input ∈ driving, input.2.value.boolean = false) :
    (combineAll res driving).timestamp = leader id res.timestamp (driving.map Prod.fst) := by
  induction driving generalizing res with
  | nil => rfl
  | cons input driving ih =>
    obtain ⟨htype, htypes⟩ := List.forall_mem_cons.1 h
    obtain ⟨hinput, hinputs⟩ := List.forall_mem_cons.1 hfalse
    obtain ⟨hboolean, htimestamp⟩ := combine_of_boolean res input.1 (type_of_boolean htype)
    rw [hinput] at htimestamp hboolean
    rw [hres] at htimestamp hboolean
    rw [combineAll_cons, ih htypes hboolean hinputs, htimestamp, List.map_cons, leader_cons]
    rfl

theorem timestamp_of_true (h : ∀ input ∈ driving, isIdentity input.2.type .booleanInput = true)
    (hres : res.value.boolean = true) :
    (combineAll res driving).timestamp =
      leader OrderDual.toDual res.timestamp ((driving.filter (·.2.value.boolean)).map Prod.fst) := by
  induction driving generalizing res with
  | nil => rfl
  | cons input driving ih =>
    obtain ⟨htype, htypes⟩ := List.forall_mem_cons.1 h
    obtain ⟨hboolean, htimestamp⟩ := combine_of_boolean res input.1 (type_of_boolean htype)
    rw [hres] at htimestamp hboolean
    rw [combineAll_cons, ih htypes hboolean, htimestamp]
    cases hinput : input.2.value.boolean with
    | false =>
      rw [List.filter_cons_of_neg (by simp [hinput])]
      rfl
    | true =>
      rw [List.filter_cons_of_pos (by simp [hinput]), List.map_cons, leader_cons]
      rfl

theorem combineAll_append {driving' : List (ℤ × OxrInputValueTagged F)} :
    combineAll res (driving ++ driving') = combineAll (combineAll res driving) driving' :=
  List.foldl_append

theorem timestamp_of_boolean (start : ℤ) (h : ∀ input ∈ driving, isIdentity input.2.type .booleanInput = true) :
    (combineAll (.start start) driving).timestamp =
      leader OrderDual.toDual (leader id start ((beforeTrue driving).map Prod.fst))
        ((driving.filter (·.2.value.boolean)).map Prod.fst) := by
  have hbefore : ∀ input ∈ beforeTrue driving, input.2.value.boolean = false := fun input hinput => by
    simpa using List.all_eq_true.1 List.all_takeWhile input hinput
  have hsplit : driving = beforeTrue driving ++ driving.dropWhile (!·.2.value.boolean) :=
    (List.takeWhile_append_dropWhile ..).symm
  have htypes : ∀ input ∈ beforeTrue driving, isIdentity input.2.type .booleanInput = true := fun input hinput =>
    h input ((List.takeWhile_sublist _).subset hinput)
  have hnone : (beforeTrue driving).filter (·.2.value.boolean) = [] :=
    List.filter_eq_nil_iff.2 fun input hinput => by simp [hbefore input hinput]
  have hstart : ((.start start : CombinedInput F)).value.boolean = false := rfl
  have hfirst := timestamp_of_false htypes hstart hbefore
  have hfalse : (combineAll (.start start) (beforeTrue driving)).value.boolean = false := by
    rw [combineAll_boolean htypes, hstart, Bool.false_or, List.any_eq_false]
    exact fun input hinput => by simp [hbefore input hinput]
  have hfilter : driving.filter (·.2.value.boolean) =
      (driving.dropWhile (!·.2.value.boolean)).filter (·.2.value.boolean) := by
    conv_lhs => rw [hsplit, List.filter_append, hnone, List.nil_append]
  rw [hfilter]
  conv_lhs => rw [hsplit, combineAll_append]
  cases hrest : driving.dropWhile (!·.2.value.boolean) with
  | nil => exact hfirst
  | cons input rest =>
    have htrue : input.2.value.boolean = true := by
      have hhead := List.head?_dropWhile_not (p := (!·.2.value.boolean)) driving
      rw [hrest] at hhead
      simpa using hhead
    have hmem : ∀ other ∈ input :: rest, other ∈ driving := fun other hother =>
      (List.dropWhile_sublist _).subset (hrest ▸ hother)
    obtain ⟨hboolean, htimestamp⟩ := combine_of_boolean (combineAll (.start start) (beforeTrue driving)) input.1
      (type_of_boolean (h input (hmem input List.mem_cons_self)))
    rw [htrue, Bool.or_true] at hboolean
    rw [htrue, if_pos rfl, hfirst] at htimestamp
    rw [combineAll_cons, timestamp_of_true (fun other hother => h other (hmem other (List.mem_cons_of_mem _ hother)))
      hboolean, htimestamp, List.filter_cons_of_pos (by simp [htrue]), List.map_cons, leader_cons]
    rfl

variable {start : ℤ}

theorem earliest_mem_iff {before times : List ℤ} :
    leader OrderDual.toDual (leader id start before) times ∈ times ↔
      ∃ time ∈ times, time ≤ start ∨ ∃ other ∈ before, time ≤ other := by
  have hle : ∀ time : ℤ, time ≤ leader id start before ↔ time ≤ start ∨ ∃ other ∈ before, time ≤ other := by
    intro time
    have hiff := @le_leader_iff _ _ _ id start before time
    simp only [List.mem_cons, exists_eq_or_imp, id] at hiff
    exact hiff
  simp only [← hle]
  rw [leader_mem_iff]
  constructor
  · rintro (⟨time, htime, hlt⟩ | hmem)
    · exact ⟨time, htime, Int.le_of_lt hlt⟩
    · exact ⟨_, hmem, Int.le_refl _⟩
  · rintro ⟨time, htime, htle⟩
    rcases Int.lt_or_eq_of_le htle with hlt | rfl
    · exact .inl ⟨time, htime, hlt⟩
    · exact .inr htime

theorem latest_mem_iff {times : List ℤ} : leader id start times ∈ times ↔ ∃ time ∈ times, start ≤ time := by
  rw [leader_mem_iff]
  constructor
  · rintro (⟨time, htime, hlt⟩ | hmem)
    · exact ⟨time, htime, Int.le_of_lt hlt⟩
    · exact ⟨_, hmem, Int.le_refl _⟩
  · rintro ⟨time, htime, hle⟩
    rcases Int.lt_or_eq_of_le hle with hlt | rfl
    · exact .inl ⟨time, htime, hlt⟩
    · exact .inr htime

theorem justified_boolean_iff (h : ∀ input ∈ driving, isIdentity input.2.type .booleanInput = true) :
    Justified .booleanInput driving (combineAll (.start start) driving) ↔ Timely .booleanInput driving start := by
  have htimestamp := timestamp_of_boolean start h
  have hvalue : (combineAll (.start start) driving).value.boolean = driving.any (·.2.value.boolean) :=
    (combineAll_boolean h).trans (Bool.false_or _)
  unfold Justified Timely
  rw [hvalue, htimestamp]
  cases hany : driving.any (·.2.value.boolean) with
  | true =>
    have hmem : ∀ time, (∃ input ∈ driving, input.2.value.boolean = true ∧ input.1 = time) ↔
        time ∈ (driving.filter (·.2.value.boolean)).map Prod.fst := by
      simp [and_assoc]
    have hle : ∀ input ∈ driving, input.2.value.boolean = true →
        leader OrderDual.toDual (leader id start ((beforeTrue driving).map Prod.fst))
          ((driving.filter (·.2.value.boolean)).map Prod.fst) ≤ input.1 := fun input hinput htrue =>
      OrderDual.toDual_le_toDual.1 (@le_leader ℤ ℤᵒᵈ _ OrderDual.toDual _ _ input.1
        (List.mem_cons_of_mem _ ((hmem _).1 ⟨input, hinput, htrue, rfl⟩)))
    rw [if_pos rfl, if_pos rfl, and_iff_left hle, hmem, earliest_mem_iff]
    constructor
    · rintro ⟨time, htime, hearly⟩
      obtain ⟨input, hinput, htrue, rfl⟩ := (hmem time).2 htime
      refine ⟨input, hinput, htrue, hearly.imp_right ?_⟩
      rintro ⟨other, hother, hle⟩
      obtain ⟨before, hbefore, rfl⟩ := List.mem_map.1 hother
      exact ⟨before, hbefore, hle⟩
    · rintro ⟨input, hinput, htrue, hearly⟩
      refine ⟨input.1, (hmem _).1 ⟨input, hinput, htrue, rfl⟩, hearly.imp_right ?_⟩
      rintro ⟨before, hbefore, hle⟩
      exact ⟨before.1, List.mem_map_of_mem hbefore, hle⟩
  | false =>
    have hfalse : ∀ input ∈ driving, input.2.value.boolean = false := by simpa using hany
    have hbefore : beforeTrue driving = driving :=
      List.takeWhile_eq_self_iff.2 fun input hinput => by simp [hfalse input hinput]
    have hnone : driving.filter (·.2.value.boolean) = [] :=
      List.filter_eq_nil_iff.2 fun input hinput => by simp [hfalse input hinput]
    rw [hbefore, hnone]
    have hmem : ∀ time, (∃ input ∈ driving, input.2.value.boolean = false ∧ input.1 = time) ↔
        time ∈ driving.map Prod.fst := by
      intro time
      rw [List.mem_map]
      exact exists_congr fun input => and_congr_right fun hinput => and_iff_right (hfalse input hinput)
    have hle : ∀ input ∈ driving, input.2.value.boolean = false →
        input.1 ≤ leader id start (driving.map Prod.fst) := fun input hinput _ =>
      @le_leader _ _ _ id start _ input.1 (List.mem_cons_of_mem _ (List.mem_map_of_mem hinput))
    show ((∃ input ∈ driving, input.2.value.boolean = false ∧ input.1 = leader id start (driving.map Prod.fst)) ∧
      ∀ input ∈ driving, input.2.value.boolean = false → input.1 ≤ leader id start (driving.map Prod.fst)) ↔
        ∃ input ∈ driving, start ≤ input.1
    rw [and_iff_left hle, hmem, latest_mem_iff]
    simp

/-! ## Floats and vectors -/

/-- A value that is only replaced by a longer one is that of the leader, with its time. -/
theorem eq_leader {V : Type} (length : V → F) (read : XrtInputValue F → V)
    (h : ∀ input ∈ driving, ∀ res : CombinedInput F,
      ((res.combine input.1 input.2).timestamp, read (res.combine input.1 input.2).value) =
        if length (read res.value) < length (read input.2.value) then (input.1, read input.2.value)
        else (res.timestamp, read res.value)) :
    ((combineAll res driving).timestamp, read (combineAll res driving).value) =
      leader (fun input : ℤ × V => length input.2) (res.timestamp, read res.value)
        (driving.map fun input => (input.1, read input.2.value)) := by
  induction driving generalizing res with
  | nil => rfl
  | cons input driving ih =>
    obtain ⟨hone, hall⟩ := List.forall_mem_cons.1 h
    rw [combineAll_cons, ih hall, hone, List.map_cons, leader_cons]

omit [Zero F] [Neg F] [Add F] [Mul F] in
theorem leader_justified_iff {V : Type} {length : V → F} {zero : V} (start : ℤ) (value : OxrInputValueTagged F → V) :
    (∃ input ∈ driving,
        value input.2 = (leader (fun input : ℤ × V => length input.2) (start, zero)
          (driving.map fun input => (input.1, value input.2))).2 ∧
        input.1 = (leader (fun input : ℤ × V => length input.2) (start, zero)
          (driving.map fun input => (input.1, value input.2))).1) ↔
      (∃ input ∈ driving, length zero < length (value input.2)) ∨
        ∃ input ∈ driving, value input.2 = zero ∧ input.1 = start := by
  have hmem : ∀ best : ℤ × V, (∃ input ∈ driving, value input.2 = best.2 ∧ input.1 = best.1) ↔
      best ∈ driving.map fun input => (input.1, value input.2) := by
    rintro ⟨time, v⟩
    simp only [List.mem_map, Prod.mk.injEq]
    exact exists_congr fun input => and_congr_right fun _ => and_comm
  rw [hmem, leader_mem_iff, ← hmem]
  simp only [List.mem_map, exists_exists_and_eq_and]

theorem justified_float_iff (h : ∀ input ∈ driving, isIdentity input.2.type .floatInput = true) :
    Justified .floatInput driving (combineAll (.start start) driving) ↔ Timely .floatInput driving start := by
  have hleader : ((combineAll (.start start) driving).timestamp, (combineAll (.start start) driving).value.vec1) =
      leader (fun input : ℤ × F => fabsf input.2) (start, 0) (driving.map fun input => (input.1, input.2.value.vec1)) :=
    eq_leader fabsf (·.vec1) fun input hinput res => by
      rcases type_of_float (h input hinput) with htype | htype <;> simp only [CombinedInput.combine, htype] <;> split <;>
        rfl
  have hiff := @leader_justified_iff F _ _ driving _ fabsf 0 start (·.value.vec1)
  rw [← hleader] at hiff
  exact hiff

theorem justified_vector_iff (h : ∀ input ∈ driving, isIdentity input.2.type .vector2fInput = true) :
    Justified .vector2fInput driving (combineAll (.start start) driving) ↔ Timely .vector2fInput driving start := by
  have hleader : ((combineAll (.start start) driving).timestamp, (combineAll (.start start) driving).value.vec2) =
      leader (fun input : ℤ × F × F => lengthSq input.2) (start, (0, 0))
        (driving.map fun input => (input.1, input.2.value.vec2)) :=
    eq_leader lengthSq (·.vec2) fun input hinput res => by
      simp only [CombinedInput.combine, type_of_vector2f (h input hinput)]
      split <;> rfl
  have hiff := @leader_justified_iff F _ _ driving _ lengthSq (0, 0) start (·.value.vec2)
  rw [← hleader] at hiff
  exact hiff

/-! ## All types -/

theorem timestamp_of_pose (h : ∀ input ∈ driving, isIdentity input.2.type .poseInput = true) :
    (combineAll res driving).timestamp = res.timestamp := by
  induction driving generalizing res with
  | nil => rfl
  | cons input driving ih =>
    obtain ⟨htype, htypes⟩ := List.forall_mem_cons.1 h
    have hpose : input.2.type = .pose := by simpa [isIdentity, oxrTypeMatchesXrt] using htype
    rw [combineAll_cons, ih htypes]
    simp only [CombinedInput.combine, hpose]

omit [Zero F] [Neg F] [Add F] [Mul F] [LT F] [DecidableLT F] in
theorem eq_nil_of_output (h : ∀ input ∈ driving, isIdentity input.2.type .vibrationOutput = true) : driving = [] := by
  cases driving with
  | nil => rfl
  | cons input driving =>
    have htype := h input List.mem_cons_self
    simp [isIdentity, oxrTypeMatchesXrt] at htype

/-- The loop comes to the time of an input that justifies the value, exactly if the time of the first input does no
harm. Floats compute and compare in any way. -/
theorem combine_justified_iff [Div F] [OfNat F 2] [LE F] [DecidableLE F] (action : XrActionType) (devices : Devices F)
    (supressed : OxrActionInput F → Bool) (first : OxrActionInput F) (others : List (OxrActionInput F))
    (h : ∀ input ∈ first :: others, Delivers action input.transforms) :
    ∃ res, (oxrInputCombineInput devices supressed (first :: others)).2 = some res ∧
      (Justified action (drivingInputs devices supressed (first :: others)) res ↔
        Timely action (drivingInputs devices supressed (first :: others)) (first.reading devices).timestamp) := by
  have htype : ∀ tagged ∈ drivingInputs devices supressed (first :: others), isIdentity tagged.2.type action = true :=
    drivingInputs_type h
  refine ⟨_, (combineInputs_spec h).1, ?_⟩
  show Justified action _ (combineAll (.start (first.reading devices).timestamp) _) ↔ _
  cases action with
  | booleanInput => exact justified_boolean_iff htype
  | floatInput => exact justified_float_iff htype
  | vector2fInput => exact justified_vector_iff htype
  | poseInput =>
    unfold Justified Timely
    rw [timestamp_of_pose htype]
    rfl
  | vibrationOutput =>
    rw [eq_nil_of_output htype]
    rfl

/-! ## Two buttons -/

def buttonInput (xdev : ℕ) (boundPath : XrPath) : OxrActionInput ℚ where
  xdev := xdev
  input := 0x1004
  dpadActivate := none
  transforms := [⟨.identity, .boolean⟩]
  boundPath := boundPath

/-- The first button is not active, and was last seen at a time; the second was pressed at 20. -/
def buttons (firstTime : ℤ) : Devices ℚ where
  input xdev _ :=
    if xdev = 1 then ⟨false, firstTime, XrtInputValue.zero⟩
    else ⟨true, 20, { (XrtInputValue.zero : XrtInputValue ℚ) with boolean := true }⟩
  atan2f _ _ := 0

theorem buttonInput_delivers (xdev : ℕ) (boundPath : XrPath) :
    Delivers .booleanInput (buttonInput xdev boundPath).transforms := by
  refine ⟨List.cons_ne_nil _ _, ?_, ?_⟩
  · intro xform hxform
    rw [List.mem_singleton.1 hxform]
    rintro ⟨⟩
  · rintro xform ⟨⟩
    rfl

/-- A button that was last seen later does no harm. -/
theorem combine_justified_of_later :
    (∀ input ∈ [buttonInput 1 7, buttonInput 2 8], Delivers .booleanInput input.transforms) ∧
      ∃ res, (oxrInputCombineInput (buttons 30) (fun _ => false) [buttonInput 1 7, buttonInput 2 8]).2 = some res ∧
        Justified .booleanInput (drivingInputs (buttons 30) (fun _ => false) [buttonInput 1 7, buttonInput 2 8])
          res := by
  have hdelivers : ∀ input ∈ [buttonInput 1 7, buttonInput 2 8], Delivers .booleanInput input.transforms :=
    List.forall_mem_cons.2 ⟨buttonInput_delivers _ _, List.forall_mem_cons.2 ⟨buttonInput_delivers _ _, by simp⟩⟩
  obtain ⟨res, hres, hiff⟩ :=
    combine_justified_iff .booleanInput (buttons 30) (fun _ => false) (buttonInput 1 7) [buttonInput 2 8] hdelivers
  refine ⟨hdelivers, res, hres, hiff.2 ?_⟩
  have hdriving : drivingInputs (buttons 30) (fun _ => false) [buttonInput 1 7, buttonInput 2 8] =
      [(20, ⟨.boolean, { (XrtInputValue.zero : XrtInputValue ℚ) with boolean := true }⟩)] := rfl
  rw [hdriving]
  exact ⟨_, List.mem_cons_self, rfl, .inl (by decide)⟩

/-- One that was last seen before gives the time to the one that is pressed. -/
theorem combine_not_justified :
    ∃ res, (oxrInputCombineInput (buttons 10) (fun _ => false) [buttonInput 1 7, buttonInput 2 8]).2 = some res ∧
      res.value.boolean = true ∧ res.timestamp = 10 ∧
        ¬ Justified .booleanInput (drivingInputs (buttons 10) (fun _ => false) [buttonInput 1 7, buttonInput 2 8])
          res := by
  refine ⟨_, rfl, rfl, rfl, ?_⟩
  rintro ⟨⟨input, hinput, -, htime⟩, -⟩
  have hdriving : drivingInputs (buttons 10) (fun _ => false) [buttonInput 1 7, buttonInput 2 8] =
      [(20, ⟨.boolean, { (XrtInputValue.zero : XrtInputValue ℚ) with boolean := true }⟩)] := rfl
  rw [hdriving, List.mem_singleton] at hinput
  rw [hinput] at htime
  exact absurd htime (by decide)

end AugmentedInsanity.Oxr
