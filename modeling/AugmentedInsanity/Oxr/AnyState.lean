/-
The state of an action for any subaction path. The inputs of a path are combined by absolute value, but the paths by value,
so a float is the one of largest absolute value unless that is negative and another path has a greater one; and a path
that is active without having inputs makes an action active that nothing drives (`OxrActionAttachment.any_combines_iff`).
-/
import Mathlib.Tactic.Linarith
import AugmentedInsanity.Oxr.ActionCaches

namespace AugmentedInsanity.Oxr

open Xrt Leading

variable {F : Type} [Field F] [LinearOrder F]

/-! ## What OpenXR has of inputs -/

/-- Booleans: whether one of them is true, and false when there are none. -/
def CombinesBoolean (values : List Bool) (state : XrActionState Bool) : Prop :=
  state.isActive = !values.isEmpty ∧ state.currentState = values.any id

/-- The value is one of the greatest length, and zero when there are none. -/
def CombinesLongest {V : Type} (length : V → F) (zero : V) (values : List V) (state : XrActionState V) : Prop :=
  if values = [] then state.isActive = false ∧ state.currentState = zero
  else state.isActive = true ∧ state.currentState ∈ values ∧ ∀ v ∈ values, length v ≤ length state.currentState

def OxrSubactionPaths.anyOnly : OxrSubactionPaths := ⟨true, fun _ => false⟩

/-- Some float of largest absolute value is the first such on its path, and it is not negative, or else no path is stuck,
it is not below -2, from which the paths are combined, and no path has another one. -/
def LedByLargest (paths : List (List F)) (stuck : Prop) : Prop :=
  ∃ values ∈ paths, ∃ x, Leads (|·|) values x ∧ (∀ others ∈ paths, ∀ y ∈ others, |y| ≤ |x|) ∧
    (0 ≤ x ∨ ¬ stuck ∧ -2 ≤ x ∧ ∀ others ∈ paths, ∀ y, Leads (|·|) others y → y = x)

namespace OxrActionAttachment

variable (act : OxrActionAttachment F)

def selectedPaths (subactionPaths : OxrSubactionPaths) : List OxrSubactionPath :=
  OxrSubactionPath.valid.filter fun path => subactionPaths.has path || subactionPaths.any

/-- For each path that is synchronized, the values of the inputs that drive the action. -/
def pathValues (devices : Devices F) (supressed : OxrSubactionPath → OxrActionInput F → Bool)
    (subactionPaths : OxrSubactionPaths) : List (List (XrtInputValue F)) :=
  (selectedPaths subactionPaths).map fun path => drivingValues devices (supressed path) (act.cache path).inputs

/-- The state that is read for any subaction path is the combination of the values, all at once. -/
def CombinesAny (toTs : ℤ → ℤ) (values : List (XrtInputValue F)) : Prop :=
  match act.actionType with
  | .booleanInput => CombinesBoolean (values.map (·.boolean)) (act.getBoolean toTs .anyOnly)
  | .floatInput => CombinesLongest (|·|) 0 (values.map (·.vec1)) (act.getVector1f toTs .anyOnly)
  | .vector2fInput => CombinesLongest lengthSq (0, 0) (values.map (·.vec2)) (act.getVector2f toTs .anyOnly)
  | .poseInput | .vibrationOutput => True

def Stuck (subactionPaths : OxrSubactionPaths) : Prop :=
  ∃ path ∈ selectedPaths subactionPaths, (act.cache path).inputs = [] ∧ (act.cache path).current.active = true

/-- Something drives the action if a path is stuck, and floats are led by the largest. -/
def CanCombine (devices : Devices F) (supressed : OxrSubactionPath → OxrActionInput F → Bool)
    (subactionPaths : OxrSubactionPaths) : Prop :=
  let paths := act.pathValues devices supressed subactionPaths
  let stuck := act.Stuck subactionPaths
  match act.actionType with
  | .booleanInput | .vector2fInput => stuck → paths.flatten ≠ []
  | .floatInput =>
    (stuck → paths.flatten ≠ []) ∧ (paths.flatten ≠ [] → LedByLargest (paths.map (·.map (·.vec1))) stuck)
  | .poseInput | .vibrationOutput => True

def Bound : Prop := ∀ path, (act.cache path).Bound act.actionType

end OxrActionAttachment

/-! ## The state of a cache -/

namespace OxrActionState

variable {last : OxrActionState F} {combined : CombinedInput F}

theorem follow_of_boolean (h : combined.type = .boolean) :
    (last.follow combined).value.boolean = combined.value.boolean := by
  have hspec := @follow_spec _ _ _ .booleanInput last combined (by rw [h]; rfl) nofun
  exact congrArg (·.boolean) hspec.1

theorem follow_of_vec1 (h : combined.type = .vec1MinusOneToOne ∨ combined.type = .vec1ZeroToOne) :
    (last.follow combined).value.vec1 = combined.value.vec1 := by
  have hspec := @follow_spec _ _ _ .floatInput last combined (by rcases h with h | h <;> rw [h] <;> rfl) nofun
  exact congrArg (·.vec1) hspec.1

theorem follow_of_vec2 (h : combined.type = .vec2MinusOneToOne) :
    (last.follow combined).value.vec2 = combined.value.vec2 := by
  have hspec := @follow_spec _ _ _ .vector2fInput last combined (by rw [h]; rfl) nofun
  exact congrArg (·.vec2) hspec.1

end OxrActionState

def OxrActionCache.contribution (cache : OxrActionCache F) (devices : Devices F) (supressed : OxrActionInput F → Bool)
    (selected : Bool) : List (XrtInputValue F) :=
  if !selected then []
  else if cache.inputs = [] then if cache.current.active then [XrtInputValue.zero] else []
  else drivingValues devices supressed cache.inputs

section
variable {cache : OxrActionCache F} {action : XrActionType} {devices : Devices F} {supressed : OxrActionInput F → Bool}
  {time : ℤ}

theorem OxrActionCache.update_state (h : cache.Bound action) (haction : action ≠ .vibrationOutput) {V : Type}
    (read : XrtInputValue F → V) (fold : List V → V) (hnil : fold [] = read XrtInputValue.zero)
    (hzero : fold [read XrtInputValue.zero] = read XrtInputValue.zero)
    (hfollow : ∀ last : OxrActionState F, drivingInputs devices supressed cache.inputs ≠ [] →
      read (last.follow (cache.combined devices supressed)).value =
        fold ((drivingValues devices supressed cache.inputs).map read)) (selected : Bool) :
    (cache.update devices true supressed time selected).current.active =
        !(cache.contribution devices supressed selected).isEmpty ∧
      read (cache.update devices true supressed time selected).current.value =
        fold ((cache.contribution devices supressed selected).map read) := by
  have houtputs := h.outputs haction
  cases selected with
  | false => exact ⟨rfl, hnil.symm⟩
  | true =>
    simp only [OxrActionCache.contribution, Bool.not_true, Bool.false_eq_true, if_false]
    by_cases hinputs : cache.inputs = []
    · have hidle := h.idle hinputs houtputs
      rw [update_idle hinputs houtputs, if_pos hinputs]
      have hvalue : cache.current.value = XrtInputValue.zero := by rw [hidle]; rfl
      cases hactive : cache.current.active with
      | false => exact ⟨rfl, by rw [hvalue]; exact hnil.symm⟩
      | true => exact ⟨rfl, by rw [hvalue]; exact hzero.symm⟩
    · rw [update_inputs h hinputs houtputs, if_neg hinputs]
      by_cases hdriving : drivingInputs devices supressed cache.inputs = []
      · rw [if_neg (by simp [hdriving])]
        have hvalues : drivingValues devices supressed cache.inputs = [] := by simp [drivingValues, hdriving]
        rw [hvalues]
        exact ⟨rfl, hnil.symm⟩
      · rw [if_pos ⟨rfl, hdriving⟩]
        refine ⟨?_, hfollow cache.current hdriving⟩
        simp [drivingValues, hdriving]

end

/-! ## Combining the caches -/

omit [Field F] [LinearOrder F] in
theorem foldl_updateBool (states : List (OxrActionState F)) (any : AnyCombined Bool) :
    (states.foldl oxrStateUpdateBool any).active = (any.active || states.any (·.active)) ∧
      (states.foldl oxrStateUpdateBool any).value =
        (any.value || states.any fun state => state.active && state.value.boolean) := by
  induction states generalizing any with
  | nil => simp
  | cons state states ih =>
    obtain ⟨hactive, hvalue⟩ := ih (oxrStateUpdateBool any state)
    rw [List.foldl_cons, hactive, hvalue]
    unfold oxrStateUpdateBool
    cases hstate : state.active <;> simp [hstate, Bool.or_assoc]

omit [Field F] in
theorem foldl_updateVec1 (states : List (OxrActionState F)) (any : AnyCombined F) :
    (states.foldl oxrStateUpdateVec1 any).active = (any.active || states.any (·.active)) ∧
      (states.foldl oxrStateUpdateVec1 any).value =
        leader id any.value ((states.filter (·.active)).map (·.value.vec1)) := by
  induction states generalizing any with
  | nil => simp
  | cons state states ih =>
    obtain ⟨hactive, hvalue⟩ := ih (oxrStateUpdateVec1 any state)
    rw [List.foldl_cons, hactive, hvalue]
    unfold oxrStateUpdateVec1
    cases hstate : state.active with
    | false => simp [hstate]
    | true =>
      rw [if_pos rfl, List.filter_cons_of_pos hstate, List.map_cons, leader_cons]
      split <;> simp [*]

theorem foldl_updateVec2 (states : List (OxrActionState F)) (any : AnyCombined ((F × F) × F)) :
    (states.foldl oxrStateUpdateVec2 any).active = (any.active || states.any (·.active)) ∧
      (states.foldl oxrStateUpdateVec2 any).value =
        leader Prod.snd any.value
          ((states.filter (·.active)).map fun state => (state.value.vec2, lengthSq state.value.vec2)) := by
  induction states generalizing any with
  | nil => simp
  | cons state states ih =>
    obtain ⟨hactive, hvalue⟩ := ih (oxrStateUpdateVec2 any state)
    rw [List.foldl_cons, hactive, hvalue]
    unfold oxrStateUpdateVec2
    cases hstate : state.active with
    | false => simp [hstate]
    | true =>
      rw [if_pos rfl, List.filter_cons_of_pos hstate, List.map_cons, leader_cons]
      dsimp only
      split <;> simp [*]

/-! ## Combining groups -/

section
variable [IsStrictOrderedRing F] {g : List F} {x : F} {paths groups : List (List F)} {stuck : Prop}

theorem fabsf_eq_abs : (fabsf : F → F) = (|·|) := by
  funext x
  unfold fabsf
  split
  · rename_i hneg
    exact (abs_of_neg hneg).symm
  · rename_i hneg
    exact (abs_of_nonneg (le_of_not_gt hneg)).symm

theorem leads_abs_iff (hne : g ≠ []) : Leads (|·|) g x ↔ x = leader (|·|) 0 g := by
  have hleads : Leads (|·|) g (leader (|·|) 0 g) := by
    by_cases hzero : |(0 : F)| < |leader (|·|) (0 : F) g|
    · exact leads_leader hzero
    · -- all of them are zero
      have hall : ∀ y ∈ g, y = 0 := by
        intro y hy
        have hle := @le_leader F F _ (|·|) 0 g y (List.mem_cons_of_mem _ hy)
        have hle' : |y| ≤ |(0 : F)| := le_trans hle (le_of_not_gt hzero)
        simpa using hle'
      obtain ⟨y, ys, rfl⟩ := List.exists_cons_of_ne_nil hne
      have hleader : leader (|·|) (0 : F) (y :: ys) = 0 :=
        leader_eq_start fun z hz => le_of_eq (congrArg (|·|) (hall z hz))
      rw [hleader, ← hall y List.mem_cons_self]
      refine ⟨[], ys, rfl, nofun, fun z hz => ?_⟩
      rw [hall z (List.mem_cons_of_mem _ hz), hall y List.mem_cons_self]
  constructor
  · intro h
    by_cases hx : |(0 : F)| < |x|
    · exact (h.leader_eq hx).symm
    · have hle := @le_leader F F _ (|·|) 0 g _ (List.mem_cons_of_mem _ h.mem)
      have hmem := h.le hleads.mem
      have hx0 : x = 0 := by simpa using hx
      have hleader : leader (|·|) (0 : F) g = 0 := by simpa [hx0] using hmem
      rw [hx0, hleader]
  · rintro rfl
    exact hleads

/-- The groups that are combined: those that are driven, and zero for a path that is stuck. -/
def Groups {V : Type} (zero : V) (paths : List (List V)) (stuck : Prop) (groups : List (List V)) : Prop :=
  ∀ g, g ≠ [] → (g ∈ groups ↔ g ∈ paths ∨ stuck ∧ g = [zero])

def leaders {V β : Type} [LinearOrder β] (key : V → β) (zero : V) (groups : List (List V)) : List V :=
  (groups.filter (!·.isEmpty)).map (leader key zero)

theorem mem_leaders_abs (h : Groups 0 paths stuck groups) {z : F} :
    z ∈ leaders (|·|) 0 groups ↔ (∃ g ∈ paths, Leads (|·|) g z) ∨ stuck ∧ z = 0 := by
  have hmem : z ∈ leaders (|·|) 0 groups ↔ ∃ g ∈ groups, g ≠ [] ∧ leader (|·|) 0 g = z := by
    simp [leaders, and_assoc]
  have hzero : leader (|·|) 0 [(0 : F)] = 0 := leader_eq_start (by simp)
  rw [hmem]
  constructor
  · rintro ⟨g, hg, hne, rfl⟩
    rcases (h g hne).1 hg with hpath | ⟨hstuck, rfl⟩
    · exact Or.inl ⟨g, hpath, (leads_abs_iff hne).2 rfl⟩
    · exact Or.inr ⟨hstuck, hzero⟩
  · rintro (⟨g, hg, hleads⟩ | ⟨hstuck, rfl⟩)
    · have hne := List.ne_nil_of_mem hleads.mem
      exact ⟨g, (h g hne).2 (Or.inl hg), hne, ((leads_abs_iff hne).1 hleads).symm⟩
    · exact ⟨[0], (h [0] (List.cons_ne_nil _ _)).2 (Or.inr ⟨hstuck, rfl⟩), List.cons_ne_nil _ _, hzero⟩

/-- The float that is left when the greatest of the leaders is taken, starting with -2: a stuck path counts as zero. -/
structure GreatestLeader (paths : List (List F)) (stuck : Prop) (v : F) : Prop where
  origin : v = -2 ∨ (∃ g ∈ paths, Leads (|·|) g v) ∨ stuck ∧ v = 0
  start : -2 ≤ v
  leads : ∀ g ∈ paths, ∀ z, Leads (|·|) g z → z ≤ v
  nonneg : stuck → 0 ≤ v

namespace GreatestLeader

variable {paths : List (List F)} {stuck : Prop} {v : F}

theorem of_groups {groups : List (List F)} (h : Groups 0 paths stuck groups) :
    GreatestLeader paths stuck (leader id (-2) (leaders (|·|) 0 groups)) := by
  have hle : ∀ z ∈ leaders (|·|) 0 groups, z ≤ leader id (-2) (leaders (|·|) 0 groups) := fun z hz =>
    @le_leader F F _ id (-2) (leaders (|·|) 0 groups) z (List.mem_cons_of_mem _ hz)
  constructor
  · rcases List.mem_cons.1 (@leader_mem _ _ _ _ id (-2) (leaders (|·|) 0 groups)) with hstart | hmem
    · exact Or.inl hstart
    · exact Or.inr ((mem_leaders_abs h).1 hmem)
  · exact @le_leader F F _ id (-2) (leaders (|·|) 0 groups) (-2) List.mem_cons_self
  · exact fun g hg z hz => hle z ((mem_leaders_abs h).2 (Or.inl ⟨g, hg, hz⟩))
  · exact fun hstuck => hle 0 ((mem_leaders_abs h).2 (Or.inr ⟨hstuck, rfl⟩))

theorem led (hv : GreatestLeader paths stuck v) (hmem : v ∈ paths.flatten) (hlongest : ∀ y ∈ paths.flatten, |y| ≤ |v|) :
    LedByLargest paths stuck := by
  obtain ⟨g, hg, hvg⟩ := List.mem_flatten.1 hmem
  obtain ⟨x, hx⟩ : ∃ x, Leads (|·|) g x := ⟨_, (leads_abs_iff (List.ne_nil_of_mem hvg)).2 rfl⟩
  have habs : |x| = |v| := le_antisymm (hlongest x (List.mem_flatten.2 ⟨g, hg, hx.mem⟩)) (hx.le hvg)
  have hmax : ∀ z, |z| = |v| → ∀ others ∈ paths, ∀ y ∈ others, |y| ≤ |z| := fun z hz others hothers y hy =>
    hz ▸ hlongest y (List.mem_flatten.2 ⟨others, hothers, hy⟩)
  by_cases hnonneg : 0 ≤ v
  · rcases hv.origin with rfl | ⟨g', hg', hleads⟩ | ⟨-, rfl⟩
    · linarith
    · exact ⟨g', hg', v, hleads, hmax v rfl, Or.inl hnonneg⟩
    · have hx0 : x = 0 := by simpa using habs
      exact ⟨g, hg, x, hx, hmax x habs, Or.inl hx0.ge⟩
  · -- the largest is negative, and no path has a greater one
    have hneg := lt_of_not_ge hnonneg
    have heq : ∀ y, |y| ≤ |v| → y ≤ v → y = v := by
      intro y hy hyv
      rw [abs_of_neg hneg, abs_of_neg (lt_of_le_of_lt hyv hneg)] at hy
      linarith
    have hxv : x = v := heq x habs.le (hv.leads g hg x hx)
    subst hxv
    refine ⟨g, hg, x, hx, hmax x rfl, Or.inr ⟨fun hstuck => hnonneg (hv.nonneg hstuck), hv.start, ?_⟩⟩
    intro others hothers y hy
    exact heq y (hmax x rfl others hothers y hy.mem) (hv.leads others hothers y hy)

theorem longest (hv : GreatestLeader paths stuck v) (hled : LedByLargest paths stuck) :
    v ∈ paths.flatten ∧ ∀ y ∈ paths.flatten, |y| ≤ |v| := by
  obtain ⟨g, hg, x, hx, hmax, hcase⟩ := hled
  have hxv : x ≤ v := hv.leads g hg x hx
  have heq : v = x := by
    rcases hcase with hnonneg | ⟨hstuck, hlow, hsame⟩
    · rcases hv.origin with rfl | ⟨g', hg', hleads⟩ | ⟨-, rfl⟩
      · linarith
      · have hvx := le_trans (le_abs_self v) (hmax g' hg' v hleads.mem)
        rw [abs_of_nonneg hnonneg] at hvx
        exact le_antisymm hvx hxv
      · exact le_antisymm hnonneg hxv
    · rcases hv.origin with rfl | ⟨g', hg', hleads⟩ | ⟨hstuck', -⟩
      · exact le_antisymm hlow hxv
      · exact hsame g' hg' v hleads
      · exact absurd hstuck' hstuck
  rw [heq]
  refine ⟨List.mem_flatten.2 ⟨g, hg, hx.mem⟩, fun y hy => ?_⟩
  obtain ⟨others, hothers, hy⟩ := List.mem_flatten.1 hy
  exact hmax others hothers y hy

end GreatestLeader

theorem longest_iff (h : Groups 0 paths stuck groups) :
    (leader id (-2) (leaders (|·|) 0 groups) ∈ paths.flatten ∧
        ∀ y ∈ paths.flatten, |y| ≤ |leader id (-2) (leaders (|·|) 0 groups)|) ↔ LedByLargest paths stuck := by
  have hgreatest := GreatestLeader.of_groups h
  constructor
  · rintro ⟨hmem, hlongest⟩
    exact hgreatest.led hmem hlongest
  · exact hgreatest.longest

theorem lengthSq_nonneg (v : F × F) : 0 ≤ lengthSq v := add_nonneg (mul_self_nonneg _) (mul_self_nonneg _)

theorem eq_zero_of_lengthSq {v : F × F} (h : lengthSq v ≤ 0) : v = (0, 0) := by
  have hzero := le_antisymm h (lengthSq_nonneg v)
  obtain ⟨h1, h2⟩ := (add_eq_zero_iff_of_nonneg (mul_self_nonneg v.1) (mul_self_nonneg v.2)).1 hzero
  exact Prod.ext (mul_self_eq_zero.1 h1) (mul_self_eq_zero.1 h2)

theorem longest_vector {paths groups : List (List (F × F))} (h : Groups (0, 0) paths stuck groups)
    (hne : paths.flatten ≠ []) :
    (leader Prod.snd ((0, 0), -1) ((leaders lengthSq (0, 0) groups).map fun v => (v, lengthSq v))).1 ∈ paths.flatten ∧
      ∀ y ∈ paths.flatten, lengthSq y ≤ lengthSq
        (leader Prod.snd ((0, 0), -1) ((leaders lengthSq (0, 0) groups).map fun v => (v, lengthSq v))).1 := by
  obtain ⟨w, hw⟩ : ∃ w : (F × F) × F,
    leader Prod.snd ((0, 0), -1) ((leaders lengthSq (0, 0) groups).map fun v => (v, lengthSq v)) = w := ⟨_, rfl⟩
  have hmem : w ∈ ((0, 0), -1) :: (leaders lengthSq (0, 0) groups).map fun v => (v, lengthSq v) := by
    rw [← hw]
    exact leader_mem
  have hle : ∀ y ∈ paths.flatten, lengthSq y ≤ w.2 := by
    intro y hy
    obtain ⟨g, hg, hyg⟩ := List.mem_flatten.1 hy
    have hgne := List.ne_nil_of_mem hyg
    refine le_trans (@le_leader _ _ _ lengthSq (0, 0) g y (List.mem_cons_of_mem _ hyg)) ?_
    rw [← hw]
    refine @le_leader _ _ _ Prod.snd ((0, 0), -1) _ (leader lengthSq (0, 0) g, lengthSq (leader lengthSq (0, 0) g)) ?_
    refine List.mem_cons_of_mem _ (List.mem_map_of_mem (List.mem_map_of_mem (List.mem_filter.2 ⟨?_, ?_⟩)))
    · exact (h g hgne).2 (Or.inl hg)
    · simpa using hgne
  obtain ⟨y₀, hy₀⟩ := List.exists_mem_of_ne_nil _ hne
  have hlength : w.2 = lengthSq w.1 ∧ (w.1 ∈ paths.flatten ∨ w.1 = (0, 0)) := by
    rcases List.mem_cons.1 hmem with rfl | hmem
    · have hnonneg := le_trans (lengthSq_nonneg y₀) (hle y₀ hy₀)
      norm_num at hnonneg
    · obtain ⟨v, hv, rfl⟩ := List.mem_map.1 hmem
      obtain ⟨g, hg, rfl⟩ := List.mem_map.1 hv
      obtain ⟨hg, hgne⟩ := List.mem_filter.1 hg
      have hgne : g ≠ [] := by simpa using hgne
      refine ⟨rfl, ?_⟩
      rcases List.mem_cons.1 (@leader_mem _ _ _ _ lengthSq (0, 0) g) with hzero | hin
      · exact Or.inr hzero
      · rcases (h g hgne).1 hg with hpath | ⟨-, rfl⟩
        · exact Or.inl (List.mem_flatten.2 ⟨g, hpath, hin⟩)
        · exact Or.inr (List.mem_singleton.1 hin)
  rw [hw]
  refine ⟨?_, fun y hy => hlength.1 ▸ hle y hy⟩
  rcases hlength.2 with hin | hzero
  · exact hin
  · -- then all of them are zero
    have hy := hle y₀ hy₀
    rw [hlength.1, hzero] at hy
    rw [hzero, ← eq_zero_of_lengthSq (le_trans hy (by simp [lengthSq]))]
    exact hy₀

end

/-! ## The state for any subaction path -/

namespace OxrActionAttachment

variable {act : OxrActionAttachment F} {devices : Devices F} {supressed : OxrSubactionPath → OxrActionInput F → Bool}
  {subactionPaths : OxrSubactionPaths} {time timestamp : ℤ} {V : Type} {stuck : Prop}

def contributions (act : OxrActionAttachment F) (devices : Devices F)
    (supressed : OxrSubactionPath → OxrActionInput F → Bool) (subactionPaths : OxrSubactionPaths) :
    List (List (XrtInputValue F)) :=
  OxrSubactionPath.valid.map fun path =>
    (act.cache path).contribution devices (supressed path) (subactionPaths.has path || subactionPaths.any)

theorem mem_contributions {g : List (XrtInputValue F)} (hg : g ≠ []) :
    g ∈ act.contributions devices supressed subactionPaths ↔
      g ∈ act.pathValues devices supressed subactionPaths ∨ act.Stuck subactionPaths ∧ g = [XrtInputValue.zero] := by
  constructor
  · intro hmem
    obtain ⟨path, hpath, rfl⟩ := List.mem_map.1 hmem
    unfold OxrActionCache.contribution at hg ⊢
    by_cases hselected : (subactionPaths.has path || subactionPaths.any) = true
    · have hin : path ∈ selectedPaths subactionPaths := List.mem_filter.2 ⟨hpath, hselected⟩
      simp only [hselected, Bool.not_true, Bool.false_eq_true, if_false] at hg ⊢
      split
      · rename_i hinputs
        rw [if_pos hinputs] at hg
        split
        · rename_i hactive
          exact Or.inr ⟨⟨path, hin, hinputs, hactive⟩, rfl⟩
        · rename_i hactive
          rw [if_neg hactive] at hg
          exact absurd rfl hg
      · exact Or.inl (List.mem_map.2 ⟨path, hin, rfl⟩)
    · rw [Bool.not_eq_true] at hselected
      simp only [hselected, Bool.not_false, if_true] at hg
      exact absurd rfl hg
  · rintro (hmem | ⟨⟨path, hpath, hinputs, hactive⟩, rfl⟩)
    · obtain ⟨path, hpath, rfl⟩ := List.mem_map.1 hmem
      obtain ⟨hvalid, hselected⟩ := List.mem_filter.1 hpath
      refine List.mem_map.2 ⟨path, hvalid, ?_⟩
      have hinputs : (act.cache path).inputs ≠ [] := by
        intro hnil
        apply hg
        simp [drivingValues, drivingInputs, hnil]
      simp only [OxrActionCache.contribution, hselected, Bool.not_true, Bool.false_eq_true, if_false, if_neg hinputs]
    · obtain ⟨hvalid, hselected⟩ := List.mem_filter.1 hpath
      refine List.mem_map.2 ⟨path, hvalid, ?_⟩
      simp only [OxrActionCache.contribution, hselected, Bool.not_true, Bool.false_eq_true, if_false, hinputs, hactive,
        if_true]

theorem groups_contributions (read : XrtInputValue F → V) :
    Groups (read XrtInputValue.zero) ((act.pathValues devices supressed subactionPaths).map (·.map read))
      (act.Stuck subactionPaths) ((act.contributions devices supressed subactionPaths).map (·.map read)) := by
  intro g' hg'
  constructor
  · intro hmem
    obtain ⟨g, hg, rfl⟩ := List.mem_map.1 hmem
    rcases (mem_contributions (by simpa using hg')).1 hg with hpath | ⟨hstuck, rfl⟩
    · exact Or.inl (List.mem_map_of_mem hpath)
    · exact Or.inr ⟨hstuck, rfl⟩
  · rintro (hmem | ⟨hstuck, rfl⟩)
    · obtain ⟨g, hg, rfl⟩ := List.mem_map.1 hmem
      exact List.mem_map_of_mem ((mem_contributions (by simpa using hg')).2 (Or.inl hg))
    · exact List.mem_map.2 ⟨_, (mem_contributions (List.cons_ne_nil _ _)).2 (Or.inr ⟨hstuck, rfl⟩), rfl⟩

theorem contributions_any : ((act.contributions devices supressed subactionPaths).any fun g => !g.isEmpty) = true ↔
    (act.pathValues devices supressed subactionPaths).flatten ≠ [] ∨ act.Stuck subactionPaths := by
  rw [List.any_eq_true]
  constructor
  · rintro ⟨g, hg, hne⟩
    have hne : g ≠ [] := by simpa using hne
    rcases (mem_contributions hne).1 hg with hpath | ⟨hstuck, -⟩
    · obtain ⟨v, hv⟩ := List.exists_mem_of_ne_nil g hne
      exact Or.inl (List.ne_nil_of_mem (List.mem_flatten.2 ⟨g, hpath, hv⟩))
    · exact Or.inr hstuck
  · rintro (hne | hstuck)
    · obtain ⟨v, hv⟩ := List.exists_mem_of_ne_nil _ hne
      obtain ⟨g, hg, hvg⟩ := List.mem_flatten.1 hv
      have hgne := List.ne_nil_of_mem hvg
      exact ⟨g, (mem_contributions hgne).2 (Or.inl hg), by simpa using hgne⟩
    · exact ⟨_, (mem_contributions (List.cons_ne_nil _ _)).2 (Or.inr ⟨hstuck, rfl⟩), rfl⟩

def updatedStates (act : OxrActionAttachment F) (devices : Devices F)
    (supressed : OxrSubactionPath → OxrActionInput F → Bool) (time timestamp : ℤ) (subactionPaths : OxrSubactionPaths) :
    List (OxrActionState F) :=
  (act.update devices true supressed time timestamp subactionPaths).states

theorem updatedStates_eq : act.updatedStates devices supressed time timestamp subactionPaths =
    OxrSubactionPath.valid.map fun path =>
      ((act.cache path).update devices true (supressed path) time
        (subactionPaths.has path || subactionPaths.any)).current := by
  unfold updatedStates states update
  refine List.map_congr_left fun path hpath => ?_
  dsimp only
  rw [if_pos hpath]

theorem updatedStates_active (hbound : act.Bound) (haction : act.actionType ≠ .vibrationOutput) {V : Type}
    (read : XrtInputValue F → V) (fold : List V → V) (hnil : fold [] = read XrtInputValue.zero)
    (hzero : fold [read XrtInputValue.zero] = read XrtInputValue.zero)
    (hfollow : ∀ path, ∀ last : OxrActionState F, drivingInputs devices (supressed path) (act.cache path).inputs ≠ [] →
      read (last.follow ((act.cache path).combined devices (supressed path))).value =
        fold ((drivingValues devices (supressed path) (act.cache path).inputs).map read)) :
    (act.updatedStates devices supressed time timestamp subactionPaths).any (·.active) =
        (act.contributions devices supressed subactionPaths).any (fun g => !g.isEmpty) ∧
      ((act.updatedStates devices supressed time timestamp subactionPaths).filter (·.active)).map (read ·.value) =
        (((act.contributions devices supressed subactionPaths).map (·.map read)).filter (!·.isEmpty)).map fold := by
  rw [updatedStates_eq]
  unfold contributions
  induction OxrSubactionPath.valid with
  | nil => exact ⟨rfl, rfl⟩
  | cons path paths ih =>
    obtain ⟨hany, hvalues⟩ := ih
    obtain ⟨hactive, hvalue⟩ := @OxrActionCache.update_state _ _ _ _ _ devices (supressed path) time (hbound path) haction _
      read fold hnil hzero (hfollow path) (subactionPaths.has path || subactionPaths.any)
    refine ⟨?_, ?_⟩
    · rw [List.map_cons, List.map_cons, List.any_cons, List.any_cons, hany, hactive]
    · rw [List.map_cons, List.map_cons, List.map_cons]
      cases hempty : ((act.cache path).contribution devices (supressed path)
          (subactionPaths.has path || subactionPaths.any)).isEmpty with
      | true =>
        rw [List.filter_cons_of_neg (by simp [hactive, hempty]), List.filter_cons_of_neg (by simp [hempty])]
        exact hvalues
      | false =>
        rw [List.filter_cons_of_pos (by simp [hactive, hempty]), List.filter_cons_of_pos (by simp [hempty]),
          List.map_cons, List.map_cons, hvalue]
        exact congrArg _ hvalues

omit [Field F] [LinearOrder F] in
theorem get_anyOnly (act : OxrActionAttachment F) (toTs : ℤ → ℤ) (zero : V) (read : XrtInputValue F → V) :
    act.get toTs zero read .anyOnly =
      if act.anyState.active then getXrStateFromActionState toTs read act.anyState else ⟨zero, false, 0, false⟩ := by
  simp [get, OxrSubactionPaths.anyOnly]

/-- The state for any subaction path after an update is read as zero if nothing is contributed to it. -/
def Reads {V : Type} (act : OxrActionAttachment F) (toTs : ℤ → ℤ) (read : XrtInputValue F → V) (zero : V) (active : Bool)
    (value : V) : Prop :=
  (act.get toTs zero read .anyOnly).isActive = active ∧
    (act.get toTs zero read .anyOnly).currentState = if active then value else zero

omit [Field F] [LinearOrder F] in
theorem reads_followAny {read : XrtInputValue F → V} {toTs : ℤ → ℤ} {zero : V} {last : OxrActionState F}
    {active differs : Bool} {value : XrtInputValue F} {v : V}
    (h : act.anyState = last.followAny active timestamp value differs) (hv : read value = v) :
    act.Reads toTs read zero active v := by
  unfold Reads
  rw [get_anyOnly, h, ← hv]
  cases active <;> exact ⟨rfl, rfl⟩

/-! ## Each type of action -/

theorem any_groups {paths groups : List (List Bool)} (h : Groups false paths stuck groups) :
    ((groups.filter (!·.isEmpty)).map (·.any id)).any id = paths.flatten.any id := by
  rw [Bool.eq_iff_iff, List.any_eq_true, List.any_eq_true]
  constructor
  · rintro ⟨b, hb, htrue⟩
    obtain ⟨g, hg, rfl⟩ := List.mem_map.1 hb
    obtain ⟨hg, hne⟩ := List.mem_filter.1 hg
    obtain ⟨x, hx, hxtrue⟩ := List.any_eq_true.1 htrue
    rcases (h g (by simpa using hne)).1 hg with hpath | ⟨-, rfl⟩
    · exact ⟨x, List.mem_flatten.2 ⟨g, hpath, hx⟩, hxtrue⟩
    · rw [List.mem_singleton.1 hx] at hxtrue
      cases hxtrue
  · rintro ⟨x, hx, hxtrue⟩
    obtain ⟨g, hg, hxg⟩ := List.mem_flatten.1 hx
    have hne := List.ne_nil_of_mem hxg
    refine ⟨g.any id, List.mem_map_of_mem (List.mem_filter.2 ⟨(h g hne).2 (Or.inl hg), by simpa using hne⟩), ?_⟩
    exact List.any_eq_true.2 ⟨x, hxg, hxtrue⟩

theorem reads_boolean (hbound : act.Bound) (haction : act.actionType = .booleanInput) (toTs : ℤ → ℤ) :
    (act.update devices true supressed time timestamp subactionPaths).Reads toTs (·.boolean) false
      ((act.contributions devices supressed subactionPaths).any fun g => !g.isEmpty)
      (((act.pathValues devices supressed subactionPaths).flatten.map (·.boolean)).any id) := by
  have hdelivers := fun path => haction ▸ (hbound path).delivers
  have hfollow : ∀ path, ∀ last : OxrActionState F,
      drivingInputs devices (supressed path) (act.cache path).inputs ≠ [] →
        (last.follow ((act.cache path).combined devices (supressed path))).value.boolean =
          ((drivingValues devices (supressed path) (act.cache path).inputs).map (·.boolean)).any id := by
    intro path last hne
    have htype := type_of_boolean (haction ▸ OxrActionCache.combined_type (hbound path) hne)
    rw [OxrActionState.follow_of_boolean htype, OxrActionCache.combined, combineAll_boolean (drivingInputs_type (hdelivers path))]
    simp [CombinedInput.start, XrtInputValue.zero, drivingValues, Function.comp_def]
  obtain ⟨hany, hvalues⟩ := @updatedStates_active _ _ _ act devices supressed subactionPaths time timestamp hbound
    (by rw [haction]; nofun) _ (·.boolean) (·.any id) rfl rfl hfollow
  obtain ⟨hactive, hvalue⟩ := foldl_updateBool (act.updatedStates devices supressed time timestamp subactionPaths)
    ⟨false, false, timestamp⟩
  have hgroups := @any_groups _ _ _ (@groups_contributions _ _ _ act devices supressed subactionPaths _ (·.boolean))
  rw [List.map_flatten, ← hgroups, ← hvalues, List.any_map, List.any_filter, ← hany]
  rw [Bool.false_or] at hactive hvalue
  rw [← hactive, show (fun state : OxrActionState F => state.active && (id ∘ (·.value.boolean)) state) =
    fun state => state.active && state.value.boolean from rfl, ← hvalue]
  apply reads_followAny
  · simp only [update, updateAny, haction]
    rfl
  · rfl

theorem reads_float [IsStrictOrderedRing F] (hbound : act.Bound) (haction : act.actionType = .floatInput)
    (toTs : ℤ → ℤ) :
    (act.update devices true supressed time timestamp subactionPaths).Reads toTs (·.vec1) 0
      ((act.contributions devices supressed subactionPaths).any fun g => !g.isEmpty)
      (leader id (-2)
        (leaders (|·|) 0 ((act.contributions devices supressed subactionPaths).map (·.map (·.vec1))))) := by
  have hdelivers := fun path => haction ▸ (hbound path).delivers
  have hfollow : ∀ path, ∀ last : OxrActionState F,
      drivingInputs devices (supressed path) (act.cache path).inputs ≠ [] →
        (last.follow ((act.cache path).combined devices (supressed path))).value.vec1 =
          leader (|·|) 0 ((drivingValues devices (supressed path) (act.cache path).inputs).map (·.vec1)) := by
    intro path last hne
    have htype := type_of_float (haction ▸ OxrActionCache.combined_type (hbound path) hne)
    rw [OxrActionState.follow_of_vec1 htype, OxrActionCache.combined, combineAll_vec1 (drivingInputs_type (hdelivers path)), fabsf_eq_abs]
    simp [CombinedInput.start, XrtInputValue.zero, drivingValues, Function.comp_def]
  obtain ⟨hany, hvalues⟩ := @updatedStates_active _ _ _ act devices supressed subactionPaths time timestamp hbound
    (by rw [haction]; nofun) _ (·.vec1) (leader (|·|) 0) rfl (leader_eq_start (by simp [XrtInputValue.zero])) hfollow
  obtain ⟨hactive, hvalue⟩ := foldl_updateVec1 (act.updatedStates devices supressed time timestamp subactionPaths)
    ⟨false, -2, timestamp⟩
  rw [leaders, ← hvalues, ← hany]
  rw [Bool.false_or] at hactive
  rw [← hactive, ← hvalue]
  apply reads_followAny
  · simp only [update, updateAny, haction]
    rfl
  · rfl

theorem reads_vector [IsStrictOrderedRing F] (hbound : act.Bound) (haction : act.actionType = .vector2fInput)
    (toTs : ℤ → ℤ) :
    (act.update devices true supressed time timestamp subactionPaths).Reads toTs (·.vec2) (0, 0)
      ((act.contributions devices supressed subactionPaths).any fun g => !g.isEmpty)
      (leader Prod.snd ((0, 0), -1)
        ((leaders lengthSq (0, 0) ((act.contributions devices supressed subactionPaths).map (·.map (·.vec2)))).map
          fun v => (v, lengthSq v))).1 := by
  have hdelivers := fun path => haction ▸ (hbound path).delivers
  have hfollow : ∀ path, ∀ last : OxrActionState F,
      drivingInputs devices (supressed path) (act.cache path).inputs ≠ [] →
        (last.follow ((act.cache path).combined devices (supressed path))).value.vec2 =
          leader lengthSq (0, 0) ((drivingValues devices (supressed path) (act.cache path).inputs).map (·.vec2)) := by
    intro path last hne
    have htype := type_of_vector2f (haction ▸ OxrActionCache.combined_type (hbound path) hne)
    rw [OxrActionState.follow_of_vec2 htype, OxrActionCache.combined, combineAll_vec2 (drivingInputs_type (hdelivers path))]
    simp [CombinedInput.start, XrtInputValue.zero, drivingValues, Function.comp_def]
  obtain ⟨hany, hvalues⟩ := @updatedStates_active _ _ _ act devices supressed subactionPaths time timestamp hbound
    (by rw [haction]; nofun) _ (·.vec2) (leader lengthSq (0, 0)) rfl (leader_eq_start (by simp [XrtInputValue.zero])) hfollow
  obtain ⟨hactive, hvalue⟩ := foldl_updateVec2 (act.updatedStates devices supressed time timestamp subactionPaths)
    ⟨false, ((0, 0), -1), timestamp⟩
  have hpairs : ∀ states : List (OxrActionState F), states.map (fun state => (state.value.vec2, lengthSq state.value.vec2)) =
      (states.map (·.value.vec2)).map fun v => (v, lengthSq v) := by simp
  rw [leaders, ← hvalues, ← hpairs, ← hany]
  rw [Bool.false_or] at hactive
  rw [← hactive, ← hvalue]
  apply reads_followAny
  · simp only [update, updateAny, haction]
    rfl
  · rfl

omit [Field F] in
theorem combinesLongest_iff {length : V → F} {zero v : V} {values : List V} {state : XrActionState V} {active : Bool}
    (hstate : state.isActive = active ∧ state.currentState = if active then v else zero)
    (hactive : active = true ↔ values ≠ [] ∨ stuck) :
    CombinesLongest length zero values state ↔
      (stuck → values ≠ []) ∧ (values ≠ [] → v ∈ values ∧ ∀ u ∈ values, length u ≤ length v) := by
  obtain ⟨hisActive, hcurrent⟩ := hstate
  rw [CombinesLongest, hisActive, hcurrent]
  by_cases hnil : values = []
  · rw [if_pos hnil]
    by_cases hstuck : stuck
    · simp [hactive.2 (Or.inr hstuck), hstuck, hnil]
    · have hfalse : active = false := by
        rw [← Bool.not_eq_true, hactive]
        exact fun h => h.elim (fun hne => hne hnil) hstuck
      simp [hfalse, hstuck, hnil]
  · rw [if_neg hnil, hactive.2 (Or.inl hnil)]
    simp [hnil]

theorem combinesBoolean_iff {values : List Bool} {state : XrActionState Bool} {active : Bool}
    (hstate : state.isActive = active ∧ state.currentState = if active then values.any id else false)
    (hactive : active = true ↔ values ≠ [] ∨ stuck) : CombinesBoolean values state ↔ (stuck → values ≠ []) := by
  obtain ⟨hisActive, hcurrent⟩ := hstate
  rw [CombinesBoolean, hisActive, hcurrent]
  by_cases hnil : values = []
  · subst hnil
    by_cases hstuck : stuck
    · simp [hactive.2 (Or.inr hstuck), hstuck]
    · have hfalse : active = false := by
        rw [← Bool.not_eq_true, hactive]
        exact fun h => h.elim (fun hne => hne rfl) hstuck
      simp [hfalse, hstuck]
  · rw [hactive.2 (Or.inl hnil), List.isEmpty_eq_false_iff.2 hnil]
    exact iff_of_true ⟨rfl, rfl⟩ fun _ => hnil

/-- What is read for any subaction path is what OpenXR has for the inputs that drive the action, exactly if a path that
is stuck is not the only one that is active, and floats are led by the largest. -/
theorem any_combines_iff [IsStrictOrderedRing F] (act : OxrActionAttachment F) (hbound : act.Bound) (devices : Devices F)
    (supressed : OxrSubactionPath → OxrActionInput F → Bool) (time timestamp : ℤ) (toTs : ℤ → ℤ)
    (subactionPaths : OxrSubactionPaths) :
    (act.update devices true supressed time timestamp subactionPaths).CombinesAny toTs
        (act.pathValues devices supressed subactionPaths).flatten ↔
      act.CanCombine devices supressed subactionPaths := by
  have hactive : ∀ {V : Type} (read : XrtInputValue F → V),
      ((act.contributions devices supressed subactionPaths).any fun g => !g.isEmpty) = true ↔
        (act.pathValues devices supressed subactionPaths).flatten.map read ≠ [] ∨ act.Stuck subactionPaths := by
    intro V read
    rw [contributions_any, Ne, Ne, List.map_eq_nil_iff]
  have htype : (act.update devices true supressed time timestamp subactionPaths).actionType = act.actionType := rfl
  simp only [CombinesAny, htype, CanCombine]
  cases haction : act.actionType with
  | poseInput | vibrationOutput => exact Iff.rfl
  | booleanInput =>
    refine (combinesBoolean_iff (reads_boolean hbound haction toTs) (hactive _)).trans ?_
    rw [Ne, List.map_eq_nil_iff]
  | floatInput =>
    refine (combinesLongest_iff (reads_float hbound haction toTs) (hactive _)).trans ?_
    rw [List.map_flatten, longest_iff (groups_contributions _), ← List.map_flatten, Ne, List.map_eq_nil_iff]
  | vector2fInput =>
    refine (combinesLongest_iff (reads_vector hbound haction toTs) (hactive _)).trans ?_
    rw [List.map_flatten, Ne, ← List.map_flatten, List.map_eq_nil_iff]
    refine and_iff_left fun hne => ?_
    rw [List.map_flatten]
    exact longest_vector (groups_contributions _) (by simpa [← List.map_flatten] using hne)

/-! ## A thumbstick on each hand -/

def thumbstickInput (xdev : ℕ) (boundPath : XrPath) : OxrActionInput ℚ where
  xdev := xdev
  input := 0x1302
  dpadActivate := none
  transforms := [⟨.vec2GetX, .vec1MinusOneToOne⟩]
  boundPath := boundPath

def thumbstickAction : OxrActionAttachment ℚ where
  actKey := 1
  actionType := .floatInput
  subactionPaths := .anyOnly
  anyPoseSubactionPath := .zero
  anyState := OxrActionState.zero
  cache := fun
    | .left => { (OxrActionCache.zero : OxrActionCache ℚ) with inputs := [thumbstickInput 1 7] }
    | .right => { (OxrActionCache.zero : OxrActionCache ℚ) with inputs := [thumbstickInput 2 8] }
    | _ => OxrActionCache.zero

def thumbsticks (left right : ℚ) : Devices ℚ where
  input xdev _ := ⟨true, 0, { (XrtInputValue.zero : XrtInputValue ℚ) with vec2 := (if xdev = 1 then left else right, 0) }⟩
  atan2f _ _ := 0

theorem thumbstickAction_bound : thumbstickAction.Bound := by
  have hdelivers : ∀ xdev boundPath, Delivers .floatInput (thumbstickInput xdev boundPath).transforms := fun _ _ =>
    ⟨List.cons_ne_nil _ _, by simp [thumbstickInput], by simp [thumbstickInput, isIdentity, oxrTypeMatchesXrt]⟩
  intro path
  cases path with
  | left => exact ⟨List.forall_mem_singleton.2 (hdelivers 1 7), fun _ => rfl, fun _ _ => rfl⟩
  | right => exact ⟨List.forall_mem_singleton.2 (hdelivers 2 8), fun _ => rfl, fun _ _ => rfl⟩
  | head | gamepad | eyes | user => exact ⟨List.forall_mem_nil _, fun _ => rfl, fun _ _ => rfl⟩

/-- The left one is moved to the left by less than the right one to the right. -/
theorem any_combines_thumbsticks :
    (thumbstickAction.update (thumbsticks (-1 / 2) 1) true (fun _ _ => false) 5 5 .anyOnly).CombinesAny id
      (thumbstickAction.pathValues (thumbsticks (-1 / 2) 1) (fun _ _ => false) .anyOnly).flatten := by
  refine (any_combines_iff thumbstickAction thumbstickAction_bound (thumbsticks (-1 / 2) 1) (fun _ _ => false) 5 5 id
    .anyOnly).2 ⟨?_, fun _ => ?_⟩
  · rintro ⟨path, -, hinputs, hactive⟩
    cases path <;> cases hactive
  · refine ⟨[1], ?_, 1, ⟨[], [], rfl, nofun, nofun⟩, ?_, Or.inl (by norm_num)⟩
    · decide +kernel
    · decide +kernel

/-- The left one is moved to the left by more than the right one to the right: what is read is that of the right. -/
theorem any_not_combines_thumbsticks :
    ¬ (thumbstickAction.update (thumbsticks (-1) (1 / 2)) true (fun _ _ => false) 5 5 .anyOnly).CombinesAny id
      (thumbstickAction.pathValues (thumbsticks (-1) (1 / 2)) (fun _ _ => false) .anyOnly).flatten := by
  have hvalues : (thumbstickAction.pathValues (thumbsticks (-1) (1 / 2)) (fun _ _ => false) .anyOnly).flatten.map
      (·.vec1) = [-1, 1 / 2] := by decide +kernel
  have hread : ((thumbstickAction.update (thumbsticks (-1) (1 / 2)) true (fun _ _ => false) 5 5 .anyOnly).getVector1f id
      .anyOnly).currentState = 1 / 2 := by decide +kernel
  intro h
  have hcombines : CombinesLongest (|·|) 0 ((thumbstickAction.pathValues (thumbsticks (-1) (1 / 2))
      (fun _ _ => false) .anyOnly).flatten.map (·.vec1)) ((thumbstickAction.update (thumbsticks (-1) (1 / 2)) true
      (fun _ _ => false) 5 5 .anyOnly).getVector1f id .anyOnly) := h
  rw [hvalues, CombinesLongest, if_neg (List.cons_ne_nil _ _)] at hcombines
  obtain ⟨-, -, hlongest⟩ := hcombines
  have hleft := hlongest (-1) List.mem_cons_self
  rw [hread] at hleft
  norm_num [abs_of_neg, abs_of_pos] at hleft

end OxrActionAttachment

end AugmentedInsanity.Oxr
