/-
The bindings that an application suggests, over any sequence of suggestions (`oxr_binding.c`). Suggestions are kept in
place, in the profiles of the instance, and still the last one for a profile is all that counts (`find_suggestAll`), in
whatever order it lists its bindings (`findBindings_perm`).
-/
import AugmentedInsanity.Oxr.Bindings
import Mathlib.Data.List.Induction

namespace AugmentedInsanity.Oxr

open Xrt

/-! ## The keys of one suggestion -/

variable (string : XrPath → PathString)

def OxrBinding.withKeys (b : OxrBinding) (actKeys : List (ℕ × ℕ)) : OxrBinding := { b with actKeys := actKeys }

/-- The component that all the bindings of a profile are searched for, if one of them has it. -/
def chosenComponent (bindings : List OxrBinding) (s : SuggestedAction × XrPath) : Option PathString :=
  (componentsFor s.1.actionType (string s.2)).bind fun components =>
    components.find? fun component => bindings.any fun b => (b.componentIndex string s.2 component).isSome

/-- The key that a suggestion puts on a binding. -/
def suggestedKey (bindings : List OxrBinding) (b : OxrBinding) (s : SuggestedAction × XrPath) : Option (ℕ × ℕ) :=
  let index :=
    match chosenComponent string bindings s with
    | some component => b.componentIndex string s.2 component
    | none => b.paths.idxOf? s.2
  index.map (s.1.actKey, ·)

variable {string}

theorem tryAddByComponent_eq (bindings : List OxrBinding) (path : XrPath) (actKey : ℕ) (components : List PathString) :
    tryAddByComponent string bindings path actKey components =
      (components.find? fun component => bindings.any fun b => (b.componentIndex string path component).isSome).map
        fun component => bindings.map fun b => ((b.componentIndex string path component).map (b.addActKey actKey)).getD b := by
  induction components with
  | nil => rfl
  | cons component components ih =>
    rw [tryAddByComponent, List.find?_cons]
    split
    · next h => simp [h]
    · next h => simp [h, ih]

theorem suggestedKey_withKeys (keys : OxrBinding → List (ℕ × ℕ)) (bindings : List OxrBinding) (b : OxrBinding)
    (s : SuggestedAction × XrPath) :
    suggestedKey string (bindings.map fun b => b.withKeys (keys b)) (b.withKeys (keys b)) s =
      suggestedKey string bindings b s := by
  have hchosen : chosenComponent string (bindings.map fun b => b.withKeys (keys b)) s = chosenComponent string bindings s := by
    simp [chosenComponent, List.any_map, Function.comp_def, OxrBinding.withKeys, OxrBinding.componentIndex]
  rw [suggestedKey, suggestedKey, hchosen]
  rfl

theorem addActKeyToMatchingBindings_eq (bindings : List OxrBinding) (s : SuggestedAction × XrPath) :
    addActKeyToMatchingBindings string bindings s.2 s.1 =
      bindings.map fun b => b.withKeys (b.actKeys ++ (suggestedKey string bindings b s).toList) := by
  have hadd (b : OxrBinding) (index : Option ℕ) : (index.map (b.addActKey s.1.actKey)).getD b =
      b.withKeys (b.actKeys ++ (index.map (s.1.actKey, ·)).toList) := by
    cases index with
    | none => simp [OxrBinding.withKeys]
    | some i => simp [OxrBinding.withKeys, OxrBinding.addActKey]
  have htry : (componentsFor s.1.actionType (string s.2)).bind (tryAddByComponent string bindings s.2 s.1.actKey) =
      (chosenComponent string bindings s).map fun component =>
        bindings.map fun b => ((b.componentIndex string s.2 component).map (b.addActKey s.1.actKey)).getD b := by
    unfold chosenComponent
    cases componentsFor s.1.actionType (string s.2) with
    | none => rfl
    | some components => exact tryAddByComponent_eq bindings s.2 s.1.actKey components
  unfold addActKeyToMatchingBindings suggestedKey
  rw [htry]
  cases chosenComponent string bindings s with
  | none => simp [addDirect, hadd]
  | some component => simp [hadd]

/-- The keys of a binding are those of the suggestion, in its order. -/
theorem suggestBindings_eq (bindings : List OxrBinding) (suggested : List (SuggestedAction × XrPath)) :
    suggestBindings string bindings suggested =
      bindings.map fun b => b.withKeys (suggested.filterMap (suggestedKey string bindings b)) := by
  have hfold : ∀ keys : OxrBinding → List (ℕ × ℕ),
      suggested.foldl (fun bindings s => addActKeyToMatchingBindings string bindings s.2 s.1)
          (bindings.map fun b => b.withKeys (keys b)) =
        bindings.map fun b => b.withKeys (keys b ++ suggested.filterMap (suggestedKey string bindings b)) := by
    induction suggested with
    | nil => intro keys; simp
    | cons s suggested ih =>
      intro keys
      rw [List.foldl_cons, addActKeyToMatchingBindings_eq, List.map_map]
      simp only [Function.comp_def, suggestedKey_withKeys]
      refine (ih fun b => keys b ++ (suggestedKey string bindings b s).toList).trans ?_
      apply List.map_congr_left
      intro b _
      cases hkey : suggestedKey string bindings b s with
      | none => simp [hkey]
      | some key => simp [hkey]
  exact hfold fun _ => []

/-- A suggestion leaves nothing of an earlier one. -/
theorem suggestBindings_again (bindings : List OxrBinding) (earlier suggested : List (SuggestedAction × XrPath)) :
    suggestBindings string (suggestBindings string bindings earlier) suggested =
      suggestBindings string bindings suggested := by
  rw [suggestBindings_eq bindings earlier, suggestBindings_eq, suggestBindings_eq, List.map_map]
  simp only [Function.comp_def, suggestedKey_withKeys]
  rfl

theorem getElem?_lastIndex {paths : List XrPath} {path : XrPath} (h : path ∈ paths) :
    paths[paths.length - 1 - paths.reverse.idxOf path]? = some path := by
  have hlt : paths.reverse.idxOf path < paths.reverse.length := List.idxOf_lt_length_of_mem (by simpa using h)
  have hat := List.getElem_idxOf hlt
  rw [List.getElem_reverse] at hat
  rw [List.length_reverse] at hlt
  exact List.getElem?_eq_some_iff.2 ⟨by omega, hat⟩

/-- The bindings that are found for an action, and the paths that are named for them, do not depend on the order of what
is suggested: each key has the index of a path that was suggested for its action. -/
theorem findBindings_perm (bindings : List OxrBinding) {suggested suggested' : List (SuggestedAction × XrPath)}
    (h : suggested.Perm suggested') (key : ℕ) :
    (findBindingsFromActKey (suggestBindings string bindings suggested) key).map (·.withKeys []) =
        (findBindingsFromActKey (suggestBindings string bindings suggested') key).map (·.withKeys []) ∧
      ∀ b ∈ suggestBindings string bindings suggested, ∀ k ∈ b.actKeys,
        ∃ s ∈ suggested', s.1.actKey = k.1 ∧ b.paths[k.2]? = some s.2 := by
  constructor
  · have hany (b : OxrBinding) : (suggested.filterMap (suggestedKey string bindings b)).any (·.1 == key) =
        (suggested'.filterMap (suggestedKey string bindings b)).any (·.1 == key) := (h.filterMap _).any_eq
    simp only [findBindingsFromActKey, suggestBindings_eq, List.filter_map, Function.comp_def, ← List.map_take,
      List.map_map, OxrBinding.withKeys, hany]
  · intro b hb k hk
    rw [suggestBindings_eq] at hb
    obtain ⟨b, -, rfl⟩ := List.mem_map.1 hb
    obtain ⟨s, hs, hkey⟩ := List.mem_filterMap.1 hk
    obtain ⟨i, hi, rfl⟩ := Option.map_eq_some_iff.1 hkey
    refine ⟨s, h.mem_iff.1 hs, rfl, ?_⟩
    dsimp only at hi ⊢
    split at hi
    · unfold OxrBinding.componentIndex at hi
      split at hi
      · next hfound =>
        cases hi
        exact getElem?_lastIndex hfound.1
      · cases hi
    · obtain ⟨hlt, heq, -⟩ := List.findIdx?_eq_some_iff_getElem.1 hi
      exact List.getElem?_eq_some_iff.2 ⟨hlt, beq_iff_eq.1 heq⟩

/-- A boolean for a trigger, which is read from its click, and a pose. -/
theorem findBindings_perm_trigger :
    let string (path : XrPath) := if path = 2 then clickString else []
    let bindings : List OxrBinding := [⟨[1, 2], .left, [], 5, 0, 0⟩, ⟨[3], .left, [], 6, 0, 0⟩]
    (findBindingsFromActKey (suggestBindings string bindings [(⟨7, .booleanInput⟩, 1), (⟨8, .poseInput⟩, 3)]) 7).map
        (·.withKeys []) =
      (findBindingsFromActKey (suggestBindings string bindings [(⟨8, .poseInput⟩, 3), (⟨7, .booleanInput⟩, 1)]) 7).map
        (·.withKeys []) :=
  (findBindings_perm _ (List.Perm.swap _ _ _) 7).1

/-! ## Calls -/

variable {F : Type}

/-- The arguments of `oxr_action_suggest_interaction_profile_bindings`. -/
structure Suggestion (F : Type) where
  path : XrPath
  suggested : List (SuggestedAction × XrPath)
  dpadState : ℕ → List (XrPath × OxrDpadSettings F)

/-- A profile that is found or made gets what is suggested. -/
def Suggestion.apply (string : XrPath → PathString) (call : Suggestion F) (p : OxrInteractionProfile F) :
    OxrInteractionProfile F :=
  { p with bindings := suggestBindings string p.bindings call.suggested, dpadState := call.dpadState }

/-- `oxr_action_suggest_interaction_profile_bindings`; `template` has the name and the bindings for a path. -/
def suggestInteractionProfileBindings (string : XrPath → PathString)
    (template : XrPath → Option (XrtDeviceName × List OxrBinding)) (profiles : List (OxrInteractionProfile F))
    (call : Suggestion F) : List (OxrInteractionProfile F) :=
  match profiles.findIdx? (·.path == call.path) with
  | some i => profiles.modify i (call.apply string)
  | none =>
    match template call.path with
    | none => profiles
    | some (xname, bindings) => profiles ++ [call.apply string ⟨call.path, xname, bindings, fun _ => []⟩]

/-- The suggestions of an instance, one call after the other. -/
def suggestAll (string : XrPath → PathString) (template : XrPath → Option (XrtDeviceName × List OxrBinding))
    (calls : List (Suggestion F)) : List (OxrInteractionProfile F) :=
  calls.foldl (suggestInteractionProfileBindings string template) []

theorem apply_again (call earlier : Suggestion F) (p : OxrInteractionProfile F) :
    call.apply string (earlier.apply string p) = call.apply string p := by
  simp only [Suggestion.apply, suggestBindings_again]

theorem find_modify {f : OxrInteractionProfile F → OxrInteractionProfile F} (hf : ∀ p, (f p).path = p.path)
    {profiles : List (OxrInteractionProfile F)} {path' : XrPath} {i : ℕ}
    (h : profiles.findIdx? (·.path == path') = some i) (path : XrPath) :
    (profiles.modify i f).find? (·.path == path) =
      (profiles.find? (·.path == path)).map fun p => if path = path' then f p else p := by
  induction profiles generalizing i with
  | nil => simp at h
  | cons p profiles ih =>
    rw [List.findIdx?_cons] at h
    by_cases hp : (p.path == path') = true
    · rw [if_pos hp] at h
      cases h
      rw [List.modify_zero_cons, List.find?_cons, List.find?_cons, hf]
      by_cases hpath : (p.path == path) = true
      · have : path = path' := by rw [← beq_iff_eq.1 hpath, beq_iff_eq.1 hp]
        rw [this] at hpath ⊢
        simp [hpath]
      · have hne : path ≠ path' := by
          rintro rfl
          exact hpath hp
        simp [hpath, hne]
    · rw [if_neg hp, Option.map_eq_some_iff] at h
      obtain ⟨j, hj, rfl⟩ := h
      rw [List.modify_succ_cons, List.find?_cons, List.find?_cons, ih hj]
      split
      · next hpath =>
        have hne : path ≠ path' := by
          rintro rfl
          exact hp hpath
        simp [hne]
      · rfl

/-- After any calls, a profile has what the last call for it has suggested, for the bindings of its template. -/
theorem find_suggestAll (string : XrPath → PathString) (template : XrPath → Option (XrtDeviceName × List OxrBinding))
    (calls : List (Suggestion F)) (path : XrPath) :
    (suggestAll string template calls).find? (·.path == path) =
      (calls.reverse.find? (·.path == path)).bind fun call =>
        (template path).map fun t => call.apply string ⟨path, t.1, t.2, fun _ => []⟩ := by
  unfold suggestAll
  induction calls using List.reverseRecOn with
  | nil => rfl
  | append_singleton calls call ih =>
    rw [List.foldl_append, List.reverse_append, List.foldl_cons, List.foldl_nil]
    generalize calls.foldl (suggestInteractionProfileBindings string template) [] = profiles at ih ⊢
    unfold suggestInteractionProfileBindings
    simp only [List.reverse_singleton, List.singleton_append, List.find?_cons]
    cases hindex : profiles.findIdx? (·.path == call.path) with
    | some i =>
      have hpaths (p : OxrInteractionProfile F) : (call.apply string p).path = p.path := rfl
      dsimp only
      rw [find_modify hpaths hindex, ih]
      by_cases hpath : call.path = path
      · subst hpath
        -- the profile that is there comes of an earlier call
        obtain ⟨hlt, hat, -⟩ := List.findIdx?_eq_some_iff_getElem.1 hindex
        have hfound : (profiles.find? (·.path == call.path)).isSome := List.find?_isSome.2 ⟨_, List.getElem_mem hlt, hat⟩
        rw [ih] at hfound
        simp only [beq_self_eq_true, if_true, Option.bind_some]
        cases hearlier : calls.reverse.find? (·.path == call.path) with
        | none => simp [hearlier] at hfound
        | some earlier =>
          cases ht : template call.path with
          | none => simp [hearlier, ht] at hfound
          | some t => simp [apply_again]
      · have hne : (call.path == path) = false := by simpa using hpath
        simp [hne, Ne.symm hpath]
    | none =>
      have hnone : profiles.find? (·.path == call.path) = none := by
        rw [List.find?_eq_none]
        simpa using hindex
      dsimp only
      by_cases hpath : call.path = path
      · subst hpath
        cases ht : template call.path with
        | none => simp [hnone]
        | some t => simp [List.find?_append, hnone, Suggestion.apply]
      · have hne : (call.path == path) = false := by simpa using hpath
        rw [hne, ← ih]
        cases template call.path with
        | none => rfl
        | some t => simp [List.find?_append, Suggestion.apply, hne]

end AugmentedInsanity.Oxr
