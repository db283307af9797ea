/-
The paths that an action is bound to (`oxr_action_enumerate_bound_sources`): those of the inputs and the outputs of all
subaction paths are added to an array that has as many places as a subaction path can have bindings, and each of them is
added with an assertion that there is a free place, before it is looked for. Each subaction path keeps to the limit, but
with several profiles all of them together need not (`reportsBoundSources_iff`).
-/
import AugmentedInsanity.Lib.CappedSets
import AugmentedInsanity.Oxr.ActionSync
import Mathlib.Algebra.Order.BigOperators.Group.List

namespace AugmentedInsanity.Oxr

open CappedSets Xrt

/-! ## Two calls -/

/-- What an application gives for an array whose length it may ask for first. -/
structure TwoCall where
  capacityInput : ℕ
  hasCountOutput : Bool

/-- What such a call comes to: its result, the count if it is written, and what is written to the array. -/
structure TwoCallReply (α : Type) where
  result : Except XrError XrSuccess
  countOutput : Option ℕ
  output : List α

def oxrTwoCallHelper {α : Type} (call : TwoCall) (data : List α) (sval : XrSuccess) : TwoCallReply α :=
  if !call.hasCountOutput then ⟨.error .validationFailure, none, []⟩
  else if call.capacityInput = 0 then ⟨.ok sval, some data.length, []⟩
  else if call.capacityInput < data.length then ⟨.error .sizeInsufficient, some data.length, []⟩
  else ⟨.ok sval, some data.length, data⟩

/-! ## The array of paths -/

/-- The part of `temp` that holds paths. -/
structure PathSet where
  paths : List XrPath
  fits : paths.length ≤ OXR_MAX_BINDINGS_PER_ACTION

def PathSet.empty : PathSet := ⟨[], Nat.zero_le _⟩

/-- The loop of `add_path_to_set`, which finds the path or does not, and fails at a gap. -/
def findPath (newPath : XrPath) : List XrPath → Option Bool
  | [] => some false
  | path :: rest => if newPath = path then some true else if path = 0 then none else findPath newPath rest

/-- `add_path_to_set`; there is no result if an assertion fails. -/
def addPathToSet (set : PathSet) (newPath : XrPath) : Option PathSet :=
  if h : set.paths.length < OXR_MAX_BINDINGS_PER_ACTION then
    match findPath newPath set.paths with
    | none => none
    | some true => some set
    -- the first assertion has made sure that the path is written within the array
    | some false => some ⟨set.paths ++ [newPath], by rw [List.length_append]; exact h⟩
  else none

section
variable {F : Type}

/-- The paths that a cache has, in the order of `ACCUMULATE_PATHS`. -/
def OxrActionCache.boundPaths (cache : OxrActionCache F) : List XrPath :=
  cache.inputs.map (·.boundPath) ++ cache.outputs.map (·.boundPath)

namespace OxrActionAttachment

/-- The paths that an action has, in the order of `OXR_FOR_EACH_SUBACTION_PATH`. -/
def boundPaths (act : OxrActionAttachment F) : List XrPath :=
  OxrSubactionPath.every.flatMap fun path => (act.cache path).boundPaths

/-- What `temp` holds in the end. -/
def boundSources (act : OxrActionAttachment F) : Option PathSet := act.boundPaths.foldlM addPathToSet .empty

end OxrActionAttachment

/-- `oxr_action_enumerate_bound_sources`, with the actions that are attached to the session. -/
def oxrActionEnumerateBoundSources (attachedActions : List (OxrActionAttachment F)) (actKey : ℕ) (call : TwoCall)
    (sval : XrSuccess) : Option (TwoCallReply XrPath) :=
  match attachedActions.find? (·.actKey == actKey) with
  | none => some ⟨.error .runtimeFailure, none, []⟩
  | some act => act.boundSources.map fun set => oxrTwoCallHelper call set.paths sval

/-- The sources of the action are those of all its caches, each once, and calls get them. -/
def ReportsBoundSources (act : OxrActionAttachment F) : Prop :=
  ∃ sources : List XrPath, sources.Nodup ∧
    (∀ source, source ∈ sources ↔ ∃ path, source ∈ (act.cache path).boundPaths) ∧
    ∀ attachedActions : List (OxrActionAttachment F), attachedActions.find? (·.actKey == act.actKey) = some act →
      ∀ call sval, oxrActionEnumerateBoundSources attachedActions act.actKey call sval =
        some (oxrTwoCallHelper call sources sval)

end

/-! ## Adding paths -/

section
variable {set : PathSet} {path : XrPath} {paths : List XrPath}

theorem findPath_eq (h : ∀ path ∈ paths, path ≠ 0) : findPath path paths = some (decide (path ∈ paths)) := by
  induction paths with
  | nil => rfl
  | cons other paths ih =>
    obtain ⟨hother, hpaths⟩ := List.forall_mem_cons.1 h
    rw [findPath, if_neg hother, ih hpaths]
    split
    · rename_i heq
      simp [heq]
    · rename_i hne
      simp [hne]

theorem addPathToSet_paths (h : ∀ path ∈ set.paths, path ≠ 0) :
    (addPathToSet set path).map (·.paths) = add? OXR_MAX_BINDINGS_PER_ACTION set.paths path := by
  unfold addPathToSet add? add
  by_cases hlt : set.paths.length < OXR_MAX_BINDINGS_PER_ACTION
  · rw [dif_pos hlt, if_pos hlt, findPath_eq h]
    by_cases hmem : path ∈ set.paths
    · simp [hmem]
    · simp [hmem]
  · rw [dif_neg hlt, if_neg hlt]
    rfl

theorem addPaths_paths (hset : ∀ path ∈ set.paths, path ≠ 0) (h : ∀ path ∈ paths, path ≠ 0) :
    (paths.foldlM addPathToSet set).map (·.paths) = addAll? OXR_MAX_BINDINGS_PER_ACTION set.paths paths := by
  induction paths generalizing set with
  | nil => rfl
  | cons path paths ih =>
    obtain ⟨hpath, hpaths⟩ := List.forall_mem_cons.1 h
    have hadd : (addPathToSet set path).map (·.paths) = _ := addPathToSet_paths hset
    rw [List.foldlM_cons, addAll?_cons, ← hadd]
    cases hnext : addPathToSet set path with
    | none => rfl
    | some next =>
      rw [hnext, Option.map_some] at hadd
      have hnonzero : ∀ other ∈ next.paths, other ≠ 0 := by
        intro other hother
        unfold add? at hadd
        split at hadd
        · rw [Option.some.inj hadd, mem_add] at hother
          rcases hother with hother | rfl
          · exact hset other hother
          · exact hpath
        · cases hadd
      exact ih hnonzero hpaths

namespace OxrActionAttachment

variable {F : Type} {act : OxrActionAttachment F}

theorem mem_boundPaths {source : XrPath} : source ∈ act.boundPaths ↔ ∃ path, source ∈ (act.cache path).boundPaths := by
  rw [boundPaths, List.mem_flatMap]
  exact ⟨fun ⟨path, _, h⟩ => ⟨path, h⟩, fun ⟨path, h⟩ => ⟨path, ActionSync.mem_every path, h⟩⟩

theorem exists_boundSources (h : ReportsBoundSources act) : ∃ set, act.boundSources = some set := by
  obtain ⟨sources, -, -, hreport⟩ := h
  have hone : [act].find? (·.actKey == act.actKey) = some act := List.find?_cons_of_pos (by simp)
  have hreport := hreport [act] hone ⟨0, true⟩ .success
  rw [oxrActionEnumerateBoundSources, hone] at hreport
  obtain ⟨set, hset, -⟩ := Option.map_eq_some_iff.1 hreport
  exact ⟨set, hset⟩

theorem boundSources_eq_some_iff (h : ∀ source ∈ act.boundPaths, source ≠ 0) {sources : List XrPath} :
    act.boundSources.map (·.paths) = some sources ↔
      (act.boundPaths ≠ [] → act.boundPaths.dropLast.toFinset.card < OXR_MAX_BINDINGS_PER_ACTION) ∧
        sources = addAll [] act.boundPaths := by
  rw [boundSources, addPaths_paths (fun _ hpath => absurd hpath List.not_mem_nil) h, PathSet.empty, addAll?_eq_some_iff,
    length_addAll_nil]

end OxrActionAttachment

end

/-! ## Paths that were suggested -/

def OxrBinding.KeysValid (b : OxrBinding) : Prop := ∀ key ∈ b.actKeys, ∃ path, b.paths[key.2]? = some path ∧ path ≠ 0

def SuggestedBindings (bindings : List OxrBinding) : Prop :=
  ∃ (string : XrPath → PathString) (template : List OxrBinding) (suggested : List (SuggestedAction × XrPath)),
    (∀ s ∈ suggested, s.2 ≠ 0) ∧ bindings = suggestBindings string template suggested

section
variable {b : OxrBinding} {bindings : List OxrBinding} {string : XrPath → PathString} {path : XrPath} {actKey : ℕ}

theorem OxrBinding.KeysValid.addActKey {index : ℕ} (h : b.KeysValid) (hindex : b.paths[index]? = some path)
    (hpath : path ≠ 0) : (b.addActKey actKey index).KeysValid := by
  intro key hkey
  rcases List.mem_append.1 hkey with hkey | hkey
  · exact h key hkey
  · rw [List.mem_singleton.1 hkey]
    exact ⟨path, hindex, hpath⟩

theorem OxrBinding.componentIndex_path {component : PathString} {index : ℕ}
    (h : b.componentIndex string path component = some index) : b.paths[index]? = some path := by
  unfold componentIndex at h
  split at h
  · rename_i hfound
    have hmem : path ∈ b.paths.reverse := List.mem_reverse.2 hfound.1
    have hlt : b.paths.reverse.idxOf path < b.paths.length := by
      simpa using List.idxOf_lt_length_iff.2 hmem
    cases h
    rw [← List.getElem?_reverse hlt, List.getElem?_idxOf hmem]
  · cases h

theorem OxrBinding.KeysValid.addFound {found : Option ℕ} (h : b.KeysValid)
    (hfound : ∀ index, found = some index → b.paths[index]? = some path) (hpath : path ≠ 0) :
    ((found.map (b.addActKey actKey)).getD b).KeysValid := by
  cases found with
  | none => exact h
  | some index => exact h.addActKey (hfound index rfl) hpath

theorem tryAddByComponent_keysValid {components : List PathString} {added : List OxrBinding}
    (h : ∀ b ∈ bindings, b.KeysValid) (hpath : path ≠ 0)
    (hadded : tryAddByComponent string bindings path actKey components = some added) : ∀ b ∈ added, b.KeysValid := by
  induction components with
  | nil => cases hadded
  | cons component components ih =>
    unfold tryAddByComponent at hadded
    split at hadded
    · cases hadded
      rw [List.forall_mem_map]
      exact fun b hb => (h b hb).addFound (fun _ hindex => OxrBinding.componentIndex_path hindex) hpath
    · exact ih hadded

theorem addDirect_keysValid (h : ∀ b ∈ bindings, b.KeysValid) (hpath : path ≠ 0) :
    ∀ b ∈ addDirect bindings path actKey, b.KeysValid := by
  unfold addDirect
  rw [List.forall_mem_map]
  refine fun b hb => (h b hb).addFound (fun index hindex => ?_) hpath
  obtain ⟨hlt, hat, -⟩ := List.findIdx?_eq_some_iff_getElem.1 hindex
  rw [List.getElem?_eq_getElem hlt, eq_of_beq hat]

theorem addActKeyToMatchingBindings_keysValid {act : SuggestedAction} (h : ∀ b ∈ bindings, b.KeysValid)
    (hpath : path ≠ 0) : ∀ b ∈ addActKeyToMatchingBindings string bindings path act, b.KeysValid := by
  unfold addActKeyToMatchingBindings
  cases hadded : (componentsFor act.actionType (string path)).bind
    (tryAddByComponent string bindings path act.actKey) with
  | none => exact addDirect_keysValid h hpath
  | some added =>
    obtain ⟨components, -, hadded⟩ := Option.bind_eq_some_iff.1 hadded
    exact tryAddByComponent_keysValid h hpath hadded

theorem SuggestedBindings.keysValid (h : SuggestedBindings bindings) : ∀ b ∈ bindings, b.KeysValid := by
  obtain ⟨string, template, suggested, hpaths, rfl⟩ := h
  unfold suggestBindings
  have hreset : ∀ b ∈ template.map fun b => { b with actKeys := [] }, b.KeysValid := by
    rw [List.forall_mem_map]
    exact fun _ _ _ hkey => absurd hkey List.not_mem_nil
  generalize (template.map fun b => { b with actKeys := [] }) = bindings at hreset
  induction suggested generalizing bindings with
  | nil => exact hreset
  | cons s suggested ih =>
    obtain ⟨hpath, hpaths⟩ := List.forall_mem_cons.1 hpaths
    exact ih hpaths _ (addActKeyToMatchingBindings_keysValid hreset hpath)

theorem OxrBinding.KeysValid.getMatchedXrPath_ne (h : b.KeysValid) (hkey : (b.actKeys.any (·.1 == actKey)) = true) :
    getMatchedXrPath b actKey ≠ 0 := by
  obtain ⟨key, hfind⟩ := Option.isSome_iff_exists.1 (List.find?_isSome.2 (List.any_eq_true.1 hkey))
  obtain ⟨path, hpath, hne⟩ := h key (List.mem_of_find?_eq_some hfind)
  rw [getMatchedXrPath, hfind, Option.bind_some, hpath]
  exact hne

end

/-! ## Paths that are bound -/

section
variable {F : Type} {profile : OxrInteractionProfile F} {actKey : ℕ} {path : OxrSubactionPath} {b : OxrBinding}
  {xbp : Option XrtBindingProfile} {actionType : XrActionType}

def OxrInteractionProfile.points (profile : OxrInteractionProfile F) (actKey : ℕ) (path : OxrSubactionPath) :
    List OxrBinding :=
  (findBindingsFromActKey profile.bindings actKey).filter (·.subactionPath == path)

theorem OxrInteractionProfile.points_length : (profile.points actKey path).length ≤ OXR_MAX_BINDINGS_PER_ACTION :=
  (List.length_filter_le _ _).trans (List.length_take_le _ _)

theorem OxrInteractionProfile.points_matched (hprofile : SuggestedBindings profile.bindings)
    (hb : b ∈ profile.points actKey path) : getMatchedXrPath b actKey ≠ 0 := by
  have hfound := List.mem_filter.1 (List.mem_of_mem_take (List.mem_filter.1 hb).1)
  exact (hprofile.keysValid b hfound.1).getMatchedXrPath_ne hfound.2

theorem map_filterMap_sublist {α β γ : Type} {f : α → Option β} {g : β → γ} {h : α → γ}
    (hf : ∀ a b, f a = some b → g b = h a) : ∀ l : List α, List.Sublist ((l.filterMap f).map g) (l.map h)
  | [] => List.Sublist.refl _
  | a :: l => by
    rw [List.filterMap_cons]
    cases ha : f a with
    | none => exact (map_filterMap_sublist hf l).cons _
    | some b =>
      rw [List.map_cons, List.map_cons, hf a b ha]
      exact (map_filterMap_sublist hf l).cons_cons _

theorem doInputs_boundPath {device : RoleDevice} {matchedPath : XrPath} {input : OxrActionInput F}
    (h : doInputs b device xbp matchedPath = some input) : input.boundPath = matchedPath := by
  unfold doInputs at h
  split at h
  · cases h
  · split at h
    · cases h
    · split at h
      · cases h
      · cases h
        rfl

theorem doOutputs_boundPath {device : RoleDevice} {matchedPath : XrPath} {output : OxrActionOutput}
    (h : doOutputs b device xbp matchedPath = some output) : output.boundPath = matchedPath := by
  unfold doOutputs at h
  dsimp only at h
  split at h
  · cases h
  · split at h
    · cases h
      rfl
    · cases h

theorem getBinding_boundPaths {device : Option RoleDevice} :
    List.Sublist ((getBinding device (some profile) actKey actionType path).1.map (·.boundPath) ++
        (getBinding device (some profile) actKey actionType path).2.map (·.boundPath))
      ((profile.points actKey path).map (getMatchedXrPath · actKey)) := by
  unfold getBinding
  split
  · rename_i device' profile' hprofile
    cases hprofile
    dsimp only
    split
    · exact List.nil_sublist _
    · split
      · exact map_filterMap_sublist (fun _ _ => doOutputs_boundPath) _
      · rw [List.map_nil, List.append_nil]
        exact map_filterMap_sublist (fun _ _ => doInputs_boundPath) _
  · exact List.nil_sublist _

theorem boundInputs_boundPaths [Field F] [LinearOrder F] {piOver2 : F} {string : XrPath → PathString}
    {dpads : List (XrPath × OxrDpadSettings F)} {inputs : List (OxrActionInput F)} :
    List.Sublist ((boundInputs piOver2 string dpads actionType inputs).map (·.boundPath))
      (inputs.map (·.boundPath)) := by
  refine map_filterMap_sublist (fun input bound hbound => ?_) inputs
  obtain ⟨transforms, -, rfl⟩ := Option.map_eq_some_iff.1 hbound
  rfl

end

/-! ## What bind leaves -/

section
variable {F : Type} [Field F] [LinearOrder F] {inst : OxrInstancePaths F} {roles : OxrRoles F}
  {act : OxrActionAttachment F} {actSetKey : ℕ} {path : OxrSubactionPath} {devices : Devices F}
  {supressed : OxrActionInput F → Bool}

/-- The profiles that are found have bindings that were suggested. -/
def OxrRoles.Suggested (roles : OxrRoles F) : Prop :=
  ∀ path profile, roles.profile path = some profile → SuggestedBindings profile.bindings

namespace OxrActionAttachment

/-- An action that has been attached without bindings, and bound and updated since. -/
inductive HasBound (inst : OxrInstancePaths F) : OxrActionAttachment F → Prop
  | first {act : OxrActionAttachment F} {roles : OxrRoles F} (hact : ∀ path, act.cache path = OxrActionCache.zero)
      (hroles : roles.Suggested) (actSetKey : ℕ) : HasBound inst (act.bind inst roles actSetKey)
  | again {act : OxrActionAttachment F} {roles : OxrRoles F} (hact : HasBound inst act) (hroles : roles.Suggested)
      (actSetKey : ℕ) : HasBound inst (act.bind inst roles actSetKey)
  | update {act : OxrActionAttachment F} (hact : HasBound inst act) (devices : Devices F) (isFocused : Bool)
      (supressed : OxrSubactionPath → OxrActionInput F → Bool) (time timestamp : ℤ)
      (subactionPaths : OxrSubactionPaths) :
      HasBound inst (act.update devices isFocused supressed time timestamp subactionPaths)

end OxrActionAttachment

/-- Sources as a cache has them: all are valid, and they are at most as many as an action may have bindings. -/
structure ValidSources (sources : List XrPath) : Prop where
  nonzero : ∀ source ∈ sources, source ≠ 0
  count : sources.length ≤ OXR_MAX_BINDINGS_PER_ACTION

theorem ValidSources.nil : ValidSources [] := ⟨List.forall_mem_nil _, Nat.zero_le _⟩

theorem ValidSources.of_sublist {sources all : List XrPath} (h : List.Sublist sources all) (hall : ValidSources all) :
    ValidSources sources :=
  ⟨fun source hsource => hall.nonzero source (h.subset hsource), h.length_le.trans hall.count⟩

theorem combineInputs_boundPaths {inputs : List (OxrActionInput F)} {res : CombinedInput F} :
    (combineInputs devices supressed inputs res).1.map (·.boundPath) = inputs.map (·.boundPath) := by
  induction inputs generalizing res with
  | nil => rfl
  | cons input inputs ih =>
    have hpath : (input.transformed devices).1.boundPath = input.boundPath := rfl
    unfold combineInputs
    split
    · exact congrArg (input.boundPath :: ·) ih
    · split
      · rename_i heq
        rw [heq] at hpath
        exact congrArg (· :: inputs.map (·.boundPath)) hpath
      · rename_i heq
        rw [heq] at hpath
        exact congrArg₂ List.cons hpath ih

theorem OxrActionCache.update_boundPaths {cache : OxrActionCache F} {isFocused : Bool} {time : ℤ} {selected : Bool} :
    (cache.update devices isFocused supressed time selected).boundPaths = cache.boundPaths := by
  unfold update
  split
  · dsimp only
    split
    · rfl
    · rfl
  · split
    · dsimp only
      split
      · rfl
      · rfl
    · split
      · have hpaths : (oxrInputCombineInput devices supressed cache.inputs).1.map (·.boundPath) =
            cache.inputs.map (·.boundPath) := combineInputs_boundPaths
        split
        · rename_i heq
          rw [heq] at hpaths
          exact congrArg (· ++ cache.outputs.map (·.boundPath)) hpaths
        · rename_i heq
          rw [heq] at hpaths
          split
          · exact congrArg (· ++ cache.outputs.map (·.boundPath)) hpaths
          · exact congrArg (· ++ cache.outputs.map (·.boundPath)) hpaths
      · rfl

theorem OxrActionAttachment.update_boundPaths {isFocused : Bool}
    {supressed : OxrSubactionPath → OxrActionInput F → Bool} {time timestamp : ℤ} {subactionPaths : OxrSubactionPaths} :
    ((act.update devices isFocused supressed time timestamp subactionPaths).cache path).boundPaths =
      (act.cache path).boundPaths := by
  unfold update
  dsimp only
  split
  · exact OxrActionCache.update_boundPaths
  · rfl

theorem oxrActionBindIo_boundPaths {actKey : ℕ} {actionType : XrActionType} :
    List.Sublist (oxrActionBindIo inst roles actKey actionType actSetKey path).boundPaths
      (((roles.profile path).map fun profile =>
        (profile.points actKey path).map (getMatchedXrPath · actKey)).getD []) := by
  have hpaths : List.Sublist (oxrActionBindIo inst roles actKey actionType actSetKey path).boundPaths
      ((getBinding (roles.device path) (roles.profile path) actKey actionType path).1.map (·.boundPath) ++
        (getBinding (roles.device path) (roles.profile path) actKey actionType path).2.map (·.boundPath)) :=
    boundInputs_boundPaths.append (List.Sublist.refl _)
  refine hpaths.trans ?_
  cases roles.profile path with
  | none =>
    unfold getBinding
    split
    · rename_i hnone
      cases hnone
    · exact List.Sublist.refl _
  | some profile => exact getBinding_boundPaths

namespace OxrActionAttachment

omit [LinearOrder F] in
theorem bind_cache : (act.bind inst roles actSetKey).cache path =
    if act.bindsPath path then oxrActionBindIo inst roles act.actKey act.actionType actSetKey path
    else act.cache path := rfl

theorem bind_sources (hroles : roles.Suggested) (hact : ValidSources (act.cache path).boundPaths) :
    ValidSources ((act.bind inst roles actSetKey).cache path).boundPaths := by
  rw [bind_cache]
  split
  · refine ValidSources.of_sublist oxrActionBindIo_boundPaths ?_
    cases hprofile : roles.profile path with
    | none => exact ValidSources.nil
    | some profile =>
      constructor
      · rw [Option.map_some, Option.getD_some, List.forall_mem_map]
        exact fun b hb => OxrInteractionProfile.points_matched (hroles path profile hprofile) hb
      · rw [Option.map_some, Option.getD_some, List.length_map]
        exact OxrInteractionProfile.points_length
  · exact hact

theorem HasBound.sources (h : act.HasBound inst) (path : OxrSubactionPath) :
    ValidSources (act.cache path).boundPaths := by
  induction h with
  | first hact hroles actSetKey => exact bind_sources hroles (by rw [hact]; exact ValidSources.nil)
  | again _ hroles actSetKey ih => exact bind_sources hroles ih
  | update _ devices isFocused supressed time timestamp subactionPaths ih =>
    rw [update_boundPaths]
    exact ih

theorem HasBound.nonzero (h : act.HasBound inst) : ∀ source ∈ act.boundPaths, source ≠ 0 := by
  intro source hsource
  obtain ⟨path, -, hsource⟩ := List.mem_flatMap.1 hsource
  exact (h.sources path).nonzero source hsource

theorem HasBound.reports_of_card (h : act.HasBound inst)
    (hplace : act.boundPaths.dropLast.toFinset.card < OXR_MAX_BINDINGS_PER_ACTION) : ReportsBoundSources act := by
  have hsome : act.boundSources.map (·.paths) = some (addAll [] act.boundPaths) :=
    (boundSources_eq_some_iff h.nonzero).2 ⟨fun _ => hplace, rfl⟩
  refine ⟨addAll [] act.boundPaths, nodup_addAll List.nodup_nil, fun source => ?_, fun attached hfind call sval => ?_⟩
  · rw [mem_addAll, ← mem_boundPaths]
    simp
  · obtain ⟨set, hset, hpaths⟩ := Option.map_eq_some_iff.1 hsome
    rw [oxrActionEnumerateBoundSources, hfind, ← hpaths]
    simp only [hset, Option.map_some]

/-- For an action that has been bound to suggested bindings the sources are reported iff the paths without the last one
leave a free place in the array. -/
theorem reportsBoundSources_iff (h : act.HasBound inst) :
    ReportsBoundSources act ↔ act.boundPaths.dropLast.toFinset.card < OXR_MAX_BINDINGS_PER_ACTION := by
  refine ⟨fun hreports => ?_, h.reports_of_card⟩
  obtain ⟨set, hset⟩ := exists_boundSources hreports
  obtain ⟨hplace, -⟩ := (boundSources_eq_some_iff h.nonzero).1 (by rw [hset]; rfl)
  by_cases hnil : act.boundPaths = []
  · rw [hnil]
    decide
  · exact hplace hnil

end OxrActionAttachment

end

/-! ## Two controllers -/

/-- `/user/hand/left/input/B/click` is 1, and so on; from 40 on the paths are those of the right hand. -/
def buttonString (path : XrPath) : PathString :=
  let hand := if path < 40 then ascii ['l', 'e', 'f', 't'] else ascii ['r', 'i', 'g', 'h', 't']
  ascii ['/', 'u', 's', 'e', 'r', '/', 'h', 'a', 'n', 'd', '/'] ++ hand ++ ascii ['/', 'i', 'n', 'p', 'u', 't', '/'] ++
    [UInt8.ofNat (65 + path)] ++ slashString ++ clickString

/-- The names of `n` buttons. -/
def buttonNames (n : ℕ) : List XrtInputName := (List.range n).map fun i => .ofNat (0x5004 + 0x100 * i)

/-- A profile with `n` buttons, all of which are suggested for an action. -/
def buttonProfile (xname : XrtDeviceName) (hand : OxrSubactionPath) (first : XrPath) (n : ℕ) :
    OxrInteractionProfile ℚ where
  path := 90
  xname := xname
  bindings := suggestBindings buttonString
    ((buttonNames n).zipIdx.map fun (name, i) => ⟨[first + i], hand, [], name, 0, 0⟩)
    ((List.range n).map fun i => (⟨1, .booleanInput⟩, first + i))
  dpadState _ := []

/-- A device with `n` buttons. -/
def buttonDevice (xdev : ℕ) (xname : XrtDeviceName) (n : ℕ) : RoleDevice where
  xdev := xdev
  fields := ⟨xname, 0, .empty, .empty, none, [], (buttonNames n).map fun name => ⟨true, 0, name, 0⟩, [], []⟩

def controllerRoles (left right : ℕ) : OxrRoles ℚ where
  generationId := 1
  device
    | .left => some (buttonDevice 1 3 left)
    | .right => some (buttonDevice 2 4 right)
    | _ => none
  profile
    | .left => some (buttonProfile 3 .left 1 left)
    | .right => some (buttonProfile 4 .right 40 right)
    | _ => none

def buttonPaths : OxrInstancePaths ℚ := ⟨0, buttonString, fun _ => 0⟩

def buttonAction : OxrActionAttachment ℚ where
  actKey := 1
  actionType := .booleanInput
  subactionPaths := .anyOnly
  anyPoseSubactionPath := .zero
  anyState := OxrActionState.zero
  cache _ := OxrActionCache.zero

theorem controllerRoles_suggested (left right : ℕ) : (controllerRoles left right).Suggested := by
  have hprofile : ∀ xname hand first n, first ≠ 0 → SuggestedBindings (buttonProfile xname hand first n).bindings := by
    intro xname hand first n hfirst
    refine ⟨buttonString, _, _, ?_, rfl⟩
    rw [List.forall_mem_map]
    intro i _
    exact (Nat.add_pos_left (Nat.pos_of_ne_zero hfirst) i).ne'
  intro path profile hpath
  cases path with
  | left =>
    cases hpath
    exact hprofile 3 .left 1 left (by decide)
  | right =>
    cases hpath
    exact hprofile 4 .right 40 right (by decide)
  | head | gamepad | eyes | user => cases hpath

theorem buttonAction_hasBound (left right : ℕ) :
    (buttonAction.bind buttonPaths (controllerRoles left right) 1).HasBound buttonPaths :=
  .first (fun _ => rfl) (controllerRoles_suggested left right) 1

/-- Sixteen buttons on each hand fill the array. -/
theorem reportsBoundSources_full :
    ReportsBoundSources (buttonAction.bind buttonPaths (controllerRoles 16 16) 1) :=
  (OxrActionAttachment.reportsBoundSources_iff (buttonAction_hasBound 16 16)).2 (by decide +kernel)

/-- With one more button on the left hand the last of the paths finds no place. -/
theorem not_reportsBoundSources :
    ¬ ReportsBoundSources (buttonAction.bind buttonPaths (controllerRoles 17 16) 1) := by
  have hnone : (buttonAction.bind buttonPaths (controllerRoles 17 16) 1).boundSources.isNone = true := by decide +kernel
  intro hreports
  obtain ⟨set, hset⟩ := OxrActionAttachment.exists_boundSources hreports
  rw [hset] at hnone
  cases hnone

end AugmentedInsanity.Oxr
