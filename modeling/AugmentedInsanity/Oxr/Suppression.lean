/-
Which inputs action sets take from each other. An input of an action is suppressed if an action set with a higher priority
has its bound path, which is the path that the application has chosen for it: the inputs that are suppressed are the
right ones exactly if the bound paths find the same as a search for the input of the device would
(`ActionSync.suppresses_iff`).
-/
import AugmentedInsanity.Lib.Arbitration
import AugmentedInsanity.Oxr.AnyState

namespace AugmentedInsanity.Oxr

open Xrt Arbitration

variable {F : Type}

/-- What `oxr_action_sync_data` updates the actions with: the attached action sets with the subaction paths that are
requested of them, what the application asks for, and the inputs of the devices. -/
structure ActionSync (F : Type) where
  sets : List (OxrActionSetAttachment F)
  actionSets : List XrActiveActionSet
  activePriorities : List XrActiveActionSetPriority
  devices : Devices F

/-- The input of a device that an input of an action stands for. -/
def OxrActionInput.physical (input : OxrActionInput F) : ℕ × XrtInputName := (input.xdev, input.input)

namespace ActionSync

variable (sync : ActionSync F)

def priority (set : OxrActionSetAttachment F) : ℕ := oxrGetActionSetPriority set sync.activePriorities

/-- The inputs of a set that are suppressed on a subaction path. -/
def supressed (set : OxrActionSetAttachment F) (path : OxrSubactionPath) (input : OxrActionInput F) : Bool :=
  oxrInputSupressed sync.sets sync.actionSets (.only path) set sync.activePriorities input

def Synced (path : OxrSubactionPath) (set : OxrActionSetAttachment F) : Prop :=
  (∃ requested ∈ sync.actionSets, getActionSetAttachment sync.sets requested.actionSet = some set) ∧
    (set.requestedSubactionPaths.has path || set.requestedSubactionPaths.any) = true

/-- A set that is synchronized for a subaction path has an action that is bound to an input there. -/
def Binds (path : OxrSubactionPath) (set : OxrActionSetAttachment F) (input : OxrActionInput F) : Prop :=
  sync.Synced path set ∧ ∃ act ∈ set.actAttachments, input ∈ (act.cache path).inputs

def Drives (path : OxrSubactionPath) (set : OxrActionSetAttachment F) (input : OxrActionInput F) : Prop :=
  sync.Binds path set input ∧ (input.reading sync.devices).active = true ∧ sync.supressed set path input = false

/-- A set with a higher priority binds the same input of a device. -/
def BoundAbove (path : OxrSubactionPath) (set : OxrActionSetAttachment F) (input : OxrActionInput F) : Prop :=
  ∃ other above, sync.Binds path other above ∧ above.physical = input.physical ∧ sync.priority set < sync.priority other

/-- A set with a higher priority has the bound path, on any subaction path. -/
def PathAbove (path : OxrSubactionPath) (set : OxrActionSetAttachment F) (input : OxrActionInput F) : Prop :=
  ∃ other, sync.Synced path other ∧ sync.priority set < sync.priority other ∧
    ∃ act ∈ other.actAttachments, ∃ anywhere, ∃ above ∈ (act.cache anywhere).inputs, input.boundPath = above.boundPath

/-- An input of a device that drives an action drives none of a set with a lower priority, and is only suppressed when a
set with a higher priority binds it. -/
structure SuppressesRightly : Prop where
  exclusive : ∀ path ∈ OxrSubactionPath.valid, ∀ set input other below, sync.Drives path set input →
    sync.Binds path other below → below.physical = input.physical → sync.priority other < sync.priority set →
    ¬ sync.Drives path other below
  justified : ∀ path ∈ OxrSubactionPath.valid, ∀ set input, sync.Binds path set input →
    sync.supressed set path input = true → sync.BoundAbove path set input

variable {sync} {path : OxrSubactionPath} {set other : OxrActionSetAttachment F} {input : OxrActionInput F}

/-! ## The search for bound paths -/

theorem mem_every (path : OxrSubactionPath) : path ∈ OxrSubactionPath.every := by
  cases path <;> decide

theorem relevantSubactionPath_only :
    relevantSubactionPath set (.only path) =
      (set.requestedSubactionPaths.has path || set.requestedSubactionPaths.any) := by
  rw [relevantSubactionPath, Bool.or_comm]
  congr 1
  rw [Bool.eq_iff_iff, List.any_eq_true]
  constructor
  · rintro ⟨p, -, hp⟩
    obtain ⟨hhas, honly⟩ := Bool.and_eq_true_iff.1 hp
    rwa [eq_of_beq honly] at hhas
  · exact fun hhas => ⟨path, mem_every path, Bool.and_eq_true_iff.2 ⟨hhas, beq_self_eq_true path⟩⟩

theorem isBoundInActSet_iff :
    oxrInputIsBoundInActSet input set = true ↔
      ∃ act ∈ set.actAttachments, ∃ anywhere, ∃ above ∈ (act.cache anywhere).inputs, input.boundPath = above.boundPath := by
  simp only [oxrInputIsBoundInActSet, oxrInputIsInputForCache, List.any_eq_true, beq_iff_eq, mem_every, true_and]

theorem getActionSetAttachment_key {key : ℕ} {sets : List (OxrActionSetAttachment F)}
    (h : getActionSetAttachment sets key = some set) : set.actSetKey = key := by
  rw [getActionSetAttachment] at h
  simpa using List.find?_some h

theorem Synced.eq_of_key (h : sync.Synced path set) {otherPath : OxrSubactionPath} (hother : sync.Synced otherPath other)
    (hkey : other.actSetKey = set.actSetKey) : other = set := by
  obtain ⟨⟨requested, -, hset⟩, -⟩ := h
  obtain ⟨⟨requestedOther, -, hset'⟩, -⟩ := hother
  rw [← getActionSetAttachment_key hset', hkey, getActionSetAttachment_key hset, hset] at hset'
  exact (Option.some.inj hset').symm

theorem supressed_iff (h : sync.Synced path set) : sync.supressed set path input = true ↔ sync.PathAbove path set input := by
  rw [supressed, oxrInputSupressed, List.any_eq_true]
  constructor
  · rintro ⟨requested, hmem, hsuppressed⟩
    split at hsuppressed
    · cases hsuppressed
    · rename_i other hother
      split_ifs at hsuppressed with hkey hle hrelevant
      rw [Bool.not_eq_true', Bool.not_eq_false, relevantSubactionPath_only] at hrelevant
      exact ⟨other, ⟨⟨requested, hmem, hother⟩, hrelevant⟩, not_le.1 hle, isBoundInActSet_iff.1 hsuppressed⟩
  · rintro ⟨other, hsynced, hlt, hbound⟩
    have hkey : other.actSetKey ≠ set.actSetKey := fun hkey => by
      rw [h.eq_of_key hsynced hkey] at hlt
      exact lt_irrefl _ hlt
    obtain ⟨⟨requested, hmem, hother⟩, hrelevant⟩ := hsynced
    have hgreater : ¬ oxrGetActionSetPriority other sync.activePriorities ≤
        oxrGetActionSetPriority set sync.activePriorities := not_le.2 hlt
    refine ⟨requested, hmem, ?_⟩
    rw [hother]
    dsimp only
    rw [if_neg hkey, if_neg hgreater, relevantSubactionPath_only, hrelevant]
    exact isBoundInActSet_iff.2 hbound

/-! ## The inputs that are suppressed -/

def bids (sync : ActionSync F) (path : OxrSubactionPath) : Set (OxrActionSetAttachment F × OxrActionInput F) :=
  {bid | sync.Binds path bid.1 bid.2}

theorem priorities_finite : ((fun bid => sync.priority bid.1) '' sync.bids path).Finite := by
  refine (((List.finite_toSet sync.sets).image sync.priority)).subset ?_
  rintro _ ⟨bid, ⟨⟨⟨requested, -, hset⟩, -⟩, -⟩, rfl⟩
  exact ⟨bid.1, List.mem_of_find?_eq_some hset, rfl⟩

theorem outbid_iff :
    Outbid (sync.bids path) (·.2.physical) (sync.priority ·.1) (set, input) ↔ sync.BoundAbove path set input := by
  constructor
  · rintro ⟨⟨other, above⟩, hbinds, hsame, hlt⟩
    exact ⟨other, above, hbinds, hsame, hlt⟩
  · rintro ⟨other, above, hbinds, hsame, hlt⟩
    exact ⟨(other, above), hbinds, hsame, hlt⟩

theorem suppressesRightly_iff_arbitrated :
    sync.SuppressesRightly ↔ ∀ path ∈ OxrSubactionPath.valid,
      Arbitrated (sync.bids path) (·.2.physical) (sync.priority ·.1) (fun r => (sync.devices.input r.1 r.2).active = true)
        (fun bid => sync.supressed bid.1 path bid.2 = true) := by
  constructor
  · refine fun h path hpath => ⟨?_, fun bid hbid hdropped => outbid_iff.2 (h.justified path hpath _ _ hbid hdropped)⟩
    rintro ⟨set, input⟩ hbid ⟨other, below⟩ hbelow hsame hlt hactive hkept
    have hnot := h.exclusive path hpath set input other below ⟨hbid, hactive, by simpa using hkept⟩ hbelow hsame.symm hlt
    by_contra hdrives
    refine hnot ⟨hbelow, ?_, by simpa using hdrives⟩
    rw [hsame] at hactive
    exact hactive
  · refine fun h => ⟨?_, fun path hpath set input hbinds hdropped =>
      outbid_iff.1 ((h path hpath).justified (set, input) hbinds hdropped)⟩
    intro path hpath set input other below hdrives hbelow hsame hlt hother
    have hdropped := (h path hpath).exclusive (set, input) hdrives.1 (other, below) hbelow hsame.symm hlt hdrives.2.1
      (by simp [hdrives.2.2])
    rw [hother.2.2] at hdropped
    cases hdropped

/-- The right inputs are suppressed exactly if bound paths of sets with a higher priority only find inputs that are bound
there, and all of them that are active. -/
theorem suppresses_iff (sync : ActionSync F) :
    sync.SuppressesRightly ↔ ∀ path ∈ OxrSubactionPath.valid, ∀ set input, sync.Binds path set input →
      (sync.PathAbove path set input → sync.BoundAbove path set input) ∧
        ((input.reading sync.devices).active = true → sync.BoundAbove path set input → sync.PathAbove path set input) := by
  rw [suppressesRightly_iff_arbitrated]
  refine forall₂_congr fun path _ => ?_
  rw [arbitrated_iff priorities_finite]
  constructor
  · intro h set input hbinds
    obtain ⟨hjustified, hdropped⟩ := h (set, input) hbinds
    rw [outbid_iff, supressed_iff hbinds.1] at hjustified hdropped
    exact ⟨hjustified, hdropped⟩
  · rintro h ⟨set, input⟩ hbinds
    rw [outbid_iff, supressed_iff hbinds.1]
    exact h set input hbinds

end ActionSync

/-! ## A trigger with two paths -/

/-- `/user/hand/left/input/trigger/value` is 10, and without its component 11. -/
def triggerString (path : XrPath) : PathString :=
  let trigger := ascii ['/', 'u', 's', 'e', 'r', '/', 'h', 'a', 'n', 'd', '/', 'l', 'e', 'f', 't', '/', 'i', 'n', 'p', 'u', 't',
    '/', 't', 'r', 'i', 'g', 'g', 'e', 'r']
  if path = 10 then trigger ++ slashString ++ valueString else if path = 11 then trigger else []

def triggerProfile : OxrInteractionProfile ℚ where
  path := 1
  xname := 4
  bindings := suggestBindings triggerString [⟨[10, 11], .left, [], 0xCC00, 0, 0⟩]
    [(⟨1, .floatInput⟩, 11), (⟨2, .floatInput⟩, 10)]
  dpadState _ := []

def triggerDevice : RoleDevice where
  xdev := 1
  fields := ⟨4, 0, .empty, .empty, none, [], [⟨true, 0, 0xCC00, 0⟩], [], []⟩

def triggerInputs (actKey : ℕ) : List (OxrActionInput ℚ) :=
  boundInputs 0 triggerString [] .floatInput
    (getBinding (some triggerDevice) (some triggerProfile) actKey .floatInput .left).1

/-- A set with one of the actions, that is synchronized for all subaction paths. -/
def triggerSet (actKey priority : ℕ) : OxrActionSetAttachment ℚ where
  actSetKey := actKey
  priority := priority
  requestedSubactionPaths := .anyOnly
  actAttachments :=
    [{ actKey := actKey
       actionType := .floatInput
       subactionPaths := .anyOnly
       anyPoseSubactionPath := .zero
       anyState := OxrActionState.zero
       cache := fun
        | .left => { (OxrActionCache.zero : OxrActionCache ℚ) with inputs := triggerInputs actKey }
        | _ => OxrActionCache.zero }]

def triggerSync : ActionSync ℚ where
  sets := [triggerSet 1 2, triggerSet 2 1]
  actionSets := [⟨1, 0⟩, ⟨2, 0⟩]
  activePriorities := []
  devices := ⟨fun _ _ => ⟨true, 0, { (XrtInputValue.zero : XrtInputValue ℚ) with vec1 := 1 }⟩, fun _ _ => 0⟩

theorem triggerInputs_eq : ∃ transforms, triggerInputs 1 = [⟨1, 0xCC00, none, transforms, 11⟩] ∧
    triggerInputs 2 = [⟨1, 0xCC00, none, transforms, 10⟩] := by
  refine ⟨[⟨.identity, .vec1ZeroToOne⟩], ?_, ?_⟩ <;> rfl

/-- The trigger drives both actions, as the one with a lower priority is bound to another path of it. -/
theorem suppresses_not_trigger : ¬ triggerSync.SuppressesRightly := by
  obtain ⟨transforms, hupper, hlower⟩ := triggerInputs_eq
  have hupper : ⟨1, 0xCC00, none, transforms, 11⟩ ∈ triggerInputs 1 := by
    rw [hupper]
    exact List.mem_cons_self
  have hlower : ⟨1, 0xCC00, none, transforms, 10⟩ ∈ triggerInputs 2 := by
    rw [hlower]
    exact List.mem_cons_self
  have hbinds : triggerSync.Binds .left (triggerSet 1 2) ⟨1, 0xCC00, none, transforms, 11⟩ :=
    ⟨⟨⟨⟨1, 0⟩, by decide, rfl⟩, rfl⟩, _, List.mem_cons_self, hupper⟩
  have hbelow : triggerSync.Binds .left (triggerSet 2 1) ⟨1, 0xCC00, none, transforms, 10⟩ :=
    ⟨⟨⟨⟨2, 0⟩, by decide, rfl⟩, rfl⟩, _, List.mem_cons_self, hlower⟩
  intro h
  exact h.exclusive .left (by decide) _ _ _ _ ⟨hbinds, rfl, rfl⟩ hbelow rfl (by decide) ⟨hbelow, rfl, rfl⟩

end AugmentedInsanity.Oxr
