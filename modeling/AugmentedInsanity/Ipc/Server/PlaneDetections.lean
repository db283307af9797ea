/-
The plane detections that the server tracks for a client (`ipc_server_handler.c`), so that it can destroy those that
are left when the client goes (`ipc_server_per_client_thread.c`). An id is one of a device's own, but a destroy
looks for the id only, and takes the entry away whether or not the device destroyed the detection. The list is that of
the live detections exactly as long as the first entry with the id is the one that the device destroys, and no begin
replaces a live detection (`PlaneInv.right_iff`).
-/
import Mathlib.Data.List.Nodup
import AugmentedInsanity.Lib.CellArrays
import AugmentedInsanity.Lib.Runs
import AugmentedInsanity.Xrt.Defines

namespace AugmentedInsanity.Ipc.Planes

open CellArrays Runs Xrt

/-! ## The server -/

/-- The part of `struct ipc_client_state` that tracks plane detections; `X` are the devices. -/
structure PlaneTracking (X : Type) where
  planeDetectionSize : ℕ
  planeDetectionCount : ℕ
  planeDetectionIds : ℕ → UInt64
  planeDetectionXdev : ℕ → X

variable {X : Type} {ics : PlaneTracking X}

/-- `ipc_handle_device_begin_plane_detection_ext` after it has got the device; `answer` is the error or the new id that
the device gives. -/
def beginPlaneDetection (ics : PlaneTracking X) (xdev : X) (answer : Except XrtResult UInt64) :
    Except XrtResult UInt64 × PlaneTracking X :=
  let newCount := ics.planeDetectionCount + 1
  let ics := if newCount > ics.planeDetectionSize then { ics with planeDetectionSize := newCount } else ics
  match answer with
  | .error xret => (.error xret, ics)
  | .ok id =>
    let index := ics.planeDetectionCount
    (.ok id, if id ≠ 0 then
      { ics with
        planeDetectionIds := Function.update ics.planeDetectionIds index id
        planeDetectionXdev := Function.update ics.planeDetectionXdev index xdev
        planeDetectionCount := newCount }
    else ics)

/-- The rounds `i`, `i + 1`, ... of the loop of the destroy: once the id is found, every item moves to the left. -/
def compactLoop (id : UInt64) (count : ℕ) (compactRight : Bool) (ids : ℕ → UInt64) (xdevs : ℕ → X) (i : ℕ) :
    ℕ → Bool × (ℕ → UInt64) × (ℕ → X)
  | 0 => (compactRight, ids, xdevs)
  | rest + 1 =>
    let compactRight := if ids i = id then true else compactRight
    if compactRight = true ∧ i + 1 < count then
      compactLoop id count compactRight (Function.update ids i (ids (i + 1)))
        (Function.update xdevs i (xdevs (i + 1))) (i + 1) rest
    else compactLoop id count compactRight ids xdevs (i + 1) rest

/-- `ipc_handle_device_destroy_plane_detection_ext` after it has got the device; `xret` is what the device's destroy
gives. -/
def destroyPlaneDetection (ics : PlaneTracking X) (id : UInt64) (xret : XrtResult) : XrtResult × PlaneTracking X :=
  let count := ics.planeDetectionCount
  let (compactRight, ids, xdevs) :=
    compactLoop id count false ics.planeDetectionIds ics.planeDetectionXdev 0 count
  (xret, { ics with
    planeDetectionIds := ids
    planeDetectionXdev := xdevs
    planeDetectionCount := if compactRight then count - 1 else count })

/-- The destroys that `common_shutdown` calls: the device, and the id. -/
def shutdownDestroys (ics : PlaneTracking X) : List (X × UInt64) :=
  (List.range ics.planeDetectionCount).map fun i => (ics.planeDetectionXdev i, ics.planeDetectionIds i)

/-- What `common_shutdown` leaves; the memory is freed. -/
def shutdown (ics : PlaneTracking X) : PlaneTracking X :=
  { ics with planeDetectionSize := 0, planeDetectionCount := 0 }

/-! ## The loop of the destroy -/

theorem compactLoop_found {id : UInt64} {count i rest : ℕ} {ids : ℕ → UInt64} {xdevs : ℕ → X} (hi : i + rest = count) :
    compactLoop id count true ids xdevs i rest = (true, moveDown ids i (rest - 1), moveDown xdevs i (rest - 1)) := by
  induction rest generalizing ids xdevs i with
  | zero => rfl
  | succ rest ih =>
    rw [compactLoop, ite_self]
    cases rest with
    | zero =>
      rw [if_neg (by omega)]
      rfl
    | succ rest =>
      rw [if_pos ⟨rfl, by omega⟩, ih (by omega)]
      rfl

theorem compactLoop_spec (id : UInt64) (ids : ℕ → UInt64) (xdevs : ℕ → X) {count i rest : ℕ} (hi : i + rest = count) :
    (searchFrom (fun j => decide (ids j = id)) i rest < count → compactLoop id count false ids xdevs i rest =
      (true, moveDown ids (searchFrom (fun j => decide (ids j = id)) i rest)
          (count - 1 - searchFrom (fun j => decide (ids j = id)) i rest),
        moveDown xdevs (searchFrom (fun j => decide (ids j = id)) i rest)
          (count - 1 - searchFrom (fun j => decide (ids j = id)) i rest))) ∧
      (count ≤ searchFrom (fun j => decide (ids j = id)) i rest →
        compactLoop id count false ids xdevs i rest = (false, ids, xdevs)) := by
  induction rest generalizing i with
  | zero => exact ⟨fun h => absurd h (by rw [searchFrom]; omega), fun _ => rfl⟩
  | succ rest ih =>
    by_cases hid : ids i = id
    · have hk : searchFrom (fun j => decide (ids j = id)) i (rest + 1) = i := by
        rw [searchFrom, if_pos (decide_eq_true hid)]
      have hsame : compactLoop id count false ids xdevs i (rest + 1) =
          compactLoop id count true ids xdevs i (rest + 1) := by
        rw [compactLoop, compactLoop, if_pos hid, if_pos hid]
      have hrest : count - 1 - i = rest := by omega
      rw [hk, hrest, hsame, compactLoop_found hi]
      exact ⟨fun _ => rfl, fun h => by omega⟩
    · have hk : searchFrom (fun j => decide (ids j = id)) i (rest + 1) =
          searchFrom (fun j => decide (ids j = id)) (i + 1) rest := by
        rw [searchFrom, if_neg (by simpa using hid)]
      have hskip : compactLoop id count false ids xdevs i (rest + 1) =
          compactLoop id count false ids xdevs (i + 1) rest := by
        rw [compactLoop, if_neg hid]
        exact if_neg (by simp)
      rw [hk, hskip]
      exact ih (by omega)

/-! ## The list -/

def tracked (ics : PlaneTracking X) : List (X × UInt64) :=
  contents (fun i => (ics.planeDetectionXdev i, ics.planeDetectionIds i)) ics.planeDetectionCount

theorem tracked_destroy (ics : PlaneTracking X) (id : UInt64) (xret : XrtResult) :
    tracked (destroyPlaneDetection ics id xret).2 = (tracked ics).eraseP fun e => decide (e.2 = id) := by
  have hi : 0 + ics.planeDetectionCount = ics.planeDetectionCount := Nat.zero_add _
  obtain ⟨hbefore, -, hhit⟩ :=
    searchFrom_spec (fun j => decide (ics.planeDetectionIds j = id)) 0 ics.planeDetectionCount
  obtain ⟨hfound, hnone⟩ := compactLoop_spec id ics.planeDetectionIds ics.planeDetectionXdev hi
  rcases Nat.lt_or_ge (searchFrom (fun j => decide (ics.planeDetectionIds j = id)) 0 ics.planeDetectionCount)
    ics.planeDetectionCount with hk | hk
  · have hids := moveDown_movedDown ics.planeDetectionIds hk
    have hxdevs := moveDown_movedDown ics.planeDetectionXdev hk
    have hloop := hfound hk
    simp only [destroyPlaneDetection, hloop, if_true, tracked]
    refine contents_removed ⟨fun i h => ?_, fun i h h' => ?_⟩ hk (hhit (by omega))
      fun i h => hbefore i (Nat.zero_le i) h
    · rw [hids.before i h, hxdevs.before i h]
    · rw [hids.after i h h', hxdevs.after i h h']
  · have hloop := hnone hk
    simp only [destroyPlaneDetection, hloop, Bool.false_eq_true, if_false, tracked]
    refine (List.eraseP_of_forall_not fun e he => ?_).symm
    obtain ⟨i, hlt, rfl⟩ := mem_contents.1 he
    rw [hbefore i (Nat.zero_le i) (by omega)]
    exact Bool.false_ne_true

theorem tracked_begin_error (ics : PlaneTracking X) (xdev : X) (xret : XrtResult) :
    tracked (beginPlaneDetection ics xdev (.error xret)).2 = tracked ics := by
  simp only [beginPlaneDetection]
  split <;> rfl

theorem tracked_begin_ok (ics : PlaneTracking X) (xdev : X) (id : UInt64) :
    tracked (beginPlaneDetection ics xdev (.ok id)).2 =
      if id ≠ 0 then tracked ics ++ [(xdev, id)] else tracked ics := by
  simp only [beginPlaneDetection]
  split
  · have hpair : (fun i => (Function.update ics.planeDetectionXdev ics.planeDetectionCount xdev i,
        Function.update ics.planeDetectionIds ics.planeDetectionCount id i)) =
        Function.update (fun i => (ics.planeDetectionXdev i, ics.planeDetectionIds i)) ics.planeDetectionCount
          (xdev, id) := by
      funext i
      by_cases hi : i = ics.planeDetectionCount
      · subst hi
        simp only [Function.update_self]
      · simp only [Function.update_of_ne hi]
    split <;> exact (congrArg (contents · _) hpair).trans (contents_update ..)
  · split <;> rfl

theorem tracked_prefix_begin (ics : PlaneTracking X) (xdev : X) (answer : Except XrtResult UInt64) :
    tracked ics <+: tracked (beginPlaneDetection ics xdev answer).2 := by
  cases answer with
  | error xret => exact (tracked_begin_error ics xdev xret).symm ▸ List.prefix_rfl
  | ok id =>
    rw [tracked_begin_ok]
    split
    · exact List.prefix_append _ _
    · exact List.prefix_rfl

theorem begin_inBounds (h : ics.planeDetectionCount ≤ ics.planeDetectionSize) (xdev : X)
    (answer : Except XrtResult UInt64) :
    (beginPlaneDetection ics xdev answer).2.planeDetectionCount ≤
      (beginPlaneDetection ics xdev answer).2.planeDetectionSize := by
  cases answer with
  | error xret =>
    simp only [beginPlaneDetection]
    split
    · exact Nat.le_succ _
    · exact h
  | ok id =>
    simp only [beginPlaneDetection]
    split_ifs with hid hgrows hgrows
    · exact le_rfl
    · exact not_lt.1 hgrows
    · exact Nat.le_succ _
    · exact h

theorem destroy_inBounds (h : ics.planeDetectionCount ≤ ics.planeDetectionSize) (id : UInt64) (xret : XrtResult) :
    (destroyPlaneDetection ics id xret).2.planeDetectionCount ≤
      (destroyPlaneDetection ics id xret).2.planeDetectionSize := by
  simp only [destroyPlaneDetection]
  split <;> omega

/-! ## Runs -/

variable [DecidableEq X] {live : List (X × UInt64)}

/-- The server's list for a client, and the detections of the client that are live on the devices. -/
structure PlaneRun (X : Type) where
  ics : PlaneTracking X
  live : List (X × UInt64)
  connected : Bool

/-- The arrays of a client that has just connected; `ids` and `xdevs` are what the memory holds that they will get. -/
def PlaneRun.connect (ids : ℕ → UInt64) (xdevs : ℕ → X) : PlaneRun X := ⟨⟨0, 0, ids, xdevs⟩, [], true⟩

/-- A request of the client, with the device that its tables give, if they do, and what the device answers. -/
inductive PlaneOp (X : Type)
  | begin (xdev : Option X) (planeDetectionId : UInt64) (answer : Except XrtResult UInt64)
  | destroy (xdev : Option X) (planeDetectionId : UInt64) (xret : XrtResult)
  | disconnect

/-- A begin replaces the detection that it names, and begins one unless the new id is 0. -/
def liveAfterBegin (live : List (X × UInt64)) (xdev : X) (planeDetectionId : UInt64) :
    Except XrtResult UInt64 → List (X × UInt64)
  | .error _ => live
  | .ok id =>
    if id ≠ 0 then (xdev, id) :: live.erase (xdev, planeDetectionId) else live.erase (xdev, planeDetectionId)

def liveAfterDestroy (live : List (X × UInt64)) (xdev : X) (planeDetectionId : UInt64) (xret : XrtResult) :
    List (X × UInt64) := if xret = .success then live.erase (xdev, planeDetectionId) else live

/-- A device gives no id that it has already given, unless that detection is gone. -/
def Fresh (live : List (X × UInt64)) (xdev : X) (planeDetectionId : UInt64) : Except XrtResult UInt64 → Prop
  | .error _ => True
  | .ok id => id ≠ 0 → (xdev, id) ∉ live.erase (xdev, planeDetectionId)

instance (live : List (X × UInt64)) (xdev : X) (planeDetectionId : UInt64) :
    ∀ answer, Decidable (Fresh live xdev planeDetectionId answer)
  | .error _ => .isTrue trivial
  | .ok _ => inferInstanceAs (Decidable (_ → _))

def planeStep (r : PlaneRun X) (op : PlaneOp X) : Option (PlaneRun X) :=
  if r.connected = false then none
  else
    match op with
    | .begin none _ _ | .destroy none _ _ => some r
    | .begin (some xdev) planeDetectionId answer =>
      if Fresh r.live xdev planeDetectionId answer then
        some { r with
          ics := (beginPlaneDetection r.ics xdev answer).2
          live := liveAfterBegin r.live xdev planeDetectionId answer }
      else none
    | .destroy (some xdev) planeDetectionId xret =>
      some { r with
        ics := (destroyPlaneDetection r.ics planeDetectionId xret).2
        live := liveAfterDestroy r.live xdev planeDetectionId xret }
    | .disconnect => some { r with ics := shutdown r.ics, connected := false }

/-- The list is that of the live detections, within its arrays. -/
structure InStep (r : PlaneRun X) : Prop where
  perm : (tracked r.ics).Perm r.live
  inBounds : r.ics.planeDetectionCount ≤ r.ics.planeDetectionSize

/-- What is to hold of a request: nothing of the list is lost by a begin, a destroy takes the entry of the device and
the id away if the device has destroyed it, and the list stays that of the live detections; these are the ones that
are destroyed when the client goes. -/
def TracksRight (r : PlaneRun X) (op : PlaneOp X) : Prop :=
  ∀ r', planeStep r op = some r' →
    match op with
    | .disconnect => (shutdownDestroys r.ics).Perm r.live
    | .destroy (some xdev) planeDetectionId xret => tracked r'.ics =
      (if xret = .success then (tracked r.ics).erase (xdev, planeDetectionId) else tracked r.ics) ∧ InStep r'
    | _ => tracked r.ics <+: tracked r'.ics ∧ InStep r'

/-- No begin replaces a live detection; and the first entry that has the id of a destroy is of its device, and the
device destroys it. -/
def FirstNamed (r : PlaneRun X) (op : PlaneOp X) : Prop :=
  r.connected = true →
    match op with
    | .begin (some xdev) planeDetectionId (.ok id) =>
      Fresh r.live xdev planeDetectionId (.ok id) → (xdev, planeDetectionId) ∉ r.live
    | .destroy (some xdev) planeDetectionId xret =>
      ∀ e, (tracked r.ics).find? (fun e => decide (e.2 = planeDetectionId)) = some e → e.1 = xdev ∧ xret = .success
    | _ => True

structure PlaneInv (r : PlaneRun X) : Prop where
  inStep : r.connected = true → InStep r
  nodup : r.live.Nodup

/-! ## One request -/

theorem eraseP_eq_erase {α : Type*} [BEq α] [LawfulBEq α] {l : List α} {p : α → Bool} {e : α} (h : l.find? p = some e) :
    l.eraseP p = l.erase e := by
  induction l with
  | nil => cases h
  | cons a l ih =>
    rw [List.find?_cons] at h
    split at h
    · rename_i hp
      cases h
      rw [List.eraseP_cons_of_pos hp, List.erase_cons_head]
    · rename_i hp
      have hne : (a == e) = false := by
        rw [beq_eq_false_iff_ne]
        rintro rfl
        rw [List.find?_some h] at hp
        cases hp
      rw [List.eraseP_cons_of_neg (by rw [hp]; exact Bool.false_ne_true), List.erase_cons, hne, ih h]
      rfl

theorem eraseP_right_iff {l : List (X × UInt64)} {xdev : X} {id : UInt64} {xret : XrtResult} :
    l.eraseP (fun e => decide (e.2 = id)) = (if xret = .success then l.erase (xdev, id) else l) ↔
      ∀ e, l.find? (fun e => decide (e.2 = id)) = some e → e.1 = xdev ∧ xret = .success := by
  cases hfind : l.find? fun e => decide (e.2 = id) with
  | none =>
    have hnone := List.find?_eq_none.1 hfind
    refine iff_of_true ?_ fun e he => by cases he
    have hmem : (xdev, id) ∉ l := fun hmem => hnone _ hmem (decide_eq_true rfl)
    rw [List.eraseP_of_forall_not hnone, List.erase_of_not_mem hmem, ite_self]
  | some e =>
    have hid : e.2 = id := by simpa using List.find?_some hfind
    have hmem : e ∈ l := List.mem_of_find?_eq_some hfind
    have hshorter : (l.erase e).length < l.length := by
      rw [List.length_erase_of_mem hmem]
      exact Nat.sub_lt (List.length_pos_of_mem hmem) Nat.one_pos
    rw [eraseP_eq_erase hfind]
    constructor
    · intro h e' he'
      cases he'
      by_cases hsuccess : xret = .success
      · rw [if_pos hsuccess] at h
        refine ⟨?_, hsuccess⟩
        by_contra hne
        have hne : e ≠ (xdev, id) := fun heq => hne (congrArg Prod.fst heq)
        have hcount := congrArg (List.count e) h
        have hpos := List.count_pos_iff.2 hmem
        rw [List.count_erase_self, List.count_erase_of_ne hne] at hcount
        omega
      · rw [if_neg hsuccess] at h
        rw [h] at hshorter
        exact absurd hshorter (lt_irrefl _)
    · intro h
      obtain ⟨hxdev, hsuccess⟩ := h e rfl
      rw [if_pos hsuccess, ← hxdev, ← hid]

theorem begin_perm_iff (h : (tracked ics).Perm live) (xdev : X) (planeDetectionId id : UInt64) :
    (tracked (beginPlaneDetection ics xdev (.ok id)).2).Perm (liveAfterBegin live xdev planeDetectionId (.ok id)) ↔
      (xdev, planeDetectionId) ∉ live := by
  rw [tracked_begin_ok, liveAfterBegin]
  constructor
  · intro hperm hmem
    have hlength := hperm.length_eq
    have hsame := h.length_eq
    have hpos := List.length_pos_of_mem hmem
    split at hlength
    · simp only [List.length_append, List.length_cons, List.length_nil, List.length_erase_of_mem hmem] at hlength
      omega
    · rw [List.length_erase_of_mem hmem] at hlength
      omega
  · intro hmem
    rw [List.erase_of_not_mem hmem]
    split
    · exact (List.perm_append_singleton _ _).trans (h.cons _)
    · exact h

theorem liveAfterBegin_nodup (h : live.Nodup) {xdev : X} {planeDetectionId : UInt64} {answer : Except XrtResult UInt64}
    (hfresh : Fresh live xdev planeDetectionId answer) : (liveAfterBegin live xdev planeDetectionId answer).Nodup := by
  cases answer with
  | error xret => exact h
  | ok id =>
    rw [liveAfterBegin]
    split
    · rename_i hid
      exact List.nodup_cons.2 ⟨hfresh hid, h.erase _⟩
    · exact h.erase _

/-! ## All requests -/

section
variable {r r' : PlaneRun X} {planeDetectionId : UInt64}

theorem planeStep_begin {xdev : X} {answer : Except XrtResult UInt64} :
    planeStep r (.begin (some xdev) planeDetectionId answer) = some r' ↔
      r.connected = true ∧ Fresh r.live xdev planeDetectionId answer ∧
        { r with
          ics := (beginPlaneDetection r.ics xdev answer).2
          live := liveAfterBegin r.live xdev planeDetectionId answer } = r' := by
  cases hconnected : r.connected <;> simp [planeStep, hconnected]

theorem planeStep_destroy {xdev : X} {xret : XrtResult} :
    planeStep r (.destroy (some xdev) planeDetectionId xret) = some r' ↔
      r.connected = true ∧
        { r with
          ics := (destroyPlaneDetection r.ics planeDetectionId xret).2
          live := liveAfterDestroy r.live xdev planeDetectionId xret } = r' := by
  cases hconnected : r.connected <;> simp [planeStep, hconnected]

theorem planeStep_disconnect :
    planeStep r .disconnect = some r' ↔
      r.connected = true ∧ { r with ics := shutdown r.ics, connected := false } = r' := by
  cases hconnected : r.connected <;> simp [planeStep, hconnected]

theorem planeStep_unknown {op : PlaneOp X}
    (hop : (∃ id answer, op = .begin none id answer) ∨ ∃ id xret, op = .destroy none id xret)
    (hs : planeStep r op = some r') : r.connected = true ∧ r' = r := by
  rcases hop with ⟨id, answer, rfl⟩ | ⟨id, xret, rfl⟩ <;>
    cases hconnected : r.connected <;> simp_all [planeStep]

namespace PlaneInv

theorem begin_right_iff (h : PlaneInv r) (xdev : X) (planeDetectionId : UInt64) (answer : Except XrtResult UInt64) :
    TracksRight r (.begin (some xdev) planeDetectionId answer) ↔
      FirstNamed r (.begin (some xdev) planeDetectionId answer) := by
  constructor
  · intro hright hconnected
    cases answer with
    | error xret => trivial
    | ok id =>
      intro hfresh
      obtain ⟨-, hperm, -⟩ := hright _ (planeStep_begin.2 ⟨hconnected, hfresh, rfl⟩)
      exact (begin_perm_iff (h.inStep hconnected).perm xdev planeDetectionId id).1 hperm
  · intro hnamed r' hs
    obtain ⟨hconnected, hfresh, rfl⟩ := planeStep_begin.1 hs
    have hin := h.inStep hconnected
    refine ⟨tracked_prefix_begin r.ics xdev answer, ?_, begin_inBounds hin.inBounds xdev answer⟩
    cases answer with
    | error xret => exact (tracked_begin_error r.ics xdev xret).symm ▸ hin.perm
    | ok id => exact (begin_perm_iff hin.perm xdev planeDetectionId id).2 (hnamed hconnected hfresh)

theorem destroy_right_iff (h : PlaneInv r) (xdev : X) (planeDetectionId : UInt64) (xret : XrtResult) :
    TracksRight r (.destroy (some xdev) planeDetectionId xret) ↔
      FirstNamed r (.destroy (some xdev) planeDetectionId xret) := by
  constructor
  · intro hright hconnected
    obtain ⟨hlist, -⟩ := hright _ (planeStep_destroy.2 ⟨hconnected, rfl⟩)
    rw [tracked_destroy] at hlist
    exact eraseP_right_iff.1 hlist
  · intro hnamed r' hs
    obtain ⟨hconnected, rfl⟩ := planeStep_destroy.1 hs
    have hin := h.inStep hconnected
    have hlist := eraseP_right_iff.2 (hnamed hconnected)
    rw [← tracked_destroy r.ics planeDetectionId xret] at hlist
    refine ⟨hlist, ?_, destroy_inBounds hin.inBounds planeDetectionId xret⟩
    rw [hlist, liveAfterDestroy]
    split
    · exact hin.perm.erase _
    · exact hin.perm

theorem right_iff (h : PlaneInv r) (op : PlaneOp X) : TracksRight r op ↔ FirstNamed r op := by
  have hunknown : ∀ r', r' = r → r.connected = true → tracked r.ics <+: tracked r'.ics ∧ InStep r' := by
    rintro r' rfl hconnected
    exact ⟨List.prefix_rfl, h.inStep hconnected⟩
  cases op with
  | begin xdev planeDetectionId answer =>
    cases xdev with
    | none =>
      refine iff_of_true (fun r' hs => ?_) fun _ => trivial
      obtain ⟨hconnected, hsame⟩ := planeStep_unknown (.inl ⟨planeDetectionId, answer, rfl⟩) hs
      exact hunknown r' hsame hconnected
    | some xdev => exact h.begin_right_iff xdev planeDetectionId answer
  | destroy xdev planeDetectionId xret =>
    cases xdev with
    | none =>
      refine iff_of_true (fun r' hs => ?_) fun _ => trivial
      obtain ⟨hconnected, hsame⟩ := planeStep_unknown (.inr ⟨planeDetectionId, xret, rfl⟩) hs
      exact hunknown r' hsame hconnected
    | some xdev => exact h.destroy_right_iff xdev planeDetectionId xret
  | disconnect =>
    refine iff_of_true (fun r' hs => ?_) fun _ => trivial
    obtain ⟨hconnected, rfl⟩ := planeStep_disconnect.1 hs
    exact (h.inStep hconnected).perm

theorem step (h : PlaneInv r) {op : PlaneOp X} (hright : TracksRight r op) (hs : planeStep r op = some r') :
    PlaneInv r' := by
  have hafter := hright r' hs
  cases op with
  | begin xdev planeDetectionId answer =>
    refine ⟨fun _ => hafter.2, ?_⟩
    cases xdev with
    | none =>
      rw [(planeStep_unknown (.inl ⟨planeDetectionId, answer, rfl⟩) hs).2]
      exact h.nodup
    | some xdev =>
      obtain ⟨-, hfresh, rfl⟩ := planeStep_begin.1 hs
      exact liveAfterBegin_nodup h.nodup hfresh
  | destroy xdev planeDetectionId xret =>
    cases xdev with
    | none =>
      obtain ⟨-, rfl⟩ := planeStep_unknown (.inr ⟨planeDetectionId, xret, rfl⟩) hs
      exact h
    | some xdev =>
      refine ⟨fun _ => hafter.2, ?_⟩
      obtain ⟨-, rfl⟩ := planeStep_destroy.1 hs
      dsimp only
      rw [liveAfterDestroy]
      split
      · exact h.nodup.erase _
      · exact h.nodup
  | disconnect =>
    obtain ⟨-, rfl⟩ := planeStep_disconnect.1 hs
    exact ⟨fun hconnected => absurd hconnected Bool.false_ne_true, h.nodup⟩

end PlaneInv

end

omit [DecidableEq X] in
theorem connect_planeInv (ids : ℕ → UInt64) (xdevs : ℕ → X) : PlaneInv (.connect ids xdevs) :=
  ⟨fun _ => ⟨List.Perm.nil, le_rfl⟩, List.nodup_nil⟩

/-- Along every sequence of requests of a client, the list is that of the live detections, and those that are left are
destroyed when the client goes, exactly when no begin replaces a live detection and every destroy is of the first entry
that has its id. -/
theorem run_tracksRight_iff (ids : ℕ → UInt64) (xdevs : ℕ → X) (ops : List (PlaneOp X)) :
    Along planeStep TracksRight (.connect ids xdevs) ops ↔ Along planeStep FirstNamed (.connect ids xdevs) ops :=
  along_iff (I := PlaneInv) (fun _ op h => h.right_iff op)
    (fun _ op _ h hnamed hs => h.step ((h.right_iff op).2 hnamed) hs) (connect_planeInv ids xdevs) ops

def sameIds : List (PlaneOp ℕ) :=
  [.begin (some 1) 0 (.ok 7), .begin (some 2) 0 (.ok 7), .destroy (some 2) 7 .success, .disconnect]

def failedDestroy : List (PlaneOp ℕ) :=
  [.begin (some 1) 0 (.ok 7), .destroy (some 1) 7 .errorNotImplemented, .disconnect]

/-- When the client goes, the detection that is gone is destroyed and the one that is left is not. -/
theorem sameIds_and_failedDestroy_not_tracksRight :
    ¬ Along planeStep TracksRight (.connect (fun _ => 0) fun _ => 0) sameIds ∧
      ¬ Along planeStep TracksRight (.connect (fun _ => 0) fun _ => 0) failedDestroy := by
  constructor
  · intro hall
    obtain ⟨-, hall⟩ := along_cons.1 hall
    obtain ⟨-, hall⟩ := along_cons.1 (hall _ rfl)
    obtain ⟨hdestroy, -⟩ := along_cons.1 (hall _ rfl)
    obtain ⟨hlist, -⟩ := hdestroy _ rfl
    revert hlist
    decide
  · intro hall
    obtain ⟨-, hall⟩ := along_cons.1 hall
    obtain ⟨hdestroy, -⟩ := along_cons.1 (hall _ rfl)
    obtain ⟨hlist, -⟩ := hdestroy _ rfl
    revert hlist
    decide

end AugmentedInsanity.Ipc.Planes
