/-
The ids that a client gets for devices and tracking origins (`ipc_server_objects.c`), over all calls that register them.
A device comes with its origin; the origin is found a place before the device is put at its own, so that a call that
fails has changed nothing.
-/
import AugmentedInsanity.Ipc.Server.Objects
import AugmentedInsanity.Ipc.Server.Process

namespace AugmentedInsanity.Ipc

open Xrt Tables

/-! ## Calls -/

/-- A call for the id of a device, or for that of its tracking origin. -/
inductive ObjectCall
  | xdev (xdev : XrtDevice)
  | xtrack (xdev : XrtDevice)

inductive ObjectName
  | xdev (ptr : ℕ)
  | xtrack (ptr : ℕ)

/-- The object that a call is for; every device has a tracking origin. -/
def ObjectCall.object (origin : ℕ → ℕ) : ObjectCall → ObjectName
  | .xdev device => .xdev device.ptr
  | .xtrack device => .xtrack (origin device.ptr)

def objectStep (origin : ℕ → ℕ) (ics : IpcClientState) :
    ObjectCall → Except XrtResult (Fin XRT_SYSTEM_MAX_DEVICES) × IpcClientState
  | .xdev xdev => getXdevIdOrAdd ics xdev (some (origin xdev.ptr))
  | .xtrack xdev => getXtrackIdOrAdd ics (some (origin xdev.ptr))

/-- Calls one after the other, with what they return. -/
def objectRun (origin : ℕ → ℕ) (ics : IpcClientState) :
    List ObjectCall → List (Except XrtResult (Fin XRT_SYSTEM_MAX_DEVICES)) × IpcClientState
  | [] => ([], ics)
  | call :: calls =>
    let r := objectStep origin ics call
    let rest := objectRun origin r.2 calls
    (r.1 :: rest.1, rest.2)

/-! ## What a call can do -/

variable {ics ics' : IpcClientState} {origin : ℕ → ℕ}

def IpcClientState.HasId (ics : IpcClientState) (id : Fin XRT_SYSTEM_MAX_DEVICES) : ObjectName → Prop
  | .xdev ptr => ∃ xdev, ics.xdevs id = some xdev ∧ xdev.ptr = ptr
  | .xtrack ptr => ics.xtracks id = some ptr

structure TablesGrow (ics ics' : IpcClientState) : Prop where
  xdevs : Grows ics.xdevs ics'.xdevs
  xtracks : Grows ics.xtracks ics'.xtracks

theorem TablesGrow.refl (ics : IpcClientState) : TablesGrow ics ics := ⟨.refl _, .refl _⟩

theorem TablesGrow.trans {a b c : IpcClientState} (h : TablesGrow a b) (h' : TablesGrow b c) : TablesGrow a c :=
  ⟨h.xdevs.trans h'.xdevs, h.xtracks.trans h'.xtracks⟩

theorem TablesGrow.hasId (h : TablesGrow ics ics') {id : Fin XRT_SYSTEM_MAX_DEVICES} {name : ObjectName}
    (hid : ics.HasId id name) : ics'.HasId id name := by
  cases name with
  | xdev ptr =>
    obtain ⟨xdev, hxdev, hptr⟩ := hid
    exact ⟨xdev, h.xdevs id xdev hxdev, hptr⟩
  | xtrack ptr => exact h.xtracks id ptr hid

structure ObjectsInv (origin : ℕ → ℕ) (ics : IpcClientState) : Prop where
  xdevs : DistinctBy XrtDevice.ptr ics.xdevs
  xtracks : DistinctBy id ics.xtracks
  origins : ∀ i xdev, ics.xdevs i = some xdev → ∃ j, ics.xtracks j = some (origin xdev.ptr)

theorem ObjectsInv.hasId_unique (h : ObjectsInv origin ics) {i j : Fin XRT_SYSTEM_MAX_DEVICES} {name : ObjectName}
    (hi : ics.HasId i name) (hj : ics.HasId j name) : i = j := by
  cases name with
  | xdev ptr =>
    obtain ⟨x, hx, hxptr⟩ := hi
    obtain ⟨y, hy, hyptr⟩ := hj
    exact h.xdevs i j x y hx hy (hxptr.trans hyptr.symm)
  | xtrack ptr => exact h.xtracks i j ptr ptr hi hj rfl

theorem getXtrackIdOrAdd_cases (ics : IpcClientState) (ptr : ℕ) :
    getXtrackIdOrAdd ics (some ptr) = (.error .errorIpcFailure, ics) ∨
      (∃ i, getXtrackIdOrAdd ics (some ptr) = (.ok i, ics) ∧ ics.xtracks i = some ptr) ∨
      ∃ i, getXtrackIdOrAdd ics (some ptr) =
          (.ok i, { ics with xtracks := Function.update ics.xtracks i (some ptr) }) ∧ ics.xtracks i = none ∧
        ∀ j, ics.xtracks j ≠ some ptr := by
  unfold getXtrackIdOrAdd
  cases hfound : firstIndex fun i => ics.xtracks i == some ptr with
  | some i => exact .inr (.inl ⟨i, rfl, by simpa using firstIndex_spec hfound⟩)
  | none =>
    cases hfree : firstIndex fun i => (ics.xtracks i).isNone with
    | none => exact .inl rfl
    | some i =>
      refine .inr (.inr ⟨i, rfl, by simpa using firstIndex_spec hfree, fun j => ?_⟩)
      simpa using firstIndex_eq_none.mp hfound j

theorem getXtrackIdOrAdd_spec (hinv : ObjectsInv origin ics) (ptr : ℕ) :
    getXtrackIdOrAdd ics (some ptr) = (.error .errorIpcFailure, ics) ∨
      ∃ i ics', getXtrackIdOrAdd ics (some ptr) = (.ok i, ics') ∧ ics'.xtracks i = some ptr ∧ ics'.xdevs = ics.xdevs ∧
        TablesGrow ics ics' ∧ ObjectsInv origin ics' := by
  rcases getXtrackIdOrAdd_cases ics ptr with h | ⟨i, h, hi⟩ | ⟨i, h, hfree, hnew⟩
  · exact .inl h
  · exact .inr ⟨i, ics, h, hi, rfl, .refl ics, hinv⟩
  · have hgrows : Grows ics.xtracks (Function.update ics.xtracks i (some ptr)) := .update hfree ptr
    refine .inr ⟨i, _, h, Function.update_self i _ _, rfl, ⟨.refl _, hgrows⟩, hinv.xdevs, ?_, fun j xdev hj => ?_⟩
    · exact hinv.xtracks.update fun j c hc heq => hnew j (by rw [hc]; exact congrArg some heq)
    · obtain ⟨k, hk⟩ := hinv.origins j xdev hj
      exact ⟨k, hgrows k _ hk⟩

theorem getXdevIdOrAdd_spec (hinv : ObjectsInv origin ics) (xdev : XrtDevice) :
    getXdevIdOrAdd ics xdev (some (origin xdev.ptr)) = (.error .errorIpcFailure, ics) ∨
      ∃ i ics', getXdevIdOrAdd ics xdev (some (origin xdev.ptr)) = (.ok i, ics') ∧ ics'.HasId i (.xdev xdev.ptr) ∧
        TablesGrow ics ics' ∧ ObjectsInv origin ics' := by
  unfold getXdevIdOrAdd
  cases hfound : firstIndex fun i => (ics.xdevs i).map XrtDevice.ptr == some xdev.ptr with
  | some i =>
    have hptr : (ics.xdevs i).map XrtDevice.ptr = some xdev.ptr := by simpa using firstIndex_spec hfound
    exact .inr ⟨i, ics, rfl, Option.map_eq_some_iff.mp hptr, .refl ics, hinv⟩
  | none =>
    cases hfree : firstIndex fun i => (ics.xdevs i).isNone with
    | none => exact .inl rfl
    | some i =>
      have hnone : ics.xdevs i = none := by simpa using firstIndex_spec hfree
      have hnew : ∀ j c, ics.xdevs j = some c → c.ptr ≠ xdev.ptr := fun j c hc heq => by
        have hj := firstIndex_eq_none.mp hfound j
        rw [hc, Option.map_some, heq] at hj
        simp at hj
      dsimp only
      rcases getXtrackIdOrAdd_spec hinv (origin xdev.ptr) with h | ⟨o, ics', h, ho, hsame, hgrow, hinv'⟩
      · rw [h]
        exact .inl rfl
      · -- the place is still free after the origin has got its own
        rw [h]
        have hgrows : Grows ics'.xdevs (Function.update ics'.xdevs i (some xdev)) := .update (hsame ▸ hnone) xdev
        refine .inr ⟨i, _, rfl, ⟨xdev, Function.update_self i _ _, rfl⟩, hgrow.trans ⟨hgrows, .refl _⟩, ?_,
          hinv'.xtracks, fun k y hk => ?_⟩
        · exact hinv'.xdevs.update fun k c hc => hnew k c (hsame ▸ hc)
        · by_cases hki : k = i
          · have hy : xdev = y := by
              rw [hki] at hk
              exact Option.some.inj ((Function.update_self i _ _).symm.trans hk)
            exact ⟨o, hy ▸ ho⟩
          · exact hinv'.origins k y ((Function.update_of_ne hki _ _).symm.trans hk)

theorem objectStep_spec (hinv : ObjectsInv origin ics) (call : ObjectCall) :
    objectStep origin ics call = (.error .errorIpcFailure, ics) ∨
      ∃ i ics', objectStep origin ics call = (.ok i, ics') ∧ ics'.HasId i (call.object origin) ∧ TablesGrow ics ics' ∧
        ObjectsInv origin ics' := by
  cases call with
  | xdev xdev => exact getXdevIdOrAdd_spec hinv xdev
  | xtrack xdev =>
    rcases getXtrackIdOrAdd_spec hinv (origin xdev.ptr) with h | ⟨i, ics', h, hi, -, hgrow, hinv'⟩
    · exact .inl h
    · exact .inr ⟨i, ics', h, hi, hgrow, hinv'⟩

/-! ## Runs -/

theorem objectRun_spec (hinv : ObjectsInv origin ics) (calls : List ObjectCall) :
    ObjectsInv origin (objectRun origin ics calls).2 ∧ TablesGrow ics (objectRun origin ics calls).2 ∧
      ∀ (k : ℕ) call i, calls[k]? = some call → (objectRun origin ics calls).1[k]? = some (.ok i) →
        (objectRun origin ics calls).2.HasId i (call.object origin) := by
  induction calls generalizing ics with
  | nil => exact ⟨hinv, .refl ics, fun k call i h => by cases h⟩
  | cons call calls ih =>
    rcases objectStep_spec hinv call with h | ⟨i, ics', h, hi, hgrow, hinv'⟩
    · obtain ⟨hrest, hgrow, hids⟩ := ih hinv
      simp only [objectRun, h]
      refine ⟨hrest, hgrow, fun k c j hc hj => ?_⟩
      cases k with
      | zero => cases hj
      | succ k => exact hids k c j hc hj
    · obtain ⟨hrest, hgrow', hids⟩ := ih hinv'
      simp only [objectRun, h]
      refine ⟨hrest, hgrow.trans hgrow', fun k c j hc hj => ?_⟩
      cases k with
      | zero =>
        obtain rfl := Option.some.inj hc
        obtain rfl : i = j := Except.ok.inj (Option.some.inj hj)
        exact hgrow'.hasId hi
      | succ k => exact hids k c j hc hj

theorem objectRun_append (origin : ℕ → ℕ) (ics : IpcClientState) (before after : List ObjectCall) :
    (objectRun origin ics (before ++ after)).2 = (objectRun origin (objectRun origin ics before).2 after).2 := by
  induction before generalizing ics with
  | nil => rfl
  | cons call before ih => exact ih _

theorem freshClient_objects (i : Fin IPC_MAX_CLIENTS) (clientId : UInt32) (ipcHandle : Int) :
    ObjectsInv origin (freshClient i clientId ipcHandle) :=
  ⟨distinctBy_empty _, distinctBy_empty _, fun _ _ h => by cases h⟩

/-- Over all calls of a client: no object has two ids, an id stays that of its object, the origin of each device has an
id, and a call that fails changes nothing. -/
theorem objectIds_kept (origin : ℕ → ℕ) (i : Fin IPC_MAX_CLIENTS) (clientId : UInt32) (ipcHandle : Int)
    (calls : List ObjectCall) :
    let results := (objectRun origin (freshClient i clientId ipcHandle) calls).1
    let final := (objectRun origin (freshClient i clientId ipcHandle) calls).2
    (DistinctBy XrtDevice.ptr final.xdevs ∧ DistinctBy id final.xtracks) ∧
    (∀ (k : ℕ) call j, calls[k]? = some call → results[k]? = some (.ok j) → final.HasId j (call.object origin)) ∧
    (∀ (k k' : ℕ) call call' j j', calls[k]? = some call → results[k]? = some (.ok j) → calls[k']? = some call' →
      results[k']? = some (.ok j') → call.object origin = call'.object origin → j = j') ∧
    (∀ j xdev, final.xdevs j = some xdev → ∃ o, final.xtracks o = some (origin xdev.ptr)) ∧
    ∀ before after, calls = before ++ after →
      let ics := (objectRun origin (freshClient i clientId ipcHandle) before).2
      TablesGrow ics final ∧
        ∀ call e, (objectStep origin ics call).1 = .error e → (objectStep origin ics call).2 = ics := by
  intro results final
  have hfresh : ObjectsInv origin (freshClient i clientId ipcHandle) := freshClient_objects i clientId ipcHandle
  obtain ⟨hinv, -, hids⟩ := objectRun_spec hfresh calls
  refine ⟨⟨hinv.xdevs, hinv.xtracks⟩, hids, ?_, hinv.origins, ?_⟩
  · intro k k' call call' j j' hcall hj hcall' hj' hobject
    refine hinv.hasId_unique (hids k call j hcall hj) ?_
    rw [hobject]
    exact hids k' call' j' hcall' hj'
  · intro before after hcalls ics
    obtain ⟨hinv', -, -⟩ := objectRun_spec hfresh before
    have hfinal : final = (objectRun origin ics after).2 := by
      rw [← objectRun_append, ← hcalls]
    refine ⟨hfinal ▸ (objectRun_spec hinv' after).2.1, fun call e herror => ?_⟩
    rcases objectStep_spec hinv' call with h | ⟨i', ics', h, -⟩
    · rw [h]
    · rw [h] at herror
      cases herror

end AugmentedInsanity.Ipc
