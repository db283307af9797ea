/-
Reference spaces and features in use: each client has a flag for each, and the space overseer and the system
devices count the clients that use it. The threads of the clients change the counts without a common lock, and
the devices are told after the count was changed, so a handler is two steps: the one that changes the count, and
the one that tells the devices and sets the flag (`handle_refused`, `handle_completed`).
-/
import AugmentedInsanity.Base.Features
import AugmentedInsanity.Ipc.Server.Handlers

namespace AugmentedInsanity.Ipc

open Xrt Base Tables Features

/-! ## What is counted -/

/-- The entries of `ref_space_use` and of `feature_use`. -/
inductive UseKind
  | refSpace (type : Fin XRT_SPACE_REFERENCE_TYPE_COUNT)
  | feature (type : Fin XRT_DEVICE_FEATURE_MAX_ENUM)
  deriving DecidableEq

/-- The entries in the order of the loops of `common_shutdown`. -/
def UseKind.all : List UseKind :=
  (List.finRange XRT_SPACE_REFERENCE_TYPE_COUNT).map .refSpace ++ (List.finRange XRT_DEVICE_FEATURE_MAX_ENUM).map .feature

theorem UseKind.mem_all (kind : UseKind) : kind ∈ UseKind.all := by
  unfold UseKind.all
  cases kind <;> simp

/-- `ref_space_used` and `device_feature_used`. -/
def IpcClientState.used (ics : IpcClientState) : UseKind → Bool
  | .refSpace type => ics.refSpaceUsed type
  | .feature type => ics.deviceFeatureUsed type

def IpcClientState.setUsed (ics : IpcClientState) (kind : UseKind) (used : Bool) : IpcClientState :=
  match kind with
  | .refSpace type => { ics with refSpaceUsed := Function.update ics.refSpaceUsed type used }
  | .feature type => { ics with deviceFeatureUsed := Function.update ics.deviceFeatureUsed type used }

@[simp] theorem used_setUsed_self (ics : IpcClientState) (kind : UseKind) (used : Bool) :
    (ics.setUsed kind used).used kind = used := by
  cases kind <;> simp [IpcClientState.setUsed, IpcClientState.used]

theorem used_setUsed_ne (ics : IpcClientState) {kind other : UseKind} (used : Bool) (h : other ≠ kind) :
    (ics.setUsed kind used).used other = ics.used other := by
  cases kind <;> cases other <;> simp_all [IpcClientState.setUsed, IpcClientState.used]

/-! ## Requests -/

inductive UseRequest
  | markRefSpaceInUse (type : UInt32)
  | unmarkRefSpaceInUse (type : UInt32)
  | beginFeature (type : UInt32)
  | endFeature (type : UInt32)
  deriving DecidableEq

/-- The count of a type of reference space, if it is one. -/
def refSpaceKind (type : UInt32) : Option UseKind :=
  if h : type.toNat < XRT_SPACE_REFERENCE_TYPE_COUNT then some (.refSpace ⟨type.toNat, h⟩) else none

def featureKind (type : UInt32) : Option UseKind :=
  if h : type.toNat < XRT_DEVICE_FEATURE_MAX_ENUM then some (.feature ⟨type.toNat, h⟩) else none

def UseRequest.kind : UseRequest → Option UseKind
  | .markRefSpaceInUse type | .unmarkRefSpaceInUse type => refSpaceKind type
  | .beginFeature type | .endFeature type => featureKind type

def UseRequest.on : UseRequest → Bool
  | .markRefSpaceInUse _ | .beginFeature _ => true
  | .unmarkRefSpaceInUse _ | .endFeature _ => false

/-- The handler of the request, with the answer of the count. -/
def UseRequest.handle (r : UseRequest) (ics : IpcClientState) (counted : XrtResult) :
    Except Fault (XrtResult × IpcClientState) :=
  match r with
  | .markRefSpaceInUse type => ipcHandleSpaceMarkRefSpaceInUse ics type counted
  | .unmarkRefSpaceInUse type => ipcHandleSpaceUnmarkRefSpaceInUse ics type counted
  | .beginFeature type => ipcHandleSystemDevicesBeginFeature ics type counted
  | .endFeature type => ipcHandleSystemDevicesEndFeature ics type counted

/-- What a handler comes to: the type and the flag are checked before anything is counted, and the flag is set
when the count answered with success. -/
def useResult (ics : IpcClientState) (kind : Option UseKind) (on : Bool) (counted : XrtResult) :
    XrtResult × IpcClientState :=
  match kind with
  | none => (.errorIpcFailure, ics)
  | some kind =>
    if ics.used kind = on then (.errorIpcFailure, ics)
    else if counted ≠ .success then (counted, ics)
    else (.success, ics.setUsed kind on)

theorem markUse_of_lt {n : ℕ} (table : Table) (used : Fin n → Bool) {type : UInt32} (h : type.toNat < n)
    (on : Bool) (counted : XrtResult) :
    markUse table used type (!on) counted = .ok (
      if used ⟨type.toNat, h⟩ = on then (.errorIpcFailure, used)
      else if counted ≠ .success then (counted, used)
      else (.success, Function.update used ⟨type.toNat, h⟩ on)) := by
  unfold markUse
  rw [readAt_of_lt h, Bool.not_not]
  dsimp only
  by_cases hu : used ⟨type.toNat, h⟩ = on
  · rw [if_pos hu, if_pos (by rw [hu]; cases on <;> rfl)]
  · rw [if_neg hu, if_neg (by revert hu; cases used ⟨type.toNat, h⟩ <;> cases on <;> decide)]
    split
    · rfl
    · rw [writeAt_of_lt h]; rfl

theorem markRefSpace_eq (ics : IpcClientState) (type : UInt32) (on : Bool) (counted : XrtResult) :
    markRefSpace ics type (!on) counted = .ok (useResult ics (refSpaceKind type) on counted) := by
  unfold markRefSpace validateReferenceSpaceType refSpaceKind
  by_cases h : type.toNat < XRT_SPACE_REFERENCE_TYPE_COUNT
  · rw [if_neg (by omega), dif_pos h]
    dsimp only
    rw [markUse_of_lt _ _ h]
    unfold useResult IpcClientState.used IpcClientState.setUsed
    dsimp only [Except.map]
    split
    · rfl
    · split <;> rfl
  · rw [if_pos (by omega), dif_neg h]
    rfl

theorem markFeature_eq (ics : IpcClientState) (type : UInt32) (on : Bool) (counted : XrtResult) :
    markFeature ics type (!on) counted = .ok (useResult ics (featureKind type) on counted) := by
  unfold markFeature validateDeviceFeatureType featureKind
  by_cases h : type.toNat < XRT_DEVICE_FEATURE_MAX_ENUM
  · rw [if_neg (by omega), dif_pos h]
    dsimp only
    rw [markUse_of_lt _ _ h]
    unfold useResult IpcClientState.used IpcClientState.setUsed
    dsimp only [Except.map]
    split
    · rfl
    · split <;> rfl
  · rw [if_pos (by omega), dif_neg h]
    rfl

theorem UseRequest.handle_eq (r : UseRequest) (ics : IpcClientState) (counted : XrtResult) :
    r.handle ics counted = .ok (useResult ics r.kind r.on counted) := by
  cases r with
  | markRefSpaceInUse type => exact markRefSpace_eq ics type true counted
  | unmarkRefSpaceInUse type => exact markRefSpace_eq ics type false counted
  | beginFeature type => exact markFeature_eq ics type true counted
  | endFeature type => exact markFeature_eq ics type false counted

/-! ## Threads -/

inductive UseAt
  | gone
  | idle
  /-- In the handler of a request, past the change of the count; `crossed` when the count came from or to 0. -/
  | counted (kind : UseKind) (on crossed : Bool)
  /-- In the loops of `common_shutdown`, with the entries that are still to be looked at. -/
  | shuttingDown (rest : List UseKind)
  /-- In these loops, past the change of the count. -/
  | released (kind : UseKind) (crossed : Bool) (rest : List UseKind)
  deriving DecidableEq

structure UseThread where
  ics : IpcClientState
  place : UseAt

/-- A call to `begin_feature` or `end_feature` of a device. -/
structure FeatureCall where
  xdev : XrtDevice
  type : Fin XRT_DEVICE_FEATURE_MAX_ENUM
  on : Bool
  deriving DecidableEq

/-- The server, as far as uses go. `crossings` are the changes of each count from and to 0 so far, and `calls`
what the devices were told; the program keeps neither. -/
structure UseServer (n : ℕ) where
  count : UseKind → ℤ
  threads : Fin n → UseThread
  /-- A handler called through a null pointer. -/
  faulted : Bool
  crossings : UseKind → List Bool
  calls : List FeatureCall

section
variable {n : ℕ}

def UseServer.init (n : ℕ) : UseServer n where
  count := fun _ => 0
  threads := fun _ => ⟨.zero, .gone⟩
  faulted := false
  crossings := fun _ => []
  calls := []

def UseServer.setThread (s : UseServer n) (i : Fin n) (t : UseThread) : UseServer n :=
  { s with threads := Function.update s.threads i t }

/-- `ref_space_inc`, `ref_space_dec`, `feature_inc` and `feature_dec` up to the change of the count: the new count,
and whether the devices are to be told. -/
def changeUse (count : ℤ) (on : Bool) : ℤ × Bool :=
  if on then xrtReferenceIncAndWasZero count else xrtReferenceDecAndIsZero count

/-- The thread of `i` changes a count, and is at `next` then. -/
def UseServer.change (s : UseServer n) (i : Fin n) (kind : UseKind) (on : Bool) (next : Bool → UseAt) : UseServer n :=
  let (count, crossed) := changeUse (s.count kind) on
  { s.setThread i ⟨(s.threads i).ics, next crossed⟩ with
    count := Function.update s.count kind count
    crossings :=
      if crossed then Function.update s.crossings kind (s.crossings kind ++ [on]) else s.crossings }

/-- What follows the change of a count: the result, and the calls to devices. The result of telling a device about
a reference space is not looked at. -/
def countedAnswer (roles : StaticRoles) (kind : UseKind) (on crossed : Bool) (answer : XrtDevice → XrtResult) :
    Option (XrtResult × List FeatureCall) :=
  match kind with
  | .refSpace _ => some (.success, [])
  | .feature type =>
    if crossed then
      (featureDevices roles type).map fun xdevs =>
        let r := setFeature answer xdevs
        (r.1, r.2.map fun xdev => ⟨xdev, type, on⟩)
    else some (.success, [])

/-! ## Steps -/

inductive UseOp (n : ℕ)
  | connect (i : Fin n)
  /-- A handler, through the change of the count. -/
  | request (i : Fin n) (r : UseRequest)
  /-- The rest of a handler, or of a round of the loops of `common_shutdown`; `answer` is what the devices return. -/
  | complete (i : Fin n) (answer : XrtDevice → XrtResult)
  | disconnect (i : Fin n)
  /-- A round of the loops of `common_shutdown`, through the change of the count. -/
  | release (i : Fin n)
  | finish (i : Fin n)

/-- The first step of a handler. A request that fails its checks changes nothing. -/
def UseServer.request (s : UseServer n) (i : Fin n) (r : UseRequest) : UseServer n :=
  match r.kind with
  | none => s
  | some kind =>
    if (s.threads i).ics.used kind = r.on then s
    else s.change i kind r.on (.counted kind r.on)

/-- Telling the devices, in the thread of `i`, which is `next` with the result. -/
def UseServer.notify (s : UseServer n) (i : Fin n) (told : Option (XrtResult × List FeatureCall))
    (next : XrtResult → UseThread) : UseServer n :=
  match told with
  | none => { s with faulted := true }
  | some (xret, calls) => { s.setThread i (next xret) with calls := s.calls ++ calls }

/-- A handler sets its flag by the result of the calls; the loops of `common_shutdown` clear theirs in any case. -/
def useStep (roles : StaticRoles) (s : UseServer n) (op : UseOp n) : Option (UseServer n) :=
  if s.faulted then none
  else
    match op with
    | .connect i =>
      match (s.threads i).place with
      | .gone => some (s.setThread i ⟨.zero, .idle⟩)
      | _ => none
    | .request i r =>
      match (s.threads i).place with
      | .idle => some (s.request i r)
      | _ => none
    | .complete i answer =>
      let ics := (s.threads i).ics
      match (s.threads i).place with
      | .counted kind on crossed =>
        some (s.notify i (countedAnswer roles kind on crossed answer) fun xret =>
          ⟨if xret = .success then ics.setUsed kind on else ics, .idle⟩)
      | .released kind crossed rest =>
        some (s.notify i (countedAnswer roles kind false crossed answer) fun _ =>
          ⟨ics.setUsed kind false, .shuttingDown rest⟩)
      | _ => none
    | .disconnect i =>
      match (s.threads i).place with
      | .idle => some (s.setThread i { s.threads i with place := .shuttingDown UseKind.all })
      | _ => none
    | .release i =>
      match (s.threads i).place with
      | .shuttingDown (kind :: rest) =>
        if (s.threads i).ics.used kind then some (s.change i kind false fun crossed => .released kind crossed rest)
        else some (s.setThread i { s.threads i with place := .shuttingDown rest })
      | _ => none
    | .finish i =>
      match (s.threads i).place with
      | .shuttingDown [] => some (s.setThread i { s.threads i with place := .gone })
      | _ => none

variable {s : UseServer n} {i : Fin n} {r : UseRequest} {kind : UseKind} {type : Fin XRT_DEVICE_FEATURE_MAX_ENUM}
  {answer : XrtDevice → XrtResult}

theorem handle_refused (h : r.kind = none ∨ ∃ kind, r.kind = some kind ∧ (s.threads i).ics.used kind = r.on)
    (counted : XrtResult) :
    s.request i r = s ∧ r.handle (s.threads i).ics counted = .ok (.errorIpcFailure, (s.threads i).ics) := by
  rw [UseRequest.handle_eq]
  unfold UseServer.request useResult
  obtain hkind | ⟨kind, hkind, hused⟩ := h
  · rw [hkind]
    exact ⟨rfl, rfl⟩
  · rw [hkind]
    dsimp only
    rw [if_pos hused, if_pos hused]
    exact ⟨rfl, rfl⟩

theorem handle_completed (hkind : r.kind = some kind) (hused : (s.threads i).ics.used kind ≠ r.on) (xret : XrtResult) :
    s.request i r = s.change i kind r.on (.counted kind r.on) ∧
      r.handle (s.threads i).ics xret =
        .ok (xret, if xret = .success then (s.threads i).ics.setUsed kind r.on else (s.threads i).ics) := by
  rw [UseRequest.handle_eq]
  unfold UseServer.request useResult
  rw [hkind]
  dsimp only
  rw [if_neg hused, if_neg hused]
  refine ⟨rfl, ?_⟩
  by_cases hx : xret = .success
  · rw [if_neg (by simpa using hx), if_pos hx, hx]
  · rw [if_pos hx, if_neg hx]

/-! ## Whole handlers -/

/-- The feature that is begun or ended as a whole. -/
def featureOp (type : Fin XRT_DEVICE_FEATURE_MAX_ENUM) (on : Bool) (answer : XrtDevice → XrtResult) : FeatureOp :=
  if on then .inc type answer else .dec type answer

/-- The counts of features are those of the system devices. -/
def SameCounts (s : UseServer n) (f : SystemFeatures) : Prop :=
  ∀ type, s.count (.feature type) = (f.featureUse type).toInt

theorem featureCall_eq {roles : StaticRoles} {f : SystemFeatures} {on : Bool}
    (hroom : f.featureUse type ≠ if on then 2147483647 else -2147483648) :
    ∃ count : Int32, changeUse (f.featureUse type).toInt on = (count.toInt, decide (count = if on then 1 else 0)) ∧
      f.call roles (featureOp type on answer) =
        if count = (if on then 1 else 0) then (f.count type count).tell roles type on answer
        else some (.success, f.count type count) := by
  cases on with
  | true =>
    refine ⟨f.featureUse type + 1, ?_, ?_⟩
    · rw [changeUse, if_pos rfl, xrtReferenceIncAndWasZero, ← SignedCounts.toInt_inc hroom]
      simp [← Int32.toInt_inj]
    · simp [featureOp, SystemFeatures.call, featureInc, type.isLt]
  | false =>
    refine ⟨f.featureUse type - 1, ?_, ?_⟩
    · rw [changeUse, if_neg Bool.false_ne_true, xrtReferenceDecAndIsZero, ← SignedCounts.toInt_dec hroom]
      simp [← Int32.toInt_inj]
    · simp [featureOp, SystemFeatures.call, featureDec, type.isLt]

/-- When nothing comes between its two steps, a handler is the whole call of `Base.Features`, which counts in 32 bits. -/
theorem feature_uninterrupted {roles : StaticRoles} {f f' : SystemFeatures} {xret : XrtResult}
    (hrunning : s.faulted = false) (hidle : (s.threads i).place = .idle) (hkind : r.kind = some (.feature type))
    (hused : (s.threads i).ics.used (.feature type) ≠ r.on) (hcounts : SameCounts s f)
    (hroom : f.featureUse type ≠ if r.on then 2147483647 else -2147483648)
    (hcall : f.call roles (featureOp type r.on answer) = some (xret, f')) :
    ∃ t t', useStep roles s (.request i r) = some t ∧ useStep roles t (.complete i answer) = some t' ∧
      SameCounts t' f' ∧
      (.ok (xret, (t'.threads i).ics) : Except Fault _) = r.handle (s.threads i).ics xret := by
  obtain ⟨count, hchange, hwhole⟩ := featureCall_eq hroom
  rw [hwhole] at hcall
  obtain ⟨hrequest, hhandle⟩ := handle_completed hkind hused xret
  -- the count is changed in the first step, and the devices are told in the second
  have htold : ∃ calls, countedAnswer roles (.feature type) r.on (decide (count = if r.on then 1 else 0)) answer =
      some (xret, calls) ∧ f'.featureUse = (f.count type count).featureUse := by
    by_cases hcrossed : count = if r.on then 1 else 0
    · rw [if_pos hcrossed] at hcall
      obtain ⟨xdevs, hxdevs, htell⟩ := Option.map_eq_some_iff.1 hcall
      cases htell
      exact ⟨_, by rw [countedAnswer, if_pos (decide_eq_true hcrossed), hxdevs, Option.map_some], rfl⟩
    · rw [if_neg hcrossed] at hcall
      cases hcall
      exact ⟨[], by rw [countedAnswer, if_neg (by simpa using hcrossed)], rfl⟩
  obtain ⟨calls, hanswer, huse⟩ := htold
  have hfirst : useStep roles s (.request i r) = some (s.request i r) := by
    simp only [useStep, hrunning, hidle, Bool.false_eq_true, if_false]
  have hthread : (s.request i r).threads i =
      ⟨(s.threads i).ics, .counted (.feature type) r.on (decide (count = if r.on then 1 else 0))⟩ := by
    simp only [hrequest, UseServer.change, hcounts type, hchange, UseServer.setThread,
      Function.update_self]
  have hcount : (s.request i r).count = Function.update s.count (.feature type) count.toInt := by
    simp only [hrequest, UseServer.change, hcounts type, hchange]
  have hsecond : useStep roles (s.request i r) (.complete i answer) =
      some ((s.request i r).notify i (some (xret, calls)) fun xret =>
        ⟨if xret = .success then (s.threads i).ics.setUsed (.feature type) r.on else (s.threads i).ics, .idle⟩) := by
    have hfaulted : (s.request i r).faulted = false := by rw [hrequest]; exact hrunning
    simp only [useStep, hfaulted, hthread, hanswer, Bool.false_eq_true, if_false]
  refine ⟨_, _, hfirst, hsecond, fun other => ?_, ?_⟩
  · show (s.request i r).count (.feature other) = _
    rw [hcount, huse]
    by_cases heq : other = type
    · subst heq
      rw [Function.update_self, count_self]
    · rw [Function.update_of_ne (by simpa using heq), (count_other f count heq).1, hcounts other]
  · rw [hhandle]
    simp only [UseServer.notify, UseServer.setThread, Function.update_self]

end

end AugmentedInsanity.Ipc
