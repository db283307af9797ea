/-
The counts of uses over runs of all the clients. A count is right when it is the number of clients that hold the
use, and the devices are told right when each has been told of every change from and to 0, in their order, but
for those that a thread is still to tell of. Handlers that fail leave the count changed, and nothing orders the
calls of different threads: counts and calls are right along exactly the runs in which the devices of a handler
all succeed and no begin overtakes an end (`useCounts_iff`).
-/
import AugmentedInsanity.Ipc.Server.Uses
import AugmentedInsanity.Lib.Alternation
import AugmentedInsanity.Lib.Runs

namespace AugmentedInsanity.Ipc

open Xrt Base Tables Runs
open Alternation

/-! ## The property -/

/-- The client counts as a user: by its flag, or from the change of the count on by what the flag is to become. -/
def UseThread.holds (kind : UseKind) (t : UseThread) : Bool :=
  match t.place with
  | .gone => false
  | .idle | .shuttingDown _ => t.ics.used kind
  | .counted changed on _ => if kind = changed then on else t.ics.used kind
  | .released changed _ _ => if kind = changed then false else t.ics.used kind

/-- The thread changed the count of a feature from or to 0, and the devices are still to be told. -/
def UseThread.owes (type : Fin XRT_DEVICE_FEATURE_MAX_ENUM) (on : Bool) (t : UseThread) : Bool :=
  match t.place with
  | .counted kind turned true => kind == .feature type && turned == on
  | .released kind true _ => kind == .feature type && !on
  | _ => false

def callsTo (calls : List FeatureCall) (xdev : XrtDevice) (type : Fin XRT_DEVICE_FEATURE_MAX_ENUM) : List Bool :=
  (calls.filter fun c => c.xdev == xdev && c.type == type).map (·.on)

def providers (roles : StaticRoles) (type : Fin XRT_DEVICE_FEATURE_MAX_ENUM) : List XrtDevice :=
  (featureDevices roles type).getD []

section
variable {n : ℕ}

def holders (s : UseServer n) (kind : UseKind) : ℕ := tally fun i => (s.threads i).holds kind

/-- The number of threads that are still to tell the devices of a feature. -/
def owing (s : UseServer n) (type : Fin XRT_DEVICE_FEATURE_MAX_ENUM) (on : Bool) : ℕ :=
  tally fun i => (s.threads i).owes type on

/-- The counts are right and the devices were told right. -/
structure UseCountsOk (roles : StaticRoles) (s : UseServer n) : Prop where
  running : s.faulted = false
  count : ∀ kind, s.count kind = holders s kind
  noUnderflow : ∀ kind, 0 ≤ s.count kind
  calls : ∀ type xdev, callsTo s.calls xdev type =
    if xdev ∈ providers roles type then
      (s.crossings (.feature type)).take
        ((s.crossings (.feature type)).length - (owing s type true + owing s type false))
    else []

def UseCountsKept (roles : StaticRoles) (s : UseServer n) (op : UseOp n) : Prop :=
  ∀ t, useStep roles s op = some t → UseCountsOk roles t

/-! ## The condition -/

/-- When devices are told in a handler, there is a device in the role, each of them succeeds, and none is told that a
feature begins while another thread is still to tell it that the feature ended. When they are told because a
client left, only a device that another one is told after has to succeed. -/
def TellFree (roles : StaticRoles) (s : UseServer n) (i : Fin n) (answer : XrtDevice → XrtResult) : Prop :=
  match (s.threads i).place with
  | .counted (.feature type) on true =>
    ∃ xdevs, featureDevices roles type = some xdevs ∧ (∀ xdev ∈ xdevs, answer xdev = .success) ∧
      (on = true → xdevs ≠ [] → ∀ j, (s.threads j).owes type false = false)
  | .released (.feature type) true _ =>
    ∃ xdevs, featureDevices roles type = some xdevs ∧ ∀ xdev ∈ xdevs.dropLast, answer xdev = .success
  | _ => True

def UsesFree (roles : StaticRoles) (s : UseServer n) : UseOp n → Prop
  | .complete i answer => TellFree roles s i answer
  | _ => True

/-! ## The invariant -/

/-- The changes from and to 0 that the devices are still to be told of: of `crossed` such changes, `begins` came
from 0 and `ends` to 0. Both at once are an end and the begin after it. -/
structure OwesOk (crossed begins ends : ℕ) : Prop where
  begins_le : begins ≤ 1
  ends_le : ends ≤ 1
  le : begins + ends ≤ crossed
  odd : begins = 1 → crossed % 2 = 1
  last : ends = 1 → (crossed % 2 = 1 ↔ begins = 1)

def UseThread.Ok (t : UseThread) : Prop :=
  match t.place with
  | .counted kind on _ => t.ics.used kind = !on
  | .shuttingDown rest => ∀ kind, kind ∉ rest → t.ics.used kind = false
  | .released kind _ rest => ∀ other, other ≠ kind → other ∉ rest → t.ics.used other = false
  | _ => True

structure UseInv (roles : StaticRoles) (s : UseServer n) : Prop where
  ok : UseCountsOk roles s
  threads : ∀ i, (s.threads i).Ok
  alternates : ∀ kind, s.crossings kind = alternating (s.crossings kind).length
  parity : ∀ kind, (s.crossings kind).length % 2 = 1 ↔ s.count kind ≠ 0
  owes : ∀ type, providers roles type ≠ [] →
    OwesOk (s.crossings (.feature type)).length (owing s type true) (owing s type false)

theorem useInv_init (roles : StaticRoles) : UseInv roles (UseServer.init n) where
  ok := by
    have hzero : ∀ p : UseThread → Bool, p ⟨.zero, .gone⟩ = false → tally (fun _ : Fin n => p ⟨.zero, .gone⟩) = 0 :=
      fun p hp => tally_eq_zero.2 fun _ => hp
    refine ⟨rfl, fun kind => ?_, fun kind => le_refl _, fun type xdev => ?_⟩
    · show (0 : ℤ) = (tally fun _ : Fin n => UseThread.holds kind ⟨.zero, .gone⟩ : ℕ)
      rw [hzero _ rfl]; rfl
    · show [] = _
      simp [UseServer.init]
  threads := fun _ => trivial
  alternates := fun _ => rfl
  parity := fun _ => by simp [UseServer.init]
  owes := fun type _ => by
    have hzero : ∀ on, owing (UseServer.init n) type on = 0 := fun on => tally_eq_zero.2 fun _ => rfl
    rw [hzero, hzero]
    constructor <;> simp

/-! ## One thread changes -/

variable {roles : StaticRoles} {s : UseServer n} {i : Fin n} {t : UseThread} {kind : UseKind} {on : Bool}
  {crossed begins ends : ℕ}

theorem holders_setThread (s : UseServer n) (i : Fin n) (t : UseThread) (kind : UseKind) :
    holders (s.setThread i t) kind + ((s.threads i).holds kind).toNat = holders s kind + (t.holds kind).toNat :=
  tally_update (UseThread.holds kind) s.threads i t

theorem owing_setThread (s : UseServer n) (i : Fin n) (t : UseThread) (type : Fin XRT_DEVICE_FEATURE_MAX_ENUM)
    (on : Bool) :
    owing (s.setThread i t) type on + ((s.threads i).owes type on).toNat = owing s type on + (t.owes type on).toNat :=
  tally_update (UseThread.owes type on) s.threads i t

theorem threads_setThread_ok (h : ∀ j, (s.threads j).Ok) (ht : t.Ok) (j : Fin n) : ((s.setThread i t).threads j).Ok := by
  by_cases hj : j = i
  · subst hj; simpa [UseServer.setThread] using ht
  · simpa [UseServer.setThread, hj] using h j

theorem UseInv.setThread (h : UseInv roles s) (ht : t.Ok) (hholds : ∀ kind, t.holds kind = (s.threads i).holds kind)
    (howes : ∀ type on, t.owes type on = (s.threads i).owes type on) : UseInv roles (s.setThread i t) := by
  have hholders : ∀ kind, holders (s.setThread i t) kind = holders s kind := fun kind => by
    have := holders_setThread s i t kind
    rw [hholds] at this
    omega
  have howing : ∀ type on, owing (s.setThread i t) type on = owing s type on := fun type on => by
    have := owing_setThread s i t type on
    rw [howes] at this
    omega
  refine ⟨⟨h.ok.running, fun kind => ?_, h.ok.noUnderflow, fun type xdev => ?_⟩, threads_setThread_ok h.threads ht,
    h.alternates, h.parity, fun type htype => ?_⟩
  · rw [hholders]; exact h.ok.count kind
  · rw [howing, howing]; exact h.ok.calls type xdev
  · rw [howing, howing]; exact h.owes type htype

/-! ## A count changes -/

theorem OwesOk.begin (h : OwesOk crossed begins ends) (hparity : crossed % 2 = 0) :
    OwesOk (crossed + 1) (begins + 1) ends := by
  obtain ⟨hbegins, hends, hle, hodd, hlast⟩ := h
  have hzero : begins = 0 := by omega
  subst hzero
  constructor <;> omega

theorem OwesOk.finish {crossed ends : ℕ} (h : OwesOk crossed 0 ends) (hparity : crossed % 2 = 1) :
    OwesOk (crossed + 1) 0 (ends + 1) := by
  obtain ⟨hbegins, hends, hle, hodd, hlast⟩ := h
  have hzero : ends = 0 := by omega
  subst hzero
  constructor <;> omega

variable {type : Fin XRT_DEVICE_FEATURE_MAX_ENUM}

theorem holds_of_owes (h : t.owes type true = true) : t.holds (.feature type) = true := by
  unfold UseThread.owes at h
  unfold UseThread.holds
  split at h
  · rename_i hplace
    simp only [Bool.and_eq_true, beq_iff_eq] at h
    obtain ⟨rfl, rfl⟩ := h
    rw [hplace]
    simp
  · simp at h
  · cases h

theorem owing_of_single (hone : holders s (.feature type) = 1) (hholds : (s.threads i).holds (.feature type) = true)
    (howes : (s.threads i).owes type true = false) : owing s type true = 0 := by
  apply tally_eq_zero.2
  intro j
  by_cases hj : j = i
  · subst hj; exact howes
  · apply Bool.eq_false_iff.2
    intro hj'
    have hflip := tally_flip (p := fun l => if l = i then false else (s.threads l).holds (.feature type))
      (q := fun l => (s.threads l).holds (.feature type)) (i := i) (by simp) hholds fun l hl => by simp [hl]
    have hone : tally (fun l => (s.threads l).holds (.feature type)) = 1 := hone
    have hnone := tally_eq_zero.1 (by omega : tally (fun l => if l = i then false else
      (s.threads l).holds (.feature type)) = 0) j
    rw [if_neg hj, holds_of_owes hj'] at hnone
    cases hnone

/-- The thread `t` becomes `t'` by changing the count of a kind. -/
structure Turns (t t' : UseThread) (kind : UseKind) (on crossed : Bool) : Prop where
  ok : t'.Ok
  before : t.holds kind = !on
  after : t'.holds kind = on
  other : ∀ other, other ≠ kind → t'.holds other = t.holds other
  free : ∀ type b, t.owes type b = false
  owes : ∀ type b, t'.owes type b = (crossed && kind == .feature type && on == b)

section
variable {crossed : Bool} {next : Bool → UseAt}

theorem Turns.holders_self (h : Turns (s.threads i) t kind on crossed) :
    (holders (s.setThread i t) kind : ℤ) = if on then (holders s kind : ℤ) + 1 else holders s kind - 1 := by
  have hset := holders_setThread s i t kind
  rw [h.before, h.after] at hset
  cases on
  · simp at hset ⊢; omega
  · simp at hset ⊢; omega

theorem Turns.holders_other (h : Turns (s.threads i) t kind on crossed) {other : UseKind} (hne : other ≠ kind) :
    holders (s.setThread i t) other = holders s other := by
  have hset := holders_setThread s i t other
  rw [h.other other hne] at hset
  omega

theorem Turns.owing (h : Turns (s.threads i) t kind on crossed) (type : Fin XRT_DEVICE_FEATURE_MAX_ENUM) (b : Bool) :
    owing (s.setThread i t) type b = owing s type b + (crossed && kind == .feature type && on == b).toNat := by
  have hset := owing_setThread s i t type b
  rw [h.free, h.owes] at hset
  simpa using hset

theorem changeUse_spec (count : ℤ) (on : Bool) :
    changeUse count on = (if on then (count + 1, decide (count = 0)) else (count - 1, decide (count = 1))) := by
  unfold changeUse xrtReferenceIncAndWasZero xrtReferenceDecAndIsZero
  have hinc : count + 1 = 1 ↔ count = 0 := by omega
  have hdec : count - 1 = 0 ↔ count = 1 := by omega
  simp only [hinc, hdec]

theorem change_kept (h : s.count kind ≠ if on then 0 else 1) :
    s.change i kind on next = { s.setThread i ⟨(s.threads i).ics, next false⟩ with
      count := Function.update s.count kind (if on then s.count kind + 1 else s.count kind - 1) } := by
  unfold UseServer.change
  rw [changeUse_spec]
  cases on <;> simp_all [UseServer.setThread]

theorem change_crossed (h : s.count kind = if on then 0 else 1) :
    s.change i kind on next = { s.setThread i ⟨(s.threads i).ics, next true⟩ with
      count := Function.update s.count kind (if on then s.count kind + 1 else s.count kind - 1)
      crossings := Function.update s.crossings kind (s.crossings kind ++ [on]) } := by
  unfold UseServer.change
  rw [changeUse_spec]
  cases on <;> simp_all [UseServer.setThread]

theorem UseInv.count_change (h : UseInv roles s) (ht : Turns (s.threads i) t kind on crossed) (other : UseKind) :
    Function.update s.count kind (if on then s.count kind + 1 else s.count kind - 1) other =
      holders (s.setThread i t) other := by
  by_cases hother : other = kind
  · subst hother
    rw [Function.update_self, ht.holders_self, h.ok.count]
  · rw [Function.update_of_ne hother, ht.holders_other hother]
    exact h.ok.count other

theorem UseInv.change_kept (h : UseInv roles s) (ht : Turns (s.threads i) ⟨(s.threads i).ics, next false⟩ kind on false)
    (hcount : s.count kind ≠ if on then 0 else 1) : UseInv roles (s.change i kind on next) := by
  rw [Ipc.change_kept hcount]
  have howing : ∀ type b, Ipc.owing (s.setThread i ⟨(s.threads i).ics, next false⟩) type b = owing s type b :=
    fun type b => by rw [ht.owing]; simp
  have hnew := h.count_change ht
  refine ⟨⟨h.ok.running, hnew, fun other => ?_, fun type xdev => ?_⟩, threads_setThread_ok h.threads ht.ok,
    h.alternates, fun other => ?_, fun type htype => ?_⟩
  · exact le_of_le_of_eq (Int.natCast_nonneg _) (hnew other).symm
  · show callsTo s.calls xdev type = if xdev ∈ providers roles type then (s.crossings (.feature type)).take
      ((s.crossings (.feature type)).length - (owing (s.setThread i _) type true + owing (s.setThread i _) type false))
      else []
    rw [howing, howing]
    exact h.ok.calls type xdev
  · show (s.crossings other).length % 2 = 1 ↔ Function.update s.count kind _ other ≠ 0
    rw [h.parity other]
    by_cases hother : other = kind
    · subst hother
      rw [Function.update_self]
      have hpos := h.ok.noUnderflow other
      have hself := hnew other
      rw [Function.update_self] at hself
      cases on
      · simp only [Bool.false_eq_true, if_false] at hcount hself ⊢
        omega
      · simp only [if_true] at hcount ⊢
        omega
    · rw [Function.update_of_ne hother]
  · show OwesOk (s.crossings (.feature type)).length (owing (s.setThread i _) type true) (owing (s.setThread i _) type false)
    rw [howing, howing]
    exact h.owes type htype

theorem UseInv.crossings_change (h : UseInv roles s) (hcount : s.count kind = if on then 0 else 1) :
    s.crossings kind ++ [on] = alternating ((s.crossings kind).length + 1) := by
  have hparity := h.parity kind
  rw [hcount] at hparity
  conv_lhs => rw [h.alternates kind]
  rw [alternating_snoc]
  cases on
  · simp only [Bool.false_eq_true, if_false, ne_eq, one_ne_zero, not_false_eq_true, iff_true] at hparity
    simp [hparity]
  · simp only [if_true, ne_eq, not_true_eq_false, iff_false] at hparity
    simp; omega

theorem UseInv.calls_change (h : UseInv roles s) (ht : Turns (s.threads i) t (.feature type) on true)
    (xdev : XrtDevice) :
    callsTo s.calls xdev type = if xdev ∈ providers roles type then
      (s.crossings (.feature type) ++ [on]).take ((s.crossings (.feature type) ++ [on]).length -
        (Ipc.owing (s.setThread i t) type true + Ipc.owing (s.setThread i t) type false)) else [] := by
  rw [h.ok.calls, ht.owing, ht.owing]
  split
  · rename_i hmem
    have hle := (h.owes type (List.ne_nil_of_mem hmem)).le
    rw [List.length_append, List.length_singleton, List.take_append_of_le_length (by cases on <;> simp <;> omega)]
    congr 1
    cases on <;> simp <;> omega
  · rfl

theorem UseInv.owes_change (h : UseInv roles s) (ht : Turns (s.threads i) t (.feature type) on true)
    (hcount : s.count (.feature type) = if on then 0 else 1) (htype : providers roles type ≠ []) :
    OwesOk ((s.crossings (.feature type)).length + 1) (owing (s.setThread i t) type true)
      (owing (s.setThread i t) type false) := by
  have hparity := h.parity (.feature type)
  have howes := h.owes type htype
  rw [ht.owing, ht.owing]
  rw [hcount] at hparity
  cases on
  · -- the thread was the only user, so no begin is still to be told
    have hone : holders s (.feature type) = 1 := by
      have := h.ok.count (.feature type)
      simp only [hcount, Bool.false_eq_true, if_false] at this
      omega
    have hzero := owing_of_single hone ht.before (ht.free type true)
    rw [hzero] at howes ⊢
    simpa using howes.finish (by simpa using hparity)
  · simpa using howes.begin (by simp at hparity; omega)

theorem UseInv.change_crossed (h : UseInv roles s)
    (ht : Turns (s.threads i) ⟨(s.threads i).ics, next true⟩ kind on true)
    (hcount : s.count kind = if on then 0 else 1) : UseInv roles (s.change i kind on next) := by
  rw [Ipc.change_crossed hcount]
  have hnew := h.count_change ht
  have hlog := h.crossings_change hcount
  refine ⟨⟨h.ok.running, hnew, fun other => ?_, fun type xdev => ?_⟩, threads_setThread_ok h.threads ht.ok,
    fun other => ?_, fun other => ?_, fun type htype => ?_⟩
  · exact le_of_le_of_eq (Int.natCast_nonneg _) (hnew other).symm
  · show callsTo s.calls xdev type = if xdev ∈ providers roles type then
      (Function.update s.crossings kind _ (.feature type)).take
        ((Function.update s.crossings kind _ (.feature type)).length -
          (owing (s.setThread i _) type true + owing (s.setThread i _) type false)) else []
    by_cases htype : .feature type = kind
    · subst htype
      rw [Function.update_self]
      exact h.calls_change ht xdev
    · rw [Function.update_of_ne htype, h.ok.calls, ht.owing, ht.owing]
      have : (kind == .feature type) = false := beq_eq_false_iff_ne.2 fun h => htype h.symm
      simp [this]
  · show Function.update s.crossings kind _ other = alternating (Function.update s.crossings kind _ other).length
    by_cases hother : other = kind
    · subst hother
      rw [Function.update_self, List.length_append, List.length_singleton]
      exact hlog
    · rw [Function.update_of_ne hother]
      exact h.alternates other
  · show (Function.update s.crossings kind _ other).length % 2 = 1 ↔ Function.update s.count kind _ other ≠ 0
    have hparity := h.parity other
    by_cases hother : other = kind
    · subst hother
      rw [hcount] at hparity
      rw [Function.update_self, Function.update_self, hcount, List.length_append, List.length_singleton]
      cases on <;> simp at hparity ⊢ <;> omega
    · rw [Function.update_of_ne hother, Function.update_of_ne hother]
      exact hparity
  · show OwesOk (Function.update s.crossings kind _ (.feature type)).length (owing (s.setThread i _) type true)
      (owing (s.setThread i _) type false)
    by_cases hkind : .feature type = kind
    · subst hkind
      rw [Function.update_self, List.length_append, List.length_singleton]
      exact h.owes_change ht hcount htype
    · rw [Function.update_of_ne hkind, ht.owing, ht.owing]
      have : (kind == .feature type) = false := beq_eq_false_iff_ne.2 fun h => hkind h.symm
      simpa [this] using h.owes type htype

theorem UseInv.change (h : UseInv roles s)
    (ht : ∀ crossed, Turns (s.threads i) ⟨(s.threads i).ics, next crossed⟩ kind on crossed) :
    UseInv roles (s.change i kind on next) := by
  by_cases hcount : s.count kind = if on then 0 else 1
  · exact h.change_crossed (ht true) hcount
  · exact h.change_kept (ht false) hcount

end

/-! ## The devices are told -/

theorem providers_eq {xdevs : List XrtDevice} (hx : featureDevices roles type = some xdevs) :
    providers roles type = xdevs := by
  unfold providers
  rw [hx]
  rfl

theorem callsTo_append (a b : List FeatureCall) (xdev : XrtDevice) (type : Fin XRT_DEVICE_FEATURE_MAX_ENUM) :
    callsTo (a ++ b) xdev type = callsTo a xdev type ++ callsTo b xdev type := by
  simp [callsTo]

theorem callsTo_told {xdevs : List XrtDevice} (hnodup : xdevs.Nodup) (type : Fin XRT_DEVICE_FEATURE_MAX_ENUM) (on : Bool)
    (xdev : XrtDevice) (other : Fin XRT_DEVICE_FEATURE_MAX_ENUM) :
    callsTo (xdevs.map fun xdev => ⟨xdev, type, on⟩) xdev other =
      if other = type ∧ xdev ∈ xdevs then [on] else [] := by
  induction xdevs with
  | nil => simp [callsTo]
  | cons first xdevs ih =>
    obtain ⟨hfirst, hnodup⟩ := List.nodup_cons.1 hnodup
    have ih := ih hnodup
    unfold callsTo at ih ⊢
    rw [List.map_cons, List.filter_cons]
    by_cases h : first = xdev ∧ type = other
    · obtain ⟨rfl, rfl⟩ := h
      simp only [hfirst, and_false, if_false] at ih
      simp [ih]
    · have hskip : (first == xdev && type == other) = false := by
        rw [Bool.and_eq_false_iff, beq_eq_false_iff_ne, beq_eq_false_iff_ne]
        exact not_and_or.1 h
      simp only [hskip, Bool.false_eq_true, if_false, ih, List.mem_cons]
      by_cases htype : other = type
      · have : xdev ≠ first := fun hx => h ⟨hx.symm, htype.symm⟩
        simp [this]
      · simp [htype]

theorem OwesOk.told_iff (h : OwesOk crossed begins ends) (hself : if on then begins = 1 else ends = 1) :
    on = decide ((crossed - (begins + ends)) % 2 = 0) ↔ (on = true → ends = 0) := by
  obtain ⟨hbegins, hends, hle, hodd, hlast⟩ := h
  cases on
  · simp only [Bool.false_eq_true, if_false] at hself
    have : ¬ (crossed - (begins + ends)) % 2 = 0 := by
      have := hlast hself
      omega
    simp [this]
  · simp only [if_true] at hself
    have hodd := hodd hself
    rw [eq_comm, decide_eq_true_iff]
    constructor
    · intro h _
      omega
    · intro h
      have := h rfl
      omega

theorem OwesOk.told (on : Bool) {crossed begins ends begins' ends' : ℕ} (h : OwesOk crossed begins ends)
    (hbegins : begins' + on.toNat = begins) (hends : ends' + (!on).toNat = ends) (hfree : on = true → ends = 0) :
    OwesOk crossed begins' ends' := by
  obtain ⟨hb, he, hle, hodd, hlast⟩ := h
  cases on
  · simp at hbegins hends
    constructor <;> omega
  · simp at hbegins hends
    have := hfree rfl
    constructor <;> omega

/-- The thread `t` becomes `t'` by telling the devices of a feature. -/
structure Tells (t t' : UseThread) (type : Fin XRT_DEVICE_FEATURE_MAX_ENUM) (on : Bool) : Prop where
  ok : t'.Ok
  holds : ∀ kind, t'.holds kind = t.holds kind
  owes : ∀ other b, t.owes other b = (other == type && on == b)
  free : ∀ other b, t'.owes other b = false

section
variable {xdevs : List XrtDevice}

theorem Tells.holders (h : Tells (s.threads i) t type on) (kind : UseKind) :
    holders (s.setThread i t) kind = holders s kind := by
  have := holders_setThread s i t kind
  rw [h.holds] at this
  omega

theorem Tells.owing (h : Tells (s.threads i) t type on) (other : Fin XRT_DEVICE_FEATURE_MAX_ENUM) (b : Bool) :
    owing (s.setThread i t) other b + (other == type && on == b).toNat = owing s other b := by
  have := owing_setThread s i t other b
  rw [h.free, h.owes] at this
  simpa using this

theorem UseInv.told_iff (h : UseInv roles s) (ht : Tells (s.threads i) t type on) {xdev : XrtDevice}
    (hx : xdev ∈ providers roles type) :
    callsTo s.calls xdev type ++ [on] = (s.crossings (.feature type)).take ((s.crossings (.feature type)).length -
      (Ipc.owing (s.setThread i t) type true + Ipc.owing (s.setThread i t) type false)) ↔
        (on = true → Ipc.owing s type false = 0) := by
  have howes := h.owes type (List.ne_nil_of_mem hx)
  have htrue := ht.owing type true
  have hfalse := ht.owing type false
  have hself : if on then Ipc.owing s type true = 1 else Ipc.owing s type false = 1 := by
    obtain ⟨hbegins, hends, -, -, -⟩ := howes
    cases on
    · simp at hfalse ⊢; omega
    · simp at htrue ⊢; omega
  rw [h.ok.calls, if_pos hx, h.alternates (.feature type), length_alternating, take_alternating (by omega),
    take_alternating (by omega), ← howes.told_iff hself, ← alternating_snoc]
  have hle := howes.le
  have : (s.crossings (.feature type)).length - (Ipc.owing s type true + Ipc.owing s type false) + 1 =
      (s.crossings (.feature type)).length -
        (Ipc.owing (s.setThread i t) type true + Ipc.owing (s.setThread i t) type false) := by
    cases on
    · simp at htrue hfalse; omega
    · simp at htrue hfalse; omega
  rw [this]

theorem UseInv.tell (h : UseInv roles s) (ht : Tells (s.threads i) t type on)
    (hx : featureDevices roles type = some xdevs) (hfree : on = true → xdevs ≠ [] → Ipc.owing s type false = 0) :
    UseInv roles { s.setThread i t with calls := s.calls ++ xdevs.map fun xdev => ⟨xdev, type, on⟩ } := by
  have hproviders := providers_eq hx
  have hother : ∀ other, other ≠ type → ∀ b, Ipc.owing (s.setThread i t) other b = Ipc.owing s other b :=
    fun other hne b => by
      have := ht.owing other b
      rw [beq_eq_false_iff_ne.2 hne] at this
      simpa using this
  refine ⟨⟨h.ok.running, fun kind => ?_, h.ok.noUnderflow, fun other xdev => ?_⟩, threads_setThread_ok h.threads ht.ok,
    h.alternates, h.parity, fun other hne => ?_⟩
  · show s.count kind = holders (s.setThread i t) kind
    rw [ht.holders]
    exact h.ok.count kind
  · show callsTo (s.calls ++ xdevs.map _) xdev other = if xdev ∈ providers roles other then
      (s.crossings (.feature other)).take ((s.crossings (.feature other)).length -
        (Ipc.owing (s.setThread i t) other true + Ipc.owing (s.setThread i t) other false)) else []
    rw [callsTo_append, callsTo_told (featureDevices_nodup hx)]
    by_cases htype : other = type
    · subst htype
      by_cases hmem : xdev ∈ xdevs
      · rw [if_pos ⟨rfl, hmem⟩, if_pos (hproviders ▸ hmem)]
        exact (h.told_iff ht (hproviders ▸ hmem)).2 fun hon => hfree hon (List.ne_nil_of_mem hmem)
      · rw [if_neg fun hand => hmem hand.2, if_neg (hproviders ▸ hmem), h.ok.calls, if_neg (hproviders ▸ hmem),
          List.append_nil]
    · rw [if_neg fun hand => htype hand.1, List.append_nil, hother other htype, hother other htype]
      exact h.ok.calls other xdev
  · show OwesOk (s.crossings (.feature other)).length (Ipc.owing (s.setThread i t) other true)
      (Ipc.owing (s.setThread i t) other false)
    by_cases htype : other = type
    · subst htype
      have htrue := ht.owing other true
      have hfalse := ht.owing other false
      refine OwesOk.told on (h.owes other hne) ?_ ?_ fun hon => hfree hon (hproviders ▸ hne)
      · cases on <;> simpa using htrue
      · cases on <;> simpa using hfalse
    · rw [hother other htype, hother other htype]
      exact h.owes other hne

end

/-! ## Steps -/

theorem turns_request (hidle : (s.threads i).place = .idle) (hused : (s.threads i).ics.used kind ≠ on) (crossed : Bool) :
    Turns (s.threads i) ⟨(s.threads i).ics, .counted kind on crossed⟩ kind on crossed where
  ok := Bool.eq_not_iff.2 hused
  before := by unfold UseThread.holds; rw [hidle]; exact Bool.eq_not_iff.2 hused
  after := by simp [UseThread.holds]
  other other hne := by simp [UseThread.holds, hidle, hne]
  free type b := by simp [UseThread.owes, hidle]
  owes type b := by cases crossed <;> simp [UseThread.owes]

variable {rest : List UseKind} {crossed : Bool}

theorem turns_release (hok : (s.threads i).Ok) (hplace : (s.threads i).place = .shuttingDown (kind :: rest))
    (hused : (s.threads i).ics.used kind = true) (crossed : Bool) :
    Turns (s.threads i) ⟨(s.threads i).ics, .released kind crossed rest⟩ kind false crossed where
  ok := by
    unfold UseThread.Ok at hok
    rw [hplace] at hok
    intro other hne hrest
    exact hok other (by simp [hne, hrest])
  before := by unfold UseThread.holds; rw [hplace]; exact hused
  after := by simp [UseThread.holds]
  other other hne := by simp [UseThread.holds, hplace, hne]
  free type b := by simp [UseThread.owes, hplace]
  owes type b := by cases crossed <;> cases b <;> simp [UseThread.owes]

theorem holds_setUsed (hplace : t.place = .counted kind on crossed) (other : UseKind) :
    (⟨t.ics.setUsed kind on, .idle⟩ : UseThread).holds other = t.holds other := by
  unfold UseThread.holds
  rw [hplace]
  by_cases h : other = kind
  · subst h; simp
  · simp [h, used_setUsed_ne t.ics on h]

theorem holds_clearUsed (hplace : t.place = .released kind crossed rest) (other : UseKind) :
    (⟨t.ics.setUsed kind false, .shuttingDown rest⟩ : UseThread).holds other = t.holds other := by
  unfold UseThread.holds
  rw [hplace]
  by_cases h : other = kind
  · subst h; simp
  · simp [h, used_setUsed_ne t.ics false h]

theorem ok_clearUsed (hok : t.Ok) (hplace : t.place = .released kind crossed rest) :
    (⟨t.ics.setUsed kind false, .shuttingDown rest⟩ : UseThread).Ok := by
  unfold UseThread.Ok at hok
  rw [hplace] at hok
  intro other hrest
  show (t.ics.setUsed kind false).used other = false
  by_cases h : other = kind
  · subst h; simp
  · rw [used_setUsed_ne t.ics false h]
    exact hok other h hrest

theorem beq_feature (type other : Fin XRT_DEVICE_FEATURE_MAX_ENUM) :
    (UseKind.feature type == UseKind.feature other) = (other == type) := by
  rw [Bool.eq_iff_iff, beq_iff_eq, beq_iff_eq, UseKind.feature.injEq]
  exact eq_comm

theorem tells_counted (hplace : (s.threads i).place = .counted (.feature type) on true) :
    Tells (s.threads i) ⟨(s.threads i).ics.setUsed (.feature type) on, .idle⟩ type on where
  ok := trivial
  holds := holds_setUsed hplace
  owes other b := by
    unfold UseThread.owes
    rw [hplace, ← beq_feature]
  free other b := rfl

theorem tells_released (hok : (s.threads i).Ok) (hplace : (s.threads i).place = .released (.feature type) true rest) :
    Tells (s.threads i) ⟨(s.threads i).ics.setUsed (.feature type) false, .shuttingDown rest⟩ type false where
  ok := ok_clearUsed hok hplace
  holds := holds_clearUsed hplace
  owes other b := by
    unfold UseThread.owes
    rw [hplace, ← beq_feature]
    cases b <;> rfl
  free other b := rfl

section
variable {answer : XrtDevice → XrtResult}

theorem countedAnswer_quiet (hquiet : ∀ type, ¬ (kind = .feature type ∧ crossed = true)) :
    countedAnswer roles kind on crossed answer = some (.success, []) := by
  unfold countedAnswer
  cases kind with
  | refSpace type => rfl
  | feature type =>
    cases crossed with
    | false => rfl
    | true => exact absurd ⟨rfl, rfl⟩ (hquiet type)

theorem notify_quiet (next : XrtResult → UseThread) :
    s.notify i (some (.success, [])) next = s.setThread i (next .success) := by
  unfold UseServer.notify UseServer.setThread
  simp

theorem useStep_counted (hrun : s.faulted = false) (hplace : (s.threads i).place = .counted kind on crossed) :
    useStep roles s (.complete i answer) = some (s.notify i (countedAnswer roles kind on crossed answer) fun xret =>
      ⟨if xret = .success then (s.threads i).ics.setUsed kind on else (s.threads i).ics, .idle⟩) := by
  simp [useStep, hrun, hplace]

theorem useStep_released (hrun : s.faulted = false) (hplace : (s.threads i).place = .released kind crossed rest) :
    useStep roles s (.complete i answer) = some (s.notify i (countedAnswer roles kind false crossed answer) fun _ =>
      ⟨(s.threads i).ics.setUsed kind false, .shuttingDown rest⟩) := by
  simp [useStep, hrun, hplace]

theorem owing_eq_zero : owing s type on = 0 ↔ ∀ j, (s.threads j).owes type on = false := tally_eq_zero

theorem owes_counted (hplace : t.place = .counted kind on crossed)
    (hquiet : ∀ type, ¬ (kind = .feature type ∧ crossed = true)) (type : Fin XRT_DEVICE_FEATURE_MAX_ENUM) (b : Bool) :
    t.owes type b = false := by
  unfold UseThread.owes
  rw [hplace]
  cases crossed with
  | false => rfl
  | true =>
    have : (kind == .feature type) = false := beq_eq_false_iff_ne.2 fun hkind => hquiet type ⟨hkind, rfl⟩
    simp [this]

theorem owes_released (hplace : t.place = .released kind crossed rest)
    (hquiet : ∀ type, ¬ (kind = .feature type ∧ crossed = true)) (type : Fin XRT_DEVICE_FEATURE_MAX_ENUM) (b : Bool) :
    t.owes type b = false := by
  unfold UseThread.owes
  rw [hplace]
  cases crossed with
  | false => rfl
  | true =>
    have : (kind == .feature type) = false := beq_eq_false_iff_ne.2 fun hkind => hquiet type ⟨hkind, rfl⟩
    simp [this]

theorem UseInv.complete_counted (h : UseInv roles s) (hplace : (s.threads i).place = .counted kind on crossed)
    (hfree : TellFree roles s i answer) {u : UseServer n} (hstep : useStep roles s (.complete i answer) = some u) :
    UseInv roles u := by
  rw [useStep_counted h.ok.running hplace] at hstep
  cases hstep
  by_cases hquiet : ∃ type, kind = .feature type ∧ crossed = true
  · obtain ⟨type, rfl, rfl⟩ := hquiet
    unfold TellFree at hfree
    rw [hplace] at hfree
    obtain ⟨xdevs, hx, hanswer, hbegin⟩ := hfree
    have hsuccess := setFeature_success.2 hanswer
    have hall : (setFeature answer xdevs).2 = xdevs :=
      setFeature_all.2 fun xdev hmem => hanswer xdev (List.dropLast_subset _ hmem)
    have htold : countedAnswer roles (.feature type) on true answer =
        some (.success, xdevs.map fun xdev => ⟨xdev, type, on⟩) := by
      simp [countedAnswer, hx, hsuccess, hall]
    rw [htold]
    exact h.tell (tells_counted hplace) hx fun hon hne => owing_eq_zero.2 (hbegin hon hne)
  · have hquiet : ∀ type, ¬ (kind = .feature type ∧ crossed = true) := not_exists.1 hquiet
    rw [countedAnswer_quiet hquiet, notify_quiet]
    exact h.setThread trivial (holds_setUsed hplace) fun type b => (owes_counted hplace hquiet type b).symm

theorem UseInv.complete_released (h : UseInv roles s) (hplace : (s.threads i).place = .released kind crossed rest)
    (hfree : TellFree roles s i answer) {u : UseServer n} (hstep : useStep roles s (.complete i answer) = some u) :
    UseInv roles u := by
  rw [useStep_released h.ok.running hplace] at hstep
  cases hstep
  by_cases hquiet : ∃ type, kind = .feature type ∧ crossed = true
  · obtain ⟨type, rfl, rfl⟩ := hquiet
    unfold TellFree at hfree
    rw [hplace] at hfree
    obtain ⟨xdevs, hx, hanswer⟩ := hfree
    have htold : countedAnswer roles (.feature type) false true answer =
        some ((setFeature answer xdevs).1, xdevs.map fun xdev => ⟨xdev, type, false⟩) := by
      simp [countedAnswer, hx, setFeature_all.2 hanswer]
    rw [htold]
    exact h.tell (tells_released (h.threads i) hplace) hx fun hon => by cases hon
  · have hquiet : ∀ type, ¬ (kind = .feature type ∧ crossed = true) := not_exists.1 hquiet
    rw [countedAnswer_quiet hquiet, notify_quiet]
    exact h.setThread (ok_clearUsed (h.threads i) hplace) (holds_clearUsed hplace) fun type b =>
      (owes_released hplace hquiet type b).symm

end

theorem UseInv.request (h : UseInv roles s) (hidle : (s.threads i).place = .idle) (r : UseRequest) :
    UseInv roles (s.request i r) := by
  cases hkind : r.kind with
  | none =>
    rw [(handle_refused (Or.inl hkind) .success).1]
    exact h
  | some kind =>
    by_cases hused : (s.threads i).ics.used kind = r.on
    · rw [(handle_refused (Or.inr ⟨kind, hkind, hused⟩) .success).1]
      exact h
    · rw [(handle_completed hkind hused .success).1]
      exact h.change (turns_request hidle hused)

theorem UseInv.release (h : UseInv roles s) (hplace : (s.threads i).place = .shuttingDown (kind :: rest)) :
    UseInv roles (if (s.threads i).ics.used kind then s.change i kind false fun crossed => .released kind crossed rest
      else s.setThread i { s.threads i with place := .shuttingDown rest }) := by
  by_cases hused : (s.threads i).ics.used kind = true
  · rw [if_pos hused]
    exact h.change (turns_release (h.threads i) hplace hused)
  · rw [if_neg hused]
    have hok := h.threads i
    unfold UseThread.Ok at hok
    rw [hplace] at hok
    refine h.setThread (fun other hrest => ?_) (fun other => ?_) fun type b => ?_
    · by_cases hother : other = kind
      · subst hother; simpa using hused
      · exact hok other (by simp [hother, hrest])
    · simp [UseThread.holds, hplace]
    · simp [UseThread.owes, hplace]

theorem UseInv.step (h : UseInv roles s) {op : UseOp n} {u : UseServer n} (hfree : UsesFree roles s op)
    (hstep : useStep roles s op = some u) : UseInv roles u := by
  have hrun := h.ok.running
  cases op with
  | connect i =>
    cases hplace : (s.threads i).place <;> simp [useStep, hrun, hplace] at hstep
    subst hstep
    refine h.setThread trivial (fun kind => ?_) fun type b => ?_
    · simp only [UseThread.holds, hplace]
      cases kind <;> rfl
    · simp [UseThread.owes, hplace]
  | request i r =>
    cases hplace : (s.threads i).place <;> simp [useStep, hrun, hplace] at hstep
    subst hstep
    exact h.request hplace r
  | complete i answer =>
    cases hplace : (s.threads i).place
    case counted => exact h.complete_counted hplace hfree hstep
    case released => exact h.complete_released hplace hfree hstep
    all_goals simp [useStep, hrun, hplace] at hstep
  | disconnect i =>
    cases hplace : (s.threads i).place <;> simp [useStep, hrun, hplace] at hstep
    subst hstep
    refine h.setThread (fun kind hrest => absurd kind.mem_all hrest) (fun kind => ?_) fun type b => ?_
    · simp [UseThread.holds, hplace]
    · simp [UseThread.owes, hplace]
  | release i =>
    cases hplace : (s.threads i).place
    case shuttingDown rest =>
      cases rest with
      | nil => simp [useStep, hrun, hplace] at hstep
      | cons kind rest =>
        have hstep : some (if (s.threads i).ics.used kind then
            s.change i kind false fun crossed => .released kind crossed rest
          else s.setThread i { s.threads i with place := .shuttingDown rest }) = some u := by
          rw [← hstep]
          simp only [useStep, hrun, hplace, Bool.false_eq_true, if_false]
          split <;> rfl
        cases hstep
        exact h.release hplace
    all_goals simp [useStep, hrun, hplace] at hstep
  | finish i =>
    cases hplace : (s.threads i).place
    case shuttingDown rest =>
      cases rest with
      | nil =>
        simp [useStep, hrun, hplace] at hstep
        subst hstep
        have hok := h.threads i
        unfold UseThread.Ok at hok
        rw [hplace] at hok
        refine h.setThread trivial (fun kind => ?_) fun type b => ?_
        · simpa [UseThread.holds, hplace] using (hok kind (by simp)).symm
        · simp [UseThread.owes, hplace]
      | cons kind rest => simp [useStep, hrun, hplace] at hstep
    all_goals simp [useStep, hrun, hplace] at hstep

/-! ## The condition is needed -/

section
variable {answer : XrtDevice → XrtResult}

theorem not_ok_failed (h : UseInv roles s) (hplace : (s.threads i).place = .counted (.feature type) on true)
    (calls : List FeatureCall) :
    ¬ UseCountsOk roles { s.setThread i ⟨(s.threads i).ics, .idle⟩ with calls := calls } := by
  intro hok
  have hflag := h.threads i
  unfold UseThread.Ok at hflag
  rw [hplace] at hflag
  have hset := holders_setThread s i ⟨(s.threads i).ics, .idle⟩ (.feature type)
  have hbefore : (s.threads i).holds (.feature type) = on := by simp [UseThread.holds, hplace]
  have hafter : (⟨(s.threads i).ics, .idle⟩ : UseThread).holds (.feature type) = !on := hflag
  rw [hbefore, hafter] at hset
  have hcount : s.count (.feature type) = holders (s.setThread i ⟨(s.threads i).ics, .idle⟩) (.feature type) :=
    hok.count (.feature type)
  rw [h.ok.count] at hcount
  cases on <;> simp at hset <;> omega

theorem told_of_ok {told : List XrtDevice} (hnodup : told.Nodup)
    {xdev : XrtDevice} (hx : xdev ∈ providers roles type)
    (hok : UseCountsOk roles { s.setThread i t with calls := s.calls ++ told.map fun xdev => ⟨xdev, type, on⟩ }) :
    callsTo s.calls xdev type ++ (if xdev ∈ told then [on] else []) = (s.crossings (.feature type)).take
      ((s.crossings (.feature type)).length -
        (owing (s.setThread i t) type true + owing (s.setThread i t) type false)) := by
  have hcalls : callsTo (s.calls ++ told.map fun xdev => ⟨xdev, type, on⟩) xdev type =
      if xdev ∈ providers roles type then (s.crossings (.feature type)).take ((s.crossings (.feature type)).length -
        (owing (s.setThread i t) type true + owing (s.setThread i t) type false)) else [] := hok.calls type xdev
  rw [callsTo_append, callsTo_told hnodup, if_pos hx] at hcalls
  simpa using hcalls

theorem countedAnswer_feature {xdevs : List XrtDevice} (hx : featureDevices roles type = some xdevs) :
    countedAnswer roles (.feature type) on true answer =
      some ((setFeature answer xdevs).1, (setFeature answer xdevs).2.map fun xdev => ⟨xdev, type, on⟩) := by
  simp [countedAnswer, hx]

theorem not_ok_fault (hx : featureDevices roles type = none) (next : XrtResult → UseThread) :
    ¬ UseCountsOk roles (s.notify i (countedAnswer roles (.feature type) on true answer) next) := by
  intro hok
  have hfault := hok.running
  simp [countedAnswer, hx, UseServer.notify] at hfault

theorem told_nodup {xdevs : List XrtDevice} (hx : featureDevices roles type = some xdevs) :
    (setFeature answer xdevs).2.Nodup :=
  (featureDevices_nodup hx).sublist (told_isPrefix answer xdevs).sublist

theorem tellFree_of_counted (h : UseInv roles s) (hplace : (s.threads i).place = .counted (.feature type) on true)
    (hkept : UseCountsKept roles s (.complete i answer)) : TellFree roles s i answer := by
  have hok := hkept _ (useStep_counted h.ok.running hplace)
  unfold TellFree
  rw [hplace]
  cases hx : featureDevices roles type with
  | none => exact absurd hok (not_ok_fault hx _)
  | some xdevs =>
    rw [countedAnswer_feature hx] at hok
    by_cases hresult : (setFeature answer xdevs).1 = .success
    · have hanswer := setFeature_success.1 hresult
      refine ⟨xdevs, hx, hanswer, fun hon hne => ?_⟩
      obtain ⟨xdev, hmem⟩ := List.exists_mem_of_ne_nil _ hne
      have hprovider : xdev ∈ providers roles type := providers_eq hx ▸ hmem
      have hall : (setFeature answer xdevs).2 = xdevs :=
        setFeature_all.2 fun xdev hmem => hanswer xdev (List.dropLast_subset _ hmem)
      rw [hresult] at hok
      have htold := told_of_ok (told_nodup hx) hprovider hok
      rw [hall, if_pos hmem] at htold
      exact owing_eq_zero.1 ((h.told_iff (tells_counted hplace) hprovider).1 htold hon)
    · refine absurd hok ?_
      have := not_ok_failed h hplace (s.calls ++ (setFeature answer xdevs).2.map fun xdev => ⟨xdev, type, on⟩)
      simpa [UseServer.notify, hresult] using this

theorem tellFree_of_released (h : UseInv roles s) (hplace : (s.threads i).place = .released (.feature type) true rest)
    (hkept : UseCountsKept roles s (.complete i answer)) : TellFree roles s i answer := by
  have hok := hkept _ (useStep_released h.ok.running hplace)
  unfold TellFree
  rw [hplace]
  cases hx : featureDevices roles type with
  | none => exact absurd hok (not_ok_fault hx _)
  | some xdevs =>
    rw [countedAnswer_feature hx] at hok
    refine ⟨xdevs, hx, setFeature_all.1 ?_⟩
    by_contra hsome
    obtain ⟨xdev, hmem, hnot⟩ := exists_not_told (featureDevices_nodup hx) hsome
    have hprovider : xdev ∈ providers roles type := providers_eq hx ▸ hmem
    have ht := tells_released (h.threads i) hplace
    have htold := told_of_ok (told_nodup hx) hprovider hok
    have hright := (h.told_iff ht hprovider).2 fun hon => by cases hon
    rw [if_neg hnot, List.append_nil, ← hright] at htold
    simpa using congrArg List.length htold

theorem UseInv.free_of_kept (h : UseInv roles s) {op : UseOp n} (hkept : UseCountsKept roles s op) :
    UsesFree roles s op := by
  cases op with
  | complete i answer =>
    show TellFree roles s i answer
    cases hplace : (s.threads i).place with
    | counted kind on crossed =>
      cases kind with
      | refSpace type => unfold TellFree; rw [hplace]; trivial
      | feature type =>
        cases crossed with
        | false => unfold TellFree; rw [hplace]; trivial
        | true => exact tellFree_of_counted h hplace hkept
    | released kind crossed rest =>
      cases kind with
      | refSpace type => unfold TellFree; rw [hplace]; trivial
      | feature type =>
        cases crossed with
        | false => unfold TellFree; rw [hplace]; trivial
        | true => exact tellFree_of_released h hplace hkept
    | _ => unfold TellFree; rw [hplace]; trivial
  | _ => trivial

end

end

/-! ## Runs -/

/-- In every run the counts and the calls to devices are right exactly when devices are only told freely. -/
theorem useCounts_iff (n : ℕ) (roles : StaticRoles) (ops : List (UseOp n)) :
    Along (useStep roles) (UseCountsKept roles) (UseServer.init n) ops ↔
      Along (useStep roles) (UsesFree roles) (UseServer.init n) ops :=
  along_iff
    (fun _ _ hinv => ⟨hinv.free_of_kept, fun hfree _ hstep => (hinv.step hfree hstep).ok⟩)
    (fun _ _ _ hinv hfree hstep => hinv.step hfree hstep) (useInv_init roles) ops

/-- A hand that is tracked by a device which does not implement `begin_feature`. -/
def handRoles : StaticRoles where
  eyes := none
  face := none
  unobstructed := ⟨some ⟨1, none⟩, none⟩
  conforming := ⟨none, none⟩

/-- The feature is counted although it did not begin, and although its client does not use it. -/
theorem failedBegin_counted :
    ¬ Along (useStep handRoles) (UseCountsKept handRoles) (UseServer.init 1)
      [.connect 0, .request 0 (.beginFeature 0), .complete 0 fun _ => .errorNotImplemented] := by
  intro hall
  obtain ⟨-, hall⟩ := along_cons.1 hall
  obtain ⟨-, hall⟩ := along_cons.1 (hall _ rfl)
  obtain ⟨hlast, -⟩ := along_cons.1 (hall _ rfl)
  have hcount := (hlast _ rfl).count (.feature 0)
  exact absurd hcount (by decide)

end AugmentedInsanity.Ipc
