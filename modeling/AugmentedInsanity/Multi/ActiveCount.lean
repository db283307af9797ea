/-
The number of active sessions that the multi system compositor keeps (`comp_multi_compositor.c`,
`comp_multi_system.c`). A call of a client changes the number under the lock and the client's flag after it, so calls
of other clients may come in between; the number is that of the sessions that are active, or become it
(`activeCount_eq`).
-/
import AugmentedInsanity.Lib.Runs
import AugmentedInsanity.Lib.Tables

namespace AugmentedInsanity.Multi.ActiveCount

open Runs Tables

/-! ## The multi system compositor -/

/-- A call that has changed the number, and not yet the flag of its compositor. -/
inductive SessionCall
  | beginSession
  | endSession
  | destroy
  deriving DecidableEq

/-- The session of a `struct multi_compositor`. -/
structure MultiCompositor where
  sessionActive : Bool
  underWay : Option SessionCall
  deriving DecidableEq

def multiCompositorCreate : MultiCompositor := ⟨false, none⟩

/-- The session is active, once the call that is under way returns. -/
def MultiCompositor.active (mc : MultiCompositor) : Bool :=
  match mc.underWay with
  | none => mc.sessionActive
  | some .beginSession => true
  | some .endSession => false
  | some .destroy => false

/-- The part of `struct multi_system_compositor` that counts sessions, with the client compositors that are allocated, by
their addresses. -/
structure MultiSystemCompositor where
  activeCount : UInt64
  clients : Finset UInt64
  client : UInt64 → MultiCompositor

def MultiSystemCompositor.create : MultiSystemCompositor := ⟨0, ∅, fun _ => multiCompositorCreate⟩

/-- `multi_system_compositor_update_session_status` gives the new number, unless an assertion of a build with assertions
fails. -/
def updateSessionStatus (asserts : Bool) (activeCount : UInt64) (active : Bool) : Option UInt64 :=
  if active then
    if asserts = true ∧ ¬ activeCount < 4294967295 then none else some (activeCount + 1)
  else if asserts = true ∧ ¬ 0 < activeCount then none
  else some (activeCount - 1)

def MultiSystemCompositor.put (msc : MultiSystemCompositor) (c : UInt64) (mc : MultiCompositor) : MultiSystemCompositor :=
  { msc with client := Function.update msc.client c mc }

/-- The number changes, and the call of the client is under way. -/
def MultiSystemCompositor.enter (msc : MultiSystemCompositor) (asserts : Bool) (c : UInt64) (call : SessionCall) :
    Option MultiSystemCompositor :=
  (updateSessionStatus asserts msc.activeCount (decide (call = .beginSession))).map fun activeCount =>
    { msc with activeCount := activeCount }.put c { msc.client c with underWay := some call }

/-- `multi_compositor_begin_session`, up to the flag. -/
def beginSession (msc : MultiSystemCompositor) (asserts : Bool) (c : UInt64) : Option MultiSystemCompositor :=
  if asserts = true ∧ (msc.client c).sessionActive = true then none
  else if (msc.client c).sessionActive = false then msc.enter asserts c .beginSession
  else some msc

/-- `multi_compositor_end_session`, up to the flag. -/
def endSession (msc : MultiSystemCompositor) (asserts : Bool) (c : UInt64) : Option MultiSystemCompositor :=
  if asserts = true ∧ (msc.client c).sessionActive = false then none
  else if (msc.client c).sessionActive = true then msc.enter asserts c .endSession
  else some msc

def MultiSystemCompositor.free (msc : MultiSystemCompositor) (c : UInt64) : MultiSystemCompositor :=
  { msc with clients := msc.clients.erase c }

/-- `multi_compositor_destroy`, up to the flag if the session is active. -/
def destroy (msc : MultiSystemCompositor) (asserts : Bool) (c : UInt64) : Option MultiSystemCompositor :=
  if (msc.client c).sessionActive = true then msc.enter asserts c .destroy else some (msc.free c)

/-- The rest of a call: the flag, and after it the end of a compositor that is destroyed. -/
def finish (msc : MultiSystemCompositor) (c : UInt64) : Option MultiSystemCompositor :=
  match (msc.client c).underWay with
  | none => none
  | some .beginSession => some (msc.put c ⟨true, none⟩)
  | some .endSession => some (msc.put c ⟨false, none⟩)
  | some .destroy => some ((msc.put c ⟨false, none⟩).free c)

/-! ## Runs -/

inductive SessionOp
  | create (c : UInt64)
  | beginSession (c : UInt64)
  | endSession (c : UInt64)
  | destroy (c : UInt64)
  | finish (c : UInt64)
  deriving DecidableEq

/-- A client makes one call at a time; a compositor is allocated where there is none. -/
def Enabled (msc : MultiSystemCompositor) : SessionOp → Prop
  | .create c => c ∉ msc.clients ∧ c ≠ 0
  | .beginSession c | .endSession c | .destroy c => c ∈ msc.clients ∧ (msc.client c).underWay = none
  | .finish c => c ∈ msc.clients

instance (msc : MultiSystemCompositor) : ∀ op, Decidable (Enabled msc op)
  | .create _ => inferInstanceAs (Decidable (_ ∧ _))
  | .beginSession _ => inferInstanceAs (Decidable (_ ∧ _))
  | .endSession _ => inferInstanceAs (Decidable (_ ∧ _))
  | .destroy _ => inferInstanceAs (Decidable (_ ∧ _))
  | .finish _ => inferInstanceAs (Decidable (_ ∈ _))

def MultiSystemCompositor.call (msc : MultiSystemCompositor) (asserts : Bool) :
    SessionOp → Option MultiSystemCompositor
  | .create c => some ({ msc with clients := insert c msc.clients }.put c multiCompositorCreate)
  | .beginSession c => beginSession msc asserts c
  | .endSession c => endSession msc asserts c
  | .destroy c => destroy msc asserts c
  | .finish c => finish msc c

def sessionStep (asserts : Bool) (msc : MultiSystemCompositor) (op : SessionOp) : Option MultiSystemCompositor :=
  if Enabled msc op then msc.call asserts op else none

/-! ## The invariant -/

variable {activeCount activeCount' : UInt64}

theorem updateSessionStatus_true {asserts : Bool} (h : updateSessionStatus asserts activeCount true = some activeCount')
    (hlt : activeCount.toNat < 2 ^ 64 - 1) : activeCount'.toNat = activeCount.toNat + 1 := by
  unfold updateSessionStatus at h
  rw [if_pos rfl] at h
  split at h
  · cases h
  · cases h
    rw [UInt64.toNat_add]
    exact Nat.mod_eq_of_lt (Nat.succ_lt_succ hlt)

theorem updateSessionStatus_false {asserts : Bool}
    (h : updateSessionStatus asserts activeCount false = some activeCount') (hpos : 0 < activeCount.toNat) :
    activeCount'.toNat + 1 = activeCount.toNat := by
  unfold updateSessionStatus at h
  rw [if_neg Bool.false_ne_true] at h
  split at h
  · cases h
  · cases h
    have hone : (1 : UInt64) ≤ activeCount := UInt64.le_iff_toNat_le.2 (show 1 ≤ activeCount.toNat from hpos)
    rw [UInt64.toNat_sub_of_le _ _ hone]
    exact Nat.sub_add_cancel hpos

def MultiSystemCompositor.number (msc : MultiSystemCompositor) (p : MultiCompositor → Bool) : ℕ :=
  (msc.clients.filter fun c => p (msc.client c) = true).card

structure CountInv (msc : MultiSystemCompositor) : Prop where
  count : msc.activeCount.toNat = msc.number MultiCompositor.active
  clients : 0 ∉ msc.clients

section
variable {msc msc' : MultiSystemCompositor} {c : UInt64}

/-- There are fewer compositors than addresses, as none of them is at `NULL`. -/
theorem card_clients (h : 0 ∉ msc.clients) : msc.clients.card < 2 ^ 64 := by
  have hcard : (insert 0 msc.clients).card ≤ (Finset.range (2 ^ 64)).card :=
    Finset.card_le_card_of_injOn UInt64.toNat (fun c _ => Finset.mem_range.2 c.toNat_lt) fun _ _ _ _ =>
      UInt64.toNat_inj.1
  rw [Finset.card_insert_of_notMem h, Finset.card_range] at hcard
  omega

theorem number_put (hc : c ∈ msc.clients) (p : MultiCompositor → Bool) (mc : MultiCompositor) :
    (msc.put c mc).number p + (p (msc.client c)).toNat = msc.number p + (p mc).toNat :=
  card_filter_update hc p msc.client mc

theorem CountInv.put_same (h : CountInv msc) (hc : c ∈ msc.clients) {mc : MultiCompositor}
    (hsame : mc.active = (msc.client c).active) : CountInv (msc.put c mc) := by
  have hput := number_put hc MultiCompositor.active mc
  rw [hsame] at hput
  exact ⟨h.count.trans (by omega), h.clients⟩

theorem number_active_lt (hc : c ∈ msc.clients) (hactive : (msc.client c).active = false) :
    msc.number MultiCompositor.active < msc.clients.card := by
  apply Finset.card_lt_card
  refine ⟨Finset.filter_subset _ _, fun hsub => ?_⟩
  have hmem := (Finset.mem_filter.1 (hsub hc)).2
  rw [hactive] at hmem
  cases hmem

theorem number_active_pos (hc : c ∈ msc.clients) (hactive : (msc.client c).active = true) :
    0 < msc.number MultiCompositor.active :=
  Finset.card_pos.2 ⟨c, Finset.mem_filter.2 ⟨hc, hactive⟩⟩

theorem CountInv.enter (h : CountInv msc) {asserts : Bool} (hc : c ∈ msc.clients) (call : SessionCall)
    (hactive : (msc.client c).active = decide (call ≠ .beginSession)) (hs : msc.enter asserts c call = some msc') :
    CountInv msc' := by
  obtain ⟨activeCount, hstatus, rfl⟩ := Option.map_eq_some_iff.1 hs
  have hput := number_put hc MultiCompositor.active { msc.client c with underWay := some call }
  have hcount := h.count
  have hclients := card_clients h.clients
  refine ⟨?_, h.clients⟩
  show activeCount.toNat = (msc.put c { msc.client c with underWay := some call }).number MultiCompositor.active
  rw [hactive] at hput
  cases call with
  | beginSession =>
    have hless := number_active_lt hc hactive
    have hone := updateSessionStatus_true hstatus (by omega)
    have hput : (msc.put c { msc.client c with underWay := some .beginSession }).number MultiCompositor.active + 0 =
        msc.number MultiCompositor.active + 1 := hput
    omega
  | endSession =>
    have hpos := number_active_pos hc hactive
    have hone := updateSessionStatus_false hstatus (by omega)
    have hput : (msc.put c { msc.client c with underWay := some .endSession }).number MultiCompositor.active + 1 =
        msc.number MultiCompositor.active + 0 := hput
    omega
  | destroy =>
    have hpos := number_active_pos hc hactive
    have hone := updateSessionStatus_false hstatus (by omega)
    have hput : (msc.put c { msc.client c with underWay := some .destroy }).number MultiCompositor.active + 1 =
        msc.number MultiCompositor.active + 0 := hput
    omega

theorem CountInv.free (h : CountInv msc) (hactive : (msc.client c).active = false) : CountInv (msc.free c) := by
  refine ⟨h.count.trans ?_, fun hzero => h.clients (Finset.mem_of_mem_erase hzero)⟩
  show (msc.clients.filter fun j => (msc.client j).active = true).card =
    ((msc.clients.erase c).filter fun j => (msc.client j).active = true).card
  rw [Finset.filter_erase, Finset.erase_eq_of_notMem]
  intro hmem
  have htrue := (Finset.mem_filter.1 hmem).2
  rw [hactive] at htrue
  cases htrue

theorem CountInv.create (h : CountInv msc) (hnew : c ∉ msc.clients) (hnull : c ≠ 0) :
    CountInv ({ msc with clients := insert c msc.clients }.put c multiCompositorCreate) := by
  refine ⟨h.count.trans ?_, ?_⟩
  · show (msc.clients.filter fun j => (msc.client j).active = true).card = ((insert c msc.clients).filter fun j =>
      (Function.update msc.client c multiCompositorCreate j).active = true).card
    rw [Finset.filter_insert, Function.update_self, if_neg (by decide)]
    congr 1
    refine Finset.filter_congr fun j hj => ?_
    have hne : j ≠ c := by
      rintro rfl
      exact hnew hj
    rw [Function.update_of_ne hne]
  · show 0 ∉ insert c msc.clients
    exact fun hzero => (Finset.mem_insert.1 hzero).elim (fun heq => hnull heq.symm) h.clients

theorem active_of_idle {mc : MultiCompositor} (h : mc.underWay = none) : mc.active = mc.sessionActive := by
  rw [MultiCompositor.active, h]

theorem sessionStep_countInv {asserts : Bool} {op : SessionOp} (h : CountInv msc)
    (hs : sessionStep asserts msc op = some msc') : CountInv msc' := by
  obtain ⟨hop, hs⟩ := Option.ite_none_right_eq_some.1 hs
  cases op with
  | create c =>
    cases hs
    exact h.create hop.1 hop.2
  | beginSession c =>
    have hs : beginSession msc asserts c = some msc' := hs
    unfold beginSession at hs
    split_ifs at hs with hassert hflag
    · exact h.enter hop.1 .beginSession ((active_of_idle hop.2).trans hflag) hs
    · cases hs
      exact h
  | endSession c =>
    have hs : endSession msc asserts c = some msc' := hs
    unfold endSession at hs
    split_ifs at hs with hassert hflag
    · exact h.enter hop.1 .endSession ((active_of_idle hop.2).trans hflag) hs
    · cases hs
      exact h
  | destroy c =>
    have hs : destroy msc asserts c = some msc' := hs
    unfold destroy at hs
    split_ifs at hs with hflag
    · exact h.enter hop.1 .destroy ((active_of_idle hop.2).trans hflag) hs
    · cases hs
      exact h.free ((active_of_idle hop.2).trans (Bool.eq_false_iff.2 hflag))
  | finish c =>
    have hs : finish msc c = some msc' := hs
    unfold finish at hs
    split at hs
    · cases hs
    · rename_i hcall
      cases hs
      exact h.put_same hop (by rw [MultiCompositor.active, MultiCompositor.active, hcall])
    · rename_i hcall
      cases hs
      exact h.put_same hop (by rw [MultiCompositor.active, MultiCompositor.active, hcall])
    · rename_i hcall
      cases hs
      refine (h.put_same hop (by rw [MultiCompositor.active, MultiCompositor.active, hcall])).free ?_
      show (Function.update msc.client c ⟨false, none⟩ c).active = false
      rw [Function.update_self]
      rfl

end

/-- In every state that any calls of any clients get to, in any interleaving, with assertions or without, the number is
that of the allocated compositors whose session is active, once the calls that are under way return; without such calls
it is that of the flags. -/
theorem activeCount_eq {asserts : Bool} {ops : List SessionOp} {msc : MultiSystemCompositor}
    (hr : Reaches (sessionStep asserts) .create ops msc) :
    msc.activeCount.toNat = (msc.clients.filter fun c => (msc.client c).active = true).card ∧
      ((∀ c ∈ msc.clients, (msc.client c).underWay = none) →
        msc.activeCount.toNat = (msc.clients.filter fun c => (msc.client c).sessionActive = true).card) := by
  have hinv : CountInv msc :=
    inv_of_reaches (fun _ _ _ h hs => sessionStep_countInv h hs) ⟨rfl, Finset.notMem_empty _⟩ hr
  refine ⟨hinv.count, fun hidle => hinv.count.trans ?_⟩
  unfold MultiSystemCompositor.number
  congr 1
  refine Finset.filter_congr fun c hc => ?_
  rw [active_of_idle (hidle c hc)]

/-- Two clients begin their sessions, the first one twice, which also ends it twice; the other is destroyed with its
session running. -/
def twoClients : List SessionOp :=
  [.create 1, .create 2, .beginSession 1, .beginSession 2, .finish 2, .finish 1, .beginSession 1, .endSession 1,
    .finish 1, .endSession 1, .destroy 2, .finish 2]

def afterTwoClients : MultiSystemCompositor := (twoClients.foldlM (sessionStep false) .create).getD .create

theorem activeCount_eq_twoClients :
    afterTwoClients.activeCount.toNat =
        (afterTwoClients.clients.filter fun c => (afterTwoClients.client c).active = true).card ∧
      ((∀ c ∈ afterTwoClients.clients, (afterTwoClients.client c).underWay = none) →
        afterTwoClients.activeCount.toNat =
          (afterTwoClients.clients.filter fun c => (afterTwoClients.client c).sessionActive = true).card) :=
  activeCount_eq (reaches_iff_foldlM.2 (rfl : twoClients.foldlM (sessionStep false) .create = some afterTwoClients))

end AugmentedInsanity.Multi.ActiveCount
