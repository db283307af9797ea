/-
The ids of clients. Each connected client is to be found by the id that it was given. `allocate_id_locked` gives any id
but 0 and those in use, from all 32 bits; `find_client_locked` takes an id above `INT_MAX` for invalid. So clients are
found exactly as long as the generator gives ids that are not (`clientsFound_iff`).
-/
import AugmentedInsanity.Ipc.Server.Frames

namespace AugmentedInsanity.Ipc

open Xrt Tables Runs

/-! ## Accepting -/

/-- `handle_listen`, with what `accept` has returned. -/
def handleListen (s : IpcServer) (ret : Int) (shmOk epollOk : Bool) : IpcServer :=
  if ret < 0 then { s with running := false } else connectAttempt s ret shmOk epollOk

/-- A step of the server whose connections come from `accept`. -/
def listenStep (s : IpcServer) : ServerOp → Option IpcServer
  | .connect ret shmOk epollOk => some (handleListen s ret shmOk epollOk)
  | .disconnect i now => step s (.disconnect i now)
  | .call i call => step s (.call i call)
  | .updateState => step s .updateState

/-! ## The id that is next -/

/-- The ids that are left below the limit are not used up, or those above the generator are and it wraps. -/
def NextIdFits (s : IpcServer) : Prop :=
  (∃ id : UInt32, s.idGenerator < id ∧ id.toNat ≤ INT_MAX ∧ idTaken s id = false) ∨
    ∀ id : UInt32, s.idGenerator < id → idTaken s id = true

theorem allocateIdLoop_first (s : IpcServer) (tries : ℕ) (gen : UInt32) (hne : (allocateIdLoop s tries gen).1 ≠ 0) :
    ∃ k, k < tries ∧ (allocateIdLoop s tries gen).1 = gen + UInt32.ofNat (k + 1) ∧
      idTaken s (allocateIdLoop s tries gen).1 = false ∧
      ∀ j, j < k → gen + UInt32.ofNat (j + 1) = 0 ∨ idTaken s (gen + UInt32.ofNat (j + 1)) = true := by
  induction tries generalizing gen with
  | zero => exact absurd rfl hne
  | succ tries ih =>
    unfold allocateIdLoop at hne ⊢
    by_cases hbad : (gen + 1 = 0 || idTaken s (gen + 1)) = true
    · rw [if_pos hbad] at hne ⊢
      obtain ⟨k, hk, hid, hfree, htried⟩ := ih (gen + 1) hne
      have hnext : ∀ j : ℕ, gen + 1 + UInt32.ofNat (j + 1) = gen + UInt32.ofNat (j + 1 + 1) := fun j => by
        rw [UInt32.add_assoc, UInt32.ofNat_add (j + 1) 1, UInt32.add_comm 1]
        rfl
      refine ⟨k + 1, by omega, by rw [hid, hnext], hfree, fun j hj => ?_⟩
      cases j with
      | zero => simpa using hbad
      | succ j =>
        rw [← hnext]
        exact htried j (by omega)
    · rw [if_neg hbad]
      have hgood : ¬ gen + 1 = 0 ∧ idTaken s (gen + 1) = false := by simpa using hbad
      exact ⟨0, by omega, rfl, hgood.2, fun j hj => absurd hj (Nat.not_lt_zero j)⟩

variable {n : ℕ}

theorem toNat_add_ofNat (gen : UInt32) (hn : n ≤ 34) :
    (gen + UInt32.ofNat n).toNat = if gen.toNat + n < 2 ^ 32 then gen.toNat + n else gen.toNat + n - 2 ^ 32 := by
  have hlt := gen.toNat_lt
  rw [UInt32.toNat_add, UInt32.toNat_ofNat', Nat.mod_eq_of_lt (show n < 2 ^ 32 by omega)]
  split <;> omega

theorem allocateIdLocked_le_iff (s : IpcServer) : (allocateIdLocked s).1.toNat ≤ INT_MAX ↔ NextIdFits s := by
  have hmax : IPC_MAX_CLIENTS = 32 := rfl
  have hint : INT_MAX = 2147483647 := rfl
  obtain ⟨k, hk, hid, hfree, htried⟩ :=
    allocateIdLoop_first s (IPC_MAX_CLIENTS + 2) s.idGenerator (allocateIdLocked_fresh s).1
  change (allocateIdLocked s).1 = _ at hid
  change idTaken s (allocateIdLocked s).1 = false at hfree
  have hnat := toNat_add_ofNat s.idGenerator (show k + 1 ≤ 34 by omega)
  rw [← hid] at hnat
  -- the ids between the generator and the one that is given are taken
  have hbetween : ∀ id : UInt32, s.idGenerator < id → id.toNat < s.idGenerator.toNat + (k + 1) → idTaken s id = true := by
    intro id hgt hlt
    rw [UInt32.lt_iff_toNat_lt] at hgt
    have hsame : s.idGenerator + UInt32.ofNat (id.toNat - s.idGenerator.toNat - 1 + 1) = id := by
      apply UInt32.toNat_inj.mp
      rw [toNat_add_ofNat _ (by omega), if_pos (by have := id.toNat_lt; omega)]
      omega
    rcases htried (id.toNat - s.idGenerator.toNat - 1) (by omega) with hzero | htaken
    · rw [hsame] at hzero
      rw [hzero] at hgt
      exact absurd hgt (Nat.not_lt_zero _)
    · rwa [hsame] at htaken
  by_cases hwrap : s.idGenerator.toNat + (k + 1) < 2 ^ 32
  · rw [if_pos hwrap] at hnat
    have hgt : s.idGenerator < (allocateIdLocked s).1 := by
      rw [UInt32.lt_iff_toNat_lt, hnat]
      omega
    constructor
    · exact fun hle => .inl ⟨_, hgt, hle, hfree⟩
    · rintro (⟨id, hgt', hle, hfree'⟩ | hall)
      · by_contra hnot
        have htaken := hbetween id hgt' (by omega)
        rw [hfree'] at htaken
        cases htaken
      · have htaken := hall _ hgt
        rw [hfree] at htaken
        cases htaken
  · rw [if_neg hwrap] at hnat
    have hlt := s.idGenerator.toNat_lt
    refine iff_of_true (by omega) (.inr fun id hgt => hbetween id hgt ?_)
    have := id.toNat_lt
    omega

/-! ## The handle of a client -/

structure SameHandle (s s' : IpcServer) : Prop where
  id : ∀ i, (s'.client i).clientState.id = (s.client i).clientState.id
  index : ∀ i, (s'.client i).serverThreadIndex = (s.client i).serverThreadIndex
  ipcHandle : ∀ i, (s'.client i).ipcHandle = (s.client i).ipcHandle

variable {s s' : IpcServer}

theorem SameButFlags.sameHandle (h : SameButFlags s s') : SameHandle s s' := by
  refine ⟨h.slots.id, h.slots.index, fun i => ?_⟩
  obtain ⟨cs, -, hi⟩ := h.client i
  rw [hi]

theorem resourceCall_ipcHandle {ics ics' : IpcClientState} {call : ResourceCall} {r : Except XrtResult Unit}
    (h : handleResourceCall ics call = .ok (r, ics')) : ics'.ipcHandle = ics.ipcHandle := by
  rcases resourceCall_cases h with ⟨hsame, -⟩ | ⟨_, _, _, _, -, -, rfl⟩ | ⟨-, -, rfl⟩
  · exact hsame.ipcHandle
  · rfl
  · rfl

theorem setClient_ipcHandle (s : IpcServer) (i j : Fin IPC_MAX_CLIENTS) {ics : IpcClientState}
    (h : ics.ipcHandle = (s.client i).ipcHandle) : ((s.setClient i ics).client j).ipcHandle = (s.client j).ipcHandle := by
  by_cases hj : j = i
  · subst hj
    rw [IpcServer.client_setClient_self, h]
  · rw [IpcServer.client_setClient_ne s _ hj]

variable {i : Fin IPC_MAX_CLIENTS}

theorem handleCall_sameHandle {call : ClientCall} (h : handleCall s i call = .ok s') : SameHandle s s' := by
  have hslots := handleCall_slots h
  refine ⟨hslots.id, hslots.index, fun j => ?_⟩
  rcases handleCall_cases h with ⟨c, r, ics, -, hc, rfl⟩ | ⟨c, xso, ics, -, hc, rfl⟩ | ⟨-, hsame⟩
  · exact setClient_ipcHandle s i j (resourceCall_ipcHandle hc)
  · exact setClient_ipcHandle s i j (spaceCall_session hc).ipcHandle
  · exact hsame.sameHandle.ipcHandle j

/-! ## The invariant -/

def ClientsFound (s : IpcServer) : Prop :=
  ∀ i, (s.client i).connected = true → findClientLocked s (s.client i).clientState.id = some i

structure IdsInv (s : IpcServer) : Prop where
  distinct : ∀ i j, (s.client i).clientState.id ≠ 0 → (s.client j).clientState.id = (s.client i).clientState.id → j = i
  connected : ∀ i, (s.client i).connected = true → (s.client i).clientState.id ≠ 0 ∧
    (s.client i).clientState.id.toNat ≤ INT_MAX ∧ 0 ≤ (s.client i).ipcHandle

theorem findClientLocked_iff (hne : (s.client i).clientState.id ≠ 0) (hhandle : 0 ≤ (s.client i).ipcHandle)
    (hdistinct : ∀ j, (s.client j).clientState.id = (s.client i).clientState.id → j = i) :
    findClientLocked s (s.client i).clientState.id = some i ↔ (s.client i).clientState.id.toNat ≤ INT_MAX := by
  obtain ⟨j, hj⟩ := exists_firstIndex (p := fun j => (s.client j).clientState.id == (s.client i).clientState.id)
    (i := i) (by simp)
  have hji : j = i := hdistinct j (by simpa using firstIndex_spec hj)
  subst hji
  unfold findClientLocked
  rw [hj]
  by_cases hle : (s.client j).clientState.id.toNat ≤ INT_MAX
  · have hvalid : ((s.client j).clientState.id = 0 || decide (INT_MAX < (s.client j).clientState.id.toNat)) = false := by
      simp only [Bool.or_eq_false_iff, decide_eq_false_iff_not, Nat.not_lt]
      exact ⟨hne, hle⟩
    rw [hvalid]
    simp only [Bool.false_eq_true, if_false, if_neg (Int.not_lt.mpr hhandle), hle]
  · have hinvalid : ((s.client j).clientState.id = 0 || decide (INT_MAX < (s.client j).clientState.id.toNat)) = true := by
      simp only [Bool.or_eq_true, decide_eq_true_eq]
      exact .inr (Nat.not_le.mp hle)
    rw [hinvalid]
    simp [hle]

theorem IdsInv.found (h : IdsInv s) : ClientsFound s := fun i hi => by
  obtain ⟨hne, hle, hhandle⟩ := h.connected i hi
  exact (findClientLocked_iff hne hhandle fun j => h.distinct i j hne).mpr hle

theorem SameHandle.idsInv (h : SameHandle s s') (hinv : IdsInv s) : IdsInv s' := by
  refine ⟨fun i j hne heq => ?_, fun i hi => ?_⟩
  · rw [h.id] at hne
    rw [h.id, h.id] at heq
    exact hinv.distinct i j hne heq
  · rw [h.id, h.ipcHandle]
    unfold IpcClientState.connected at hi
    rw [h.index] at hi
    exact hinv.connected i hi

theorem ShutDown.idsInv {now : UInt64} (h : ShutDown s s' i now) (hinv : IdsInv s) : IdsInv s' := by
  obtain ⟨cs, hzero, hself⟩ := h.client_self
  have hid : (s'.client i).clientState.id = 0 := by rw [hself]; exact hzero
  have hother : ∀ j, j ≠ i → (s'.client j).clientState.id = (s.client j).clientState.id ∧
      (s'.client j).ipcHandle = (s.client j).ipcHandle ∧ (s'.client j).connected = (s.client j).connected := by
    intro j hj
    obtain ⟨cs', hcs', hclient⟩ := h.client_other hj
    rw [hclient]
    exact ⟨hcs', rfl, rfl⟩
  refine ⟨fun j k hne heq => ?_, fun j hj => ?_⟩
  · have hji : j ≠ i := fun hji => hne (hji ▸ hid)
    have hki : k ≠ i := fun hki => hne (by rw [← heq, hki, hid])
    rw [(hother j hji).1] at hne heq
    rw [(hother k hki).1] at heq
    exact hinv.distinct j k hne heq
  · have hji : j ≠ i := by
      rintro rfl
      rw [hself] at hj
      cases hj
    rw [(hother j hji).1, (hother j hji).2.1]
    exact hinv.connected j ((hother j hji).2.2 ▸ hj)

/-! ## Steps -/

/-- A connection that gets a slot gets an id that is not above the limit. -/
def GivesValidId (s : IpcServer) : ServerOp → Prop
  | .connect ret _ _ => 0 ≤ ret → (∃ i, slotUsable s i) → NextIdFits s
  | _ => True

def StepFinds (s : IpcServer) (op : ServerOp) : Prop := ∀ s', listenStep s op = some s' → ClientsFound s'

variable {j : Fin IPC_MAX_CLIENTS} {ipcHandle : Int} {thread : OsThread} {ism : Option IpcSharedMemory}

theorem withClient_id_ne (hj : j ≠ i) : ((withClient s i ipcHandle thread ism).client j).clientState.id ≠
    (allocateIdLocked s).1 := by
  rw [withClient_client_ne s _ _ _ hj]
  exact (allocateIdLocked_fresh s).2 j

theorem findClientLocked_withClient_iff (hhandle : 0 ≤ ipcHandle) :
    findClientLocked (withClient s i ipcHandle thread ism) (allocateIdLocked s).1 = some i ↔ NextIdFits s := by
  have hself := withClient_client_self s i ipcHandle thread ism
  have hid : ((withClient s i ipcHandle thread ism).client i).clientState.id = (allocateIdLocked s).1 := by
    rw [hself]
    rfl
  rw [← allocateIdLocked_le_iff, ← hid]
  refine findClientLocked_iff ?_ ?_ fun j hj => ?_
  · rw [hid]
    exact (allocateIdLocked_fresh s).1
  · rw [hself]
    exact hhandle
  · by_contra hji
    exact withClient_id_ne hji (hj.trans hid)

theorem withClient_idsInv (hinv : IdsInv s) (hhandle : 0 ≤ ipcHandle) (hfits : NextIdFits s) :
    IdsInv (withClient s i ipcHandle thread ism) := by
  have hself := withClient_client_self s i ipcHandle thread ism
  have hid : ((withClient s i ipcHandle thread ism).client i).clientState.id = (allocateIdLocked s).1 := by
    rw [hself]
    rfl
  have hother : ∀ j, j ≠ i → (withClient s i ipcHandle thread ism).client j = s.client j := fun j hj =>
    withClient_client_ne s _ _ _ hj
  refine ⟨fun j k hne heq => ?_, fun j hj => ?_⟩
  · by_cases hji : j = i
    · by_cases hki : k = i
      · rw [hji, hki]
      · rw [hji, hid] at heq
        exact absurd heq (withClient_id_ne hki)
    · by_cases hki : k = i
      · rw [hki, hid] at heq
        exact absurd heq.symm (withClient_id_ne hji)
      · rw [hother j hji] at hne heq
        rw [hother k hki] at heq
        exact hinv.distinct j k hne heq
  · by_cases hji : j = i
    · subst hji
      rw [hid]
      refine ⟨(allocateIdLocked_fresh s).1, (allocateIdLocked_le_iff s).mpr hfits, ?_⟩
      rw [hself]
      exact hhandle
    · rw [hother j hji] at hj ⊢
      exact hinv.connected j hj

theorem countAttempt_idsInv (hinv : IdsInv s) : IdsInv (countAttempt s) := ⟨hinv.distinct, hinv.connected⟩

theorem listenStep_idsInv {op : ServerOp} (hinv : IdsInv s) (hfits : GivesValidId s op)
    (h : listenStep s op = some s') : IdsInv s' := by
  cases op with
  | connect ret shmOk epollOk =>
    obtain rfl := Option.some.inj h
    unfold handleListen
    by_cases hret : ret < 0
    · rw [if_pos hret]
      exact ⟨hinv.distinct, hinv.connected⟩
    · rw [if_neg hret]
      by_cases hu : ∃ i, slotUsable s i
      · obtain ⟨i, hi⟩ := hu
        rw [connectAttempt_taken hi]
        exact withClient_idsInv hinv (Int.not_lt.mp hret) (hfits (Int.not_lt.mp hret) ⟨i, hi⟩)
      · rw [connectAttempt_refused (not_exists.mp hu)]
        exact countAttempt_idsInv hinv
  | disconnect i now =>
    simp only [listenStep, step] at h
    split at h
    · obtain rfl := Option.some.inj h
      exact (commonShutdown_spec s i now).idsInv hinv
    · cases h
  | call i call =>
    simp only [listenStep, step] at h
    split at h
    · cases hc : handleCall s i call with
      | error f => rw [hc] at h; cases h
      | ok s'' =>
        rw [hc] at h
        obtain rfl : s'' = s' := Option.some.inj h
        exact (handleCall_sameHandle hc).idsInv hinv
    · cases h
  | updateState =>
    obtain rfl := Option.some.inj h
    exact (updateServerStateLocked_same s).sameHandle.idsInv hinv

theorem stepFinds_iff (hinv : IdsInv s) (op : ServerOp) : StepFinds s op ↔ GivesValidId s op := by
  constructor
  · intro hfinds
    cases op with
    | connect ret shmOk epollOk =>
      rintro hret ⟨i, hi⟩
      have hfound := hfinds _ rfl i
      unfold handleListen at hfound
      rw [if_neg (Int.not_lt.mpr hret), connectAttempt_taken hi, withClient_client_self] at hfound
      exact (findClientLocked_withClient_iff hret).mp (hfound rfl)
    | disconnect i now => trivial
    | call i call => trivial
    | updateState => trivial
  · exact fun hfits s' h => (listenStep_idsInv hinv hfits h).found

/-! ## Runs -/

theorem initServerState_idsInv (xso : XrtSpaceOverseer) (exitOnDisconnect exitWhenIdle : Bool) :
    IdsInv (initServerState xso exitOnDisconnect exitWhenIdle) :=
  ⟨fun _ _ hne => absurd rfl hne, fun _ h => by cases h⟩

/-- An id is always given, and it is neither 0 nor in use; its client is found exactly if it is not above the limit, and
so are all clients after each step of a run. -/
theorem clientsFound_iff (xso : XrtSpaceOverseer) (exitOnDisconnect exitWhenIdle : Bool) (ops : List ServerOp) :
    (∀ s, (allocateIdLocked s).1 ≠ 0 ∧ (∀ i, (s.client i).clientState.id ≠ (allocateIdLocked s).1) ∧
      ∀ i ipcHandle thread ism, 0 ≤ ipcHandle →
        (findClientLocked (withClient s i ipcHandle thread ism) (allocateIdLocked s).1 = some i ↔ NextIdFits s)) ∧
    (Along listenStep StepFinds (initServerState xso exitOnDisconnect exitWhenIdle) ops ↔
      Along listenStep GivesValidId (initServerState xso exitOnDisconnect exitWhenIdle) ops) := by
  refine ⟨fun s => ⟨(allocateIdLocked_fresh s).1, (allocateIdLocked_fresh s).2,
    fun i ipcHandle thread ism hhandle => findClientLocked_withClient_iff hhandle⟩, ?_⟩
  exact along_iff (fun _ op hinv => stepFinds_iff hinv op) (fun _ _ _ hinv hfits h => listenStep_idsInv hinv hfits h)
    (initServerState_idsInv xso exitOnDisconnect exitWhenIdle) ops

/-! ### Very many clients -/

def clientsInTurn : ℕ → List ServerOp
  | 0 => []
  | n + 1 => clientsInTurn n ++ [.connect 5 true true, .disconnect 0 0]

structure AllGone (n : ℕ) (s : IpcServer) : Prop where
  idGenerator : s.idGenerator = UInt32.ofNat n
  ids : ∀ i, (s.client i).clientState.id = 0
  free : ∀ i, (s.client i).connected = false
  state : (s.threads 0).state = .ready ∨ (s.threads 0).state = .stopping

theorem AllGone.slotUsable (h : AllGone n s) : slotUsable s 0 := by
  refine ⟨?_, h.state⟩
  have hall : (fun i => !(s.client i).connected) = fun _ => true := funext fun i => by rw [h.free i]; rfl
  unfold freeSlot
  rw [hall]
  decide

theorem AllGone.allocate (h : AllGone n s) (hn : n + 1 < 2 ^ 32) :
    allocateIdLocked s = (UInt32.ofNat (n + 1), UInt32.ofNat (n + 1)) := by
  have hnext : s.idGenerator + 1 = UInt32.ofNat (n + 1) := by
    rw [h.idGenerator, UInt32.ofNat_add n 1]
    rfl
  have hne : UInt32.ofNat (n + 1) ≠ 0 := fun hzero => by
    have := congrArg UInt32.toNat hzero
    rw [UInt32.toNat_ofNat', Nat.mod_eq_of_lt hn] at this
    exact absurd this (Nat.succ_ne_zero n)
  have hfree : idTaken s (UInt32.ofNat (n + 1)) = false := by
    rw [Bool.eq_false_iff]
    intro htaken
    obtain ⟨i, hi⟩ := idTaken_iff.mp htaken
    exact hne (hi.symm.trans (h.ids i))
  unfold allocateIdLocked allocateIdLoop
  rw [hnext, hfree]
  simp only [hne, decide_false, Bool.or_false, Bool.false_eq_true, if_false]

theorem AllGone.round (h : AllGone n s) (hn : n + 1 < 2 ^ 32) :
    ∃ s', Reaches listenStep s [.connect 5 true true, .disconnect 0 0] s' ∧ AllGone (n + 1) s' := by
  have hconnect : listenStep s (.connect 5 true true) = some (withClient s 0 5 .running (some .zero)) := by
    show some (handleListen s 5 true true) = _
    unfold handleListen
    rw [if_neg (by decide), connectAttempt_taken h.slotUsable]
    rfl
  have hshut := commonShutdown_spec (withClient s 0 5 .running (some .zero)) 0 0
  have hlive : ((withClient s 0 5 .running (some .zero)).threads 0).live = true := by
    rw [withClient_threads_self]
    rfl
  have hdisconnect : listenStep (withClient s 0 5 .running (some .zero)) (.disconnect 0 0) =
      some (commonShutdown (withClient s 0 5 .running (some .zero)) 0 0) := by
    simp only [listenStep, step, hlive, if_true]
  refine ⟨_, ⟨_, hconnect, _, hdisconnect, rfl⟩, ?_⟩
  obtain ⟨cs, hzero, hself⟩ := hshut.client_self
  obtain ⟨_, -, hthread⟩ := hshut.self
  refine ⟨?_, fun j => ?_, fun j => ?_, .inr (by rw [hthread])⟩
  · rw [hshut.idGenerator]
    exact congrArg Prod.snd (h.allocate hn)
  · by_cases hj : j = 0
    · subst hj
      rw [hself]
      exact hzero
    · obtain ⟨cs', hcs', hclient⟩ := hshut.client_other hj
      rw [hclient]
      refine hcs'.trans ?_
      rw [withClient_client_ne _ _ _ _ hj]
      exact h.ids j
  · by_cases hj : j = 0
    · subst hj
      rw [hself]
      rfl
    · obtain ⟨cs', hcs', hclient⟩ := hshut.client_other hj
      rw [hclient, withClient_client_ne _ _ _ _ hj]
      exact h.free j

theorem clientsInTurn_reaches (h : AllGone 0 s) (hn : n < 2 ^ 32) :
    ∃ s', Reaches listenStep s (clientsInTurn n) s' ∧ AllGone n s' := by
  induction n with
  | zero => exact ⟨s, rfl, h⟩
  | succ n ih =>
    obtain ⟨s₁, hreach, hgone⟩ := ih (by omega)
    obtain ⟨s₂, hround, hgone'⟩ := hgone.round hn
    exact ⟨s₂, reaches_append.mpr ⟨s₁, hreach, hround⟩, hgone'⟩

theorem nextClient_notFound (hn : n + 1 < 2 ^ 32) (hlarge : INT_MAX ≤ n) :
    ∃ s, Reaches listenStep (initServerState .rootOnly false true) (clientsInTurn n ++ [.connect 5 true true]) s ∧
      (s.client 0).connected = true ∧ (s.client 0).clientState.id.toNat = n + 1 ∧
      findClientLocked s (s.client 0).clientState.id = none := by
  have hinit : AllGone 0 (initServerState .rootOnly false true) := ⟨rfl, fun _ => rfl, fun _ => rfl, .inl rfl⟩
  obtain ⟨s, hreach, hgone⟩ := clientsInTurn_reaches hinit (n := n) (by omega)
  have hconnect : listenStep s (.connect 5 true true) = some (withClient s 0 5 .running (some .zero)) := by
    show some (handleListen s 5 true true) = _
    unfold handleListen
    rw [if_neg (by decide), connectAttempt_taken hgone.slotUsable]
    rfl
  have hself := withClient_client_self s 0 5 .running (some .zero)
  have hnew : ((withClient s 0 5 .running (some .zero)).client 0).clientState.id.toNat = n + 1 := by
    rw [hself]
    show (allocateIdLocked s).1.toNat = n + 1
    rw [hgone.allocate hn, UInt32.toNat_ofNat', Nat.mod_eq_of_lt hn]
  refine ⟨_, reaches_snoc.mpr ⟨s, hreach, hconnect⟩, ?_, hnew, ?_⟩
  · rw [hself]
    rfl
  · unfold findClientLocked
    refine if_pos ?_
    rw [Bool.or_eq_true, decide_eq_true_eq, decide_eq_true_eq, hnew]
    exact .inr (Nat.lt_succ_of_le hlarge)

/-- After `INT_MAX` clients that came and went, the next one is connected, and not found by its id. -/
theorem lateClient_notFound : ∃ s, Reaches listenStep (initServerState .rootOnly false true)
    (clientsInTurn INT_MAX ++ [.connect 5 true true]) s ∧ (s.client 0).connected = true ∧
      (s.client 0).clientState.id.toNat = INT_MAX + 1 ∧ findClientLocked s (s.client 0).clientState.id = none := by
  have hint : INT_MAX = 2147483647 := rfl
  exact nextClient_notFound (by omega) (Nat.le_refl _)

end AugmentedInsanity.Ipc
