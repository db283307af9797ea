/-
The sessions of a system (`b_system.c`, `b_session.c`): an array of the sessions that are to get the events of the
system, each with a queue of its own. A session puts itself into the array when it is created, and out of it when it
is destroyed; but a create that fails afterwards does not destroy it. The array holds the sessions that were handed
out, and each gets every event once and in order, exactly as long as no create fails that late (`SystemInv.right_iff`).
-/
import Mathlib.Data.List.Nodup
import AugmentedInsanity.Lib.CellArrays
import AugmentedInsanity.Lib.Runs
import AugmentedInsanity.Xrt.Defines

namespace AugmentedInsanity.Base

open CellArrays Runs Xrt

/-! ## Sessions -/

/-- `union xrt_session_event`; `P` is what the events of the compositors carry. -/
inductive XrtSessionEvent (P : Type)
  | none
  | requestExit
  | other (payload : P)
  deriving DecidableEq

/-- `struct b_session`: the events that are not polled yet. -/
structure BSession (P : Type) where
  events : List (XrtSessionEvent P)

variable {P : Type}

abbrev Sessions (P : Type) := ℕ → Option (BSession P)

def bSessionEventPush (bs : BSession P) (xse : XrtSessionEvent P) : BSession P := ⟨bs.events ++ [xse]⟩

def bSessionEventPop (bs : BSession P) : XrtSessionEvent P × BSession P :=
  match bs.events with
  | [] => (.none, bs)
  | xse :: rest => (xse, ⟨rest⟩)

/-- A push to the sink of the session at an address, or `none` if there is none. -/
def pushEvent (sessions : Sessions P) (xses : ℕ) (xse : XrtSessionEvent P) : Option (Sessions P) :=
  (sessions xses).map fun bs => Function.update sessions xses (some (bSessionEventPush bs xse))

/-! ## The system -/

/-- `struct b_system_session_pair`; a session and its sink have one address. -/
structure BSystemSessionPair where
  xs : ℕ
  xses : ℕ
  deriving DecidableEq

def BSystemSessionPair.zero : BSystemSessionPair := ⟨0, 0⟩

structure BSystem where
  count : ℕ
  capacity : ℕ
  pairs : ℕ → BSystemSessionPair
  hasXsysc : Bool

def bSystemCreate : BSystem := ⟨0, 2, fun _ => .zero, false⟩

def bSystemAddSession (bsys : BSystem) (xs xses : ℕ) : BSystem :=
  let newCount := bsys.count + 1
  let capacity := if newCount > bsys.capacity then bsys.capacity * 2 else bsys.capacity
  { bsys with capacity := capacity, pairs := Function.update bsys.pairs bsys.count ⟨xs, xses⟩, count := newCount }

def bSystemRemoveSession (bsys : BSystem) (xs : ℕ) : BSystem :=
  let count := bsys.count
  let dst := searchFrom (fun i => decide ((bsys.pairs i).xs = xs)) 0 count
  if dst ≥ count then bsys
  else
    let pairs := if dst < count - 1 then moveDown bsys.pairs dst (count - 1 - dst) else bsys.pairs
    { bsys with pairs := Function.update pairs (count - 1) .zero, count := count - 1 }

def bSystemBroadcastEvent (bsys : BSystem) (sessions : Sessions P) (xse : XrtSessionEvent P) : Option (Sessions P) :=
  (List.range bsys.count).foldlM (fun sessions i => pushEvent sessions (bsys.pairs i).xses xse) sessions

def bSystemSetSystemCompositor (bsys : BSystem) : BSystem := { bsys with hasXsysc := true }

/-- `b_session_create`, at an address that the allocator gives. -/
def bSessionCreate (bsys : BSystem) (sessions : Sessions P) (xs : ℕ) : BSystem × Sessions P :=
  (bSystemAddSession bsys xs xs, Function.update sessions xs (some ⟨[]⟩))

def bSessionDestroy (bsys : BSystem) (sessions : Sessions P) (xs : ℕ) : BSystem × Sessions P :=
  (bSystemRemoveSession bsys xs, Function.update sessions xs none)

/-- `create_session`. A native compositor may be asked for; `native` is then what its create gives. -/
def createSession (bsys : BSystem) (sessions : Sessions P) (xs : ℕ) (native : Option XrtResult) :
    XrtResult × BSystem × Sessions P :=
  match native with
  | none => (.success, bSessionCreate bsys sessions xs)
  | some xret =>
    if bsys.hasXsysc = false then (.errorCompositorNotSupported, bsys, sessions)
    -- on an error the session is not destroyed
    else (xret, bSessionCreate bsys sessions xs)

/-! ## Runs -/

/-- The system and its sessions, with the sessions that were handed out and not destroyed, the oldest first, what each
of them was to be told, and what was polled from it. -/
structure SystemRun (P : Type) where
  bsys : BSystem
  sessions : Sessions P
  live : List ℕ
  told : ℕ → List (XrtSessionEvent P)
  polled : ℕ → List (XrtSessionEvent P)

def SystemRun.create : SystemRun P := ⟨bSystemCreate, fun _ => none, [], fun _ => [], fun _ => []⟩

/-- A call on the system or on one of its sessions; `push` is one of a session's compositor. -/
inductive SystemOp (P : Type)
  | setSystemCompositor
  | createSession (xs : ℕ) (native : Option XrtResult)
  | destroySession (xs : ℕ)
  | broadcast (xse : XrtSessionEvent P)
  | push (xs : ℕ) (xse : XrtSessionEvent P)
  | requestExit (xs : ℕ)
  | pollEvents (xs : ℕ)

/-- A session gets an address that is free, and only one that was handed out is called. -/
def Enabled (r : SystemRun P) : SystemOp P → Prop
  | .setSystemCompositor => r.bsys.hasXsysc = false
  | .createSession xs _ => (r.sessions xs).isNone = true
  | .broadcast _ => True
  | .destroySession xs | .push xs _ | .requestExit xs | .pollEvents xs => xs ∈ r.live

instance (r : SystemRun P) : ∀ op, Decidable (Enabled r op)
  | .setSystemCompositor => inferInstanceAs (Decidable (_ = _))
  | .createSession _ _ => inferInstanceAs (Decidable (_ = _))
  | .broadcast _ => .isTrue trivial
  | .destroySession _ => inferInstanceAs (Decidable (_ ∈ _))
  | .push _ _ => inferInstanceAs (Decidable (_ ∈ _))
  | .requestExit _ => inferInstanceAs (Decidable (_ ∈ _))
  | .pollEvents _ => inferInstanceAs (Decidable (_ ∈ _))

def SystemRun.tell (r : SystemRun P) (who : List ℕ) (xse : XrtSessionEvent P) : ℕ → List (XrtSessionEvent P) :=
  fun xs => if xs ∈ who then r.told xs ++ [xse] else r.told xs

/-- What a call does, or `none` where it uses a session that is not there. -/
def SystemRun.call (r : SystemRun P) : SystemOp P → Option (SystemRun P)
  | .setSystemCompositor => some { r with bsys := bSystemSetSystemCompositor r.bsys }
  | .createSession xs native =>
    let (xret, bsys, sessions) := createSession r.bsys r.sessions xs native
    some ⟨bsys, sessions, if xret = .success then r.live ++ [xs] else r.live, Function.update r.told xs [],
      Function.update r.polled xs []⟩
  | .destroySession xs =>
    let (bsys, sessions) := bSessionDestroy r.bsys r.sessions xs
    some { r with bsys := bsys, sessions := sessions, live := r.live.erase xs }
  | .broadcast xse =>
    (bSystemBroadcastEvent r.bsys r.sessions xse).map fun sessions =>
      { r with sessions := sessions, told := r.tell r.live xse }
  | .push xs xse =>
    (pushEvent r.sessions xs xse).map fun sessions => { r with sessions := sessions, told := r.tell [xs] xse }
  | .requestExit xs =>
    (pushEvent r.sessions xs .requestExit).map fun sessions =>
      { r with sessions := sessions, told := r.tell [xs] .requestExit }
  | .pollEvents xs =>
    (r.sessions xs).map fun bs =>
      let (xse, bs') := bSessionEventPop bs
      { r with
        sessions := Function.update r.sessions xs (some bs')
        polled := if bs.events = [] then r.polled else Function.update r.polled xs (r.polled xs ++ [xse]) }

def systemStep (r : SystemRun P) (op : SystemOp P) : Option (SystemRun P) := if Enabled r op then r.call op else none

variable {bsys : BSystem}

theorem createSession_refused (h : bsys.hasXsysc = false) (sessions : Sessions P) (xs : ℕ) (xret : XrtResult) :
    createSession bsys sessions xs (some xret) = (.errorCompositorNotSupported, bsys, sessions) := if_pos h

theorem createSession_registered (h : bsys.hasXsysc = true) (sessions : Sessions P) (xs : ℕ) (xret : XrtResult) :
    createSession bsys sessions xs (some xret) = (xret, bSessionCreate bsys sessions xs) :=
  if_neg (by simp [h])

theorem call_createSession {r : SystemRun P} {xs : ℕ} {native : Option XrtResult} {xret : XrtResult}
    {sessions : Sessions P} (h : createSession r.bsys r.sessions xs native = (xret, bsys, sessions)) :
    r.call (.createSession xs native) = some ⟨bsys, sessions, if xret = .success then r.live ++ [xs] else r.live,
      Function.update r.told xs [], Function.update r.polled xs []⟩ := by
  rw [SystemRun.call, h]

/-! ## The array -/

def listed (bsys : BSystem) : List ℕ := (contents bsys.pairs bsys.count).map (·.xs)

theorem listed_addSession (bsys : BSystem) (xs xses : ℕ) :
    listed (bSystemAddSession bsys xs xses) = listed bsys ++ [xs] := by
  simp only [listed, bSystemAddSession, contents_update, List.map_append, List.map_cons, List.map_nil]

theorem contents_removeSession (bsys : BSystem) (xs : ℕ) :
    contents (bSystemRemoveSession bsys xs).pairs (bSystemRemoveSession bsys xs).count =
      (contents bsys.pairs bsys.count).eraseP fun pair => decide (pair.xs = xs) := by
  obtain ⟨hbefore, -, hfound⟩ := searchFrom_spec (fun i => decide ((bsys.pairs i).xs = xs)) 0 bsys.count
  unfold bSystemRemoveSession
  dsimp only
  split
  · rename_i hnone
    refine (List.eraseP_of_forall_not fun pair hpair => ?_).symm
    obtain ⟨i, hi, rfl⟩ := mem_contents.1 hpair
    rw [hbefore i (Nat.zero_le i) (by omega)]
    exact Bool.false_ne_true
  · rename_i hsome
    have hk := not_le.1 hsome
    refine Eq.trans (contents_congr fun i hi => Function.update_of_ne hi.ne _ _) ?_
    refine contents_removed ?_ hk (hfound (by omega)) fun i hi => hbefore i (Nat.zero_le i) hi
    split
    · exact moveDown_movedDown _ hk
    -- the last session goes, and no cell moves
    · exact ⟨fun _ _ => rfl, fun i hi hlt => by omega⟩

theorem listed_removeSession (bsys : BSystem) (xs : ℕ) :
    listed (bSystemRemoveSession bsys xs) = (listed bsys).erase xs := by
  unfold listed
  rw [contents_removeSession, List.erase_eq_eraseP', List.eraseP_map]
  congr 2

theorem removeSession_count_le (bsys : BSystem) (xs : ℕ) :
    (bSystemRemoveSession bsys xs).count ≤ bsys.count ∧ (bSystemRemoveSession bsys xs).capacity = bsys.capacity := by
  unfold bSystemRemoveSession
  dsimp only
  split
  · exact ⟨le_rfl, rfl⟩
  · exact ⟨Nat.sub_le _ _, rfl⟩

/-! ## Events -/

theorem foldlM_pushEvent {l : List ℕ} (hnodup : l.Nodup) (xse : XrtSessionEvent P) {sessions : Sessions P}
    (hthere : ∀ xs ∈ l, ∃ bs, sessions xs = some bs) :
    ∃ sessions', l.foldlM (fun sessions xs => pushEvent sessions xs xse) sessions = some sessions' ∧
      ∀ xs, sessions' xs = if xs ∈ l then (sessions xs).map (bSessionEventPush · xse) else sessions xs := by
  induction l generalizing sessions with
  | nil => exact ⟨sessions, rfl, fun xs => by simp⟩
  | cons x l ih =>
    obtain ⟨hx, hnodup⟩ := List.nodup_cons.1 hnodup
    obtain ⟨bs, hbs⟩ := hthere x (List.mem_cons_self ..)
    have hpush : pushEvent sessions x xse = some (Function.update sessions x (some (bSessionEventPush bs xse))) := by
      rw [pushEvent, hbs]
      rfl
    have hrest : ∀ xs ∈ l, ∃ bs', Function.update sessions x (some (bSessionEventPush bs xse)) xs = some bs' := by
      intro xs hxs
      have hne : xs ≠ x := by
        rintro rfl
        exact hx hxs
      rw [Function.update_of_ne hne]
      exact hthere xs (List.mem_cons_of_mem _ hxs)
    obtain ⟨sessions', hfold, hall⟩ := ih hnodup hrest
    refine ⟨sessions', ?_, fun xs => ?_⟩
    · rw [List.foldlM_cons, hpush]
      exact hfold
    · rw [hall xs]
      by_cases hxs : xs = x
      · subst hxs
        rw [if_neg hx, if_pos (List.mem_cons_self ..), Function.update_self, hbs]
        rfl
      · simp only [List.mem_cons, hxs, false_or, Function.update_of_ne hxs]

theorem broadcast_eq (hpaired : ∀ pair ∈ contents bsys.pairs bsys.count, pair.xses = pair.xs) (sessions : Sessions P)
    (xse : XrtSessionEvent P) :
    bSystemBroadcastEvent bsys sessions xse =
      (listed bsys).foldlM (fun sessions xs => pushEvent sessions xs xse) sessions := by
  have hsinks : listed bsys = (List.range bsys.count).map fun i => (bsys.pairs i).xses := by
    unfold listed contents
    rw [List.map_map]
    refine List.map_congr_left fun i hi => ?_
    exact (hpaired _ (List.mem_map.2 ⟨i, hi, rfl⟩)).symm
  rw [hsinks, List.foldlM_map]
  rfl

/-! ## What is to hold -/

/-- The array holds the sessions that were handed out, within its capacity, and each of them is told everything that it
was to be told, in order: what is polled, and then what is in its queue. -/
structure Kept (r : SystemRun P) : Prop where
  listed : listed r.bsys = r.live
  nodup : r.live.Nodup
  inBounds : r.bsys.count ≤ r.bsys.capacity
  told : ∀ xs ∈ r.live, ∃ bs, r.sessions xs = some bs ∧ r.polled xs ++ bs.events = r.told xs

def createResult (r : SystemRun P) : SystemOp P → Option XrtResult
  | .createSession xs native => some (createSession r.bsys r.sessions xs native).1
  | _ => none

/-- What is to hold of a call: it uses no session that is not there, and a create that fails leaves the array. -/
def SessionsRight (r : SystemRun P) (op : SystemOp P) : Prop :=
  Enabled r op → ∃ r', r.call op = some r' ∧ Kept r' ∧
    ∀ xret, createResult r op = some xret → xret ≠ .success → listed r'.bsys = listed r.bsys

/-- A native compositor that is asked for is created, if there is a system compositor to do it. -/
def CompositorCreated (r : SystemRun P) : SystemOp P → Prop
  | .createSession xs (some xret) =>
    Enabled r (.createSession xs (some xret)) → r.bsys.hasXsysc = true → xret = .success
  | _ => True

structure SystemInv (r : SystemRun P) : Prop extends Kept r where
  paired : ∀ pair ∈ contents r.bsys.pairs r.bsys.count, pair.xses = pair.xs
  capacity_pos : 0 < r.bsys.capacity

namespace SystemInv

variable {r : SystemRun P}

theorem register (h : SystemInv r) {xs : ℕ} (hfree : r.sessions xs = none) :
    SystemInv ⟨bSystemAddSession r.bsys xs xs, Function.update r.sessions xs (some ⟨[]⟩), r.live ++ [xs],
      Function.update r.told xs [], Function.update r.polled xs []⟩ := by
  have hnew : xs ∉ r.live := by
    intro hmem
    obtain ⟨bs, hbs, -⟩ := h.told xs hmem
    rw [hfree] at hbs
    cases hbs
  refine ⟨⟨?_, ?_, ?_, ?_⟩, ?_, ?_⟩
  · rw [listed_addSession, h.listed]
  · exact List.nodup_append.2 ⟨h.nodup, List.nodup_singleton xs, fun a ha b hb heq => hnew (by simp_all)⟩
  · have hroom := h.inBounds
    have hpos := h.capacity_pos
    simp only [bSystemAddSession]
    split <;> omega
  · intro x hx
    dsimp only
    by_cases hxs : x = xs
    · subst hxs
      rw [Function.update_self, Function.update_self, Function.update_self]
      exact ⟨_, rfl, rfl⟩
    · rw [Function.update_of_ne hxs, Function.update_of_ne hxs, Function.update_of_ne hxs]
      refine h.told x ((List.mem_append.1 hx).resolve_right fun hmem => hxs (List.mem_singleton.1 hmem))
  · intro pair hpair
    have hpair : pair ∈ contents r.bsys.pairs r.bsys.count ++ [⟨xs, xs⟩] := by
      rw [← contents_update]
      exact hpair
    rcases List.mem_append.1 hpair with hold | hlast
    · exact h.paired pair hold
    · rw [List.mem_singleton.1 hlast]
  · have hpos := h.capacity_pos
    simp only [bSystemAddSession]
    split <;> omega

theorem refuse (h : SystemInv r) (xs : ℕ) (hfree : r.sessions xs = none) :
    SystemInv { r with told := Function.update r.told xs [], polled := Function.update r.polled xs [] } := by
  refine ⟨⟨h.listed, h.nodup, h.inBounds, fun x hx => ?_⟩, h.paired, h.capacity_pos⟩
  have hne : x ≠ xs := by
    rintro rfl
    obtain ⟨bs, hbs, -⟩ := h.told x hx
    rw [hfree] at hbs
    cases hbs
  dsimp only
  rw [Function.update_of_ne hne, Function.update_of_ne hne]
  exact h.told x hx

theorem unregister (h : SystemInv r) (xs : ℕ) :
    SystemInv { r with
      bsys := bSystemRemoveSession r.bsys xs
      sessions := Function.update r.sessions xs none
      live := r.live.erase xs } := by
  obtain ⟨hcount, hcapacity⟩ := removeSession_count_le r.bsys xs
  refine ⟨⟨?_, h.nodup.erase xs, ?_, ?_⟩, ?_, ?_⟩
  · rw [listed_removeSession, h.listed]
  · exact hcapacity ▸ hcount.trans h.inBounds
  · intro x hx
    obtain ⟨hne, hx⟩ := (h.nodup.mem_erase_iff).1 hx
    dsimp only
    rw [Function.update_of_ne hne]
    exact h.told x hx
  · intro pair hpair
    rw [contents_removeSession] at hpair
    exact h.paired pair (List.mem_of_mem_eraseP hpair)
  · exact hcapacity ▸ h.capacity_pos

theorem tell (h : SystemInv r) {who : List ℕ} (hnodup : who.Nodup) (hwho : who ⊆ r.live) (xse : XrtSessionEvent P) :
    ∃ sessions, who.foldlM (fun sessions xs => pushEvent sessions xs xse) r.sessions = some sessions ∧
      SystemInv { r with sessions := sessions, told := r.tell who xse } := by
  obtain ⟨sessions, hfold, hall⟩ := foldlM_pushEvent hnodup xse fun xs hxs =>
    (h.told xs (hwho hxs)).imp fun bs hbs => hbs.1
  refine ⟨sessions, hfold, ⟨h.listed, h.nodup, h.inBounds, fun xs hxs => ?_⟩, h.paired, h.capacity_pos⟩
  obtain ⟨bs, hbs, htold⟩ := h.told xs hxs
  simp only [hall xs, SystemRun.tell]
  split
  · refine ⟨bSessionEventPush bs xse, by rw [hbs]; rfl, ?_⟩
    rw [← htold, List.append_assoc]
    rfl
  · exact ⟨bs, hbs, htold⟩

theorem push (h : SystemInv r) {xs : ℕ} (hxs : xs ∈ r.live) (xse : XrtSessionEvent P) :
    ∃ sessions, pushEvent r.sessions xs xse = some sessions ∧
      SystemInv { r with sessions := sessions, told := r.tell [xs] xse } := by
  obtain ⟨sessions, hfold, hinv⟩ := h.tell (List.nodup_singleton xs) (by simpa using hxs) xse
  refine ⟨sessions, ?_, hinv⟩
  rw [List.foldlM_cons] at hfold
  obtain ⟨sessions', hpush, hnil⟩ := Option.bind_eq_some_iff.1 hfold
  cases hnil
  exact hpush

theorem poll (h : SystemInv r) {xs : ℕ} (hxs : xs ∈ r.live) :
    ∃ bs, r.sessions xs = some bs ∧ SystemInv { r with
      sessions := Function.update r.sessions xs (some (bSessionEventPop bs).2)
      polled := if bs.events = [] then r.polled
        else Function.update r.polled xs (r.polled xs ++ [(bSessionEventPop bs).1]) } := by
  obtain ⟨bs, hbs, htold⟩ := h.told xs hxs
  refine ⟨bs, hbs, ⟨h.listed, h.nodup, h.inBounds, fun x hx => ?_⟩, h.paired, h.capacity_pos⟩
  by_cases hx' : x = xs
  · subst hx'
    dsimp only
    rw [Function.update_self]
    refine ⟨_, rfl, ?_⟩
    rw [← htold]
    unfold bSessionEventPop
    cases hevents : bs.events with
    | nil => simp [hevents]
    | cons xse rest => simp
  · obtain ⟨bs', hbs', htold'⟩ := h.told x hx
    dsimp only
    rw [Function.update_of_ne hx']
    refine ⟨bs', hbs', ?_⟩
    split
    · exact htold'
    · rw [Function.update_of_ne hx']
      exact htold'

theorem call (h : SystemInv r) {op : SystemOp P} (hop : Enabled r op) (hcreated : CompositorCreated r op) :
    ∃ r', r.call op = some r' ∧ SystemInv r' := by
  cases op with
  | setSystemCompositor => exact ⟨_, rfl, ⟨h.listed, h.nodup, h.inBounds, h.told⟩, h.paired, h.capacity_pos⟩
  | createSession xs native =>
    have hfree : r.sessions xs = none := Option.isNone_iff_eq_none.1 hop
    cases native with
    | none => exact ⟨_, call_createSession rfl, h.register hfree⟩
    | some xret =>
      cases hxsysc : r.bsys.hasXsysc with
      | false => exact ⟨_, call_createSession (createSession_refused hxsysc ..), h.refuse xs hfree⟩
      | true =>
        obtain rfl : xret = .success := hcreated hop hxsysc
        exact ⟨_, call_createSession (createSession_registered hxsysc ..), h.register hfree⟩
  | destroySession xs => exact ⟨_, rfl, h.unregister xs⟩
  | broadcast xse =>
    obtain ⟨sessions, hfold, hinv⟩ := h.tell h.nodup (List.Subset.refl _) xse
    refine ⟨_, ?_, hinv⟩
    rw [SystemRun.call, broadcast_eq h.paired, h.listed, hfold]
    rfl
  | push xs xse =>
    obtain ⟨sessions, hpush, hinv⟩ := h.push hop xse
    refine ⟨_, ?_, hinv⟩
    rw [SystemRun.call, hpush]
    rfl
  | requestExit xs =>
    obtain ⟨sessions, hpush, hinv⟩ := h.push hop .requestExit
    refine ⟨_, ?_, hinv⟩
    rw [SystemRun.call, hpush]
    rfl
  | pollEvents xs =>
    obtain ⟨bs, hbs, hinv⟩ := h.poll hop
    refine ⟨_, ?_, hinv⟩
    rw [SystemRun.call, hbs]
    rfl

theorem listed_of_fails {op : SystemOp P} {r' : SystemRun P} (h : r.call op = some r')
    (hcreated : CompositorCreated r op) (hop : Enabled r op) {xret : XrtResult}
    (hresult : createResult r op = some xret)
    (hfails : xret ≠ .success) : listed r'.bsys = listed r.bsys := by
  cases op with
  | createSession xs native =>
    obtain rfl := Option.some.inj hresult
    cases native with
    | none => exact absurd rfl hfails
    | some xret =>
      cases hxsysc : r.bsys.hasXsysc with
      | false =>
        rw [call_createSession (createSession_refused hxsysc ..)] at h
        cases h
        rfl
      | true =>
        rw [createSession_registered hxsysc] at hfails
        exact absurd (hcreated hop hxsysc) hfails
  | _ => cases hresult

theorem right_iff (h : SystemInv r) (op : SystemOp P) : SessionsRight r op ↔ CompositorCreated r op := by
  constructor
  · intro hright
    cases op with
    | createSession xs native =>
      cases native with
      | none => trivial
      | some xret =>
        intro hop hxsysc
        by_contra hfails
        obtain ⟨r', hcall, -, hsame⟩ := hright hop
        have hresult : createResult r (.createSession xs (some xret)) = some xret := by
          rw [createResult, createSession_registered hxsysc]
        rw [call_createSession (createSession_registered hxsysc ..)] at hcall
        cases hcall
        have hgrown : (listed (bSystemAddSession r.bsys xs xs)).length = (listed r.bsys).length :=
          congrArg List.length (hsame xret hresult hfails)
        rw [listed_addSession, List.length_append] at hgrown
        exact absurd hgrown (Nat.succ_ne_self _)
    | _ => trivial
  · intro hcreated hop
    obtain ⟨r', hcall, hinv⟩ := h.call hop hcreated
    exact ⟨r', hcall, hinv.toKept, fun xret => listed_of_fails hcall hcreated hop⟩

end SystemInv

theorem create_systemInv : SystemInv (SystemRun.create : SystemRun P) := by
  refine ⟨⟨rfl, List.nodup_nil, Nat.zero_le _, fun xs hxs => ?_⟩, fun pair hpair => ?_, Nat.zero_lt_succ 1⟩
  · cases hxs
  · cases hpair

/-- Along every sequence of calls, the array holds the sessions that were handed out, a create that fails leaves it,
and every session is told of everything, exactly when the native compositors that are asked for are created. -/
theorem run_sessionsRight_iff (ops : List (SystemOp P)) :
    Along systemStep SessionsRight .create ops ↔ Along systemStep CompositorCreated .create ops := by
  refine along_iff (I := SystemInv) (fun r op h => h.right_iff op) ?_ create_systemInv ops
  intro r op r' h hcreated hs
  rw [systemStep, Option.ite_none_right_eq_some] at hs
  obtain ⟨hop, hcall⟩ := hs
  obtain ⟨r'', hcall', hinv⟩ := h.call hop hcreated
  obtain rfl : r'' = r' := Option.some.inj (hcall'.symm.trans hcall)
  exact hinv

def lateFailure : List (SystemOp ℕ) := [.setSystemCompositor, .createSession 1 (some .errorMultiSessionNotImplemented)]

/-- The session stays in the array. -/
theorem lateFailure_not_sessionsRight : ¬ Along systemStep SessionsRight .create lateFailure := by
  intro hall
  obtain ⟨-, hrest⟩ := along_cons.1 hall
  obtain ⟨hcreate, -⟩ := along_cons.1 (hrest _ rfl)
  obtain ⟨r', hcall, -, hsame⟩ := hcreate rfl
  cases hcall
  have hleft := hsame .errorMultiSessionNotImplemented rfl (by decide)
  exact absurd hleft (by decide)

end AugmentedInsanity.Base
