/-
The event queue of an OpenXR instance (`oxr_event.c`): events in the heap, linked from `event.next` to
`event.last`. Removing the events of a session frees them where they are and moves the two pointers, but nothing
links around a freed event and a new last event is not looked for. So the queue that is left is the old one without
the events of the session exactly when these were in front (`eventQueue_iff`).
-/
import Mathlib.Data.List.TakeWhile
import AugmentedInsanity.Lib.LinkedQueue
import AugmentedInsanity.Lib.Runs
import AugmentedInsanity.Xrt.Defines

namespace AugmentedInsanity.Oxr

open Xrt LinkedQueue Runs

/-! ## Events -/

/-- `XrResult`, as far as the event functions return it. -/
inductive XrResult
  | success
  | eventUnavailable
  deriving DecidableEq

/-- `XrSession`, the handle of a session. -/
abbrev XrSession := ℕ

/-- The structures `XrEventData...` that are put into the queue. -/
inductive XrEventData
  | sessionStateChanged (session : XrSession) (state : ℕ) (time : Int64)
  | interactionProfileChanged (session : XrSession)
  | referenceSpaceChangePending (session : XrSession) (referenceSpaceType : ℕ) (changeTime : Int64) (poseValid : Bool)
      (poseInPreviousSpace : XrtPose)
  | displayRefreshRateChanged (fromDisplayRefreshRate toDisplayRefreshRate : FloatBits)
  | mainSessionVisibilityChanged (visible : Bool)
  | perfSettings (domain subDomain fromLevel toLevel : ℕ)
  | passthroughStateChanged (flags : UInt64)
  | visibilityMaskChanged (session : XrSession) (viewConfigurationType : ℕ) (viewIndex : UInt32)
  | userPresenceChanged (session : XrSession) (isUserPresent : Bool)
  deriving DecidableEq

def XrEventData.session : XrEventData → Option XrSession
  | .sessionStateChanged session _ _ => some session
  | .interactionProfileChanged session => some session
  | .referenceSpaceChangePending session _ _ _ _ => some session
  | .displayRefreshRateChanged _ _ => none
  | .mainSessionVisibilityChanged _ => none
  | .perfSettings _ _ _ _ => none
  | .passthroughStateChanged _ => none
  | .visibilityMaskChanged session _ _ => some session
  | .userPresenceChanged session _ => some session

/-- `struct oxr_event`, without its link. -/
structure OxrEvent where
  result : XrResult
  data : XrEventData
  deriving DecidableEq

/-- `struct oxr_instance`: its event queue, and its sessions. The program does not count the allocations of events. -/
structure OxrInstance where
  event : Queue OxrEvent
  allocations : ℕ
  sessions : List XrSession

def OxrInstance.create : OxrInstance := ⟨⟨none, none, fun _ => none⟩, 0, []⟩

/-! ## Helpers

A function gives `none` where it reads or writes an event that has been freed. -/

def pop (event : Queue OxrEvent) : Option (Option (ℕ × OxrEvent) × Queue OxrEvent) :=
  match event.next with
  | none => some (none, event)
  | some ret =>
    match event.heap ret with
    | none => none
    | some node =>
      some (some (ret, node.value),
        { next := node.next
          last := if event.last = some ret then none else event.last
          heap := Function.update event.heap ret (some ⟨none, node.value⟩) })

/-- `push` of the event at the address `event`, which has been allocated and linked to nothing. -/
def push (queue : Queue OxrEvent) (event : ℕ) : Option (Queue OxrEvent) :=
  let next := if queue.next = none then some event else queue.next
  match queue.last with
  | none => some { queue with last := some event, next := next }
  | some last =>
    match queue.heap last with
    | none => none
    | some node =>
      some
        { next := next
          last := some event
          heap := Function.update queue.heap last (some ⟨some event, node.value⟩) }

def isSessionLinkToEvent (event : OxrEvent) (session : XrSession) : Bool :=
  match event.data with
  | .sessionStateChanged changed _ _ => changed = session
  | .interactionProfileChanged changed => changed = session
  | .referenceSpaceChangePending pending _ _ _ _ => pending = session
  | _ => false

/-- What `oxr_event_remove_session_events` does with an event that is linked to the session. -/
def removeEvent (event : Queue OxrEvent) (cur : ℕ) (next : Option ℕ) : Queue OxrEvent where
  next := if event.next = some cur then next else event.next
  last := if event.last = some cur then none else event.last
  heap := Function.update event.heap cur none

/-- The loop of `oxr_event_remove_session_events`, from the event at `e`. It sees an event once unless the links go in
a circle, and then it does not end; `fuel` is the number of events there have been. -/
def removeLoop (session : XrSession) : ℕ → Option ℕ → Queue OxrEvent → Option (Queue OxrEvent)
  | _, none, event => some event
  | 0, some _, _ => none
  | fuel + 1, some cur, event =>
    match event.heap cur with
    | none => none
    | some node =>
      if isSessionLinkToEvent node.value session then
        removeLoop session fuel node.next (removeEvent event cur node.next)
      else removeLoop session fuel node.next event

/-! ## Exported functions -/

/-- `ALLOC` and `push` of the event functions, with the address that the allocation gives. -/
def oxrEventPush (inst : OxrInstance) (address : ℕ) (data : XrEventData) : Option OxrInstance :=
  (push { inst.event with heap := Function.update inst.event.heap address (some ⟨none, ⟨.success, data⟩⟩) } address).map
    fun event => { inst with event := event, allocations := inst.allocations + 1 }

def oxrEventRemoveSessionEvents (inst : OxrInstance) (session : XrSession) : Option OxrInstance :=
  (removeLoop session inst.allocations inst.event.next inst.event).map fun event => { inst with event := event }

/-- `oxr_poll_event`, once it has polled the sessions. -/
def oxrPollEvent (inst : OxrInstance) : Option (XrResult × Option XrEventData × OxrInstance) :=
  (pop inst.event).map fun
    | (none, _) => (.eventUnavailable, none, inst)
    | (some (address, event), queue) =>
      (event.result, some event.data,
        { inst with event := { queue with heap := Function.update queue.heap address none } })

/-! ## Runs -/

/-- A call. Events are pushed by functions of a session, which put the handle of that session into them. -/
inductive EventOp
  | createSession (session : XrSession)
  | push (address : ℕ) (data : XrEventData)
  | poll
  | destroySession (session : XrSession)
  deriving DecidableEq

def step (inst : OxrInstance) : EventOp → Option OxrInstance
  | .createSession session =>
    if session ∈ inst.sessions then none else some { inst with sessions := session :: inst.sessions }
  | .push address data =>
    if inst.event.heap address = none ∧ ∀ session, data.session = some session → session ∈ inst.sessions then
      oxrEventPush inst address data
    else none
  | .poll => (oxrPollEvent inst).map fun (_, _, inst) => inst
  | .destroySession session =>
    if session ∈ inst.sessions then
      (oxrEventRemoveSessionEvents inst session).map fun inst =>
        { inst with sessions := inst.sessions.erase session }
    else none

/-! ## The removal loop -/

def linkedCell (session : XrSession) (cell : ℕ × OxrEvent) : Bool := isSessionLinkToEvent cell.2 session

def freed (session : XrSession) (cells : List (ℕ × OxrEvent)) : List ℕ :=
  (cells.filter (linkedCell session)).map Prod.fst

/-- What the loop leaves of a list that begins at `event.next`, or behind it. -/
structure Removed (session : XrSession) (cells : List (ℕ × OxrEvent)) (p : Option ℕ) (event event' : Queue OxrEvent) :
    Prop where
  heap : ∀ a, event'.heap a = if a ∈ freed session cells then none else event.heap a
  next : event.next = p → event'.next = (cells.dropWhile (linkedCell session)).head?.map Prod.fst
  front : (∀ cell ∈ cells, event.next ≠ some cell.1) → event'.next = event.next
  last : event'.last = event.last.filter fun a => a ∉ freed session cells

variable {cells : List (ℕ × OxrEvent)} {session : XrSession} {event event' : Queue OxrEvent} {cell : ℕ × OxrEvent}

theorem Removed.cons_linked {next : Option ℕ} (hlinked : linkedCell session cell = true)
    (h : Removed session cells next (removeEvent event cell.1 next) event') :
    Removed session (cell :: cells) (some cell.1) event event' := by
  have hfreed : freed session (cell :: cells) = cell.1 :: freed session cells := by
    rw [freed, List.filter_cons_of_pos hlinked]
    rfl
  constructor
  · intro a
    rw [h.heap, hfreed]
    by_cases ha : a = cell.1
    · subst ha
      simp [removeEvent]
    · simp [removeEvent, ha]
  · intro hnext
    rw [List.dropWhile_cons_of_pos hlinked]
    exact h.next (if_pos hnext)
  · intro hfront
    have hne : event.next ≠ some cell.1 := hfront cell (List.mem_cons_self ..)
    have hsame : (removeEvent event cell.1 next).next = event.next := if_neg hne
    rw [← hsame]
    apply h.front
    intro cell' hcell'
    rw [hsame]
    exact hfront cell' (List.mem_cons_of_mem _ hcell')
  · rw [h.last, hfreed]
    unfold removeEvent
    rcases event.last with _ | last
    · rfl
    · by_cases hlast : last = cell.1
      · subst hlast
        simp [Option.filter]
      · simp [hlast, Option.filter]

theorem Removed.cons_other {next : Option ℕ} (hother : linkedCell session cell = false)
    (hne : ∀ cell' ∈ cells, cell'.1 ≠ cell.1) (h : Removed session cells next event event') :
    Removed session (cell :: cells) (some cell.1) event event' := by
  have hnot : ¬ linkedCell session cell = true := by simp [hother]
  have hfreed : freed session (cell :: cells) = freed session cells := by
    rw [freed, List.filter_cons_of_neg hnot]
    rfl
  constructor
  · rw [hfreed]
    exact h.heap
  · intro hnext
    rw [List.dropWhile_cons_of_neg hnot, List.head?_cons, Option.map_some, ← hnext]
    apply h.front
    intro cell' hcell' heq
    exact hne cell' hcell' (Option.some.inj (heq.symm.trans hnext))
  · intro hfront
    exact h.front fun cell' hcell' => hfront cell' (List.mem_cons_of_mem _ hcell')
  · rw [hfreed]
    exact h.last

theorem removeLoop_removed (session : XrSession) {fuel : ℕ} {p : Option ℕ} (hseg : Seg event.heap p cells none)
    (hnodup : (cells.map Prod.fst).Nodup) (hfuel : cells.length ≤ fuel) :
    ∃ event', removeLoop session fuel p event = some event' ∧ Removed session cells p event event' := by
  induction cells generalizing fuel p event with
  | nil =>
    obtain rfl : p = none := hseg
    refine ⟨event, by rw [removeLoop], fun a => ?_, fun h => h, fun _ => rfl, ?_⟩
    · simp [freed]
    · cases event.last <;> rfl
  | cons cell cells ih =>
    obtain ⟨cur, ev⟩ := cell
    obtain ⟨rfl, next, hcur, hrest⟩ := hseg
    obtain ⟨fuel, rfl⟩ : ∃ n, fuel = n + 1 := ⟨fuel - 1, by rw [List.length_cons] at hfuel; omega⟩
    rw [List.map_cons, List.nodup_cons] at hnodup
    rw [List.length_cons, Nat.add_le_add_iff_right] at hfuel
    have hne : ∀ cell ∈ cells, cell.1 ≠ cur := fun cell hcell heq =>
      hnodup.1 (List.mem_map.2 ⟨cell, hcell, heq⟩)
    cases hlinked : isSessionLinkToEvent ev session with
    | true =>
      have hseg : Seg (removeEvent event cur next).heap next cells none :=
        hrest.congr fun cell hcell => Function.update_of_ne (hne cell hcell) ..
      obtain ⟨event', hloop, hremoved⟩ := ih hseg hnodup.2 hfuel
      refine ⟨event', ?_, Removed.cons_linked (show linkedCell session (cur, ev) = true from hlinked) hremoved⟩
      rw [removeLoop, hcur]
      simp only [hlinked, if_true, hloop]
    | false =>
      obtain ⟨event', hloop, hremoved⟩ := ih hrest hnodup.2 hfuel
      refine ⟨event', ?_, Removed.cons_other (show linkedCell session (cur, ev) = false from hlinked) hne hremoved⟩
      rw [removeLoop, hcur]
      simp only [hlinked, Bool.false_eq_true, if_false, hloop]

/-! ## Which removals leave the queue whole -/

theorem session_of_link {event : OxrEvent} (h : isSessionLinkToEvent event session = true) :
    event.data.session = some session := by
  unfold isSessionLinkToEvent at h
  split at h
  all_goals first
    | (rename_i heq; rw [heq, XrEventData.session, of_decide_eq_true h])
    | cases h

theorem mem_freed {a : ℕ} : a ∈ freed session cells ↔ ∃ cell ∈ cells, linkedCell session cell = true ∧ cell.1 = a := by
  simp [freed]

theorem not_freed (hnodup : (cells.map Prod.fst).Nodup) (hmem : cell ∈ cells)
    (hother : linkedCell session cell = false) : cell.1 ∉ freed session cells := by
  intro hfreed
  obtain ⟨cell', hmem', hlinked, heq⟩ := mem_freed.1 hfreed
  rw [List.inj_on_of_nodup_map hnodup hmem' hmem heq, hother] at hlinked
  cases hlinked

/-- The events that the queue is to lose are in front of all the others. -/
structure InFront (session : XrSession) (front rest : List OxrEvent) : Prop where
  linked : ∀ event ∈ front, isSessionLinkToEvent event session = true
  other : ∀ event ∈ rest, event.data.session ≠ some session

theorem Removed.holds {front rest : List OxrEvent} (h : Removed session cells event.next event event')
    (hcells : HoldsCells event cells) (hevents : cells.map Prod.snd = front ++ rest)
    (hfront : InFront session front rest) : Holds event' rest := by
  obtain ⟨cf, cr, rfl, rfl, rfl⟩ := List.map_eq_append_iff.1 hevents
  have hlinked : ∀ cell ∈ cf, linkedCell session cell = true := fun cell hcell =>
    hfront.linked cell.2 (List.mem_map_of_mem hcell)
  have hother : ∀ cell ∈ cr, linkedCell session cell = false := by
    intro cell hcell
    rw [Bool.eq_false_iff]
    exact fun hlink => hfront.other cell.2 (List.mem_map_of_mem hcell) (session_of_link hlink)
  have hkept : ∀ cell ∈ cr, cell.1 ∉ freed session (cf ++ cr) := fun cell hcell =>
    not_freed hcells.nodup (List.mem_append_right _ hcell) (hother cell hcell)
  have hdrop : (cf ++ cr).dropWhile (linkedCell session) = cr := by
    rw [List.dropWhile_append_of_pos hlinked]
    cases cr with
    | nil => rfl
    | cons cell cr => exact List.dropWhile_cons_of_neg (by simp [hother cell (List.mem_cons_self ..)])
  have hnodup := hcells.nodup
  rw [List.map_append, List.nodup_append] at hnodup
  obtain ⟨q, -, hseg⟩ := seg_append.1 hcells.linked
  refine ⟨cr, ⟨hnodup.2.1, ?_, ?_⟩, rfl⟩
  · rw [h.next rfl, hdrop, ← hseg.head]
    refine hseg.congr fun cell hcell => ?_
    rw [h.heap, if_neg (hkept cell hcell)]
  · rw [h.last, hcells.last]
    rcases List.eq_nil_or_concat' cr with rfl | ⟨cr, cell, rfl⟩
    · rcases List.eq_nil_or_concat' cf with rfl | ⟨cf, cell, rfl⟩
      · rfl
      · have hmem : cell.1 ∈ freed session (cf ++ [cell] ++ []) :=
          mem_freed.2 ⟨cell, by simp, hlinked cell (by simp), rfl⟩
        rw [List.append_nil] at hmem ⊢
        rw [List.getLast?_concat]
        simp [Option.filter, hmem]
    · have hmem : cell.1 ∉ freed session (cf ++ (cr ++ [cell])) := hkept cell (by simp)
      have hlast : (cf ++ (cr ++ [cell])).getLast? = some cell := by
        rw [← List.append_assoc, List.getLast?_concat]
      rw [hlast, List.getLast?_concat]
      simp [Option.filter, hmem]

theorem Removed.dropWhile_unlinked {m : List (ℕ × OxrEvent)} (h : Removed session cells event.next event event')
    (hcells : HoldsCells event cells) (hheld : HoldsCells event' m) :
    m = cells.dropWhile (linkedCell session) ∧
      ∀ cell ∈ cells.dropWhile (linkedCell session), linkedCell session cell = false := by
  set kept := cells.dropWhile (linkedCell session) with hkept
  have hsplit : cells.takeWhile (linkedCell session) ++ kept = cells := List.takeWhile_append_dropWhile
  have hmem : ∀ cell ∈ kept, cell ∈ cells := fun cell hcell => by
    rw [← hsplit]
    exact List.mem_append_right _ hcell
  have hseg : Seg event.heap (kept.head?.map Prod.fst) kept none := by
    have hlinked := hcells.linked
    rw [← hsplit, seg_append] at hlinked
    obtain ⟨q, -, hq⟩ := hlinked
    rwa [← hq.head]
  have hsame : ∀ cell ∈ kept, linkedCell session cell = false → event'.heap cell.1 = event.heap cell.1 := by
    intro cell hcell hother
    rw [h.heap, if_neg (not_freed hcells.nodup (hmem cell hcell) hother)]
  have hother : ∀ cell ∈ kept, linkedCell session cell = false := by
    -- up to the first linked cell the links are the old ones, and that cell has been freed
    set before := kept.takeWhile fun cell => !linkedCell session cell with hbefore
    have hunlinked : ∀ cell ∈ before, linkedCell session cell = false := fun cell hcell => by
      simpa using List.mem_takeWhile_imp hcell
    have hparts : before ++ kept.dropWhile (fun cell => !linkedCell session cell) = kept :=
      List.takeWhile_append_dropWhile
    rcases hafter : kept.dropWhile fun cell => !linkedCell session cell with _ | ⟨cell, after⟩
    · rw [hafter, List.append_nil] at hparts
      rwa [hparts] at hunlinked
    · exfalso
      rw [hafter] at hparts
      have hcell : linkedCell session cell = true := by
        have hhead := List.head?_dropWhile_not (fun cell => !linkedCell session cell) kept
        rw [hafter] at hhead
        simpa using hhead
      rw [← hparts, seg_append] at hseg
      obtain ⟨q, hq, rfl, -⟩ := hseg
      have hq' : Seg event'.heap event'.next before (some cell.1) := by
        rw [h.next rfl, ← hkept, ← hparts]
        refine hq.congr fun c hc => hsame c ?_ (hunlinked c hc)
        rw [← hparts]
        exact List.mem_append_left _ hc
      have hgone : event'.heap cell.1 = none := by
        rw [h.heap, if_pos]
        refine mem_freed.2 ⟨cell, hmem cell ?_, hcell, rfl⟩
        rw [← hparts]
        exact List.mem_append_right _ (List.mem_cons_self ..)
      exact hq'.not_dangling hgone hheld.linked
  refine ⟨?_, hother⟩
  have hleft : Seg event'.heap event'.next kept none := by
    rw [h.next rfl]
    exact hseg.congr fun cell hcell => hsame cell hcell (hother cell hcell)
  exact hheld.linked.unique hleft

theorem Removed.holds_iff (h : Removed session cells event.next event event') (hcells : HoldsCells event cells) :
    Holds event' ((cells.map Prod.snd).filter fun e => e.data.session ≠ some session) ↔
      ∃ front rest, cells.map Prod.snd = front ++ rest ∧ InFront session front rest := by
  constructor
  · rintro ⟨m, hheld, hm⟩
    obtain ⟨rfl, -⟩ := h.dropWhile_unlinked hcells hheld
    refine ⟨(cells.takeWhile (linkedCell session)).map Prod.snd, (cells.dropWhile (linkedCell session)).map Prod.snd,
      ?_, ?_, ?_⟩
    · rw [← List.map_append, List.takeWhile_append_dropWhile]
    · intro e he
      obtain ⟨cell, hcell, rfl⟩ := List.mem_map.1 he
      exact List.mem_takeWhile_imp (p := linkedCell session) hcell
    · intro e he
      rw [hm] at he
      simpa using (List.mem_filter.1 he).2
  · rintro ⟨front, rest, hevents, hfront⟩
    have hrest : (cells.map Prod.snd).filter (fun e => e.data.session ≠ some session) = rest := by
      rw [hevents, List.filter_append, List.filter_eq_nil_iff.2, List.nil_append, List.filter_eq_self.2]
      · intro e he
        simpa using hfront.other e he
      · intro e he
        simpa using session_of_link (hfront.linked e he)
    rw [hrest]
    exact h.holds hcells hevents hfront

/-! ## Runs -/

theorem push_holdsCells {address : ℕ} (h : HoldsCells event cells) (hfree : event.heap address = none) (ev : OxrEvent) :
    ∃ event', push { event with heap := Function.update event.heap address (some ⟨none, ev⟩) } address = some event' ∧
      HoldsCells event' (cells ++ [(address, ev)]) := by
  rcases List.eq_nil_or_concat' cells with rfl | ⟨cells, cell, rfl⟩
  · have hnext : event.next = none := h.linked
    have hlast : event.last = none := h.last
    unfold push
    dsimp only
    rw [hlast, hnext]
    exact ⟨_, rfl, HoldsCells.single (Function.update_self ..)⟩
  · have hlast : event.last = some cell.1 := by rw [h.last, List.getLast?_concat]; rfl
    obtain ⟨next, hcell⟩ := h.linked.mem (List.mem_append_right cells (List.mem_singleton_self cell))
    have hne : cell.1 ≠ address := by
      rintro rfl
      rw [hfree] at hcell
      cases hcell
    have hnext : event.next ≠ none := by
      rw [h.linked.head]
      cases cells <;> simp
    unfold push
    dsimp only
    rw [hlast, if_neg hnext]
    simp only [Function.update_of_ne hne, hcell]
    exact ⟨_, rfl, h.snoc hfree⟩

variable {inst : OxrInstance}

theorem oxrPollEvent_of_nil (h : HoldsCells inst.event []) :
    oxrPollEvent inst = some (.eventUnavailable, none, inst) := by
  have hnext : inst.event.next = none := h.linked
  rw [oxrPollEvent, pop, hnext]
  rfl

theorem oxrPollEvent_of_cons (h : HoldsCells inst.event (cell :: cells)) :
    ∃ event', oxrPollEvent inst = some (cell.2.result, some cell.2.data, { inst with event := event' }) ∧
      HoldsCells event' cells := by
  have hnodup := h.nodup
  rw [List.map_cons, List.nodup_cons] at hnodup
  obtain ⟨hnext, -⟩ := h.linked
  have hsame : ∀ c ∈ cells, Function.update (Function.update inst.event.heap cell.1 (some ⟨none, cell.2⟩)) cell.1 none
      c.1 = inst.event.heap c.1 := by
    intro c hc
    have hne : c.1 ≠ cell.1 := fun heq => hnodup.1 (List.mem_map.2 ⟨c, hc, heq⟩)
    rw [Function.update_of_ne hne, Function.update_of_ne hne]
  obtain ⟨next, hcell, htail⟩ := h.tail hsame
  refine ⟨_, ?_, htail⟩
  rw [oxrPollEvent, pop, hnext]
  dsimp only
  rw [hcell]
  rfl

/-- What is to hold of a call: the queue holds a list of events, and the call does to it what it is for. -/
def QueueStepOk (inst : OxrInstance) (op : EventOp) : Prop :=
  ∃ q, Holds inst.event q ∧
    match op with
    | .createSession _ => True
    | .push address data =>
      inst.event.heap address = none →
        ∃ inst', oxrEventPush inst address data = some inst' ∧ Holds inst'.event (q ++ [⟨.success, data⟩])
    | .poll =>
      match q with
      | [] => oxrPollEvent inst = some (.eventUnavailable, none, inst)
      | event :: rest =>
        ∃ inst', oxrPollEvent inst = some (.success, some event.data, inst') ∧ Holds inst'.event rest ∧
          ∀ session, event.data.session = some session → session ∈ inst.sessions
    | .destroySession session =>
      session ∈ inst.sessions →
        ∃ inst', oxrEventRemoveSessionEvents inst session = some inst' ∧
          Holds inst'.event (q.filter fun event => event.data.session ≠ some session)

/-- A session is destroyed while the events that name it are in front of all others in the queue, and are such that
the removal knows. -/
def RemovesInFront (inst : OxrInstance) : EventOp → Prop
  | .destroySession session =>
    session ∈ inst.sessions →
      ∃ front rest, Holds inst.event (front ++ rest) ∧ InFront session front rest
  | _ => True

structure QueueInv (inst : OxrInstance) (cells : List (ℕ × OxrEvent)) : Prop where
  holds : HoldsCells inst.event cells
  bound : cells.length ≤ inst.allocations
  result : ∀ cell ∈ cells, cell.2.result = .success
  live : ∀ cell ∈ cells, ∀ session, cell.2.data.session = some session → session ∈ inst.sessions

theorem remove_holds_iff (h : QueueInv inst cells) (session : XrSession) :
    (∃ inst', oxrEventRemoveSessionEvents inst session = some inst' ∧
        Holds inst'.event ((cells.map Prod.snd).filter fun event => event.data.session ≠ some session)) ↔
      ∃ front rest, cells.map Prod.snd = front ++ rest ∧ InFront session front rest := by
  obtain ⟨event', hloop, hremoved⟩ := removeLoop_removed session h.holds.linked h.holds.nodup h.bound
  rw [← hremoved.holds_iff h.holds, oxrEventRemoveSessionEvents, hloop]
  simp

theorem queueStepOk_iff (h : QueueInv inst cells) (op : EventOp) : QueueStepOk inst op ↔ RemovesInFront inst op := by
  have hheld : Holds inst.event (cells.map Prod.snd) := ⟨cells, h.holds, rfl⟩
  cases op with
  | createSession session => exact iff_of_true ⟨_, hheld, trivial⟩ trivial
  | push address data =>
    refine iff_of_true ⟨_, hheld, fun hfree => ?_⟩ trivial
    obtain ⟨event', hpush, hcells⟩ := push_holdsCells h.holds hfree ⟨.success, data⟩
    refine ⟨_, by rw [oxrEventPush, hpush]; rfl, _, hcells, ?_⟩
    rw [List.map_append]
    rfl
  | poll =>
    refine iff_of_true ⟨_, hheld, ?_⟩ trivial
    cases cells with
    | nil => exact oxrPollEvent_of_nil h.holds
    | cons cell cells =>
      obtain ⟨event', hpoll, hcells⟩ := oxrPollEvent_of_cons h.holds
      have hmem : cell ∈ cell :: cells := List.mem_cons_self ..
      rw [h.result cell hmem] at hpoll
      exact ⟨_, hpoll, ⟨cells, hcells, rfl⟩, h.live cell hmem⟩
  | destroySession session =>
    constructor
    · rintro ⟨q, hq, hok⟩ hsession
      obtain rfl := hq.unique hheld
      obtain ⟨front, rest, hevents, hfront⟩ := (remove_holds_iff h session).1 (hok hsession)
      exact ⟨front, rest, by rwa [← hevents], hfront⟩
    · intro hfits
      refine ⟨_, hheld, fun hsession => (remove_holds_iff h session).2 ?_⟩
      obtain ⟨front, rest, hq, hfront⟩ := hfits hsession
      exact ⟨front, rest, hheld.unique hq, hfront⟩

theorem QueueInv.push {inst' : OxrInstance} (h : QueueInv inst cells) {address : ℕ} {data : XrEventData}
    (hfresh : inst.event.heap address = none) (hlive : ∀ session, data.session = some session → session ∈ inst.sessions)
    (hs : oxrEventPush inst address data = some inst') : ∃ cells, QueueInv inst' cells := by
  obtain ⟨event', hpush, hcells⟩ := push_holdsCells h.holds hfresh ⟨.success, data⟩
  rw [oxrEventPush, hpush] at hs
  cases hs
  refine ⟨_, hcells, ?_, ?_, ?_⟩
  · rw [List.length_append]
    exact Nat.add_le_add_right h.bound 1
  · intro cell hcell
    rcases List.mem_append.1 hcell with hcell | hcell
    · exact h.result cell hcell
    · rw [List.mem_singleton.1 hcell]
  · intro cell hcell session hnames
    rcases List.mem_append.1 hcell with hcell | hcell
    · exact h.live cell hcell session hnames
    · rw [List.mem_singleton.1 hcell] at hnames
      exact hlive session hnames

theorem QueueInv.destroySession {inst inst' : OxrInstance} {cells : List (ℕ × OxrEvent)} (h : QueueInv inst cells)
    {session : XrSession} {front rest : List OxrEvent} (hq : Holds inst.event (front ++ rest))
    (hfront : InFront session front rest)
    (hs : ((oxrEventRemoveSessionEvents inst session).map fun inst =>
      { inst with sessions := inst.sessions.erase session }) = some inst') : ∃ cells, QueueInv inst' cells := by
  obtain ⟨event', hloop, hremoved⟩ := removeLoop_removed session h.holds.linked h.holds.nodup h.bound
  rw [oxrEventRemoveSessionEvents, hloop] at hs
  cases hs
  have hevents : cells.map Prod.snd = front ++ rest := (show Holds inst.event _ from ⟨cells, h.holds, rfl⟩).unique hq
  obtain ⟨kept, hkept, hrest⟩ := hremoved.holds h.holds hevents hfront
  obtain ⟨rfl, -⟩ := hremoved.dropWhile_unlinked h.holds hkept
  have hmem : ∀ cell ∈ cells.dropWhile (linkedCell session), cell ∈ cells := fun cell hcell =>
    (List.dropWhile_sublist _).subset hcell
  refine ⟨_, hkept, (List.dropWhile_sublist _).length_le.trans h.bound, fun cell hcell =>
    h.result cell (hmem cell hcell), fun cell hcell session' hnames => ?_⟩
  have hne : session' ≠ session := by
    rintro rfl
    apply hfront.other cell.2
    · rw [← hrest]
      exact List.mem_map_of_mem hcell
    · exact hnames
  exact (List.mem_erase_of_ne hne).2 (h.live cell (hmem cell hcell) session' hnames)

theorem step_queueInv {inst' : OxrInstance} {op : EventOp} (h : ∃ cells, QueueInv inst cells)
    (hfits : RemovesInFront inst op) (hs : step inst op = some inst') : ∃ cells, QueueInv inst' cells := by
  obtain ⟨cells, h⟩ := h
  cases op with
  | createSession session =>
    simp only [step] at hs
    split at hs
    · cases hs
    · cases hs
      exact ⟨cells, h.holds, h.bound, h.result, fun cell hcell session' hnames =>
        List.mem_cons_of_mem _ (h.live cell hcell session' hnames)⟩
  | push address data =>
    simp only [step] at hs
    split at hs
    · rename_i hguard
      exact h.push hguard.1 hguard.2 hs
    · cases hs
  | poll =>
    simp only [step] at hs
    cases cells with
    | nil =>
      rw [oxrPollEvent_of_nil h.holds] at hs
      cases hs
      exact ⟨[], h⟩
    | cons cell cells =>
      obtain ⟨event', hpoll, hcells⟩ := oxrPollEvent_of_cons h.holds
      rw [hpoll] at hs
      cases hs
      exact ⟨cells, hcells, (Nat.le_succ _).trans h.bound, fun c hc => h.result c (List.mem_cons_of_mem _ hc),
        fun c hc => h.live c (List.mem_cons_of_mem _ hc)⟩
  | destroySession session =>
    simp only [step] at hs
    split at hs
    · rename_i hsession
      obtain ⟨front, rest, hq, hfront⟩ := hfits hsession
      exact h.destroySession hq hfront hs
    · cases hs

/-- Along every sequence of pushes, polls and session destructions, the calls do to the queue what they are for
exactly when each session is destroyed with its events in front. -/
theorem eventQueue_iff (ops : List EventOp) :
    Along step QueueStepOk .create ops ↔ Along step RemovesInFront .create ops := by
  refine along_iff (I := fun inst => ∃ cells, QueueInv inst cells) ?_ ?_ ?_ ops
  · rintro inst op ⟨cells, h⟩
    exact queueStepOk_iff h op
  · exact fun inst op inst' h hfits hs => step_queueInv h hfits hs
  · refine ⟨[], .empty _, Nat.zero_le _, ?_, ?_⟩
    · rintro cell ⟨⟩
    · rintro cell ⟨⟩

def eventBetween : List EventOp :=
  [.createSession 1, .createSession 2, .push 10 (.interactionProfileChanged 1),
    .push 11 (.interactionProfileChanged 2), .push 12 (.interactionProfileChanged 1), .destroySession 2]

/-- The first event still leads to the one that was freed with session 2. -/
theorem eventBetween_not_ok : ¬ Along step QueueStepOk .create eventBetween := by
  rintro ⟨-, -, -, -, -, ⟨q, -, hok⟩, -⟩
  obtain ⟨inst', hremove, cells, hcells, -⟩ := hok (by decide)
  cases hremove
  have hlinked := hcells.linked
  refine Seg.not_dangling (q := 11) (l := [(10, ⟨.success, .interactionProfileChanged 1⟩)]) ?_ ?_ hlinked
  · exact ⟨rfl, some 11, rfl, rfl⟩
  · rfl

end AugmentedInsanity.Oxr
