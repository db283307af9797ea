/-
The frames that an application waits for, begins and ends. A count, two numbers and a gate tell how many there are; they
are right unless a session is ended with frames in it, or a frame is ended that the compositor has not begun or does
not discard (`SessionRun.frames_accounted`).
-/
import AugmentedInsanity.Oxr.Lifecycle

namespace AugmentedInsanity.Oxr

open Xrt Runs

/-! ## Frames -/

def Begun (told : List Told) (id : ℤ) : Prop := ⟨.beginFrame, id, true⟩ ∈ told

/-- The compositor has been given a frame, or has discarded it. -/
def Finished (told : List Told) (id : ℤ) : Prop := ⟨.discard, id, true⟩ ∈ told ∨ ⟨.submit, id, true⟩ ∈ told

instance (told : List Told) (id : ℤ) : Decidable (Begun told id) := inferInstanceAs (Decidable (_ ∈ _))

instance (told : List Told) (id : ℤ) : Decidable (Finished told id) := inferInstanceAs (Decidable (_ ∨ _))

/-- The frames that have been waited for and are not finished. -/
def liveFrames (waitedIds : List ℤ) (told : List Told) : List ℤ := waitedIds.filter fun id => ¬ Finished told id

namespace SessionRun

/-- The frames waited for in this run of the session that are neither ended nor discarded. -/
def live (r : SessionRun) : List ℤ := liveFrames r.waitedIds r.sess.told

/-- The records of frames are right: the count is that of the frames that there are, a wait blocks exactly while one of
them has not been begun, nothing is done to a frame twice, and a session that does not run has none. -/
structure Accounted (r : SessionRun) : Prop where
  count : r.sess.activeWaitFrames = r.live.length
  blocks : r.waiting = none → r.sess.hasLost = false → r.sess.frameSync.running = true →
    (r.enterWait = none ↔ ∃ id ∈ r.live, ¬ Begun r.sess.told id)
  once : (r.sess.told.filter (·.accepted)).Nodup
  ended : r.sess.frameSync.running = false → r.live = []

/-- The compositor can be told this: to begin a frame that is not begun, to discard one, or to take one that is begun. -/
def MayTell (r : SessionRun) (t : Told) : Prop :=
  t.id ∈ r.live ∧
    match t.step with
    | .beginFrame => ¬ Begun r.sess.told t.id
    | .discard => True
    | .submit => Begun r.sess.told t.id

/-- After a call the records are right, the compositor has only been told what it can be told, and `xrBeginFrame` has
only succeeded if there was a frame to begin. -/
def FramesKept (r : SessionRun) (call : SessionCall) : Prop :=
  ∀ r', r.step call = some r' →
    r'.Accounted ∧ (∃ new, r'.sess.told = new ++ r.sess.told ∧ ∀ t ∈ new, r.MayTell t) ∧
      ∀ discard beginFrame, call = .beginFrame discard beginFrame →
        (∃ ret, (r.sess.xrBeginFrame discard beginFrame).2 = .ok ret) → ∃ id ∈ r.live, ¬ Begun r.sess.told id

/-- The frame to be ended is one that the compositor has begun. -/
def HasBegun (r : SessionRun) : Prop :=
  r.sess.frameIdBegun ∈ r.live ∧ Begun r.sess.told r.sess.frameIdBegun

/-- A session is ended when there are no frames, a wait gives a frame in the run of the session in which it began, and
a frame that is ended has been begun, and is discarded if it has no layers. -/
def Careful (r : SessionRun) : SessionCall → Prop
  | .endSession _ _ _ =>
    r.sess.hasLost = false → r.sess.frameSync.running = true → r.sess.skipEndSession = false →
      r.sess.state = .stopping → r.sess.activeWaitFrames = 0
  | .waitReturns answer => ∀ run, r.waiting = some run → (∃ id, (r.sess.doWaitFrameAndChecks answer).2 = .ok id) →
      run = r.run ∧ r.sess.frameSync.running = true
  | .endFrame maxLayers frame answers =>
    r.sess.hasLost = false → r.sess.frameSync.running = true → frame.layerCount ≤ maxLayers →
      r.sess.frameStarted = true → 0 < frame.displayTime → frame.blendMode = .ok () →
        (frame.layerCount = 0 → r.HasBegun ∧ answers.discard = .success) ∧
          (frame.layerCount ≠ 0 → frame.layers = .ok () → r.HasBegun)
  | _ => True

end SessionRun

/-! ## The records -/

structure Frames where
  headless : Bool
  sync : OxrFrameSync
  active : ℤ
  waited : ℤ
  begun : ℤ
  started : Bool
  told : List Told

def OxrSession.frames (s : OxrSession) : Frames :=
  ⟨s.headless, s.frameSync, s.activeWaitFrames, s.frameIdWaited, s.frameIdBegun, s.frameStarted, s.told⟩

namespace Frames

def tell (f : Frames) (t : Told) : Frames := { f with told := t :: f.told }

def finish (f : Frames) (step : FrameStep) (started : Bool) : Frames :=
  { f with active := f.active - 1, begun := -1, started := started, told := ⟨step, f.begun, true⟩ :: f.told }

def begin (f : Frames) : Frames :=
  { f with
    sync := { f.sync with canWaitFrameReturn := true }
    waited := -1
    begun := f.waited
    told := ⟨.beginFrame, f.waited, true⟩ :: f.told }

/-- The records are right: those that `SessionRun.Accounted` tells of, and what they rest on. -/
structure Sound (f : Frames) (run : ℕ) (waiting : Option ℕ) (waitedIds given : List ℤ) : Prop where
  compositor : f.headless = false
  count : f.active = (liveFrames waitedIds f.told).length
  nodup : waitedIds.Nodup
  not_begun : ∀ id ∈ liveFrames waitedIds f.told, ¬ Begun f.told id → id = f.waited
  is_begun : ∀ id ∈ liveFrames waitedIds f.told, Begun f.told id → id = f.begun
  waited : 0 < f.waited → f.waited ∈ liveFrames waitedIds f.told ∧ ¬ Begun f.told f.waited
  begun : 0 < f.begun → f.begun ∈ liveFrames waitedIds f.told ∧ Begun f.told f.begun
  started : f.started = false → ∀ id ∈ liveFrames waitedIds f.told, ¬ Begun f.told id
  gate : f.sync.running = true →
    (f.sync.canWaitFrameReturn = true ↔ waiting ≠ some run ∧ ∀ id ∈ liveFrames waitedIds f.told, Begun f.told id)
  during : waiting = some run → ∀ id ∈ liveFrames waitedIds f.told, Begun f.told id
  stale : ∀ n, waiting = some n → n ≤ run ∧ (n ≠ run → liveFrames waitedIds f.told = [])
  idle : f.sync.running = false → liveFrames waitedIds f.told = []
  told_given : ∀ t ∈ f.told, t.accepted = true → t.id ∈ given
  waited_given : ∀ id ∈ waitedIds, id ∈ given
  once : (f.told.filter (·.accepted)).Nodup

end Frames

section
variable {f : Frames} {run : ℕ} {waiting : Option ℕ} {waitedIds given : List ℤ} {told : List Told} {id : ℤ}

theorem mem_liveFrames : id ∈ liveFrames waitedIds told ↔ id ∈ waitedIds ∧ ¬ Finished told id := by
  simp [liveFrames]

/-! ## Telling the compositor -/

theorem begun_cons_refused {t : Told} (h : t.accepted = false) : Begun (t :: told) id ↔ Begun told id := by
  rw [Begun, List.mem_cons, or_iff_right, Begun]
  rintro rfl
  cases h

theorem finished_cons_refused {t : Told} (h : t.accepted = false) : Finished (t :: told) id ↔ Finished told id := by
  have hne : ∀ step, ⟨step, id, true⟩ ≠ t := by
    rintro step rfl
    cases h
  simp only [Finished, List.mem_cons, hne, false_or]

theorem liveFrames_congr {told' : List Told} (h : ∀ id, Finished told' id ↔ Finished told id) :
    liveFrames waitedIds told' = liveFrames waitedIds told := by
  simp only [liveFrames, h]

theorem Frames.Sound.refuse (h : f.Sound run waiting waitedIds given) {t : Told} (ht : t.accepted = false) :
    (f.tell t).Sound run waiting waitedIds given := by
  have hlive : liveFrames waitedIds (t :: f.told) = liveFrames waitedIds f.told :=
    liveFrames_congr fun _ => finished_cons_refused ht
  have hbegun : ∀ id, Begun (t :: f.told) id ↔ Begun f.told id := fun _ => begun_cons_refused ht
  refine ⟨h.compositor, ?_, h.nodup, ?_, ?_, ?_, ?_, ?_, ?_, ?_, ?_, ?_, ?_, h.waited_given, ?_⟩ <;>
    simp only [Frames.tell, hlive, hbegun]
  · exact h.count
  · exact h.not_begun
  · exact h.is_begun
  · exact h.waited
  · exact h.begun
  · exact h.started
  · exact h.gate
  · exact h.during
  · exact h.stale
  · exact h.idle
  · intro t' ht' haccepted
    rcases List.mem_cons.1 ht' with rfl | ht'
    · rw [ht] at haccepted
      cases haccepted
    · exact h.told_given t' ht' haccepted
  · rw [List.filter_cons_of_neg (by simp [ht])]
    exact h.once

variable {step : FrameStep} {id' : ℤ}

theorem begun_cons_of_ne (h : step ≠ .beginFrame) : Begun (⟨step, id', true⟩ :: told) id ↔ Begun told id := by
  rw [Begun, List.mem_cons, or_iff_right, Begun]
  rintro ⟨⟩
  exact h rfl

theorem begun_cons_begin : Begun (⟨.beginFrame, id', true⟩ :: told) id ↔ id = id' ∨ Begun told id := by
  rw [Begun, List.mem_cons, Begun, Told.mk.injEq]
  simp

theorem finished_cons_begin : Finished (⟨.beginFrame, id', true⟩ :: told) id ↔ Finished told id := by
  simp [Finished]

theorem finished_cons_of_ne (h : step ≠ .beginFrame) :
    Finished (⟨step, id', true⟩ :: told) id ↔ id = id' ∨ Finished told id := by
  cases step with
  | beginFrame => exact absurd rfl h
  | discard | submit =>
    simp only [Finished, List.mem_cons, Told.mk.injEq, reduceCtorEq, true_and, and_true, false_and, false_or]
    tauto

theorem liveFrames_cons_of_ne (h : step ≠ .beginFrame) :
    liveFrames waitedIds (⟨step, id', true⟩ :: told) = (liveFrames waitedIds told).filter (· ≠ id') := by
  rw [liveFrames, liveFrames, List.filter_filter]
  congr 1
  funext id
  simp [finished_cons_of_ne h]

theorem mem_liveFrames_cons_of_ne (h : step ≠ .beginFrame) :
    id ∈ liveFrames waitedIds (⟨step, id', true⟩ :: told) ↔ id ∈ liveFrames waitedIds told ∧ id ≠ id' := by
  rw [liveFrames_cons_of_ne h, List.mem_filter, decide_eq_true_iff]

theorem length_liveFrames_cons_of_ne (h : step ≠ .beginFrame) (hnodup : waitedIds.Nodup)
    (hlive : id' ∈ liveFrames waitedIds told) :
    (liveFrames waitedIds (⟨step, id', true⟩ :: told)).length = (liveFrames waitedIds told).length - 1 := by
  have herase : (liveFrames waitedIds told).filter (· ≠ id') = (liveFrames waitedIds told).erase id' := by
    have hlive_nodup : (liveFrames waitedIds told).Nodup := hnodup.filter _
    rw [hlive_nodup.erase_eq_filter]
    congr 1
    funext id
    simp [bne, beq_eq_decide]
  rw [liveFrames_cons_of_ne h, herase, List.length_erase_of_mem hlive]

theorem Frames.Sound.finish (h : f.Sound run waiting waitedIds given) (hstep : step ≠ .beginFrame)
    (hlive : f.begun ∈ liveFrames waitedIds f.told) (hbegun : Begun f.told f.begun) (started : Bool) :
    (f.finish step started).Sound run waiting waitedIds given := by
  have hmem : ∀ id, id ∈ liveFrames waitedIds (⟨step, f.begun, true⟩ :: f.told) ↔
      id ∈ liveFrames waitedIds f.told ∧ id ≠ f.begun := fun _ => mem_liveFrames_cons_of_ne hstep
  have hsame : ∀ id, Begun (⟨step, f.begun, true⟩ :: f.told) id ↔ Begun f.told id := fun _ => begun_cons_of_ne hstep
  have hpos := List.length_pos_of_mem hlive
  -- what is left has not been begun
  have hrest : ∀ id ∈ liveFrames waitedIds f.told, id ≠ f.begun → ¬ Begun f.told id := fun id hid hne hb =>
    hne (h.is_begun id hid hb)
  refine ⟨h.compositor, ?_, h.nodup, ?_, ?_, ?_, nofun, ?_, ?_, ?_, ?_, ?_, ?_, h.waited_given, ?_⟩ <;>
    simp only [Frames.finish, hmem, hsame]
  · have hcount := h.count
    rw [length_liveFrames_cons_of_ne hstep h.nodup hlive]
    omega
  · exact fun id hid => h.not_begun id hid.1
  · exact fun id hid hb => absurd hb (hrest id hid.1 hid.2)
  · intro hpos
    obtain ⟨hmem, hnot⟩ := h.waited hpos
    exact ⟨⟨hmem, fun heq => hnot (heq ▸ hbegun)⟩, hnot⟩
  · exact fun _ id hid => hrest id hid.1 hid.2
  · intro hrunning
    rw [h.gate hrunning]
    refine and_congr_right fun _ => ⟨fun hall id hid => hall id hid.1, fun hall id hid => ?_⟩
    by_cases heq : id = f.begun
    · rwa [heq]
    · exact hall id ⟨hid, heq⟩
  · exact fun hwaiting id hid => h.during hwaiting id hid.1
  · intro n hn
    refine ⟨(h.stale n hn).1, fun hne => ?_⟩
    rw [(h.stale n hn).2 hne] at hlive
    cases hlive
  · intro hrunning
    rw [h.idle hrunning] at hlive
    cases hlive
  · intro t ht haccepted
    rcases List.mem_cons.1 ht with rfl | ht
    · exact h.waited_given _ (mem_liveFrames.1 hlive).1
    · exact h.told_given t ht haccepted
  · rw [List.filter_cons_of_pos rfl]
    refine List.nodup_cons.2 ⟨fun hin => (mem_liveFrames.1 hlive).2 ?_, h.once⟩
    have hin := (List.mem_filter.1 hin).1
    cases step with
    | beginFrame => exact absurd rfl hstep
    | discard => exact Or.inl hin
    | submit => exact Or.inr hin

theorem Frames.Sound.begin (h : f.Sound run waiting waitedIds given) (hstarted : f.started = true)
    (hlive : f.waited ∈ liveFrames waitedIds f.told) (hnone : ∀ id ∈ liveFrames waitedIds f.told, ¬ Begun f.told id) :
    f.begin.Sound run waiting waitedIds given := by
  have hsame : liveFrames waitedIds (⟨.beginFrame, f.waited, true⟩ :: f.told) = liveFrames waitedIds f.told :=
    liveFrames_congr fun _ => finished_cons_begin
  have hbegun : ∀ id, Begun (⟨.beginFrame, f.waited, true⟩ :: f.told) id ↔ id = f.waited ∨ Begun f.told id :=
    fun _ => begun_cons_begin
  have honly : ∀ id ∈ liveFrames waitedIds f.told, id = f.waited := fun id hid => h.not_begun id hid (hnone id hid)
  refine ⟨h.compositor, ?_, h.nodup, ?_, ?_, nofun, ?_, ?_, ?_, ?_, ?_, ?_, ?_, h.waited_given, ?_⟩ <;>
    simp only [Frames.begin, hsame, hbegun]
  · exact h.count
  · exact fun id hid hnot => absurd (Or.inl (honly id hid)) hnot
  · exact fun id hid _ => honly id hid
  · exact fun _ => ⟨hlive, Or.inl trivial⟩
  · intro hnot
    rw [hstarted] at hnot
    cases hnot
  · exact fun _ => ⟨fun _ => ⟨fun hwaiting => hnone _ hlive (h.during hwaiting _ hlive), fun id hid =>
      Or.inl (honly id hid)⟩, fun _ => trivial⟩
  · exact fun _ id hid => Or.inl (honly id hid)
  · exact h.stale
  · exact h.idle
  · intro t ht haccepted
    rcases List.mem_cons.1 ht with rfl | ht
    · exact h.waited_given _ (mem_liveFrames.1 hlive).1
    · exact h.told_given t ht haccepted
  · rw [List.filter_cons_of_pos rfl]
    exact List.nodup_cons.2 ⟨fun hin => hnone _ hlive (List.mem_filter.1 hin).1, h.once⟩

theorem Frames.Sound.wait (h : f.Sound run (some run) waitedIds given) (hrunning : f.sync.running = true)
    (hnew : id ∉ given) :
    Sound { f with active := f.active + 1, waited := id } run none (id :: waitedIds) (id :: given) := by
  have hbegun : ¬ Begun f.told id := fun hin => hnew (h.told_given _ hin rfl)
  have hfinished : ¬ Finished f.told id := by
    rintro (hin | hin) <;> exact hnew (h.told_given _ hin rfl)
  have hlive : liveFrames (id :: waitedIds) f.told = id :: liveFrames waitedIds f.told :=
    List.filter_cons_of_pos (by simpa using hfinished)
  have hall := h.during rfl
  refine ⟨h.compositor, ?_, List.nodup_cons.2 ⟨fun hin => hnew (h.waited_given id hin), h.nodup⟩, ?_, ?_, ?_, ?_, ?_, ?_, nofun, nofun,
    ?_, fun t ht haccepted => List.mem_cons_of_mem _ (h.told_given t ht haccepted),
    List.forall_mem_cons.2 ⟨List.mem_cons_self, fun id' hid' => List.mem_cons_of_mem _ (h.waited_given id' hid')⟩,
    h.once⟩ <;> simp only [hlive, List.mem_cons, forall_eq_or_imp]
  · have hcount := h.count
    rw [List.length_cons]
    omega
  · exact ⟨fun _ => trivial, fun id' hid' hnot => absurd (hall id' hid') hnot⟩
  · exact ⟨fun hb => absurd hb hbegun, h.is_begun⟩
  · exact fun _ => ⟨Or.inl trivial, hbegun⟩
  · exact fun hpos => ⟨Or.inr (h.begun hpos).1, (h.begun hpos).2⟩
  · exact fun hstarted => ⟨hbegun, h.started hstarted⟩
  · intro _
    rw [h.gate hrunning]
    exact ⟨fun hboth => absurd rfl hboth.1, fun hboth => absurd hboth.2.1 hbegun⟩
  · intro hnot
    rw [hrunning] at hnot
    cases hnot

theorem Frames.Sound.giveUp {n : ℕ} (h : f.Sound run (some n) waitedIds given) :
    Sound { f with sync := f.sync.release.getD f.sync } run none waitedIds given := by
  have hall : ∀ id ∈ liveFrames waitedIds f.told, Begun f.told id := by
    by_cases hn : n = run
    · exact h.during (hn ▸ rfl)
    · rw [(h.stale n rfl).2 hn]
      exact List.forall_mem_nil _
  have hopen : f.sync.running = true → (f.sync.release.getD f.sync).canWaitFrameReturn = true := by
    intro hrunning
    cases hclosed : f.sync.canWaitFrameReturn <;> simp [OxrFrameSync.release, hrunning, hclosed]
  have hrunning : (f.sync.release.getD f.sync).running = f.sync.running := by
    cases hrelease : f.sync.release with
    | none => rfl
    | some ofs => exact OxrSession.release_running hrelease
  refine { h with gate := ?_, during := nofun, stale := nofun, idle := ?_ }
  · intro hrun
    exact iff_of_true (hopen (hrunning ▸ hrun)) ⟨nofun, hall⟩
  · intro hrun
    exact h.idle (hrunning ▸ hrun)

theorem Frames.Sound.enter (h : f.Sound run none waitedIds given) (hrunning : f.sync.running = true)
    (hopen : f.sync.canWaitFrameReturn = true) :
    Sound { f with sync := ⟨false, true⟩ } run (some run) waitedIds given := by
  refine { h with gate := ?_, during := ?_, stale := ?_, idle := nofun }
  · exact fun _ => iff_of_false nofun fun hboth => hboth.1 rfl
  · exact fun _ => ((h.gate hrunning).1 hopen).2
  · intro n hn
    cases hn
    exact ⟨Nat.le_refl _, fun hne => absurd rfl hne⟩

theorem Frames.Sound.start (h : f.Sound run waiting waitedIds given) (hrunning : f.sync.running = false) :
    Sound { f with sync := ⟨true, true⟩ } (run + 1) waiting [] given := by
  have hnone := h.idle hrunning
  have hcount : f.active = 0 := by
    rw [h.count, hnone]
    rfl
  have hnot : ∀ id, ¬ id ∈ liveFrames waitedIds f.told := by simp [hnone]
  refine ⟨h.compositor, hcount, List.nodup_nil, nofun, nofun, ?_, ?_, nofun, ?_, nofun, ?_, nofun, h.told_given, nofun,
    h.once⟩
  · exact fun hpos => absurd (h.waited hpos).1 (hnot _)
  · exact fun hpos => absurd (h.begun hpos).1 (hnot _)
  · refine fun _ => iff_of_true rfl ⟨fun hwaiting => ?_, nofun⟩
    have hle := (h.stale _ hwaiting).1
    omega
  · exact fun n hn => ⟨Nat.le_succ_of_le (h.stale n hn).1, fun _ => rfl⟩

theorem Frames.Sound.stop (h : f.Sound run waiting waitedIds given) (hactive : f.active = 0) (sync : OxrFrameSync)
    (hsync : sync = f.sync ∨ sync.running = false) :
    (¬ 0 < f.waited ∧ ¬ 0 < f.begun) ∧ Sound { f with sync := sync, started := false } run waiting waitedIds given := by
  have hnone : liveFrames waitedIds f.told = [] := by
    have hcount := h.count
    apply List.eq_nil_of_length_eq_zero
    omega
  have hnot : ∀ id, ¬ id ∈ liveFrames waitedIds f.told := by simp [hnone]
  refine ⟨⟨fun hpos => hnot _ (h.waited hpos).1, fun hpos => hnot _ (h.begun hpos).1⟩, ?_⟩
  refine { h with started := fun _ id hid => absurd hid (hnot id), gate := ?_, idle := fun _ => hnone }
  intro hrunning
  rcases hsync with heq | hstopped
  · rw [show sync = f.sync from heq]
    exact h.gate (heq ▸ hrunning)
  · rw [show sync.running = true from hrunning] at hstopped
    cases hstopped

theorem Frames.Sound.two (h : f.Sound run waiting waitedIds given) (htwo : f.active = 2) :
    (f.waited ∈ liveFrames waitedIds f.told ∧ ¬ Begun f.told f.waited) ∧
      f.begun ∈ liveFrames waitedIds f.told ∧ Begun f.told f.begun := by
  have hcount := h.count
  have hnodup : (liveFrames waitedIds f.told).Nodup := h.nodup.filter _
  have hnot := h.not_begun
  have his := h.is_begun
  match hlive : liveFrames waitedIds f.told with
  | [] | [_] | _ :: _ :: _ :: _ => simp [hlive] at hcount; omega
  | [a, b] =>
    rw [hlive] at hnot his hnodup
    have hne : a ≠ b := by simpa using hnodup
    have ha := List.mem_cons_self (a := a) (l := [b])
    have hb : b ∈ [a, b] := List.mem_cons_of_mem _ List.mem_cons_self
    by_cases hba : Begun f.told a
    · by_cases hbb : Begun f.told b
      · exact absurd ((his a ha hba).trans (his b hb hbb).symm) hne
      · rw [← hnot b hb hbb, ← his a ha hba]
        exact ⟨⟨hb, hbb⟩, ha, hba⟩
    · by_cases hbb : Begun f.told b
      · rw [← hnot a ha hba, ← his b hb hbb]
        exact ⟨⟨ha, hba⟩, hb, hbb⟩
      · exact absurd ((hnot a ha hba).trans (hnot b hb hbb).symm) hne

end

/-! ## What the functions do with frames -/

namespace OxrSession

variable {s : OxrSession}

@[simp] theorem frames_changeState (state : XrSessionState) : (s.changeState state).frames = s.frames := by
  unfold changeState
  split <;> rfl

@[simp] theorem frames_synchronizeOnce : s.synchronizeOnce.frames = s.frames := frames_changeState _

@[simp] theorem frames_ite {P : Prop} [Decidable P] {t : OxrSession} (state : XrSessionState) (h : t.frames = s.frames) :
    (if P then t.changeState state else t).frames = s.frames := by
  split
  · rw [frames_changeState, h]
  · exact h

@[simp] theorem frames_doSynchronizeStateChange : s.doSynchronizeStateChange.frames = s.frames := by
  unfold doSynchronizeStateChange
  split
  · exact frames_synchronizeOnce
  · rfl

@[simp] theorem frames_requestExit : s.requestExit.frames = s.frames := by
  have hstop : ∀ t : OxrSession, t.frames = s.frames → { t.changeState .stopping with exiting := true }.frames = s.frames :=
    fun t ht => (frames_changeState _).trans ht
  unfold requestExit
  apply hstop
  have hends : ∀ t : OxrSession, t.frames = s.frames →
      (if t.hasEndedOnce = false ∧ t.state ≠ .synchronized then t.synchronizeOnce else t).frames = s.frames := by
    intro t ht
    split
    · rw [frames_synchronizeOnce, ht]
    · exact ht
  exact hends _ (frames_ite _ (frames_ite _ rfl))

@[simp] theorem frames_pollActivity (activity : Option ActivityEvent) : (s.pollActivity activity).frames = s.frames := by
  cases activity with
  | none => rfl
  | some activity =>
    cases activity with
    | onPause => exact frames_ite _ (frames_ite _ (frames_ite _ rfl))
    | onResume => exact frames_ite _ rfl

@[simp] theorem frames_followCompositor : s.followCompositor.frames = s.frames :=
  frames_ite _ (frames_ite _ (frames_ite _ (frames_ite _ rfl)))

@[simp] theorem frames_dispatch (event : SessionEvent) : (s.dispatch event).frames = s.frames := by
  cases event with
  | requestExit => exact frames_requestExit
  | lossPending => exact frames_changeState _
  | stateChange | lost | other => rfl

@[simp] theorem frames_poll (activity : Option ActivityEvent) (events : List SessionEvent) (last : XrtResult) :
    (s.poll activity events last).1.frames = s.frames := by
  have hevents : ∀ (events : List SessionEvent) (t : OxrSession), t.frames = s.frames →
      (events.foldl dispatch t).frames = s.frames := by
    intro events
    induction events with
    | nil => exact fun _ ht => ht
    | cons event events ih => exact fun t ht => ih _ ((frames_dispatch event).trans ht)
  have hafter : (s.afterEvents activity events).frames = s.frames := by
    refine hevents events _ ?_
    split
    · exact frames_pollActivity activity
    · rfl
  unfold poll
  dsimp only
  split
  · exact hafter
  · rw [frames_followCompositor, hafter]

end OxrSession

namespace SessionRun

open OxrSession

variable {r r' : SessionRun} {s : OxrSession}

def Sound (r : SessionRun) : Prop := r.sess.frames.Sound r.run r.waiting r.waitedIds r.given

/-- A call leaves the records right, and tells the compositor what it can be told. -/
structure Keeps (r : SessionRun) (f : Frames) (run : ℕ) (waiting : Option ℕ) (waitedIds given : List ℤ) : Prop where
  sound : f.Sound run waiting waitedIds given
  tells : ∃ new, f.told = new ++ r.sess.told ∧ ∀ t ∈ new, r.MayTell t

theorem Sound.keeps (h : r.Sound) : r.Keeps r.sess.frames r.run r.waiting r.waitedIds r.given :=
  ⟨h, [], rfl, nofun⟩

theorem tells_one {told : List Told} {t : Told} (h : told = t :: r.sess.told) (ht : r.MayTell t) :
    ∃ new, told = new ++ r.sess.told ∧ ∀ t ∈ new, r.MayTell t :=
  ⟨[t], h, fun _ ht' => List.mem_singleton.1 ht' ▸ ht⟩

theorem Sound.accounted (h : r.Sound) : r.Accounted := by
  refine ⟨h.count, fun hwaiting hlost hrunning => ?_, h.once, h.idle⟩
  have hgate := h.gate hrunning
  have hheadless : r.sess.headless = false := h.compositor
  have hblocks : r.enterWait = none ↔ r.sess.frameSync.canWaitFrameReturn = false := by
    simp only [enterWait, hwaiting, hlost, hrunning, hheadless, OxrFrameSync.waitFrame]
    cases r.sess.frameSync.canWaitFrameReturn <;> simp
  have hgate' : r.sess.frameSync.canWaitFrameReturn = true ↔ ∀ id ∈ r.live, Begun r.sess.told id := by
    rw [show r.sess.frameSync.canWaitFrameReturn = true ↔ _ from hgate, hwaiting]
    exact and_iff_right fun h => by cases h
  rw [hblocks, ← Bool.not_eq_true, hgate']
  simp

/-! ## Beginning a frame -/

theorem beginWaited_keeps (hsound : s.frames.Sound r.run r.waiting r.waitedIds r.given)
    (hstarted : s.frameStarted = true) (hlive : s.frameIdWaited ∈ liveFrames r.waitedIds s.told)
    (hnone : ∀ id ∈ liveFrames r.waitedIds s.told, ¬ Begun s.told id) {new : List Told}
    (hnew : s.told = new ++ r.sess.told) (htells : ∀ t ∈ new, r.MayTell t)
    (hwaited : s.frameIdWaited ∈ r.live ∧ ¬ Begun r.sess.told s.frameIdWaited) (beginFrame : XrtResult)
    (ret : XrSuccess) : r.Keeps (s.beginWaited beginFrame ret).1.frames r.run r.waiting r.waitedIds r.given := by
  have hheadless : s.headless = false := hsound.compositor
  have htold : ∀ accepted, ∃ new', (⟨.beginFrame, s.frameIdWaited, accepted⟩ :: s.told) = new' ++ r.sess.told ∧
      ∀ t ∈ new', r.MayTell t := fun accepted =>
    ⟨⟨.beginFrame, s.frameIdWaited, accepted⟩ :: new, by rw [hnew]; rfl,
      List.forall_mem_cons.2 ⟨⟨hwaited.1, hwaited.2⟩, htells⟩⟩
  have hgate : s.frameSync.release = some { s.frameSync with canWaitFrameReturn := true } := by
    have hrunning : s.frameSync.running = true := by
      by_contra hnot
      have hidle := hsound.idle (Bool.eq_false_iff.2 hnot)
      rw [show liveFrames r.waitedIds s.told = [] from hidle] at hlive
      cases hlive
    have hclosed : s.frameSync.canWaitFrameReturn = false := by
      rw [← Bool.not_eq_true]
      exact fun hopen => hnone _ hlive (((hsound.gate hrunning).1 hopen).2 _ hlive)
    simp [OxrFrameSync.release, hrunning, hclosed]
  unfold OxrSession.beginWaited
  rw [if_neg (by simp [hheadless])]
  by_cases hbegin : beginFrame = .success
  · subst hbegin
    have hframes : (({ s.tell .beginFrame s.frameIdWaited .success with
        frameIdBegun := s.frameIdWaited, frameIdWaited := -1 } : OxrSession).releaseWait ret).1.frames = s.frames.begin := by
      simp only [OxrSession.releaseWait, OxrSession.tell, hgate]
      rfl
    refine ⟨?_, ?_⟩
    · rw [if_neg (by simp)]
      exact hframes ▸ hsound.begin hstarted hlive hnone
    · rw [if_neg (by simp)]
      have htold := htold true
      exact hframes ▸ htold
  · rw [if_pos hbegin]
    have hrefused : (beginFrame == .success) = false := by simpa using hbegin
    have hframes : ((s.tell .beginFrame s.frameIdWaited beginFrame).fail beginFrame).1.frames =
        s.frames.tell ⟨.beginFrame, s.frameIdWaited, false⟩ := by
      rw [← hrefused]
      rfl
    exact ⟨hframes ▸ hsound.refuse rfl, hframes ▸ htold false⟩

theorem beginFirst_keeps (h : r.Sound) (hstarted : r.sess.frameStarted = false) (hsome : r.sess.activeWaitFrames ≠ 0)
    (beginFrame : XrtResult) (ret : XrSuccess) :
    r.Keeps ({ r.sess with frameStarted := true }.beginWaited beginFrame ret).1.frames r.run r.waiting r.waitedIds r.given ∧
      ∃ id ∈ r.live, ¬ Begun r.sess.told id := by
  have hnone := h.started hstarted
  obtain ⟨id, hid⟩ : ∃ id, id ∈ r.live := by
    apply List.exists_mem_of_ne_nil
    intro hnil
    have hcount : r.sess.activeWaitFrames = r.live.length := h.count
    rw [hnil] at hcount
    exact hsome hcount
  have hwaited := h.not_begun id hid (hnone id hid)
  subst hwaited
  refine ⟨?_, ⟨_, hid, hnone _ hid⟩⟩
  have hsound : ({ r.sess with frameStarted := true } : OxrSession).frames.Sound r.run r.waiting r.waitedIds r.given :=
    { h with started := nofun }
  have hnothing : r.sess.told = [] ++ r.sess.told := rfl
  exact beginWaited_keeps hsound rfl hid hnone hnothing nofun ⟨hid, hnone _ hid⟩ beginFrame _

theorem beginSecond_keeps (h : r.Sound) (hstarted : r.sess.frameStarted = true) (htwo : r.sess.activeWaitFrames = 2)
    (beginFrame : XrtResult) (ret : XrSuccess) :
    r.Keeps ({ r.sess.tell .discard r.sess.frameIdBegun .success with
      frameIdBegun := -1, activeWaitFrames := r.sess.activeWaitFrames - 1 }.beginWaited beginFrame ret).1.frames
        r.run r.waiting r.waitedIds r.given := by
  obtain ⟨hwaited, hbegun⟩ := h.two htwo
  have hmem : ∀ id, id ∈ liveFrames r.waitedIds (⟨.discard, r.sess.frameIdBegun, true⟩ :: r.sess.told) ↔
      id ∈ r.live ∧ id ≠ r.sess.frameIdBegun := fun _ => mem_liveFrames_cons_of_ne nofun
  have hsame : ∀ id, Begun (⟨.discard, r.sess.frameIdBegun, true⟩ :: r.sess.told) id ↔ Begun r.sess.told id :=
    fun _ => begun_cons_of_ne nofun
  have hne : r.sess.frameIdWaited ≠ r.sess.frameIdBegun := by
    intro heq
    apply hwaited.2
    rw [show r.sess.frames.waited = r.sess.frames.begun from heq]
    exact hbegun.2
  have hsound : ({ r.sess.tell .discard r.sess.frameIdBegun .success with
      frameIdBegun := -1, activeWaitFrames := r.sess.activeWaitFrames - 1 } : OxrSession).frames.Sound
        r.run r.waiting r.waitedIds r.given := by
    have hstep : FrameStep.discard ≠ .beginFrame := nofun
    exact h.finish hstep hbegun.1 hbegun.2 r.sess.frameStarted
  have hnone : ∀ id ∈ liveFrames r.waitedIds (⟨.discard, r.sess.frameIdBegun, true⟩ :: r.sess.told),
      ¬ Begun (⟨.discard, r.sess.frameIdBegun, true⟩ :: r.sess.told) id := by
    intro id hid hb
    obtain ⟨hid, hne⟩ := (hmem id).1 hid
    exact hne (h.is_begun id hid ((hsame id).1 hb))
  have htells : ∀ t ∈ [(⟨.discard, r.sess.frameIdBegun, true⟩ : Told)], r.MayTell t :=
    List.forall_mem_singleton.2 ⟨hbegun.1, trivial⟩
  exact beginWaited_keeps hsound hstarted ((hmem _).2 ⟨hwaited.1, hne⟩) hnone rfl htells hwaited beginFrame _

theorem frameBegin_keeps (h : r.Sound) (discard beginFrame : XrtResult) :
    r.Keeps (r.sess.frameBegin discard beginFrame).1.frames r.run r.waiting r.waitedIds r.given ∧
      ((∃ ret, (r.sess.frameBegin discard beginFrame).2 = .ok ret) → ∃ id ∈ r.live, ¬ Begun r.sess.told id) := by
  have hheadless : r.sess.headless = false := h.compositor
  unfold OxrSession.frameBegin
  by_cases hzero : r.sess.activeWaitFrames = 0
  · rw [if_pos hzero]
    exact ⟨h.keeps, nofun⟩
  rw [if_neg hzero]
  cases hstarted : r.sess.frameStarted with
  | false =>
    simp only [Bool.false_eq_true, if_false]
    obtain ⟨hkeeps, hlive⟩ := beginFirst_keeps h hstarted hzero beginFrame _
    exact ⟨hkeeps, fun _ => hlive⟩
  | true =>
    simp only [if_true]
    by_cases htwo : r.sess.activeWaitFrames = 2
    · rw [if_neg (not_not.2 htwo), if_neg (by simp [hheadless])]
      obtain ⟨hwaited, hbegun⟩ := h.two htwo
      refine ⟨?_, fun _ => ⟨_, hwaited⟩⟩
      by_cases hdiscard : discard = .success
      · subst hdiscard
        rw [if_neg (by simp)]
        exact beginSecond_keeps h hstarted htwo beginFrame _
      · rw [if_pos hdiscard]
        have hrefused : (discard == .success) = false := by simpa using hdiscard
        have hframes : ((r.sess.tell .discard r.sess.frameIdBegun discard).fail discard).1.frames =
            r.sess.frames.tell ⟨.discard, r.sess.frameIdBegun, false⟩ := by
          rw [← hrefused]
          rfl
        rw [hframes]
        exact ⟨h.refuse rfl, tells_one rfl ⟨hbegun.1, trivial⟩⟩
    · rw [if_pos htwo]
      exact ⟨h.keeps, nofun⟩

/-! ## Ending a frame -/

theorem Sound.finished (h : r.Sound) {step : FrameStep} (hstep : step ≠ .beginFrame) (hbegun : r.HasBegun) :
    r.Keeps (r.sess.frames.finish step false) r.run r.waiting r.waitedIds r.given := by
  refine ⟨h.finish hstep hbegun.1 hbegun.2 false, tells_one rfl ⟨hbegun.1, ?_⟩⟩
  cases step with
  | beginFrame => exact absurd rfl hstep
  | discard => trivial
  | submit => exact hbegun.2

theorem submitBegun_keeps (h : r.Sound) (hbegun : r.HasBegun) (answers : FrameEndAnswers) :
    r.Keeps (r.sess.submitBegun answers).1.frames r.run r.waiting r.waitedIds r.given := by
  have hsame : r.sess.doSynchronizeStateChange.frames = r.sess.frames := frames_doSynchronizeStateChange
  unfold OxrSession.submitBegun
  dsimp only
  by_cases haccepted : answers.submitted = .success
  · have hstep : FrameStep.submit ≠ .beginFrame := nofun
    have hfinished := h.finished hstep hbegun
    rw [if_neg (not_not.2 haccepted), haccepted]
    rw [← hsame] at hfinished
    exact hfinished
  · have hrefused : (answers.submitted == .success) = false := by simpa using haccepted
    have htold : (r.sess.frames.tell ⟨.submit, r.sess.frameIdBegun, false⟩).Sound r.run r.waiting r.waitedIds r.given :=
      h.refuse rfl
    have hframes : ((r.sess.doSynchronizeStateChange.tell .submit r.sess.doSynchronizeStateChange.frameIdBegun
        answers.submitted).fail answers.submitted).1.frames = r.sess.frames.tell ⟨.submit, r.sess.frameIdBegun, false⟩ := by
      rw [← hrefused, ← hsame, show r.sess.frameIdBegun = r.sess.frames.begun from rfl, ← hsame]
      rfl
    rw [if_pos haccepted, hframes]
    exact ⟨htold, tells_one rfl ⟨hbegun.1, hbegun.2⟩⟩

theorem frameEnd_keeps (h : r.Sound) {frame : CheckedFrame} {answers : FrameEndAnswers}
    (hcareful : r.sess.frameStarted = true → 0 < frame.displayTime → frame.blendMode = .ok () →
      (frame.layerCount = 0 → r.HasBegun ∧ answers.discard = .success) ∧
        (frame.layerCount ≠ 0 → frame.layers = .ok () → r.HasBegun)) :
    r.Keeps (r.sess.frameEnd frame answers).1.frames r.run r.waiting r.waitedIds r.given := by
  have hheadless : r.sess.headless = false := h.compositor
  unfold OxrSession.frameEnd
  cases hstarted : r.sess.frameStarted with
  | false => exact h.keeps
  | true =>
    by_cases htime : frame.displayTime ≤ 0
    · simp only [Bool.not_true, Bool.false_eq_true, if_false, if_pos htime]
      exact h.keeps
    · simp only [Bool.not_true, Bool.false_eq_true, if_false, if_neg htime, hheadless]
      cases hblend : frame.blendMode with
      | error e => exact h.keeps
      | ok _ =>
        obtain ⟨hdiscards, hsubmits⟩ := hcareful hstarted (Int.not_le.1 htime) hblend
        by_cases hcount : frame.layerCount = 0
        · obtain ⟨hbegun, hdiscard⟩ := hdiscards hcount
          have hstep : FrameStep.discard ≠ .beginFrame := nofun
          have hfinished := h.finished hstep hbegun
          simp only [if_pos hcount, OxrSession.discardBegun, hdiscard, ne_eq, not_true, if_false]
          rw [frames_doSynchronizeStateChange]
          exact hfinished
        · simp only [if_neg hcount]
          cases hlayers : frame.layers with
          | error e => exact h.keeps
          | ok _ => exact submitBegun_keeps h (hsubmits hcount hlayers) answers

/-! ## Waiting -/

theorem doWaitFrameAndChecks_error {answer : WaitAnswer} {e : XrError}
    (h : (s.doWaitFrameAndChecks answer).2 = .error e) : (s.doWaitFrameAndChecks answer).1.frames = s.frames := by
  revert h
  unfold OxrSession.doWaitFrameAndChecks
  repeat' split
  all_goals exact fun _ => rfl

theorem doWaitFrameAndChecks_ok {answer : WaitAnswer} {id : ℤ} (h : (s.doWaitFrameAndChecks answer).2 = .ok id) :
    (s.doWaitFrameAndChecks answer).1 = s := by
  revert h
  unfold OxrSession.doWaitFrameAndChecks
  repeat' split
  all_goals first | exact fun _ => rfl | exact nofun

theorem enterWait_sound (h : r.Sound) (hstep : r.enterWait = some r') : r'.Sound ∧ r'.sess.told = r.sess.told := by
  unfold enterWait at hstep
  split at hstep
  · cases hstep
  · rename_i hnone
    have hwaiting : r.waiting = none := by simpa using hnone
    split at hstep
    · cases hstep
      exact ⟨h, rfl⟩
    · rename_i hlive
      have hrunning : r.sess.frameSync.running = true := by
        by_contra hnot
        exact hlive (Or.inr (Or.inl (Bool.eq_false_iff.2 hnot)))
      have hsound : r.sess.frames.Sound r.run none r.waitedIds r.given := hwaiting ▸ h
      cases hopen : r.sess.frameSync.canWaitFrameReturn with
      | false => simp [OxrFrameSync.waitFrame, hrunning, hopen] at hstep
      | true =>
        simp only [OxrFrameSync.waitFrame, hrunning, hopen, if_true, Option.some.injEq] at hstep
        subst hstep
        exact ⟨hsound.enter hrunning hopen, rfl⟩

theorem leaveWait_sound (h : r.Sound) {answer : WaitAnswer}
    (hcareful : ∀ run, r.waiting = some run → (∃ id, (r.sess.doWaitFrameAndChecks answer).2 = .ok id) →
      run = r.run ∧ r.sess.frameSync.running = true)
    (hstep : r.leaveWait answer = some r') : r'.Sound ∧ r'.sess.told = r.sess.told := by
  unfold leaveWait at hstep
  split at hstep
  · cases hstep
  · rename_i n hwaiting
    have hsound : r.sess.frames.Sound r.run (some n) r.waitedIds r.given := hwaiting ▸ h
    split at hstep
    · rename_i t e heq
      have hframes : t.frames = r.sess.frames := by
        have herror := doWaitFrameAndChecks_error (congrArg Prod.snd heq)
        rwa [heq] at herror
      have hgiven := hsound.giveUp
      cases hstep
      unfold SessionRun.Sound OxrSession.frameWait
      simp only [heq]
      rw [← hframes] at hgiven
      exact ⟨hgiven, congrArg Frames.told hframes⟩
    · rename_i t id heq
      have hsame : t = r.sess := by
        have hok := doWaitFrameAndChecks_ok (congrArg Prod.snd heq)
        rwa [heq] at hok
      subst hsame
      obtain ⟨rfl, hrunning⟩ := hcareful n hwaiting ⟨id, congrArg Prod.snd heq⟩
      split at hstep
      · cases hstep
      · rename_i hnew
        cases hstep
        unfold SessionRun.Sound OxrSession.frameWait
        simp only [heq, hrunning, and_self, if_true]
        exact ⟨hsound.wait hrunning hnew, trivial⟩

/-! ## Beginning and ending a session -/

theorem xrBeginSession_sound (h : r.Sound) (viewConfig : Except XrError Unit) (xret presence : XrtResult) :
    (∃ ret, (r.sess.xrBeginSession viewConfig xret presence).2 = .ok ret) ∧
        (r.sess.xrBeginSession viewConfig xret presence).1.frames.Sound (r.run + 1) r.waiting [] r.given ∧
        (r.sess.xrBeginSession viewConfig xret presence).1.told = r.sess.told ∨
      (∃ e, (r.sess.xrBeginSession viewConfig xret presence).2 = .error e) ∧
        (r.sess.xrBeginSession viewConfig xret presence).1.frames = r.sess.frames := by
  have hheadless : r.sess.headless = false := h.compositor
  have hrefused : ∀ e, (∃ e', ((r.sess, .error e) : SessionResult).2 = .error e') ∧
      ((r.sess, .error e) : SessionResult).1.frames = r.sess.frames := fun e => ⟨⟨e, rfl⟩, rfl⟩
  unfold OxrSession.xrBeginSession
  split
  · exact Or.inr (hrefused _)
  · split
    · exact Or.inr (hrefused _)
    · cases hrunning : r.sess.frameSync.running with
      | true => exact Or.inr (hrefused _)
      | false =>
        simp only [Bool.false_eq_true, if_false, OxrSession.sessionBegin, hheadless]
        split
        · exact Or.inr (hrefused _)
        · split
          · exact Or.inr ⟨⟨_, rfl⟩, rfl⟩
          · split
            · exact Or.inr ⟨⟨_, rfl⟩, rfl⟩
            · simp only [OxrSession.startFrameSync, OxrFrameSync.beginSession, hrunning, Bool.not_false, if_true]
              exact Or.inl ⟨⟨_, rfl⟩, h.start hrunning, trivial⟩

theorem stopFrameSync_frames (s : OxrSession) : ∃ sync, (sync = s.frameSync ∨ sync.running = false) ∧
    s.stopFrameSync.1.frames = { s.frames with sync := sync } := by
  unfold OxrSession.stopFrameSync
  dsimp only
  generalize ht : (if (s.changeState .idle).exiting = true then (s.changeState .idle).changeState .exiting
    else if (s.changeState .idle).android = true then s.changeState .idle
    else (s.changeState .idle).changeState .ready) = t
  have hframes : t.frames = s.frames := by
    rw [← ht]
    split
    · rw [frames_changeState, frames_changeState]
    · split
      · rw [frames_changeState]
      · rw [frames_changeState, frames_changeState]
  rw [← hframes, show s.frameSync = t.frameSync from (congrArg Frames.sync hframes).symm]
  cases hend : t.frameSync.endSession with
  | none => exact ⟨t.frameSync, Or.inl rfl, rfl⟩
  | some ofs =>
    refine ⟨ofs, Or.inr ?_, rfl⟩
    unfold OxrFrameSync.endSession at hend
    split at hend <;> cases hend
    rfl

theorem sessionEnd_sound (h : r.Sound) {discardWaited discardBegun xret : XrtResult}
    (hcareful : r.sess.skipEndSession = false → r.sess.state = .stopping → r.sess.activeWaitFrames = 0) :
    (r.sess.sessionEnd discardWaited discardBegun xret).1.frames.Sound r.run r.waiting r.waitedIds r.given ∧
      (r.sess.sessionEnd discardWaited discardBegun xret).1.told = r.sess.told := by
  have hheadless : r.sess.headless = false := h.compositor
  have hkept : r.sess.frames.Sound r.run r.waiting r.waitedIds r.given ∧ r.sess.told = r.sess.told := ⟨h, rfl⟩
  unfold OxrSession.sessionEnd
  cases hskip : r.sess.skipEndSession with
  | true => exact hkept
  | false =>
    simp only [Bool.false_eq_true, if_false, hheadless]
    split
    · exact hkept
    · split
      · exact hkept
      · rename_i hstopping
        have hactive := hcareful hskip (not_not.1 hstopping)
        have hdiscards : r.sess.discardFrames discardWaited discardBegun = { r.sess with frameStarted := false } := by
          have hnone := (h.stop hactive r.sess.frameSync (Or.inl rfl)).1
          have hwaited : ¬ r.sess.frameIdWaited > 0 := hnone.1
          have hbegun : ¬ r.sess.frameIdBegun > 0 := hnone.2
          simp only [OxrSession.discardFrames, if_neg hwaited, if_neg hbegun]
        rw [hdiscards]
        split
        · exact ⟨(h.stop hactive r.sess.frameSync (Or.inl rfl)).2, rfl⟩
        · obtain ⟨sync, hsync, hframes⟩ := stopFrameSync_frames { r.sess with frameStarted := false }
          rw [hframes]
          exact ⟨(h.stop hactive sync hsync).2, congrArg Frames.told hframes⟩

/-! ## Runs -/

theorem whileRunning_keeps (h : r.Sound) {result : SessionResult}
    (hresult : r.sess.hasLost = false → r.sess.frameSync.running = true →
      r.Keeps result.1.frames r.run r.waiting r.waitedIds r.given) :
    r.Keeps (r.sess.whileRunning result).1.frames r.run r.waiting r.waitedIds r.given := by
  rcases whileRunning_cases r.sess result with ⟨hlost, hrunning, heq⟩ | heq
  · rw [heq]
    exact hresult hlost hrunning
  · rw [heq]
    exact h.keeps

theorem tells_nothing {told : List Told} (h : told = r.sess.told) :
    ∃ new, told = new ++ r.sess.told ∧ ∀ t ∈ new, r.MayTell t :=
  ⟨[], h, nofun⟩

theorem step_keeps (h : r.Sound) {call : SessionCall} (hcareful : r.Careful call) (hstep : r.step call = some r') :
    r.Keeps r'.sess.frames r'.run r'.waiting r'.waitedIds r'.given := by
  cases call with
  | beginSession viewConfig xret presence =>
    have hbegin := xrBeginSession_sound h viewConfig xret presence
    simp only [step] at hstep
    split at hstep <;> rename_i heq <;> rw [heq] at hbegin <;> cases hstep
    · rcases hbegin with ⟨-, hsound, htold⟩ | ⟨⟨e, he⟩, -⟩
      · exact ⟨hsound, tells_nothing htold⟩
      · cases he
    · rcases hbegin with ⟨⟨ret, hret⟩, -, -⟩ | ⟨-, hframes⟩
      · cases hret
      · rw [show _ = r.sess.frames from hframes]
        exact h.keeps
  | endSession discardWaited discardBegun xret =>
    cases hstep
    refine whileRunning_keeps h fun hlost hrunning => ?_
    obtain ⟨hsound, htold⟩ := sessionEnd_sound h (hcareful hlost hrunning)
    exact ⟨hsound, tells_nothing htold⟩
  | requestExitSession =>
    cases hstep
    refine whileRunning_keeps h fun _ _ => ?_
    rw [frames_requestExit]
    exact h.keeps
  | waitFrame =>
    obtain ⟨hsound, htold⟩ := enterWait_sound h hstep
    exact ⟨hsound, tells_nothing htold⟩
  | waitReturns answer =>
    obtain ⟨hsound, htold⟩ := leaveWait_sound h hcareful hstep
    exact ⟨hsound, tells_nothing htold⟩
  | beginFrame discard beginFrame =>
    cases hstep
    exact whileRunning_keeps h fun _ _ => (frameBegin_keeps h discard beginFrame).1
  | endFrame maxLayers frame answers =>
    cases hstep
    refine whileRunning_keeps h fun hlost hrunning => ?_
    split
    · exact h.keeps
    · rename_i hlimit
      exact frameEnd_keeps h (hcareful hlost hrunning (Nat.le_of_not_lt hlimit))
  | pollEvent activity events last =>
    cases hstep
    rw [frames_poll]
    exact h.keeps

theorem xrBeginFrame_ok (h : r.Sound) {discard beginFrame : XrtResult}
    (hok : ∃ ret, (r.sess.xrBeginFrame discard beginFrame).2 = .ok ret) : ∃ id ∈ r.live, ¬ Begun r.sess.told id := by
  obtain ⟨ret, hret⟩ := hok
  unfold OxrSession.xrBeginFrame OxrSession.whileRunning at hret
  split at hret
  · cases hret
  · split at hret
    · cases hret
    · exact (frameBegin_keeps h discard beginFrame).2 ⟨ret, hret⟩

theorem step_framesKept (h : r.Sound) {call : SessionCall} (hcareful : r.Careful call) : r.FramesKept call := by
  intro r' hstep
  have hkeeps := step_keeps h hcareful hstep
  refine ⟨Sound.accounted hkeeps.sound, hkeeps.tells, ?_⟩
  rintro discard beginFrame rfl hok
  exact xrBeginFrame_ok h hok

theorem create_sound (skipEndSession android : Bool) : (create false skipEndSession android).Sound :=
  ⟨rfl, rfl, List.nodup_nil, nofun, nofun, nofun, nofun, nofun, nofun, nofun, nofun, fun _ => rfl, nofun, nofun,
    List.nodup_nil⟩

/-- In every run of a session with a compositor the records of frames are right, if it is ended when it has none, if
waits give frames in the run of the session in which they began, and if frames that are ended have been begun, and are
discarded if they have no layers. -/
theorem frames_accounted (skipEndSession android : Bool) (calls : List SessionCall)
    (hcareful : Along step Careful (create false skipEndSession android) calls) :
    Along step FramesKept (create false skipEndSession android) calls :=
  along_of_inv (I := SessionRun.Sound) (fun _ _ h hc => step_framesKept h hc)
    (fun _ _ _ h hc hstep => (step_keeps h hc hstep).sound) (create_sound skipEndSession android) hcareful

/-- A frame that is begun, and ended without layers, before the session is ended. -/
theorem frames_accounted_one : Along step FramesKept (create false false false)
    [.beginSession (.ok ()) .success .success, .waitFrame, .waitReturns ⟨.success, 1, 1, 1⟩,
      .beginFrame .success .success, .endFrame 16 ⟨1, .ok (), 0, .ok ()⟩ ⟨.success, .success, .success⟩,
      .requestExitSession, .endSession .success .success .success] := by
  apply frames_accounted
  refine along_cons.2 ⟨trivial, ?_⟩
  rintro _ ⟨⟩
  refine along_cons.2 ⟨trivial, ?_⟩
  rintro _ ⟨⟩
  refine along_cons.2 ⟨fun run hrun _ => ⟨(Option.some.inj hrun).symm, rfl⟩, ?_⟩
  rintro _ ⟨⟩
  refine along_cons.2 ⟨trivial, ?_⟩
  rintro _ ⟨⟩
  refine along_cons.2 ⟨fun _ _ _ _ _ _ => ⟨fun _ => ⟨⟨?_, ?_⟩, rfl⟩, fun hne => absurd rfl hne⟩, ?_⟩
  · decide
  · decide
  rintro _ ⟨⟩
  refine along_cons.2 ⟨trivial, ?_⟩
  rintro _ ⟨⟩
  exact along_cons.2 ⟨fun _ _ _ _ => rfl, fun _ _ => trivial⟩

/-- A session that is ended when a frame has been waited for: the frame is discarded, and is still counted. -/
theorem endWaited_not_accounted : ¬ Along step FramesKept (create false false false)
    [.beginSession (.ok ()) .success .success, .waitFrame, .waitReturns ⟨.success, 1, 1, 1⟩, .requestExitSession,
      .endSession .success .success .success] := by
  intro h
  obtain ⟨-, h⟩ := along_cons.1 h
  obtain ⟨-, h⟩ := along_cons.1 (h _ rfl)
  obtain ⟨-, h⟩ := along_cons.1 (h _ rfl)
  obtain ⟨-, h⟩ := along_cons.1 (h _ rfl)
  obtain ⟨hkept, -⟩ := along_cons.1 (h _ rfl)
  have hcount := (hkept _ rfl).1.count
  revert hcount
  decide

end SessionRun

end AugmentedInsanity.Oxr
