/-
The base session of a composition: the bottommost client compositor that has its base flag set and a frame to show
(`transfer_layers_locked`). The flag is set at creation for every session that is not an overlay, but the IPC server's
call about the main application writes it for overlays (`system_compositor_set_main_app_visibility`). An overlay is
not picked while another session is visible exactly when below each flagged overlay in the composition there is a
session in it that is no overlay (`basePicked_iff`).
-/
import Mathlib.Data.List.Find
import AugmentedInsanity.Ipc.Server.CompositorControl

namespace AugmentedInsanity.Multi

open Ipc Runs

/-! ## Client compositors -/

/-- The part of `struct multi_compositor` that a composition looks at, with its address. -/
structure MultiCompositor where
  xc : ℕ
  isOverlay : Bool
  visible : Bool
  focused : Bool
  zOrder : ℤ
  sessionActive : Bool
  isBaseSession : Bool
  deliveredActive : Bool
  deriving DecidableEq

def multiCompositorCreate (xc : ℕ) (isOverlay : Bool) : MultiCompositor where
  xc := xc
  isOverlay := isOverlay
  visible := false
  focused := false
  zOrder := 0
  sessionActive := false
  isBaseSession := !isOverlay
  deliveredActive := false

def atCompositor (clients : List MultiCompositor) (xc : ℕ) (f : MultiCompositor → MultiCompositor) :
    List MultiCompositor :=
  clients.map fun mc => if mc.xc = xc then f mc else mc

/-- `system_compositor_set_state`, `system_compositor_set_z_order`, `system_compositor_set_main_app_visibility`. -/
def controlStep (clients : List MultiCompositor) : ControlCall → List MultiCompositor
  | .setState xc visible focused => atCompositor clients xc ({ · with visible := visible, focused := focused })
  | .setZOrder xc zOrder => atCompositor clients xc ({ · with zOrder := zOrder })
  | .setMainAppVisibility xc visible => atCompositor clients xc ({ · with isBaseSession := visible })

/-! ## A composition -/

/-- The client has a frame, and the frame is to be shown. -/
def MultiCompositor.composed (mc : MultiCompositor) : Bool := mc.deliveredActive && mc.visible && mc.sessionActive

/-- An array of the composed clients that is sorted by `overlay_sort_func`; `qsort` may leave any order between clients
of one z-order. -/
structure SortedArray (clients array : List MultiCompositor) : Prop where
  perm : array.Perm (clients.filter MultiCompositor.composed)
  sorted : array.Pairwise (·.zOrder ≤ ·.zOrder)

/-- The base compositor of `transfer_layers_locked`. -/
def baseComp (array : List MultiCompositor) : Option MultiCompositor :=
  array.find? fun mc => mc.isBaseSession && mc.visible && mc.sessionActive && mc.deliveredActive

/-- Clients whose frame is not shown have it retired. -/
def transferLayersLocked (clients : List MultiCompositor) : List MultiCompositor :=
  clients.map fun mc =>
    if mc.deliveredActive && !(mc.visible && mc.sessionActive) then { mc with deliveredActive := false } else mc

theorem baseComp_spec {clients array : List MultiCompositor} (h : SortedArray clients array) :
    baseComp array = array.find? MultiCompositor.isBaseSession := by
  unfold baseComp
  refine List.find?_congr fun mc hmc => ?_
  have hcomposed : mc.composed = true := (List.mem_filter.1 (h.perm.mem_iff.1 hmc)).2
  simp only [MultiCompositor.composed, Bool.and_eq_true] at hcomposed
  rw [hcomposed.1.1, hcomposed.1.2, hcomposed.2, Bool.and_true, Bool.and_true, Bool.and_true]

/-- Overlays with the flag have a session below them that is no overlay. -/
def OverlaysAbove (clients : List MultiCompositor) : Prop :=
  ∀ overlay ∈ clients.filter MultiCompositor.composed, overlay.isOverlay = true → overlay.isBaseSession = true →
    ∃ mc ∈ clients.filter MultiCompositor.composed, mc.isOverlay = false ∧ mc.zOrder < overlay.zOrder

/-- In whatever order the clients are sorted, the base session is no overlay. -/
def BaseNoOverlay (clients : List MultiCompositor) : Prop :=
  ∀ array, SortedArray clients array → ∀ base, baseComp array = some base → base.isOverlay = false

def overlaysFirst (a b : MultiCompositor) : Bool :=
  decide (a.zOrder < b.zOrder ∨ a.zOrder = b.zOrder ∧ (a.isOverlay = true ∨ b.isOverlay = false))

theorem overlaysFirst_iff (a b : MultiCompositor) : overlaysFirst a b = true ↔
    a.zOrder < b.zOrder ∨ a.zOrder = b.zOrder ∧ (a.isOverlay = true ∨ b.isOverlay = false) :=
  decide_eq_true_iff

theorem overlaysFirst_trans (a b c : MultiCompositor) (hab : overlaysFirst a b = true)
    (hbc : overlaysFirst b c = true) : overlaysFirst a c = true := by
  rw [overlaysFirst_iff] at *
  rcases hab with hab | ⟨hab, ha | hb⟩
  · rcases hbc with hbc | ⟨hbc, -⟩
    · exact Or.inl (hab.trans hbc)
    · exact Or.inl (hbc ▸ hab)
  · rcases hbc with hbc | ⟨hbc, -⟩
    · exact Or.inl (hab ▸ hbc)
    · exact Or.inr ⟨hab.trans hbc, Or.inl ha⟩
  · rcases hbc with hbc | ⟨hbc, hb' | hc⟩
    · exact Or.inl (hab ▸ hbc)
    · rw [hb] at hb'
      cases hb'
    · exact Or.inr ⟨hab.trans hbc, Or.inr hc⟩

theorem overlaysFirst_total (a b : MultiCompositor) : (overlaysFirst a b || overlaysFirst b a) = true := by
  rw [Bool.or_eq_true, overlaysFirst_iff, overlaysFirst_iff]
  rcases lt_trichotomy a.zOrder b.zOrder with hlt | heq | hgt
  · exact Or.inl (Or.inl hlt)
  · cases ha : a.isOverlay
    · exact Or.inr (Or.inr ⟨heq.symm, Or.inr rfl⟩)
    · exact Or.inl (Or.inr ⟨heq, Or.inl rfl⟩)
  · exact Or.inr (Or.inl hgt)

theorem sortedArray_overlaysFirst (clients : List MultiCompositor) :
    SortedArray clients ((clients.filter MultiCompositor.composed).mergeSort overlaysFirst) := by
  refine ⟨List.mergeSort_perm _ _, ?_⟩
  refine (List.pairwise_mergeSort overlaysFirst_trans overlaysFirst_total _).imp fun {a b} hab => ?_
  rcases (overlaysFirst_iff a b).1 hab with hlt | ⟨heq, -⟩
  · exact hlt.le
  · exact heq.le

theorem find?_before {α : Type*} {R : α → α → Prop} {p : α → Bool} {l : List α} (hl : l.Pairwise R) {a b : α}
    (hfind : l.find? p = some a) (hb : b ∈ l) (hp : p b = true) (hne : b ≠ a) : R a b := by
  obtain ⟨-, before, after, rfl, hbefore⟩ := List.find?_eq_some_iff_append.1 hfind
  rcases List.mem_append.1 hb with hmem | hmem
  · have hnot := hbefore b hmem
    rw [hp] at hnot
    cases hnot
  · have hmem : b ∈ after := (List.mem_cons.1 hmem).resolve_left hne
    exact (List.pairwise_cons.1 (List.pairwise_append.1 hl).2.1).1 b hmem

variable {clients : List MultiCompositor}

theorem baseNoOverlay_iff (hbase : ∀ mc ∈ clients, mc.isOverlay = false → mc.isBaseSession = true) :
    BaseNoOverlay clients ↔ OverlaysAbove clients := by
  constructor
  · intro h overlay hmem hoverlay hflag
    by_contra hnone
    push Not at hnone
    have harray := sortedArray_overlaysFirst clients
    set array := (clients.filter MultiCompositor.composed).mergeSort overlaysFirst
    have hin : overlay ∈ array := harray.perm.mem_iff.2 hmem
    have hfound : (array.find? MultiCompositor.isBaseSession).isSome = true :=
      List.find?_isSome.2 ⟨overlay, hin, hflag⟩
    obtain ⟨base, hfind⟩ := Option.isSome_iff_exists.1 hfound
    have hno := h array harray base ((baseComp_spec harray).trans hfind)
    have hne : overlay ≠ base := by
      rintro rfl
      rw [hoverlay] at hno
      cases hno
    have hsorted := List.pairwise_mergeSort overlaysFirst_trans overlaysFirst_total
      (clients.filter MultiCompositor.composed)
    have hbefore := find?_before hsorted hfind hin hflag hne
    have hbaseMem := harray.perm.mem_iff.1 (List.mem_of_find?_eq_some hfind)
    rcases (overlaysFirst_iff base overlay).1 hbefore with hlt | ⟨-, htrue | hfalse⟩
    · exact absurd hlt (not_lt.2 (hnone base hbaseMem hno))
    · rw [hno] at htrue
      cases htrue
    · rw [hoverlay] at hfalse
      cases hfalse
  · intro h array harray base hpick
    rw [baseComp_spec harray] at hpick
    by_contra hoverlay
    have hbaseMem := harray.perm.mem_iff.1 (List.mem_of_find?_eq_some hpick)
    have hflag : base.isBaseSession = true := List.find?_some hpick
    obtain ⟨mc, hmem, hno, hlt⟩ := h base hbaseMem (Bool.not_eq_false _ ▸ hoverlay) hflag
    have hne : mc ≠ base := by
      rintro rfl
      exact lt_irrefl _ hlt
    have hmcFlag := hbase mc (List.mem_filter.1 hmem).1 hno
    have hbefore := find?_before harray.sorted hpick (harray.perm.mem_iff.2 hmem) hmcFlag hne
    exact absurd hlt (not_lt.2 hbefore)

/-! ## The server and the system compositor -/

/-- The IPC server, the client compositors, and the calls on them that are under way. -/
structure BaseRun where
  server : IpcServer
  clients : List MultiCompositor
  pending : List ControlCall

def controlTarget : ControlCall → ℕ
  | .setState xc _ _ => xc
  | .setZOrder xc _ => xc
  | .setMainAppVisibility xc _ => xc

/-- The address is of no compositor, and of no call that is under way. -/
def BaseRun.Fresh (r : BaseRun) (xc : ℕ) : Prop :=
  (∀ mc ∈ r.clients, mc.xc ≠ xc) ∧ ∀ call ∈ r.pending, controlTarget call ≠ xc

instance (r : BaseRun) (xc : ℕ) : Decidable (r.Fresh xc) := by unfold BaseRun.Fresh; infer_instance

/-- A step of the server, a call that gets through to its compositor, or a step of a client or the render thread. -/
inductive BaseOp
  | server (op : ServerOp)
  | control (call : ControlCall)
  | setSession (xc : ℕ) (active : Bool)
  | deliver (xc : ℕ)
  | discard (xc : ℕ)
  | compose

/-- The compositors after an operation of the server. -/
def afterServer (s : IpcServer) (clients : List MultiCompositor) (op : ServerOp) : List MultiCompositor :=
  let clients :=
    match destroyedCompositor s op with
    | none => clients
    | some xc => clients.filter (·.xc ≠ xc)
  match createdCompositor s op with
  | none => clients
  | some (xc, isOverlay) => multiCompositorCreate xc isOverlay :: clients

def baseStep (r : BaseRun) : BaseOp → Option BaseRun
  | .server op =>
    if ∀ xc ∈ (createdCompositor r.server op).map Prod.fst, r.Fresh xc then
      (step r.server op).map fun server =>
        ⟨server, afterServer r.server r.clients op, r.pending ++ controlCalls r.server op⟩
    else none
  | .control call =>
    if call ∈ r.pending then some ⟨r.server, controlStep r.clients call, r.pending.erase call⟩ else none
  | .setSession xc active => some { r with clients := atCompositor r.clients xc ({ · with sessionActive := active }) }
  | .deliver xc => some { r with clients := atCompositor r.clients xc ({ · with deliveredActive := true }) }
  | .discard xc => some { r with clients := atCompositor r.clients xc ({ · with deliveredActive := false }) }
  | .compose => some { r with clients := transferLayersLocked r.clients }

/-- What is to hold of a composition: while a session that is no overlay is visible, the base session is no overlay. -/
def BasePicked (r : BaseRun) : BaseOp → Prop
  | .compose => (∃ mc ∈ r.clients, mc.isOverlay = false ∧ mc.visible = true) → BaseNoOverlay r.clients
  | _ => True

/-- While a session that is no overlay is visible, below each flagged overlay in a composition there is a session in it
that is no overlay. -/
def FlagsFit (r : BaseRun) : BaseOp → Prop
  | .compose => (∃ mc ∈ r.clients, mc.isOverlay = false ∧ mc.visible = true) → OverlaysAbove r.clients
  | _ => True

/-! ## The invariant -/

/-- Each compositor of a client of the server is that of a session of the same kind, and only overlays are called about
the main application; so the other sessions keep their flag. -/
structure BaseInv (r : BaseRun) : Prop where
  owned : ∀ i xc isOverlay, (r.server.client i).kind = (some xc, isOverlay) →
    ∃ mc ∈ r.clients, mc.xc = xc ∧ mc.isOverlay = isOverlay
  distinct : ∀ i j xc, (r.server.client i).xc = some xc → (r.server.client j).xc = some xc → i = j
  nodup : (r.clients.map MultiCompositor.xc).Nodup
  pending : ∀ xc visible, .setMainAppVisibility xc visible ∈ r.pending →
    ∀ mc ∈ r.clients, mc.xc = xc → mc.isOverlay = true
  base : ∀ mc ∈ r.clients, mc.isOverlay = false → mc.isBaseSession = true

def SameCompositors (clients clients' : List MultiCompositor) : Prop :=
  clients'.map (fun mc => (mc.xc, mc.isOverlay)) = clients.map fun mc => (mc.xc, mc.isOverlay)

theorem atCompositor_same (clients : List MultiCompositor) (xc : ℕ) (f : MultiCompositor → MultiCompositor)
    (hf : ∀ mc, (f mc).xc = mc.xc ∧ (f mc).isOverlay = mc.isOverlay) :
    SameCompositors clients (atCompositor clients xc f) := by
  unfold SameCompositors atCompositor
  rw [List.map_map]
  refine List.map_congr_left fun mc _ => ?_
  simp only [Function.comp_apply]
  split
  · rw [(hf mc).1, (hf mc).2]
  · rfl

theorem transferLayersLocked_same (clients : List MultiCompositor) :
    SameCompositors clients (transferLayersLocked clients) := by
  unfold SameCompositors transferLayersLocked
  rw [List.map_map]
  refine List.map_congr_left fun mc _ => ?_
  simp only [Function.comp_apply]
  split <;> rfl

variable {clients' : List MultiCompositor} {op : ServerOp} {r : BaseRun} {pending : List ControlCall}

theorem SameCompositors.mem (h : SameCompositors clients clients') {mc : MultiCompositor} (hmc : mc ∈ clients') :
    ∃ mc' ∈ clients, mc'.xc = mc.xc ∧ mc'.isOverlay = mc.isOverlay := by
  have hmem : (mc.xc, mc.isOverlay) ∈ clients'.map fun mc => (mc.xc, mc.isOverlay) := List.mem_map.2 ⟨mc, hmc, rfl⟩
  rw [h] at hmem
  obtain ⟨mc', hmc', heq⟩ := List.mem_map.1 hmem
  exact ⟨mc', hmc', congrArg Prod.fst heq, congrArg Prod.snd heq⟩

theorem SameCompositors.symm (h : SameCompositors clients clients') : SameCompositors clients' clients := Eq.symm h

theorem SameCompositors.addresses (h : SameCompositors clients clients') :
    clients'.map MultiCompositor.xc = clients.map MultiCompositor.xc := by
  have hfst := congrArg (List.map Prod.fst) h
  rwa [List.map_map, List.map_map] at hfst

theorem BaseInv.sameCompositors (h : BaseInv r) (hsame : SameCompositors r.clients clients)
    (hpending : pending ⊆ r.pending) (hbase : ∀ mc ∈ clients, mc.isOverlay = false → mc.isBaseSession = true) :
    BaseInv { r with clients := clients, pending := pending } := by
  constructor
  · intro i xc isOverlay hkind
    obtain ⟨mc, hmc, hxc, hoverlay⟩ := h.owned i xc isOverlay hkind
    obtain ⟨mc', hmc', hxc', hoverlay'⟩ := hsame.symm.mem hmc
    exact ⟨mc', hmc', hxc'.trans hxc, hoverlay'.trans hoverlay⟩
  · exact h.distinct
  · dsimp only
    rw [hsame.addresses]
    exact h.nodup
  · intro xc visible hmem mc hmc hxc
    obtain ⟨mc', hmc', hxc', hoverlay'⟩ := hsame.mem hmc
    rw [← hoverlay']
    exact h.pending xc visible (hpending hmem) mc' hmc' (hxc'.trans hxc)
  · exact hbase

/-! ### Operations of the server -/

theorem mem_afterServer {s : IpcServer} {mc : MultiCompositor} :
    mc ∈ afterServer s clients op ↔ (mc ∈ clients ∧ destroyedCompositor s op ≠ some mc.xc) ∨
      ∃ xc isOverlay, createdCompositor s op = some (xc, isOverlay) ∧ mc = multiCompositorCreate xc isOverlay := by
  have hkept : mc ∈ (match destroyedCompositor s op with
      | none => clients
      | some xc => clients.filter (·.xc ≠ xc)) ↔ mc ∈ clients ∧ destroyedCompositor s op ≠ some mc.xc := by
    cases destroyedCompositor s op with
    | none => simp
    | some xc =>
      rw [List.mem_filter, decide_eq_true_iff, ne_eq, ne_eq, Option.some.injEq, eq_comm]
  unfold afterServer
  cases hcreated : createdCompositor s op with
  | none =>
    simp only [hkept]
    constructor
    · exact Or.inl
    · rintro (hmem | ⟨xc, isOverlay, ⟨⟩, -⟩)
      exact hmem
  | some created =>
    obtain ⟨xc, isOverlay⟩ := created
    rw [List.mem_cons, hkept]
    constructor
    · rintro (rfl | hmem)
      · exact Or.inr ⟨xc, isOverlay, rfl, rfl⟩
      · exact Or.inl hmem
    · rintro (hmem | ⟨xc', isOverlay', heq, rfl⟩)
      · exact Or.inr hmem
      · cases heq
        exact Or.inl rfl

theorem nodup_afterServer {s : IpcServer} (h : (clients.map MultiCompositor.xc).Nodup)
    (hfresh : ∀ xc isOverlay, createdCompositor s op = some (xc, isOverlay) → ∀ mc ∈ clients, mc.xc ≠ xc) :
    ((afterServer s clients op).map MultiCompositor.xc).Nodup := by
  have hkept : ((match destroyedCompositor s op with
      | none => clients
      | some xc => clients.filter (·.xc ≠ xc)) : List MultiCompositor).Sublist clients := by
    cases destroyedCompositor s op with
    | none => exact List.Sublist.refl _
    | some xc => exact List.filter_sublist
  unfold afterServer
  cases hcreated : createdCompositor s op with
  | none => exact h.sublist (hkept.map _)
  | some created =>
    obtain ⟨xc, isOverlay⟩ := created
    refine List.nodup_cons.2 ⟨fun hmem => ?_, h.sublist (hkept.map _)⟩
    obtain ⟨mc, hmc, hxc⟩ := List.mem_map.1 hmem
    exact hfresh xc isOverlay hcreated mc (hkept.subset hmc) hxc

theorem kind_afterServer {s s' : IpcServer} (hs : step s op = some s')
    (hdistinct : ∀ i j xc, (s.client i).xc = some xc → (s.client j).xc = some xc → i = j) {j : Fin IPC_MAX_CLIENTS}
    {xc : ℕ} {isOverlay : Bool} (hkind : (s'.client j).kind = (some xc, isOverlay)) :
    (s.client j).kind = (some xc, isOverlay) ∧ destroyedCompositor s op ≠ some xc ∨
      createdCompositor s op = some (xc, isOverlay) ∧ ∀ i, i ≠ j → (s'.client i).kind = (s.client i).kind := by
  obtain ⟨i, hother, hself, hdestroyed⟩ := step_kindChange hs
  have hxc : (s'.client j).xc = some xc := congrArg Prod.fst hkind
  have hkept : (s'.client j).kind = (s.client j).kind → (s.client j).kind = (some xc, isOverlay) ∧
      destroyedCompositor s op ≠ some xc := by
    intro hsame
    rw [hsame] at hkind
    refine ⟨hkind, fun hgone => ?_⟩
    obtain ⟨hbefore, hafter⟩ := hdestroyed xc hgone
    have hji : j = i := hdistinct j i xc (congrArg Prod.fst hkind) hbefore
    rw [hji, hafter] at hxc
    cases hxc
  by_cases hji : j = i
  · subst hji
    rcases hself with hsame | hnone | ⟨xc', isOverlay', hcreated, hnew⟩
    · exact Or.inl (hkept hsame)
    · rw [hnone] at hxc
      cases hxc
    · rw [hnew] at hkind
      cases hkind
      exact Or.inr ⟨hcreated, hother⟩
  · exact Or.inl (hkept (hother j hji))

theorem BaseInv.serverStep (h : BaseInv r) {server : IpcServer}
    (hfresh : ∀ xc ∈ (createdCompositor r.server op).map Prod.fst, r.Fresh xc) (hs : step r.server op = some server) :
    BaseInv ⟨server, afterServer r.server r.clients op, r.pending ++ controlCalls r.server op⟩ := by
  have hnew : ∀ xc isOverlay, createdCompositor r.server op = some (xc, isOverlay) → r.Fresh xc := by
    intro xc isOverlay hcreated
    exact hfresh xc (by rw [hcreated]; rfl)
  constructor
  · intro j xc isOverlay hkind
    rcases kind_afterServer hs h.distinct hkind with ⟨hold, hkept⟩ | ⟨hcreated, -⟩
    · obtain ⟨mc, hmc, hxc, hoverlay⟩ := h.owned j xc isOverlay hold
      exact ⟨mc, mem_afterServer.2 (Or.inl ⟨hmc, hxc ▸ hkept⟩), hxc, hoverlay⟩
    · exact ⟨_, mem_afterServer.2 (Or.inr ⟨xc, isOverlay, hcreated, rfl⟩), rfl, rfl⟩
  · intro i j xc hi hj
    -- a client whose compositor is new shares it with no other, as the address was free
    have hclash : ∀ i j isOverlay, (server.client j).kind = (some xc, isOverlay) → (server.client i).xc = some xc →
        createdCompositor r.server op = some (xc, isOverlay) →
        (∀ i, i ≠ j → (server.client i).kind = (r.server.client i).kind) → i = j := by
      intro i j isOverlay _ hi hcreated hother
      by_contra hne
      have hxc : (r.server.client i).xc = some xc := (congrArg Prod.fst (hother i hne)).symm.trans hi
      obtain ⟨mc, hmc, hmcxc, -⟩ := h.owned i xc (r.server.client i).clientState.sessionOverlay (by
        rw [IpcClientState.kind, hxc])
      exact (hnew xc isOverlay hcreated).1 mc hmc hmcxc
    have hki : (server.client i).kind = (some xc, (server.client i).clientState.sessionOverlay) := by
      rw [IpcClientState.kind, hi]
    have hkj : (server.client j).kind = (some xc, (server.client j).clientState.sessionOverlay) := by
      rw [IpcClientState.kind, hj]
    rcases kind_afterServer hs h.distinct hki with ⟨hoi, -⟩ | ⟨hcreated, hother⟩
    · rcases kind_afterServer hs h.distinct hkj with ⟨hoj, -⟩ | ⟨hcreated, hother⟩
      · exact h.distinct i j xc (congrArg Prod.fst hoi) (congrArg Prod.fst hoj)
      · exact hclash i j _ hkj hi hcreated hother
    · exact (hclash j i _ hki hj hcreated hother).symm
  · exact nodup_afterServer h.nodup fun xc isOverlay hcreated => (hnew xc isOverlay hcreated).1
  · intro xc visible hmem mc hmc hxc
    rcases List.mem_append.1 hmem with hold | hcall
    · rcases mem_afterServer.1 hmc with ⟨hmc, -⟩ | ⟨xc', isOverlay, hcreated, rfl⟩
      · exact h.pending xc visible hold mc hmc hxc
      · exact absurd hxc.symm ((hnew xc' isOverlay hcreated).2 _ hold)
    · obtain ⟨i, hkind⟩ := controlCalls_forOverlays r.server op xc visible hcall
      obtain ⟨mc', hmc', hxc', hoverlay⟩ := h.owned i xc true hkind
      rcases mem_afterServer.1 hmc with ⟨hmc, -⟩ | ⟨xc'', isOverlay, hcreated, rfl⟩
      · obtain rfl : mc = mc' := List.inj_on_of_nodup_map h.nodup hmc hmc' (hxc.trans hxc'.symm)
        exact hoverlay
      · exact absurd (hxc'.trans hxc.symm) ((hnew xc'' isOverlay hcreated).1 mc' hmc')
  · intro mc hmc hno
    rcases mem_afterServer.1 hmc with ⟨hmc, -⟩ | ⟨xc, isOverlay, -, rfl⟩
    · exact h.base mc hmc hno
    · have hno : isOverlay = false := hno
      rw [multiCompositorCreate, hno]
      rfl

/-! ## Runs -/

theorem BaseInv.at (h : BaseInv r) (hpending : pending ⊆ r.pending) (xc : ℕ) (f : MultiCompositor → MultiCompositor)
    (hf : ∀ mc, (f mc).xc = mc.xc ∧ (f mc).isOverlay = mc.isOverlay)
    (hbase : ∀ mc ∈ r.clients, mc.xc = xc → mc.isOverlay = false → (f mc).isBaseSession = mc.isBaseSession) :
    BaseInv { r with clients := atCompositor r.clients xc f, pending := pending } := by
  refine h.sameCompositors (atCompositor_same r.clients xc f hf) hpending fun mc hmc hno => ?_
  obtain ⟨mc', hmc', rfl⟩ := List.mem_map.1 hmc
  split at hno
  · rename_i hxc
    rw [if_pos hxc]
    rw [(hf mc').2] at hno
    rw [hbase mc' hmc' hxc hno]
    exact h.base mc' hmc' hno
  · rename_i hxc
    rw [if_neg hxc]
    exact h.base mc' hmc' hno

theorem baseStep_inv {r r' : BaseRun} {op : BaseOp} (h : BaseInv r) (hs : baseStep r op = some r') : BaseInv r' := by
  cases op with
  | server op =>
    simp only [baseStep] at hs
    split at hs
    · rename_i hfresh
      obtain ⟨server, hstep, rfl⟩ := Option.map_eq_some_iff.1 hs
      exact h.serverStep hfresh hstep
    · cases hs
  | control call =>
    simp only [baseStep] at hs
    split at hs
    · rename_i hmem
      cases hs
      have hsub : r.pending.erase call ⊆ r.pending := List.erase_subset
      cases call with
      | setState xc visible focused => exact h.at hsub xc _ (fun _ => ⟨rfl, rfl⟩) fun _ _ _ _ => rfl
      | setZOrder xc zOrder => exact h.at hsub xc _ (fun _ => ⟨rfl, rfl⟩) fun _ _ _ _ => rfl
      | setMainAppVisibility xc visible =>
        refine h.at hsub xc _ (fun _ => ⟨rfl, rfl⟩) fun mc hmc hxc hno => ?_
        have hoverlay := h.pending xc visible hmem mc hmc hxc
        rw [hno] at hoverlay
        cases hoverlay
    · cases hs
  | setSession xc active =>
    cases hs
    exact h.at (List.Subset.refl _) xc _ (fun _ => ⟨rfl, rfl⟩) fun _ _ _ _ => rfl
  | deliver xc =>
    cases hs
    exact h.at (List.Subset.refl _) xc _ (fun _ => ⟨rfl, rfl⟩) fun _ _ _ _ => rfl
  | discard xc =>
    cases hs
    exact h.at (List.Subset.refl _) xc _ (fun _ => ⟨rfl, rfl⟩) fun _ _ _ _ => rfl
  | compose =>
    cases hs
    refine h.sameCompositors (transferLayersLocked_same r.clients) (List.Subset.refl _) fun mc hmc hno => ?_
    obtain ⟨mc', hmc', rfl⟩ := List.mem_map.1 hmc
    split at hno
    · rename_i hretired
      rw [if_pos hretired]
      exact h.base mc' hmc' hno
    · rename_i hkept
      rw [if_neg hkept]
      exact h.base mc' hmc' hno

/-- The server and the system compositor, with no client. -/
def BaseRun.init (xso : XrtSpaceOverseer) (exitOnDisconnect exitWhenIdle : Bool) : BaseRun :=
  ⟨initServerState xso exitOnDisconnect exitWhenIdle, [], []⟩

theorem init_baseInv (xso : XrtSpaceOverseer) (exitOnDisconnect exitWhenIdle : Bool) :
    BaseInv (.init xso exitOnDisconnect exitWhenIdle) := by
  constructor
  · rintro i xc isOverlay ⟨⟩
  · rintro i j xc ⟨⟩
  · exact List.nodup_nil
  · rintro xc visible ⟨⟩
  · rintro mc ⟨⟩

theorem basePicked_of_inv (h : BaseInv r) (op : BaseOp) : BasePicked r op ↔ FlagsFit r op := by
  cases op with
  | compose => exact imp_congr_right fun _ => baseNoOverlay_iff h.base
  | _ => exact Iff.rfl

/-- Along every sequence of sessions, main-app changes, control calls and compositions, the base session of a
composition is no overlay while another session is visible exactly when the flagged overlays in it are above a session
that is no overlay. -/
theorem basePicked_iff (xso : XrtSpaceOverseer) (exitOnDisconnect exitWhenIdle : Bool) (ops : List BaseOp) :
    Along baseStep BasePicked (.init xso exitOnDisconnect exitWhenIdle) ops ↔
      Along baseStep FlagsFit (.init xso exitOnDisconnect exitWhenIdle) ops :=
  along_iff (fun _ op h => basePicked_of_inv h op) (fun _ _ _ h _ hs => baseStep_inv h hs)
    (init_baseInv xso exitOnDisconnect exitWhenIdle) ops

instance (clients : List MultiCompositor) : Decidable (OverlaysAbove clients) := by
  unfold OverlaysAbove
  infer_instance

instance (r : BaseRun) : ∀ op, Decidable (FlagsFit r op)
  | .compose => inferInstanceAs (Decidable (_ → _))
  | .server _ => .isTrue trivial
  | .control _ => .isTrue trivial
  | .setSession _ _ => .isTrue trivial
  | .deliver _ => .isTrue trivial
  | .discard _ => .isTrue trivial

/-- An overlay shows frames when an application becomes the main one, and a composition comes before the first frame of
the application. -/
def mainAppBeforeFrame : List BaseOp :=
  [.server (.connect 5 true true), .server (.call 0 (.resource (.sessionCreate true 1 (.ok (1, some 10))))),
    .server (.call 0 .predictFrame), .control (.setState 10 true true), .setSession 10 true,
    .server (.connect 6 true true), .server (.call 1 (.resource (.sessionCreate false 0 (.ok (2, some 20))))),
    .server (.call 1 .predictFrame), .control (.setMainAppVisibility 10 true), .control (.setState 20 true true),
    .deliver 10, .compose]

theorem mainAppBeforeFrame_picksOverlay :
    ¬ Along baseStep BasePicked (.init .rootOnly false true) mainAppBeforeFrame := by
  intro h
  have hfit : Along baseStep FlagsFit (.init .rootOnly false true) mainAppBeforeFrame :=
    along_of_inv (fun _ op h hp => (basePicked_of_inv h op).1 hp) (fun _ _ _ h _ hs => baseStep_inv h hs)
      (init_baseInv .rootOnly false true) h
  revert hfit
  decide

end AugmentedInsanity.Multi
