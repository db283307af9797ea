/-
What the io-blocks of a client hide. Two servers whose devices differ only in blocked inputs should answer
the client alike, and what is not blocked should arrive unchanged (`InputsShielded`). `send_device_inputs`
decides about a pose by a name it has not written yet, and `get_tracked_pose` tells with its result whether a
blocked input is active; `inputsShielded_iff` says when neither shows.
-/
import AugmentedInsanity.Ipc.Server.DeviceInputs

namespace AugmentedInsanity.Ipc.Device

open Xrt Exchange

/-! ## What is hidden -/

/-- The blocks hide the inputs of this name; the head pose is never hidden. -/
def InputBlocked (iob : IpcClientIoBlocks) (name : XrtInputName) : Bool :=
  match xrtGetInputType name with
  | .pose => iob.blockPoses && name != XRT_INPUT_GENERIC_HEAD_POSE
  | .handTracking => iob.blockHandTracking
  | .vec1ZeroToOne | .vec1MinusOneToOne | .vec2MinusOneToOne | .vec3MinusOneToOne | .boolean => iob.blockInputs
  | .bodyTracking | .faceTracking | .other _ => false

/-- The same names, and the same inputs where they are not blocked. -/
def InputsAgree (iob : IpcClientIoBlocks) (xs ys : List XrtInput) : Prop :=
  List.Forall₂ (fun x y => x.name = y.name ∧ (InputBlocked iob x.name = false → x = y)) xs ys

/-- Two devices that differ at most in what is blocked. -/
structure AgreeUnblocked (iob : IpcClientIoBlocks) (a b : XrtDeviceAnswers) : Prop where
  inputs : InputsAgree iob a.fields.inputs b.fields.inputs
  updateResult : a.updateInputs.1 = b.updateInputs.1
  updatedInputs : InputsAgree iob a.updateInputs.2.inputs b.updateInputs.2.inputs
  updatedOutputs : a.updateInputs.2.outputs = b.updateInputs.2.outputs
  trackedPose : ∀ name, InputBlocked iob name = false → a.getTrackedPose name = b.getTrackedPose name
  handTracking : iob.blockHandTracking = false → a.getHandTracking = b.getHandTracking

/-- The inputs of the device have these names, before and after an update. -/
structure HasInputs (names : List XrtInputName) (xdev : XrtDeviceAnswers) : Prop where
  inputs : xdev.fields.inputs.map XrtInput.name = names
  updatedInputs : xdev.updateInputs.2.inputs.map XrtInput.name = names

def withoutBlocks (ics : IpcClientState) : IpcClientState :=
  { ics with clientState := { ics.clientState with ioBlocks := ⟨false, false, false, false⟩ } }

/-- An update tells the client nothing about blocked inputs, and brings it the others. -/
structure UpdateShielded (ics : IpcClientState) (stack : ℕ → XrtInputName) (id : UInt32) (names : List XrtInputName) :
    Prop where
  sameReply : ∀ dev dev' : XrtDevice → XrtDeviceAnswers, (∀ x, HasInputs names (dev x)) →
    (∀ x, AgreeUnblocked ics.clientState.ioBlocks (dev x) (dev' x)) →
    ipcHandleDeviceUpdateInput ics dev stack id = ipcHandleDeviceUpdateInput ics dev' stack id
  unchanged : ∀ dev : XrtDevice → XrtDeviceAnswers, (∀ x, HasInputs names (dev x)) →
    ∀ x, getXdevAndValidate ics id = .ok x → ∀ (i : ℕ) (input : XrtInput),
      (dev x).updateInputs.2.inputs[i]? = some input → InputBlocked ics.clientState.ioBlocks input.name = false →
        (ipcHandleDeviceUpdateInput ics dev stack id).sent[i + 1]? = some ⟨.input, input⟩

/-- A query for a pose tells the client nothing about blocked inputs, and is not changed for the others. -/
structure PoseShielded (ics : IpcClientState) (id : UInt32) (names : List XrtInputName) : Prop where
  sameReply : ∀ dev dev' : XrtDevice → XrtDeviceAnswers, (∀ x, HasInputs names (dev x)) →
    (∀ x, AgreeUnblocked ics.clientState.ioBlocks (dev x) (dev' x)) → ∀ name atTimestamp,
      ipcHandleDeviceGetTrackedPose ics dev id name atTimestamp =
        ipcHandleDeviceGetTrackedPose ics dev' id name atTimestamp
  unchanged : ∀ dev name atTimestamp, xrtGetInputType name = .pose →
    InputBlocked ics.clientState.ioBlocks name = false →
      ipcHandleDeviceGetTrackedPose ics dev id name atTimestamp =
        ipcHandleDeviceGetTrackedPose (withoutBlocks ics) dev id name atTimestamp

structure HandShielded (ics : IpcClientState) (id : UInt32) : Prop where
  sameReply : ∀ dev dev' : XrtDevice → XrtDeviceAnswers,
    (∀ x, AgreeUnblocked ics.clientState.ioBlocks (dev x) (dev' x)) → ∀ name atTimestamp,
      ipcHandleDeviceGetHandTracking ics dev id name atTimestamp =
        ipcHandleDeviceGetHandTracking ics dev' id name atTimestamp
  unchanged : ics.clientState.ioBlocks.blockHandTracking = false → ∀ dev name atTimestamp,
    ipcHandleDeviceGetHandTracking ics dev id name atTimestamp =
      ipcHandleDeviceGetHandTracking (withoutBlocks ics) dev id name atTimestamp

structure InputsShielded (ics : IpcClientState) (stack : ℕ → XrtInputName) (id : UInt32) (names : List XrtInputName) :
    Prop where
  update : UpdateShielded ics stack id names
  pose : PoseShielded ics id names
  hand : HandShielded ics id

/-! ## When it is hidden -/

def NoFilter (iob : IpcClientIoBlocks) : Prop :=
  iob.blockPoses = false ∧ iob.blockHandTracking = false ∧ iob.blockInputs = false

instance (iob : IpcClientIoBlocks) : Decidable (NoFilter iob) := inferInstanceAs (Decidable (_ ∧ _ ∧ _))

/-- The stale name is the head pose exactly where the input is. -/
def StaleNamesFit (iob : IpcClientIoBlocks) (stack : ℕ → XrtInputName) (names : List XrtInputName) : Prop :=
  iob.blockPoses = true → ∀ i name, names[i]? = some name → xrtGetInputType name = .pose →
    (stack i = XRT_INPUT_GENERIC_HEAD_POSE ↔ name = XRT_INPUT_GENERIC_HEAD_POSE)

/-- The update filters right, or has nothing to filter, or fails with nothing to bring. -/
def UpdateFits (iob : IpcClientIoBlocks) (stack : ℕ → XrtInputName) (names : List XrtInputName) : Prop :=
  NoFilter iob ∨ (names.length ≤ FILTERED_SIZE ∧ StaleNamesFit iob stack names) ∨
    (FILTERED_SIZE < names.length ∧ ∀ name ∈ names, InputBlocked iob name = true)

/-! ## Updates -/

section
variable {iob : IpcClientIoBlocks} {stack : ℕ → XrtInputName} {names : List XrtInputName}

theorem not_blocked_of_noFilter (h : NoFilter iob) (name : XrtInputName) : InputBlocked iob name = false := by
  obtain ⟨hposes, hhands, hinputs⟩ := h
  unfold InputBlocked
  split
  · rw [hposes]; rfl
  · exact hhands
  · exact hinputs
  · exact hinputs
  · exact hinputs
  · exact hinputs
  · exact hinputs
  · rfl
  · rfl
  · rfl

variable {xs ys : List XrtInput}

theorem InputsAgree.map_name (h : InputsAgree iob xs ys) : xs.map XrtInput.name = ys.map XrtInput.name := by
  induction h with
  | nil => rfl
  | cons hxy _ ih => rw [List.map_cons, List.map_cons, hxy.1, ih]

theorem InputsAgree.length_eq (h : InputsAgree iob xs ys) : xs.length = ys.length :=
  List.Forall₂.length_eq h

theorem InputsAgree.eq (h : InputsAgree iob xs ys) (hopen : ∀ x ∈ xs, InputBlocked iob x.name = false) : xs = ys := by
  induction h with
  | nil => rfl
  | cons hxy _ ih =>
    obtain ⟨hx, hxs⟩ := List.forall_mem_cons.1 hopen
    rw [hxy.2 hx, ih hxs]

def blank (iob : IpcClientIoBlocks) (src : XrtInput) : XrtInput :=
  if InputBlocked iob src.name then { XrtInput.zero with name := src.name } else src

theorem blank_of_open {src : XrtInput} (h : InputBlocked iob src.name = false) : blank iob src = src := by
  rw [blank, h]
  rfl

theorem InputsAgree.map_blank (h : InputsAgree iob xs ys) : xs.map (blank iob) = ys.map (blank iob) := by
  induction h with
  | nil => rfl
  | @cons x y _ _ hxy _ ih =>
    have hblank : blank iob x = blank iob y := by
      cases hblocked : InputBlocked iob x.name with
      | true =>
        unfold blank
        rw [← hxy.1, hblocked, if_pos rfl, if_pos rfl]
      | false => rw [hxy.2 hblocked]
    rw [List.map_cons, List.map_cons, hblank, ih]

theorem filterInput_eq {dstName : XrtInputName} {src : XrtInput}
    (h : iob.blockPoses = true → xrtGetInputType src.name = .pose →
      (dstName = XRT_INPUT_GENERIC_HEAD_POSE ↔ src.name = XRT_INPUT_GENERIC_HEAD_POSE)) :
    filterInput iob dstName src = blank iob src := by
  unfold filterInput blank InputBlocked
  rcases htype : xrtGetInputType src.name with _ | _ | _ | _ | _ | _ | _ | _ | _ | value
  case pose =>
    cases hposes : iob.blockPoses with
    | false => rfl
    | true =>
      have hname : (dstName != XRT_INPUT_GENERIC_HEAD_POSE) = (src.name != XRT_INPUT_GENERIC_HEAD_POSE) := by
        rw [Bool.eq_iff_iff, bne_iff_ne, bne_iff_ne, not_iff_not]
        exact h hposes htype
      simp only [hname]
  all_goals rfl

theorem filterInputs_getElem? (inputs : List XrtInput) (i : ℕ) :
    (filterInputs iob stack inputs)[i]? = inputs[i]?.map (filterInput iob (stack i)) := by
  simp [filterInputs]

theorem filterInputs_eq_map {inputs : List XrtInput} (h : StaleNamesFit iob stack (inputs.map XrtInput.name)) :
    filterInputs iob stack inputs = inputs.map (blank iob) := by
  refine List.ext_getElem? fun i => ?_
  rw [filterInputs_getElem?, List.getElem?_map]
  rcases hsrc : inputs[i]? with _ | src
  · rfl
  · have hname : (inputs.map XrtInput.name)[i]? = some src.name := by rw [List.getElem?_map, hsrc]; rfl
    rw [Option.map_some, Option.map_some, filterInput_eq fun hposes htype => h hposes i src.name hname htype]

theorem noFilter_iff : NoFilter iob ↔ (!iob.blockPoses && !iob.blockHandTracking && !iob.blockInputs) = true := by
  simp [NoFilter, and_assoc]

theorem map_blank_of_open {inputs : List XrtInput} (h : ∀ x ∈ inputs, InputBlocked iob x.name = false) :
    inputs.map (blank iob) = inputs := by
  calc inputs.map (blank iob) = inputs.map id := List.map_congr_left fun x hx => blank_of_open (h x hx)
    _ = inputs := List.map_id inputs

theorem sendDeviceInputs_eq {xdev : XrtDeviceFields} {next : ServerProc}
    (h : UpdateFits iob stack (xdev.inputs.map XrtInput.name)) :
    sendDeviceInputs iob stack xdev next =
      if xdev.inputs.length = 0 then next
      else if ¬ NoFilter iob ∧ FILTERED_SIZE < xdev.inputs.length then .done .errorIpcFailure
      else .sendAll .input (xdev.inputs.map (blank iob)) .errorIpcFailure next := by
  unfold sendDeviceInputs
  split
  · rfl
  · by_cases hfilter : NoFilter iob
    · rw [if_pos (noFilter_iff.1 hfilter), if_neg (fun hc => hc.1 hfilter),
        map_blank_of_open fun x _ => not_blocked_of_noFilter hfilter x.name]
    · rw [if_neg (mt noFilter_iff.2 hfilter)]
      rcases h with h | ⟨hle, hstale⟩ | ⟨hlt, -⟩
      · exact absurd h hfilter
      · rw [List.length_map] at hle
        have hge : ¬ FILTERED_SIZE < xdev.inputs.length := Nat.not_lt.2 hle
        rw [if_neg hge, if_neg (fun hc => hge hc.2), filterInputs_eq_map hstale]
      · rw [List.length_map] at hlt
        rw [if_pos hlt, if_pos ⟨hfilter, hlt⟩]

end

section
variable {ics : IpcClientState} {stack : ℕ → XrtInputName} {id : UInt32} {names : List XrtInputName}

variable {dev : XrtDevice → XrtDeviceAnswers} {x : XrtDevice} {name : XrtInputName}

theorem updateInput_of_error {xret : XrtResult} (h : getXdevAndValidate ics id = .error xret) :
    ipcHandleDeviceUpdateInput ics dev stack id = .done .errorIpcFailure := getXdevOrReturn_of_error h

theorem updateInput_of_ok (h : getXdevAndValidate ics id = .ok x) :
    ipcHandleDeviceUpdateInput ics dev stack id =
      .sendOne .resultReply (dev x).updateInputs.1 .errorIpcFailure
        (sendDeviceInputs ics.clientState.ioBlocks stack (dev x).updateInputs.2
          (sendDeviceOutputs ics.clientState.ioBlocks (dev x).updateInputs.2 (.done .success))) :=
  getXdevOrReturn_of_ok h

theorem updateShielded_of_fits (h : UpdateFits ics.clientState.ioBlocks stack names) :
    UpdateShielded ics stack id names := by
  constructor
  · -- what is sent is the same for two devices that agree on the open inputs
    intro dev dev' hnames hagree
    rcases hx : getXdevAndValidate ics id with xret | x
    · rw [updateInput_of_error hx, updateInput_of_error hx]
    · have hupdated := (hagree x).updatedInputs
      have hfits := h
      rw [← (hnames x).updatedInputs] at hfits
      have hfits' := hfits
      rw [hupdated.map_name] at hfits'
      rw [updateInput_of_ok hx, updateInput_of_ok hx, sendDeviceInputs_eq hfits, sendDeviceInputs_eq hfits',
        (hagree x).updateResult, hupdated.length_eq, hupdated.map_blank]
      simp only [sendDeviceOutputs, (hagree x).updatedOutputs]
  · -- an open input passes the filter as it is
    intro dev hnames x hx i input hinput hopen
    have hfits := h
    rw [← (hnames x).updatedInputs] at hfits
    have hlt : i < (dev x).updateInputs.2.inputs.length := (List.getElem?_eq_some_iff.1 hinput).1
    have hsends : ¬ (¬ NoFilter ics.clientState.ioBlocks ∧
        FILTERED_SIZE < (dev x).updateInputs.2.inputs.length) := by
      rintro ⟨hfilter, hmany⟩
      rcases hfits with hnone | ⟨hle, -⟩ | ⟨-, hall⟩
      · exact hfilter hnone
      · rw [List.length_map] at hle
        omega
      · have hmem := List.mem_map_of_mem (f := XrtInput.name) (List.mem_of_getElem? hinput)
        rw [hall _ hmem] at hopen
        cases hopen
    rw [updateInput_of_ok hx, sendDeviceInputs_eq hfits, if_neg (by omega), if_neg hsends]
    simp only [Proc.sendOne, Proc.sendAll, Proc.sent, List.map_cons, List.map_nil, List.cons_append, List.nil_append,
      List.getElem?_cons_succ]
    rw [List.getElem?_append_left (by simpa using hlt), List.getElem?_map, List.getElem?_map, hinput, Option.map_some,
      Option.map_some, blank_of_open hopen]

def probe (names : List XrtInputName) (active : XrtInputName → Bool) : XrtDeviceAnswers :=
  let fields : XrtDeviceFields :=
    ⟨0, 0, ⟨[], by simp, by decide⟩, ⟨[], by simp, by decide⟩, none, [], names.map fun n => ⟨active n, 0, n, 0⟩, [], []⟩
  { fields := fields
    updateInputs := (.success, fields)
    getTrackedPose := fun _ _ => (.success, .zero)
    getHandTracking := fun _ _ => (.success, .zero, 0)
    getViewPoses := fun _ _ _ _ => ⟨.success, .zero, fun _ => ⟨0, 0, 0, 0⟩, fun _ => .zero⟩
    getPlaneDetections := fun _ => (.errorNotImplemented, ⟨[], [], [], [], rfl, by decide, by decide, by decide⟩)
    setOutput := fun _ _ => (.errorNotImplemented, none) }

theorem probe_hasInputs (names : List XrtInputName) (active : XrtInputName → Bool) :
    HasInputs names (probe names active) := by
  constructor
  · simp [probe, Function.comp_def]
  · simp [probe, Function.comp_def]

theorem probe_agree {iob : IpcClientIoBlocks} {active active' : XrtInputName → Bool}
    (h : ∀ n, InputBlocked iob n = false → active n = active' n) :
    AgreeUnblocked iob (probe names active) (probe names active') := by
  have hinputs : InputsAgree iob (probe names active).fields.inputs (probe names active').fields.inputs := by
    unfold InputsAgree probe
    rw [List.forall₂_map_left_iff, List.forall₂_map_right_iff, List.forall₂_same]
    exact fun n _ => ⟨rfl, fun hopen => by rw [h n hopen]⟩
  exact ⟨hinputs, rfl, hinputs, rfl, fun _ _ => rfl, fun _ => rfl⟩

theorem updateInput_filtered (hx : getXdevAndValidate ics id = .ok x) (hfilter : ¬ NoFilter ics.clientState.ioBlocks)
    (hle : (dev x).updateInputs.2.inputs.length ≤ FILTERED_SIZE) {i : ℕ} {src : XrtInput}
    (hsrc : (dev x).updateInputs.2.inputs[i]? = some src) :
    (ipcHandleDeviceUpdateInput ics dev stack id).sent[i + 1]? =
      some ⟨.input, filterInput ics.clientState.ioBlocks (stack i) src⟩ := by
  have hlt : i < (dev x).updateInputs.2.inputs.length := (List.getElem?_eq_some_iff.1 hsrc).1
  rw [updateInput_of_ok hx]
  unfold sendDeviceInputs
  rw [if_neg (by omega), if_neg (mt noFilter_iff.2 hfilter), if_neg (by omega)]
  simp only [Proc.sendOne, Proc.sendAll, Proc.sent, List.map_cons, List.map_nil, List.cons_append, List.nil_append,
    List.getElem?_cons_succ]
  rw [List.getElem?_append_left (by simpa [filterInputs] using hlt), List.getElem?_map, filterInputs_getElem?, hsrc]
  rfl

theorem fits_of_updateShielded (hx : getXdevAndValidate ics id = .ok x) (h : UpdateShielded ics stack id names) :
    UpdateFits ics.clientState.ioBlocks stack names := by
  by_cases hfilter : NoFilter ics.clientState.ioBlocks
  · exact Or.inl hfilter
  · rcases Nat.lt_or_ge FILTERED_SIZE names.length with hlt | hle
    · refine Or.inr (Or.inr ⟨hlt, fun name hname => ?_⟩)
      rw [← Bool.not_eq_false]
      intro hopen
      -- nothing is sent, so the open input is missing
      obtain ⟨i, hi⟩ := List.mem_iff_getElem?.1 hname
      have hsent := h.unchanged (fun _ => probe names fun _ => false) (fun _ => probe_hasInputs _ _) x hx i
        ⟨false, 0, name, 0⟩ (by simp [probe, hi]) hopen
      have hlen : FILTERED_SIZE < (probe names fun _ => false).updateInputs.2.inputs.length := by simpa [probe] using hlt
      rw [updateInput_of_ok hx] at hsent
      unfold sendDeviceInputs at hsent
      rw [if_neg (by omega), if_neg (mt noFilter_iff.2 hfilter), if_pos hlen] at hsent
      simp [Proc.sendOne, Proc.sendAll, Proc.sent] at hsent
    · refine Or.inr (Or.inl ⟨hle, fun hposes i name hi htype => ?_⟩)
      have hlen : ∀ active, (probe names active).updateInputs.2.inputs.length ≤ FILTERED_SIZE := by
        intro active
        simpa [probe] using hle
      have hitem : ∀ active, (ipcHandleDeviceUpdateInput ics (fun _ => probe names active) stack id).sent[i + 1]? =
          some ⟨.input, filterInput ics.clientState.ioBlocks (stack i) ⟨active name, 0, name, 0⟩⟩ := by
        intro active
        exact updateInput_filtered hx hfilter (hlen active) (by simp [probe, hi])
      constructor
      · intro hstale
        by_contra hname
        -- the blocked pose is sent, so its flag shows
        have hblocked : InputBlocked ics.clientState.ioBlocks name = true := by
          simp [InputBlocked, htype, hposes, hname]
        have hagree : AgreeUnblocked ics.clientState.ioBlocks (probe names fun _ => false)
            (probe names fun n => InputBlocked ics.clientState.ioBlocks n) := probe_agree fun n hn => hn.symm
        have hsame := h.sameReply _ _ (fun _ => probe_hasInputs names fun _ => false) fun _ => hagree
        have hitems := congrArg (fun r => r.sent[i + 1]?) hsame
        simp only [hitem, hblocked, hstale, filterInput, htype] at hitems
        simp at hitems
      · rintro rfl
        by_contra hstale
        -- the head pose is blanked
        have hopen : InputBlocked ics.clientState.ioBlocks XRT_INPUT_GENERIC_HEAD_POSE = false := by
          simp [InputBlocked, htype]
        have hsent := h.unchanged (fun _ => probe names fun _ => true) (fun _ => probe_hasInputs _ _) x hx i
          ⟨true, 0, XRT_INPUT_GENERIC_HEAD_POSE, 0⟩ (by simp [probe, hi]) hopen
        rw [hitem] at hsent
        simp [filterInput, htype, hposes, hstale, XrtInput.zero] at hsent

/-! ## Queries -/

theorem findInput_eq_none {xs : List XrtInput} (h : name ∉ xs.map XrtInput.name) : findInput xs name = none := by
  unfold findInput
  rw [List.find?_eq_none]
  rintro x hx heq
  exact h (beq_iff_eq.1 heq ▸ List.mem_map_of_mem hx)

theorem findInput_probe {active : XrtInputName → Bool} (h : name ∈ names) :
    findInput (probe names active).fields.inputs name = some ⟨active name, 0, name, 0⟩ := by
  unfold findInput probe
  induction names with
  | nil => cases h
  | cons n names ih =>
    rw [List.map_cons, List.find?_cons]
    by_cases hn : n = name
    · subst hn
      simp
    · have hmem : name ∈ names := (List.mem_cons.1 h).resolve_left fun heq => hn heq.symm
      rw [beq_eq_false_iff_ne.2 hn]
      exact ih hmem

theorem trackedPose_unchanged {atTimestamp : Int64} (htype : xrtGetInputType name = .pose)
    (hopen : InputBlocked ics.clientState.ioBlocks name = false) :
    ipcHandleDeviceGetTrackedPose ics dev id name atTimestamp =
      ipcHandleDeviceGetTrackedPose (withoutBlocks ics) dev id name atTimestamp := by
  have hdisabled : (ics.clientState.ioBlocks.blockPoses && name != XRT_INPUT_GENERIC_HEAD_POSE) = false := by
    unfold InputBlocked at hopen
    rwa [htype] at hopen
  unfold ipcHandleDeviceGetTrackedPose
  rw [show getXdevAndValidate (withoutBlocks ics) id = getXdevAndValidate ics id from rfl]
  simp only [hdisabled, withoutBlocks, Bool.false_and]

theorem poseShielded_of_open (h : ∀ name ∈ names, InputBlocked ics.clientState.ioBlocks name = false) :
    PoseShielded ics id names := by
  constructor
  · intro dev dev' hnames hagree name atTimestamp
    unfold ipcHandleDeviceGetTrackedPose
    rcases getXdevAndValidate ics id with xret | x
    · rfl
    · have hsame : (dev x).fields.inputs = (dev' x).fields.inputs := by
        refine (hagree x).inputs.eq fun input hinput => h input.name ?_
        rw [← (hnames x).inputs]
        exact List.mem_map_of_mem hinput
      by_cases hname : name ∈ names
      · simp only [hsame, (hagree x).trackedPose name (h name hname)]
      · rw [← (hnames x).inputs] at hname
        simp only [← hsame, findInput_eq_none hname]
  · intro dev name atTimestamp htype hopen
    exact trackedPose_unchanged htype hopen

theorem open_of_poseShielded (hx : getXdevAndValidate ics id = .ok x) (h : PoseShielded ics id names) :
    ∀ name ∈ names, InputBlocked ics.clientState.ioBlocks name = false := by
  intro name hname
  rw [← Bool.not_eq_true]
  intro hblocked
  -- the result of the query tells whether the input is active
  have hsame := h.sameReply (fun _ => probe names fun _ => false)
    (fun _ => probe names fun n => InputBlocked ics.clientState.ioBlocks n) (fun _ => probe_hasInputs _ _)
    (fun _ => probe_agree fun n hn => hn.symm) name 0
  unfold ipcHandleDeviceGetTrackedPose at hsame
  simp only [hx, findInput_probe hname, hblocked] at hsame
  cases hdisabled : ics.clientState.ioBlocks.blockPoses && name != XRT_INPUT_GENERIC_HEAD_POSE with
  | true =>
    rw [hdisabled] at hsame
    cases hsame
  | false =>
    rw [hdisabled] at hsame
    cases hsame

theorem handShielded (ics : IpcClientState) (id : UInt32) : HandShielded ics id := by
  constructor
  · intro dev dev' hagree name atTimestamp
    unfold ipcHandleDeviceGetHandTracking
    cases hblock : ics.clientState.ioBlocks.blockHandTracking with
    | true => rfl
    | false =>
      rcases getXdevAndValidate ics id with xret | x
      · rfl
      · simp only [(hagree x).handTracking hblock]
  · intro hblock dev name atTimestamp
    unfold ipcHandleDeviceGetHandTracking
    rw [show getXdevAndValidate (withoutBlocks ics) id = getXdevAndValidate ics id from rfl, hblock]
    rfl

/-! ## Shielding -/

/-- The blocks shield a device exactly when no input of it is blocked and the update filters it right; a device
that is not there is shielded. -/
theorem inputsShielded_iff (ics : IpcClientState) (stack : ℕ → XrtInputName) (id : UInt32) (names : List XrtInputName) :
    InputsShielded ics stack id names ↔
      ((∃ x, getXdevAndValidate ics id = .ok x) →
        UpdateFits ics.clientState.ioBlocks stack names ∧
          ∀ name ∈ names, InputBlocked ics.clientState.ioBlocks name = false) := by
  constructor
  · rintro h ⟨x, hx⟩
    exact ⟨fits_of_updateShielded hx h.update, open_of_poseShielded hx h.pose⟩
  · intro h
    rcases hx : getXdevAndValidate ics id with xret | x
    · refine ⟨⟨?_, ?_⟩, ⟨?_, ?_⟩, handShielded ics id⟩
      · intro dev dev' _ _
        rw [updateInput_of_error hx, updateInput_of_error hx]
      · intro dev _ x hx'
        rw [hx] at hx'
        cases hx'
      · intro dev dev' _ _ name atTimestamp
        unfold ipcHandleDeviceGetTrackedPose
        rw [hx]
      · intro dev name atTimestamp htype hopen
        exact trackedPose_unchanged htype hopen
    · obtain ⟨hfits, hopen⟩ := h ⟨x, hx⟩
      exact ⟨updateShielded_of_fits hfits, poseShielded_of_open hopen, handShielded ics id⟩

def posesBlocked : IpcClientState :=
  { IpcClientState.zero with
    xdevs := fun _ => some ⟨0, none⟩
    clientState := { IpcAppState.zero with ioBlocks := ⟨true, false, false, false⟩ } }

/-- Over a zeroed stack, the update blanks the head pose. -/
theorem headPose_not_shielded : ¬ InputsShielded posesBlocked (fun _ => 0) 0 [XRT_INPUT_GENERIC_HEAD_POSE] := by
  intro h
  rcases fits_of_updateShielded (x := ⟨0, none⟩) rfl h.update with hnone | ⟨-, hstale⟩ | ⟨hmany, -⟩
  · exact absurd hnone (by decide)
  · exact absurd ((hstale rfl 0 XRT_INPUT_GENERIC_HEAD_POSE rfl rfl).2 rfl) (by decide)
  · exact absurd hmany (by decide)

end

end AugmentedInsanity.Ipc.Device
